import VizSession.Demo
import VizSession.Session.Identity

/-!
# The command line

The program runs the demonstration with the configuration file under the home directory.
It prints the lines of the demonstration, and ends with an error if that ended early.
-/

namespace VizSession

/-- What is found under a file name. -/
def readFile (name : String) : IO File := do
  try
    return .content (← IO.FS.readBinFile name)
  catch
    | .noFileOrDirectory .. => return .absent
    | _ => return .unreadable

/-- What is found at the standard place. -/
def readStandardFile : IO File := do
  match ← IO.getEnv "HOME" with
  | some home => readFile (home ++ "/" ++ Config.standardPath)
  | none => return .absent

/-- Runs the demonstration; the answer is the exit code. -/
def runDemo : IO UInt32 := do
  let id := Session.Identity.text (← IO.getRandomBytes 16).toList
  let createdAt := Decimal.natural (← IO.monoMsNow)
  let outcome := Demo.run id createdAt (← readStandardFile)
  for line in outcome.lines do
    IO.println line
  match outcome.fault with
  | some fault =>
    IO.eprintln s!"Error: {fault.message}"
    return 1
  | none => return 0

end VizSession

/-- Runs the demonstration, with neither arguments nor input. -/
def main : IO UInt32 := VizSession.runDemo
