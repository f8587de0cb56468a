import VizSession.Text.Hex

/-!
# Strings of TOML documents

A string has one of four forms (`Form`). Between double quotes a backslash starts an
escape, between single quotes everything stands for itself. With one quote on either side
a string stays in its line, with three it may run over several, and a line ending right
after the opening quotes does not count.

Reading takes all of that (`string?`). Writing (`quoted`) picks the first form that shows
the text best : double quotes if nothing needs an escape, then single quotes, then three
double or three single ones, and escapes where nothing else is left.
-/

namespace VizSession.Toml

open Text (hexValue? hexDigit ofCodePoint?)

/-- How a string is delimited. -/
structure Form where
  /-- Whether a backslash starts an escape : double quotes, not single ones. -/
  escapes : Bool
  /-- Whether it may run over several lines : three quotes, not one. -/
  block : Bool
deriving DecidableEq

namespace Form

/-- The quote of a form. -/
def quote (f : Form) : Char := if f.escapes then '"' else '\''

/-- What stands on either side of a string. -/
def delimiter (f : Form) : List Char := List.replicate (if f.block then 3 else 1) f.quote

end Form

/-- Whether a character may stand in a line as it is : no control character but the tab. -/
def isPlain (c : Char) : Bool := c == '\t' || (0x20 ≤ c.toNat && c.toNat ≠ 0x7f)

/-! ## Reading -/

/-- Puts a character in front of the rest of a string. -/
def push (c : Char) (rest : Option (List Char × List Char)) : Option (List Char × List Char) :=
  rest.map fun r => (c :: r.1, r.2)

/-- What a quote, already read, closes : the last characters of the string and what is left
after it. Of up to five quotes in a row the last three close a block. -/
def closing? (f : Form) (cs : List Char) : Option (List Char × List Char) :=
  if !f.block then some ([], cs)
  else
    let more := (cs.takeWhile (· == f.quote)).length
    if more < 2 then none
    else
      let inside := min (more - 2) 2
      some (List.replicate inside f.quote, cs.drop (inside + 2))

/-- The string between single quotes whose opening was read. -/
def literal? (block : Bool) : List Char → Option (List Char × List Char)
  | [] => none
  | '\r' :: '\n' :: cs => if block then push '\n' (literal? block cs) else none
  | c :: cs =>
    if c = '\'' then
      match closing? ⟨false, block⟩ cs with
      | some r => some r
      | none => push c (literal? block cs)
    else if isPlain c ∨ (block ∧ c = '\n') then push c (literal? block cs)
    else none

/-- What comes next between double quotes. -/
inductive Mode where
  /-- Text. -/
  | text
  /-- Text, after blanks and line endings that do not count. -/
  | skip
  /-- A digit of a code point, after which so many more follow. -/
  | digit (more value : Nat)
deriving DecidableEq

/-- Whether a character is a blank within a line. -/
def isSpace (c : Char) : Bool := c == ' ' || c == '\t'

/-- What is left after the end of a line, if the line ends next. -/
def newline? : List Char → Option (List Char)
  | '\n' :: cs => some cs
  | '\r' :: '\n' :: cs => some cs
  | _ => none

/-- Whether nothing but blanks is left of the line. -/
def endsLine (cs : List Char) : Bool := (newline? (cs.dropWhile isSpace)).isSome

/-- The character that a one-letter escape stands for. -/
def unescape? : Char → Option Char
  | 'b' => some '\x08'
  | 't' => some '\t'
  | 'n' => some '\n'
  | 'f' => some '\x0c'
  | 'r' => some '\r'
  | '"' => some '"'
  | '\\' => some '\\'
  | _ => none

/-- The string between double quotes whose opening was read. In a block, a backslash at the
end of a line takes away all blanks and line endings after it. -/
def basic? (block : Bool) : Mode → List Char → Option (List Char × List Char)
  | _, [] => none
  | .digit more value, c :: cs => do
    let value := 16 * value + (← hexValue? c)
    match more with
    | 0 => push (← ofCodePoint? value) (basic? block .text cs)
    | more + 1 => basic? block (.digit more value) cs
  | mode, '\r' :: '\n' :: cs =>
    if mode = .skip then basic? block .skip cs
    else if block then push '\n' (basic? block .text cs)
    else none
  | _, '\\' :: c :: cs =>
    if c = 'u' then basic? block (.digit 3 0) cs
    else if c = 'U' then basic? block (.digit 7 0) cs
    else
      match unescape? c with
      | some c => push c (basic? block .text cs)
      | none => if block ∧ endsLine (c :: cs) then basic? block .skip (c :: cs) else none
  | mode, c :: cs =>
    if mode = .skip ∧ (isSpace c ∨ c = '\n') then basic? block .skip cs
    else if c = '"' then
      match closing? ⟨true, block⟩ cs with
      | some r => some r
      | none => push c (basic? block .text cs)
    else if isPlain c ∨ (block ∧ c = '\n') then push c (basic? block .text cs)
    else none

/-- What is left after the line ending in front, if there is one. -/
def skipNewline (cs : List Char) : List Char := (newline? cs).getD cs

/-- The form of the string that starts next, and what is left after its opening. -/
def opening? : List Char → Option (Form × List Char)
  | '"' :: '"' :: '"' :: cs => some (⟨true, true⟩, skipNewline cs)
  | '"' :: cs => some (⟨true, false⟩, cs)
  | '\'' :: '\'' :: '\'' :: cs => some (⟨false, true⟩, skipNewline cs)
  | '\'' :: cs => some (⟨false, false⟩, cs)
  | _ => none

/-- The string of a form whose opening was read. -/
def body? (f : Form) (cs : List Char) : Option (List Char × List Char) :=
  if f.escapes then basic? f.block .text cs else literal? f.block cs

/-- The string that is next. -/
def string? (cs : List Char) : Option (String × List Char) := do
  let (f, cs) ← opening? cs
  let (text, cs) ← body? f cs
  return (String.ofList text, cs)

/-! ## Writing -/

/-- How many copies of a character stand in a row at most. -/
def longestRun (q : Char) (cs : List Char) : Nat :=
  (cs.foldl (fun (run : Nat × Nat) c =>
    if c = q then (run.1 + 1, max (run.1 + 1) run.2) else (0, run.2)) (0, 0)).2

/-- Whether a character can only be given by an escape. -/
def isHidden (c : Char) : Bool := !isPlain c && c ≠ '\n'

/-- The form in which a text is written. -/
def formOf (cs : List Char) : Form :=
  let hidden := cs.any isHidden
  let backslash := cs.contains '\\'
  let lines := cs.contains '\n'
  let double := longestRun '"' cs
  let single := longestRun '\'' cs
  if !hidden && !backslash && !lines && double = 0 then ⟨true, false⟩
  else if !hidden && !lines && single = 0 then ⟨false, false⟩
  else if !hidden && !backslash && double ≤ 2 then ⟨true, true⟩
  else if !hidden && single ≤ 2 then ⟨false, true⟩
  else ⟨true, lines⟩

/-- A character other than the quote as it stands between double quotes. -/
def escape (block : Bool) (c : Char) : List Char :=
  if c = '\x08' then ['\\', 'b']
  else if c = '\t' then ['\\', 't']
  else if c = '\n' then if block then [c] else ['\\', 'n']
  else if c = '\x0c' then ['\\', 'f']
  else if c = '\r' then ['\\', 'r']
  else if c = '\\' then ['\\', '\\']
  else if isPlain c then [c]
  else ['\\', 'u', '0', '0', hexDigit (c.toNat / 16), hexDigit (c.toNat % 16)]

/-- A text as it stands between double quotes, after a run of quotes of that length. A quote
is escaped, except that two in a row may stand in a block. -/
def escapeAll (block : Bool) : Nat → List Char → List Char
  | _, [] => []
  | run, c :: cs =>
    if c = '"' then
      if block ∧ run < 2 then c :: escapeAll block (run + 1) cs
      else '\\' :: c :: escapeAll block 0 cs
    else escape block c ++ escapeAll block 0 cs

/-- A text as a string. In a block of several lines the text starts on a line of its own. -/
def quoted (s : String) : List Char :=
  let cs := s.toList
  let f := formOf cs
  f.delimiter ++
    ((if f.block ∧ '\n' ∈ cs then ['\n'] else []) ++
      ((if f.escapes then escapeAll f.block 0 cs else cs) ++ f.delimiter))

end VizSession.Toml
