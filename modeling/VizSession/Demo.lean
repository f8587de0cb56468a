import VizSession.Config.File
import VizSession.Session.Invoke

/-!
# A demonstration

The demonstration starts a session with the standard configuration, extends it with a
small plugin of its own, shows a sphere and renders it, calls the function of the plugin
and lists the names that the session exports. Whatever fails ends it; the lines printed
until then stay.
-/

namespace VizSession.Demo

/-- Why the demonstration ends early. -/
inductive Fault where
  /-- There is no configuration to start with. -/
  | config (cause : ConfigError)
  /-- The session failed. -/
  | session (cause : SessionError)
deriving DecidableEq

/-- The words for an early end. -/
def Fault.message : Fault → String
  | config cause => cause.message.getD "The configuration cannot be read"
  | session cause => cause.message

/-- What the demonstration prints, and what ended it early. -/
structure Outcome where
  /-- The printed lines. -/
  lines : List String
  /-- The failure that ended it. -/
  fault : Option Fault

/-- Multiplies a value by a factor, which is 2 unless another one is given. -/
def scale : Callable where
  name := "Scale"
  description := "Multiply a value by a factor"
  run args := do
    let value ← args.float "value" 0
    let factor := ((args.lookup? "factor" 1).bind Value.asFloat).getD 2.0
    if factor.isFinite then return .float (value * factor)
    else .error (.failed "factor must be finite")

/-- The plugin of the demonstration. -/
def plugin : Plugin := ⟨"demo", .ok [scale]⟩

/-- Starts a session, extends it, and renders a sphere; the answer is the name of the view
it is rendered in. -/
def renderSphere : SessionStep String := do
  let _ ← Session.start
  Step.update fun s => (s.extendNamespace []).2
  let _ ← Session.loadPlugin plugin
  let _ ← Session.create .sources "SphereSource" (OrderedMap.ofList [("Radius", .float 2.0)])
  let _ ← Session.showSource none none
  let view ← Session.render none
  Session.registrationName view

/-- The text of a float, as in JSON. -/
def floatText (x : Float) : String := (Json.ofFloat x).compact

/-- The line about a scaled value. -/
def scaledLine (v : Value) : String :=
  "Scale(21.0) = " ++
    match v.asFloat with
    | some x => s!"Float({floatText x})"
    | none => v.typeName

/-- The line about an exported name : the description follows if there is one. -/
def exportLine (s : Session) (name : String) : String :=
  match s.registry.description? name with
  | some description => s!"  {name} - {description}"
  | none => s!"  {name}"

/-- The demonstration in a session. -/
def perform (s : Session) : Outcome :=
  match renderSphere s with
  | (.error cause, _) => ⟨[], some (.session cause)⟩
  | (.ok name, s) =>
    let rendered := s!"Rendered {name}"
    match Session.invoke "Scale" ⟨[.float 21.0], ∅⟩ s with
    | (.error cause, _) => ⟨[rendered], some (.session cause)⟩
    | (.ok v, s) =>
      ⟨rendered :: scaledLine v :: "Exported names:" :: s.exports.names.map (exportLine s), none⟩

/-- The demonstration in a new session with the configuration at the standard place. -/
def run (id createdAt : String) (file : File) : Outcome :=
  match Config.loadStandard file with
  | .ok config => perform (Session.new id createdAt .new config)
  | .error cause => ⟨[], some (.config cause)⟩

end VizSession.Demo
