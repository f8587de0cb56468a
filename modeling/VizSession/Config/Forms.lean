import VizSession.Config
import VizSession.Toml.Reader
import VizSession.Wire

/-!
# Written forms of a configuration

A configuration is written as a TOML document of four lines or as a JSON object over
several lines, with its fields in one order. In both forms a field may be missing, which
leaves it at its default, and what stands under other names does not matter. A form is
read in two steps : the text is understood, then the configuration is validated.
-/

namespace VizSession.Config

/-- The names of the fields, in order. -/
def fieldNames : List String := ["connection_url", "auto_create_view", "default_view", "satellite"]

/-- What a field holds : its default if it is missing. -/
def fieldOr {α β : Type} (read : α → Option β) (default : β) : Option α → Option β
  | none => some default
  | some given => read given

/-- The configuration with the given fields, in order. -/
def ofFields? {α : Type} (text : α → Option String) (bool : α → Option Bool) :
    List (Option α) → Option Config
  | [url, autoCreateView, defaultView, satellite] => do
    return ⟨← fieldOr text default.url url, ← fieldOr bool default.autoCreateView autoCreateView,
      ← fieldOr text default.defaultView defaultView, ← fieldOr bool default.satellite satellite⟩
  | _ => none

/-! ## JSON -/

/-- The configuration as a JSON value. -/
def toJson (c : Config) : Json :=
  .record (fieldNames.zip [.text c.url, .bool c.autoCreateView, .text c.defaultView,
    .bool c.satellite])

/-- The configuration a JSON value stands for; of an array the fields at the end may be
missing. -/
def ofJson? (depth : Nat) (j : Json) : Option Config := do
  let (_, fields) ← j.fields? fieldNames fieldNames.length depth
  ofFields? Json.text? Json.bool? fields

/-- The configuration as JSON text. -/
def toJsonText (c : Config) : String := c.toJson.pretty

/-- The valid configuration that a JSON text stands for. -/
def ofJsonText (s : String) : Except ConfigError Config :=
  match Json.decode? ofJson? s with
  | some c => c.validate
  | none => .error .malformedJson

/-! ## TOML -/

/-- A text in a TOML document. -/
def nodeText? : Toml.Node → Option String
  | .text s => some s
  | _ => none

/-- A truth value in a TOML document. -/
def nodeBool? : Toml.Node → Option Bool
  | .bool b => some b
  | _ => none

/-- The configuration in the table of a TOML document. -/
def ofTable? (t : Toml.Table) : Option Config :=
  ofFields? nodeText? nodeBool? (fieldNames.map fun name => OrderedMap.lookup? name t)

/-- The TOML text of a truth value. -/
def flagChars (b : Bool) : List Char := if b then "true".toList else "false".toList

/-- A line of a TOML document : a name and its value. -/
def tomlLine (name : String) (value : List Char) : List Char :=
  name.toList ++ (" = ".toList ++ (value ++ ['\n']))

/-- The configuration as a TOML document. -/
def toTomlText (c : Config) : String :=
  let values := [Toml.quoted c.url, flagChars c.autoCreateView, Toml.quoted c.defaultView,
    flagChars c.satellite]
  String.ofList (List.zipWith tomlLine fieldNames values).flatten

/-- The valid configuration that a TOML document describes. -/
def ofTomlText (s : String) : Except ConfigError Config :=
  match (Toml.parse? s).bind ofTable? with
  | some c => c.validate
  | none => .error .malformedToml

end VizSession.Config
