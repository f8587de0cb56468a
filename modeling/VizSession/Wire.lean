import VizSession.ExportList
import VizSession.Json.Reader
import VizSession.Json.Shape
import VizSession.Json.Writer
import VizSession.Slots

/-!
# The data model as JSON

How each type of the data model is written as a JSON value and read back. A structure is
a record with its fields in the order of their declaration, and optional slots are null
when empty. A value with alternatives is the name of the alternative, or an object with
that name for its one member and what the alternative carries under it. Properties are an
object of their own; a name that is given twice keeps its first place and its last value.

`toJson` writes, `ofJson?` reads with a bound on the levels of arrays and objects.
-/

namespace VizSession

open Json (text record)

/-- The object with one member that an alternative with contents is written as. -/
def Json.tagged (name : String) (body : Json) : Json := record [(name, body)]

/-! ## Connections, groups and handles -/

namespace ConnectionId

def toJson (c : ConnectionId) : Json := .ofUInt64 c.raw

def ofJson? (j : Json) : Option ConnectionId := j.uint64?.map ConnectionId.mk

end ConnectionId

namespace Group

/-- The word for a group in JSON. -/
def word : Group → String
  | sources => "Sources"
  | views => "Views"
  | cameras => "Cameras"
  | representations => "Representations"
  | lookupTables => "LookupTables"
  | layouts => "Layouts"

/-- The group a word stands for. -/
def ofWord? (s : String) : Option Group := all.find? fun g => g.word = s

def toJson (g : Group) : Json := text g.word

def ofJson? (depth : Nat) (j : Json) : Option Group := (j.word? depth).bind ofWord?

end Group

namespace Handle

def toJson (h : Handle) : Json :=
  record
    [("id", .ofUInt64 h.id), ("connection", h.connection.toJson), ("group", h.group.toJson),
      ("xml_name", text h.definition)]

def ofJson? (depth : Nat) (j : Json) : Option Handle := do
  let (d, fields) ← j.fields? ["id", "connection", "group", "xml_name"] 0 depth
  match fields with
  | [some id, some connection, some group, some definition] =>
    return ⟨← id.uint64?, ← ConnectionId.ofJson? connection, ← Group.ofJson? d group,
      ← definition.text?⟩
  | _ => none

end Handle

/-! ## Values -/

namespace Value

mutual

def toJson : Value → Json
  | float x => .tagged "Float" (.ofFloat x)
  | int n => .tagged "Int" (.ofInt64 n)
  | bool b => .tagged "Bool" (.bool b)
  | text s => .tagged "String" (.text s)
  | vec xs => .tagged "Vec" (.array (xs.map .ofFloat))
  | proxy h => .tagged "Proxy" h.toJson
  | list items => .tagged "List" (.array (listToJson items))
  | unset => .text "None"

def listToJson : List Value → List Json
  | [] => []
  | v :: vs => toJson v :: listToJson vs

end

/-- Reads a value that is no list of values. -/
def ofAtom? (depth : Nat) (j : Json) : Option Value := do
  match ← j.variant? depth with
  | ("None", none) => return .unset
  | ("None", some (_, .null)) => return .unset
  | ("Float", some (_, body)) => return .float (← body.float?)
  | ("Int", some (_, body)) => return .int (← body.int64?)
  | ("Bool", some (_, body)) => return .bool (← body.bool?)
  | ("String", some (_, body)) => return .text (← body.text?)
  | ("Vec", some (d, body)) => return .vec (← (← body.list? d).2.mapM Json.float?)
  | ("Proxy", some (d, body)) => return .proxy (← Handle.ofJson? d body)
  | _ => none

mutual

def ofJson? (depth : Nat) : Json → Option Value
  | .object [(some "List", .array items)] => do
    let inside ← Json.enter? (← Json.enter? depth)
    return .list (← listOfJson? inside items)
  | j => ofAtom? depth j

def listOfJson? (depth : Nat) : List Json → Option (List Value)
  | [] => some []
  | j :: js => do return (← ofJson? depth j) :: (← listOfJson? depth js)

end

end Value

namespace ValueType

def toJson : ValueType → Json
  | float => Json.text "Float"
  | int => Json.text "Int"
  | bool => Json.text "Bool"
  | text => Json.text "String"
  | vec length => .tagged "Vec" (record [("len", .ofUInt64 length)])
  | choice options => .tagged "Choice" (record [("options", .array (options.map Json.text))])
  | proxy => Json.text "Proxy"

def ofJson? (depth : Nat) (j : Json) : Option ValueType := do
  match ← j.variant? depth with
  | ("Vec", some (d, body)) =>
    match (← body.fields? ["len"] 0 d).2 with
    | [some length] => return vec (← length.uint64?)
    | _ => none
  | ("Choice", some (d, body)) =>
    match ← body.fields? ["options"] 0 d with
    | (d, [some options]) => return choice (← (← options.list? d).2.mapM Json.text?)
    | _ => none
  | _ =>
    match ← j.word? depth with
    | "Float" => return float
    | "Int" => return int
    | "Bool" => return bool
    | "String" => return text
    | "Proxy" => return proxy
    | _ => none

end ValueType

/-! ## Properties and definitions -/

namespace Properties

def toJson (ps : Properties) : Json := record (ps.entries.map fun p => (p.1, p.2.toJson))

def ofJson? (depth : Nat) (j : Json) : Option Properties := do
  let (d, members) ← j.entries? depth
  return .ofList (← members.mapM fun m => do return (m.1, ← Value.ofJson? d m.2))

/-- The record whose one field holds the properties. -/
def toRecord (ps : Properties) : Json := record [("values", ps.toJson)]

/-- Reads the record whose one field holds properties. -/
def ofRecord? (depth : Nat) (j : Json) : Option Properties := do
  match ← j.fields? ["values"] 0 depth with
  | (d, [some values]) => ofJson? d values
  | _ => none

end Properties

namespace PropertySpec

def toJson (s : PropertySpec) : Json :=
  record
    [("name", text s.name), ("property_type", s.type.toJson), ("default_value", s.default.toJson)]

def ofJson? (depth : Nat) (j : Json) : Option PropertySpec := do
  match ← j.fields? ["name", "property_type", "default_value"] 0 depth with
  | (d, [some name, some type, some default]) =>
    return ⟨← name.text?, ← ValueType.ofJson? d type, ← Value.ofJson? d default⟩
  | _ => none

end PropertySpec

namespace Definition

def toJson (d : Definition) : Json :=
  record
    [("group", d.group.toJson), ("xml_name", text d.name), ("label", text d.label),
      ("properties", .array (d.properties.map PropertySpec.toJson))]

def ofJson? (depth : Nat) (j : Json) : Option Definition := do
  match ← j.fields? ["group", "xml_name", "label", "properties"] 0 depth with
  | (d, [some group, some name, some label, some properties]) =>
    let (inside, specs) ← properties.list? d
    return ⟨← Group.ofJson? d group, ← name.text?, ← label.text?,
      ← specs.mapM (PropertySpec.ofJson? inside)⟩
  | _ => none

end Definition

/-! ## Active objects -/

namespace SlotKind

/-- The word for a kind in JSON. -/
def word : SlotKind → String
  | connection => "Connection"
  | view => "View"
  | source => "Source"
  | camera => "Camera"

/-- The kind a word stands for. -/
def ofWord? (s : String) : Option SlotKind := all.find? fun k => k.word = s

def toJson (k : SlotKind) : Json := text k.word

def ofJson? (depth : Nat) (j : Json) : Option SlotKind := (j.word? depth).bind ofWord?

end SlotKind

namespace Occupant

def toJson : Occupant → Json
  | connection c => .tagged "Connection" c.toJson
  | proxy h => .tagged "Proxy" h.toJson

def ofJson? (depth : Nat) (j : Json) : Option Occupant := do
  match ← j.variant? depth with
  | ("Connection", some (_, body)) => return connection (← ConnectionId.ofJson? body)
  | ("Proxy", some (d, body)) => return proxy (← Handle.ofJson? d body)
  | _ => none

end Occupant

namespace Slots

/-- A slot : what it holds, or null. -/
def slotJson (h : Option Handle) : Json :=
  match h with
  | some h => h.toJson
  | none => .null

def toJson (s : Slots) : Json :=
  record
    [("connection", match s.connection with | some c => c.toJson | none => .null),
      ("view", slotJson s.view), ("source", slotJson s.source), ("camera", slotJson s.camera)]

/-- Reads a slot, which is empty when its field is null or not given. -/
def slot? {α : Type} (read : Json → Option α) (j : Option Json) : Option (Option α) :=
  (j.getD .null).optional? read

def ofJson? (depth : Nat) (j : Json) : Option Slots := do
  match ← j.fields? ["connection", "view", "source", "camera"] 0 depth with
  | (d, [connection, view, source, camera]) =>
    return ⟨← slot? ConnectionId.ofJson? connection, ← slot? (Handle.ofJson? d) view,
      ← slot? (Handle.ofJson? d) source, ← slot? (Handle.ofJson? d) camera⟩
  | _ => none

end Slots

/-! ## Exported names -/

namespace ExportList

def toJson (l : ExportList) : Json := record [("names", .array (l.names.map text))]

def ofJson? (depth : Nat) (j : Json) : Option ExportList := do
  match ← j.fields? ["names"] 0 depth with
  | (d, [some names]) => return .ofNames (← (← names.list? d).2.mapM Json.text?)
  | _ => none

end ExportList

namespace MergeReport

/-- A name with a reason : an array of the two texts. -/
def failureOfJson? (depth : Nat) (j : Json) : Option (String × String) := do
  match (← j.list? depth).2 with
  | [name, reason] => return (← name.text?, ← reason.text?)
  | _ => none

def toJson (r : MergeReport) : Json :=
  record
    [("added", .array (r.added.map text)), ("skipped", .array (r.skipped.map text)),
      ("failed", .array (r.failed.map fun f => .array [text f.1, text f.2]))]

def ofJson? (depth : Nat) (j : Json) : Option MergeReport := do
  match ← j.fields? ["added", "skipped", "failed"] 0 depth with
  | (d, [some added, some skipped, some failed]) =>
    let (inside, failures) ← failed.list? d
    return ⟨← (← added.list? d).2.mapM Json.text?, ← (← skipped.list? d).2.mapM Json.text?,
      ← failures.mapM (failureOfJson? inside)⟩
  | _ => none

end MergeReport

/-! ## Texts -/

/-- Reads a value of some type from a text. -/
def Json.decode? {α : Type} (read : Nat → Json → Option α) (s : String) : Option α :=
  (Json.parse? s).bind (read depthLimit)

end VizSession
