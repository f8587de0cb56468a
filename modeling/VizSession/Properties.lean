import VizSession.OrderedMap
import VizSession.Value

/-!
# Properties and definitions

`Properties` are the named values of an object or the keywords of a call, in the order in
which the names were first given. A `Definition` is what objects are made from : it
declares properties with their types and defaults, and `Properties.fillDefaults` adds the
defaults of the names that were not given, after those that were.
-/

namespace VizSession

/-- Named values, in the order in which the names were first given. -/
abbrev Properties := OrderedMap String Value

/-- A property that a definition declares. -/
structure PropertySpec where
  /-- The name of the property. -/
  name : String
  /-- The type its values have to fit. -/
  type : ValueType
  /-- The value it starts with. -/
  default : Value

/-- What objects can be made from. -/
structure Definition where
  /-- The group its objects are registered in. -/
  group : Group
  /-- The name it is created by. -/
  name : String
  /-- The text shown to people. -/
  label : String
  /-- The properties it declares. -/
  properties : List PropertySpec

namespace Definition

/-- The declaration of a property; of two with one name, the first. -/
def property? (d : Definition) (name : String) : Option PropertySpec :=
  d.properties.find? fun spec => spec.name = name

/-- Whether objects of the definition process the output of another one. -/
def takesInput (d : Definition) : Bool := (d.property? "Input").isSome

end Definition

namespace Properties

/-- The float under a name. -/
def float? (ps : Properties) (name : String) : Option Float :=
  (ps.find? name).bind Value.asFloat

/-- The integer under a name. -/
def int? (ps : Properties) (name : String) : Option Int64 := (ps.find? name).bind Value.asInt

/-- The truth value under a name. -/
def bool? (ps : Properties) (name : String) : Option Bool := (ps.find? name).bind Value.asBool

/-- The text under a name. -/
def text? (ps : Properties) (name : String) : Option String := (ps.find? name).bind Value.asText

/-- The handle under a name. -/
def proxy? (ps : Properties) (name : String) : Option Handle :=
  (ps.find? name).bind Value.asProxy

/-- Adds the default of one declared property, unless its name has a value. -/
def fillDefault (ps : Properties) (spec : PropertySpec) : Properties :=
  if ps.contains spec.name then ps else ps.insert spec.name spec.default

/-- Adds the defaults of the declared properties whose names have no value. -/
def fillDefaults (ps : Properties) (specs : List PropertySpec) : Properties :=
  specs.foldl fillDefault ps

/-- The properties without the listed names. -/
def without (ps : Properties) (names : List String) : Properties :=
  ps.filter fun name _ => !names.contains name

/-- The handle is the value of a keyword or a property. -/
def Mentions (ps : Properties) (h : Handle) : Prop := ∃ name, ps.find? name = some (.proxy h)

/-- An operation on properties. -/
inductive Op where
  /-- Gives a name a value. -/
  | set (name : String) (value : Value)
  /-- Takes a name out. -/
  | remove (name : String)
  /-- Adds the defaults of declared properties. -/
  | fillDefaults (specs : List PropertySpec)

/-- The properties after an operation. -/
def apply (ps : Properties) : Op → Properties
  | .set name value => ps.insert name value
  | .remove name => ps.erase name
  | .fillDefaults specs => ps.fillDefaults specs

end Properties

end VizSession
