import VizSession.Handle

/-!
# Property values and their types

A `Value` is what a property holds and what a call takes and returns. A `ValueType` is
what a definition declares for a property, and `ValueType.admits` says which values fit :
an integer fits where a float is declared, and an unset value fits where an object is.
-/

namespace VizSession

/-- A value of a property or an argument. -/
inductive Value where
  /-- A floating-point number. -/
  | float (x : Float)
  /-- An integer of 64 bits. -/
  | int (n : Int64)
  /-- A truth value. -/
  | bool (b : Bool)
  /-- A text. -/
  | text (s : String)
  /-- A vector of floating-point numbers. -/
  | vec (xs : List Float)
  /-- A reference to an object. -/
  | proxy (h : Handle)
  /-- A list of values. -/
  | list (items : List Value)
  /-- No value. -/
  | unset

namespace Value

/-- The float nearest to an integer, ties going to the even neighbour. -/
def floatOfInt (n : Int64) : Float :=
  if n.toInt < 0 then -(UInt64.ofNat n.toInt.natAbs).toFloat
  else (UInt64.ofNat n.toInt.natAbs).toFloat

/-- The value as a float; integers count as floats. -/
def asFloat : Value → Option Float
  | float x => some x
  | int n => some (floatOfInt n)
  | _ => none

/-- The value as an integer. -/
def asInt : Value → Option Int64
  | int n => some n
  | _ => none

/-- The value as a truth value. -/
def asBool : Value → Option Bool
  | bool b => some b
  | _ => none

/-- The value as a text. -/
def asText : Value → Option String
  | text s => some s
  | _ => none

/-- The value as a vector. -/
def asVec : Value → Option (List Float)
  | vec xs => some xs
  | _ => none

/-- The value as a handle. -/
def asProxy : Value → Option Handle
  | proxy h => some h
  | _ => none

/-- Whether the value is unset. -/
def isUnset : Value → Bool
  | unset => true
  | _ => false

/-- The name of the value's kind, as messages give it. -/
def typeName : Value → String
  | float _ => "float"
  | int _ => "int"
  | bool _ => "bool"
  | text _ => "string"
  | vec _ => "vec"
  | proxy _ => "proxy"
  | list _ => "list"
  | unset => "none"

end Value

/-- The declared type of a property. -/
inductive ValueType where
  | float
  | int
  | bool
  | text
  /-- A vector of a fixed length. -/
  | vec (length : UInt64)
  /-- One of the listed texts. -/
  | choice (options : List String)
  /-- A reference to another object. -/
  | proxy
deriving DecidableEq

namespace ValueType

/-- The name of the type, as messages give it. -/
def typeName : ValueType → String
  | float => "float"
  | int => "int"
  | bool => "bool"
  | text => "string"
  | vec _ => "vec"
  | choice _ => "choice"
  | proxy => "proxy"

/-- Whether a value fits the type. -/
def admits : ValueType → Value → Bool
  | float, .float _ => true
  | float, .int _ => true
  | int, .int _ => true
  | bool, .bool _ => true
  | text, .text _ => true
  | vec length, .vec xs => xs.length == length.toNat
  | choice options, .text s => options.contains s
  | proxy, .proxy _ => true
  | proxy, .unset => true
  | _, _ => false

end ValueType

end VizSession
