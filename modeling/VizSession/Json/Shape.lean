import VizSession.Json.Numeral

/-!
# Shapes of JSON values

What a program asks of a JSON value : is it a text, an integer of 64 bits, a list, a
record with these fields? Arrays and objects may nest up to `depthLimit` levels, which is
why questions about them take the number of levels still allowed and give the number
allowed inside.

A record is an object that holds each field at most once, whatever else it holds, or an
array of the fields' values in the order of the fields. What stands under names that no
field has is never looked at.
-/

namespace VizSession.Json

/-- How many levels of arrays and objects a value may have. -/
def depthLimit : Nat := 127

/-- The levels allowed inside an array or object. -/
def enter? : Nat → Option Nat
  | 0 => none
  | depth + 1 => some depth

/-- The text of a string. -/
def text? : Json → Option String
  | string s => s
  | _ => none

/-- A truth value. -/
def bool? : Json → Option Bool
  | bool b => some b
  | _ => none

/-- An unsigned integer of 64 bits. -/
def uint64? : Json → Option UInt64
  | number n => n.uint64?
  | _ => none

/-- A signed integer of 64 bits. -/
def int64? : Json → Option Int64
  | number n => n.int64?
  | _ => none

/-- A float, given by any number. -/
def float? : Json → Option Float
  | number n => n.float?
  | _ => none

/-- The items of an array, with the levels allowed in them. -/
def list? (depth : Nat) : Json → Option (Nat × List Json)
  | array items => (enter? depth).map fun d => (d, items)
  | _ => none

/-- The members of an object, with the levels allowed in them. Each name has to be text. -/
def entries? (depth : Nat) : Json → Option (Nat × List (String × Json))
  | object members => do
    let d ← enter? depth
    let named ← members.mapM fun m => m.1.map fun name => (name, m.2)
    return (d, named)
  | _ => none

/-- A value that may be null. -/
def optional? {α : Type} (read : Json → Option α) : Json → Option (Option α)
  | null => some none
  | j => (read j).map some

/-- What stands under a name, if it stands there once at most. -/
def field? (members : List (String × Json)) (name : String) : Option (Option Json) :=
  match members.filter fun m => m.1 = name with
  | [] => some none
  | [m] => some (some m.2)
  | _ => none

/-- What a record holds in each of the fields, with the levels allowed in there. In an
array as many values at the end may be missing as `missing` allows. -/
def fields? (names : List String) (missing : Nat) (depth : Nat) :
    Json → Option (Nat × List (Option Json))
  | array items => do
    let d ← enter? depth
    if items.length ≤ names.length ∧ names.length ≤ items.length + missing then
      return (d, items.map some ++ List.replicate (names.length - items.length) none)
    else none
  | j => do
    let (d, members) ← j.entries? depth
    return (d, ← names.mapM (field? members))

/-- The alternative a value stands for and what is said about it : a text alone names the
alternative, an object with one member names it and says more. -/
def variant? (depth : Nat) : Json → Option (String × Option (Nat × Json))
  | string s => s.map fun name => (name, none)
  | object [(some name, body)] => (enter? depth).map fun d => (name, some (d, body))
  | _ => none

/-- One of several words; as an object, the word has null under it. -/
def word? (depth : Nat) (j : Json) : Option String :=
  match j.variant? depth with
  | some (name, none) => some name
  | some (name, some (_, null)) => some name
  | _ => none

/-- The number of a float; what is not finite becomes null. -/
def ofFloat (x : Float) : Json :=
  match Numeral.ofFloat? x with
  | some n => number n
  | none => null

/-- The number of an unsigned integer. -/
def ofUInt64 (n : UInt64) : Json := number (.ofNat n.toNat)

/-- The number of a signed integer. -/
def ofInt64 (n : Int64) : Json := number (.ofInt n.toInt)

end VizSession.Json
