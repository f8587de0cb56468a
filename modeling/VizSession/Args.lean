import VizSession.Error
import VizSession.Properties

/-!
# Arguments of a call

A call has positional arguments and keywords. A parameter is looked up by its keyword
first and by its position if the keyword was not given (`lookup?`).
-/

namespace VizSession

/-- The arguments of a call. -/
structure Args where
  /-- The arguments given by position. -/
  positional : List Value
  /-- The arguments given by name. -/
  keywords : Properties

namespace Args

/-- No arguments. -/
def none : Args := ⟨[], ∅⟩

/-- The argument of a parameter : its keyword, or what stands at its position. -/
def lookup? (args : Args) (name : String) (index : Nat) : Option Value :=
  (args.keywords.find? name).or args.positional[index]?

/-- The argument of a parameter that takes a float; integers count as floats. -/
def float (args : Args) (name : String) (index : Nat) : Except CallError Float :=
  match args.lookup? name index with
  | .none => .error (.missingArgument name)
  | some v =>
    match v.asFloat with
    | .none => .error (.typeMismatch name "float")
    | some x => .ok x

/-- The argument of a parameter that takes a text. -/
def text (args : Args) (name : String) (index : Nat) : Except CallError String :=
  match args.lookup? name index with
  | .none => .error (.missingArgument name)
  | some v =>
    match v.asText with
    | .none => .error (.typeMismatch name "string")
    | some s => .ok s

theorem lookup?_of_keyword {args : Args} {name : String} {v : Value} (index : Nat)
    (h : args.keywords.find? name = some v) : args.lookup? name index = some v := by
  simp [lookup?, h]

theorem lookup?_of_position {args : Args} {name : String} (index : Nat)
    (h : args.keywords.find? name = .none) :
    args.lookup? name index = args.positional[index]? := by
  simp [lookup?, h]

end Args

end VizSession
