import VizSession.Args

/-!
# Plugins

A plugin is a named bundle of functions that it contributes to a session. Finding out
what it contributes can fail. A contributed function is pure : it sees its arguments and
answers or fails.
-/

namespace VizSession

/-- A function that a plugin contributes. -/
structure Callable where
  /-- The name it is to be exported under. -/
  name : String
  /-- A line that describes it in listings. -/
  description : String
  /-- What it does. -/
  run : Args → Except CallError Value

/-- A named bundle of contributed functions. -/
structure Plugin where
  /-- The name of the bundle. -/
  name : String
  /-- The functions in it, or why they cannot be found out. -/
  contributions : Except CallError (List Callable)

namespace Callable

/-! ## Stock functions -/

/-- Always gives the same value. -/
def constant (name description : String) (value : Value) : Callable :=
  ⟨name, description, fun _ => .ok value⟩

/-- Gives its arguments back : the list of the positional ones, and the list of pairs of a
keyword and its value. -/
def echo (name description : String) : Callable where
  name := name
  description := description
  run args := .ok <| .list
    [.list args.positional,
      .list (args.keywords.entries.map fun e => .list [.text e.1, e.2])]

/-- Gives back one parameter, which takes a float. -/
def float (name description param : String) (index : Nat) : Callable :=
  ⟨name, description, fun args => (args.float param index).map .float⟩

/-- Gives back one parameter, which takes a text. -/
def text (name description param : String) (index : Nat) : Callable :=
  ⟨name, description, fun args => (args.text param index).map .text⟩

/-- Adds its parameters `a` and `b`. -/
def sum (name description : String) : Callable where
  name := name
  description := description
  run args := do
    let a ← args.float "a" 0
    let b ← args.float "b" 1
    return .float (a + b)

/-- Always fails. -/
def failing (name description : String) (error : CallError) : Callable :=
  ⟨name, description, fun _ => .error error⟩

/-- Counts its positional arguments; it has no description. -/
def arity (name : String) : Callable :=
  ⟨name, "", fun args => .ok (.int (.ofNat args.positional.length))⟩

end Callable

end VizSession
