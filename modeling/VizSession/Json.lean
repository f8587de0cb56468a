/-!
# JSON values

A `Json` is what a JSON text says, before anything is asked about its meaning. Numbers
are kept as they are written (`Numeral`), members in their order with repeated names, and
a string literal that stands for no text is kept as such : its escapes name a surrogate
without a partner, which is no character, yet the literal is well formed.
-/

namespace VizSession

/-- The power of ten that ends a number. -/
structure Exponent where
  /-- Whether the power is negative. -/
  negative : Bool
  /-- The digits of the power. -/
  digits : List Char
deriving DecidableEq

/-- A number as it is written. -/
structure Numeral where
  /-- Whether a minus stands in front. -/
  negative : Bool
  /-- The digits before the point. -/
  whole : List Char
  /-- The digits after the point; none if there is no point. -/
  fraction : List Char
  /-- The power of ten at the end. -/
  exponent : Option Exponent
deriving DecidableEq

/-- A JSON value. -/
inductive Json where
  | null
  | bool (b : Bool)
  | number (n : Numeral)
  /-- A string literal, with the text it stands for, if it stands for one. -/
  | string (text : Option String)
  | array (items : List Json)
  /-- The members in the order written, a name being a string literal. -/
  | object (members : List (Option String × Json))

namespace Json

instance : Inhabited Json := ⟨null⟩

/-- The string of a text. -/
def text (s : String) : Json := string (some s)

/-- The object with the given members. -/
def record (members : List (String × Json)) : Json :=
  object (members.map fun m => (some m.1, m.2))

end Json

end VizSession
