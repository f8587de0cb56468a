import VizSession.Json

/-!
# Writing JSON texts

`Json.compact` writes a value without blanks, `Json.pretty` with one item or member a
line, indented by two blanks a level. Both write non-ASCII characters as they are and
escape only quotes, backslashes and control characters below the blank.
-/

namespace VizSession.Json

/-- A character as it stands in a string literal. -/
def escape (c : Char) : List Char :=
  if c = '"' then ['\\', '"']
  else if c = '\\' then ['\\', '\\']
  else if c = '\x08' then ['\\', 'b']
  else if c = '\x0c' then ['\\', 'f']
  else if c = '\n' then ['\\', 'n']
  else if c = '\r' then ['\\', 'r']
  else if c = '\t' then ['\\', 't']
  else if c.toNat < 0x20 then
    ['\\', 'u', '0', '0', (c.toNat / 16).digitChar, (c.toNat % 16).digitChar]
  else [c]

/-- A text as a string literal. -/
def quote (s : String) : List Char := '"' :: (s.toList.flatMap escape ++ ['"'])

/-- The literal of a member's name or a string; without a text it is the empty literal. -/
def quoteLiteral (s : Option String) : List Char := quote (s.getD "")

/-- An exponent as it stands after the digits, always with a sign. -/
def exponentChars : Option Exponent → List Char
  | none => []
  | some e => 'e' :: (if e.negative then '-' else '+') :: e.digits

/-- A numeral as text. The sign of a negative exponent is written, and so is that of a
positive one. -/
def numeralChars (n : Numeral) : List Char :=
  (if n.negative then ['-'] else []) ++ n.whole ++
    (if n.fraction = [] then [] else '.' :: n.fraction) ++ exponentChars n.exponent

mutual

/-- A value without blanks. -/
def chars : Json → List Char
  | .null => "null".toList
  | .bool true => "true".toList
  | .bool false => "false".toList
  | .number n => numeralChars n
  | .string s => quoteLiteral s
  | .array items => '[' :: ([','].intercalate (itemChars items) ++ [']'])
  | .object members => '{' :: ([','].intercalate (memberChars members) ++ ['}'])

/-- The items of an array, each without blanks. -/
def itemChars : List Json → List (List Char)
  | [] => []
  | v :: vs => chars v :: itemChars vs

/-- The members of an object, each without blanks. -/
def memberChars : List (Option String × Json) → List (List Char)
  | [] => []
  | (name, v) :: ms => (quoteLiteral name ++ ':' :: chars v) :: memberChars ms

end

/-- The blanks in front of a line. -/
def indentation (level : Nat) : List Char := List.replicate (2 * level) ' '

/-- Lines between two brackets, one level deeper than the brackets. -/
def block (opening closing : Char) (level : Nat) (lines : List (List Char)) : List Char :=
  if lines = [] then [opening, closing]
  else
    opening :: '\n' ::
      ([',', '\n'].intercalate (lines.map (indentation (level + 1) ++ ·)) ++
        '\n' :: (indentation level ++ [closing]))

mutual

/-- A value over several lines, the first of which is indented already. -/
def prettyChars (level : Nat) : Json → List Char
  | .array items => block '[' ']' level (prettyItems (level + 1) items)
  | .object members => block '{' '}' level (prettyMembers (level + 1) members)
  | .null => "null".toList
  | .bool true => "true".toList
  | .bool false => "false".toList
  | .number n => numeralChars n
  | .string s => quoteLiteral s

/-- The items of an array, each over several lines. -/
def prettyItems (level : Nat) : List Json → List (List Char)
  | [] => []
  | v :: vs => prettyChars level v :: prettyItems level vs

/-- The members of an object, each over several lines. -/
def prettyMembers (level : Nat) : List (Option String × Json) → List (List Char)
  | [] => []
  | (name, v) :: ms =>
    (quoteLiteral name ++ ':' :: ' ' :: prettyChars level v) :: prettyMembers level ms

end

/-- The text of a value without blanks. -/
def compact (j : Json) : String := String.ofList (chars j)

/-- The text of a value over several lines. -/
def pretty (j : Json) : String := String.ofList (prettyChars 0 j)

end VizSession.Json
