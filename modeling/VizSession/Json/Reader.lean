import VizSession.Json
import VizSession.Text.Hex

/-!
# Reading JSON texts

`Json.parse?` reads a text that holds one value and nothing else but blanks around it. It
takes the strict grammar : four blanks, no comments, no trailing commas, digits on both
sides of a point, no zeros in front of an integer, and no control characters in strings.

Every function on the way takes what is left of the text and gives what it read together
with what is left then. Values nest no deeper than the text is long, so the length bounds
the recursion of `value?`.
-/

namespace VizSession.Json

open Text (hexValue?)

/-! ## Characters and numbers -/

/-- Whether a character may stand between the parts of a value. -/
def isSpace (c : Char) : Bool := c == ' ' || c == '\t' || c == '\n' || c == '\r'

/-- What is left after the blanks in front. -/
def skipSpace (cs : List Char) : List Char := cs.dropWhile isSpace

/-- The number written by four hexadecimal digits. -/
def hex4? (a b c d : Char) : Option Nat := do
  return ((← hexValue? a) * 16 + (← hexValue? b)) * 256 + ((← hexValue? c) * 16 + (← hexValue? d))

/-- The digits in front, and what is left after them. -/
def spanDigits (cs : List Char) : List Char × List Char :=
  (cs.takeWhile Char.isDigit, cs.dropWhile Char.isDigit)

/-- The digits after a point, if a point is next. At least one has to follow it. -/
def fraction? : List Char → Option (List Char × List Char)
  | '.' :: cs =>
    let (ds, rest) := spanDigits cs
    if ds = [] then none else some (ds, rest)
  | cs => some ([], cs)

/-- The digits of an exponent, of which there has to be one. -/
def exponentDigits? (negative : Bool) (cs : List Char) : Option (Option Exponent × List Char) :=
  let (ds, rest) := spanDigits cs
  if ds = [] then none else some (some ⟨negative, ds⟩, rest)

/-- The exponent, if one is next. -/
def exponent? : List Char → Option (Option Exponent × List Char)
  | c :: cs =>
    if c = 'e' ∨ c = 'E' then
      match cs with
      | '+' :: cs => exponentDigits? false cs
      | '-' :: cs => exponentDigits? true cs
      | cs => exponentDigits? false cs
    else some (none, c :: cs)
  | [] => some (none, [])

/-- The digits before the point : a zero alone, or digits that do not start with one. -/
def whole? : List Char → Option (List Char × List Char)
  | '0' :: cs => some (['0'], cs)
  | cs =>
    let (ds, rest) := spanDigits cs
    if ds = [] then none else some (ds, rest)

/-- The number that is next. -/
def numeral? (cs : List Char) : Option (Numeral × List Char) := do
  let (negative, cs) := match cs with
    | '-' :: cs => (true, cs)
    | cs => (false, cs)
  let (whole, cs) ← whole? cs
  let (fraction, cs) ← fraction? cs
  let (exponent, cs) ← exponent? cs
  return (⟨negative, whole, fraction, exponent⟩, cs)

/-! ## Strings -/

/-- Whether a number of 16 bits starts a pair of surrogates. -/
def isHighSurrogate (n : Nat) : Bool := 0xd800 ≤ n && n < 0xdc00

/-- Whether a number of 16 bits ends a pair of surrogates. -/
def isLowSurrogate (n : Nat) : Bool := 0xdc00 ≤ n && n < 0xe000

/-- The character a pair of surrogates stands for. -/
def ofSurrogates (high low : Nat) : Char :=
  .ofNat (0x10000 + (high - 0xd800) * 0x400 + (low - 0xdc00))

/-- A piece of a string literal : a character, or a number of 16 bits given by an escape. -/
inductive Piece where
  | char (c : Char)
  | unit (n : Nat)

/-- The character that a one-letter escape stands for. -/
def unescape? : Char → Option Char
  | '"' => some '"'
  | '\\' => some '\\'
  | '/' => some '/'
  | 'b' => some '\x08'
  | 'f' => some '\x0c'
  | 'n' => some '\n'
  | 'r' => some '\r'
  | 't' => some '\t'
  | _ => none

/-- Puts a piece in front of the rest of a literal. -/
def pushPiece (p : Piece) (rest : Option (List Piece × List Char)) :
    Option (List Piece × List Char) :=
  rest.map fun r => (p :: r.1, r.2)

/-- The pieces of a literal up to its closing quote. -/
def pieces? : List Char → Option (List Piece × List Char)
  | [] => none
  | '"' :: cs => some ([], cs)
  | '\\' :: 'u' :: a :: b :: c :: d :: cs =>
    match hex4? a b c d with
    | none => none
    | some n => pushPiece (.unit n) (pieces? cs)
  | '\\' :: c :: cs =>
    match unescape? c with
    | none => none
    | some c' => pushPiece (.char c') (pieces? cs)
  | c :: cs => if c.toNat < 0x20 ∨ c = '\\' then none else pushPiece (.char c) (pieces? cs)

/-- The characters that pieces stand for, unless a surrogate among them has no partner. -/
def textOf? : List Piece → Option (List Char)
  | [] => some []
  | .char c :: ps => (textOf? ps).map (c :: ·)
  | .unit n :: .unit m :: ps =>
    if isHighSurrogate n && isLowSurrogate m then (textOf? ps).map (ofSurrogates n m :: ·)
    else if isHighSurrogate n || isLowSurrogate n then none
    else (textOf? (.unit m :: ps)).map (.ofNat n :: ·)
  | .unit n :: ps =>
    if isHighSurrogate n || isLowSurrogate n then none else (textOf? ps).map (.ofNat n :: ·)

/-- The literal whose opening quote was read, with the text it stands for. -/
def string? (cs : List Char) : Option (Option String × List Char) :=
  (pieces? cs).map fun r => ((textOf? r.1).map String.ofList, r.2)

/-! ## Values -/

mutual

/-- The value that is next, nested no deeper than the bound. -/
def value? : Nat → List Char → Option (Json × List Char)
  | 0, _ => none
  | bound + 1, cs =>
    match skipSpace cs with
    | 'n' :: 'u' :: 'l' :: 'l' :: cs => some (.null, cs)
    | 't' :: 'r' :: 'u' :: 'e' :: cs => some (.bool true, cs)
    | 'f' :: 'a' :: 'l' :: 's' :: 'e' :: cs => some (.bool false, cs)
    | '"' :: cs => (string? cs).map fun r => (.string r.1, r.2)
    | '[' :: cs =>
      match skipSpace cs with
      | ']' :: cs => some (.array [], cs)
      | cs => (items? bound cs).map fun r => (.array r.1, r.2)
    | '{' :: cs =>
      match skipSpace cs with
      | '}' :: cs => some (.object [], cs)
      | cs => (members? bound cs).map fun r => (.object r.1, r.2)
    | cs => (numeral? cs).map fun r => (.number r.1, r.2)

/-- The items of an array up to its closing bracket; there is at least one. -/
def items? : Nat → List Char → Option (List Json × List Char)
  | 0, _ => none
  | bound + 1, cs =>
    match value? bound cs with
    | none => none
    | some (v, cs) =>
      match skipSpace cs with
      | ',' :: cs => (items? bound cs).map fun r => (v :: r.1, r.2)
      | ']' :: cs => some ([v], cs)
      | _ => none

/-- The members of an object up to its closing bracket; there is at least one. -/
def members? : Nat → List Char → Option (List (Option String × Json) × List Char)
  | 0, _ => none
  | bound + 1, cs =>
    match skipSpace cs with
    | '"' :: cs =>
      match string? cs with
      | none => none
      | some (name, cs) =>
        match skipSpace cs with
        | ':' :: cs =>
          match value? bound cs with
          | none => none
          | some (v, cs) =>
            match skipSpace cs with
            | ',' :: cs => (members? bound cs).map fun r => ((name, v) :: r.1, r.2)
            | '}' :: cs => some ([(name, v)], cs)
            | _ => none
        | _ => none
    | _ => none

end

/-- The value of a text of characters that holds one value and nothing else. -/
def ofChars? (cs : List Char) : Option Json :=
  match value? (2 * cs.length + 2) cs with
  | some (v, rest) => if skipSpace rest = [] then some v else none
  | none => none

/-- The value of a text that holds one value and nothing else. -/
def parse? (s : String) : Option Json := ofChars? s.toList

end VizSession.Json
