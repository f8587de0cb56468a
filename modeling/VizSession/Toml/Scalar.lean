import VizSession.Decimal
import VizSession.Text.Hex

/-!
# Numbers and moments of TOML documents

No configuration holds a number or a moment in time, but a document has to be well formed
throughout. So each reader here gives what is left of the text after one of them, and
nothing if there is none.

Single underscores may stand between the digits of a number, and no zero in front of other
digits. An integer has to fit into 64 bits with a sign, a float must not be too large for
one of 64 bits; one that is too far below zero counts as an infinity. A moment is a date
of the calendar, a time of the day, or both, and then it may have an offset.
-/

namespace VizSession.Toml

open Decimal (ofDigits tenTo)
open Text (hexValue?)

/-! ## Digits -/

/-- The further digits of a number, and what is left after them. -/
def moreDigits (p : Char → Bool) : List Char → List Char × List Char
  | '_' :: c :: cs =>
    if p c then
      let (ds, rest) := moreDigits p cs
      (c :: ds, rest)
    else ([], '_' :: c :: cs)
  | c :: cs =>
    if p c then
      let (ds, rest) := moreDigits p cs
      (c :: ds, rest)
    else ([], c :: cs)
  | [] => ([], [])

/-- The digits of a number, of which there has to be one, and what is left after them. -/
def digits? (p : Char → Bool) : List Char → Option (List Char × List Char)
  | [] => none
  | c :: cs =>
    if p c then
      let (ds, rest) := moreDigits p cs
      some (c :: ds, rest)
    else none

/-- A sign in front, true for a minus, and what is left after it. -/
def sign : List Char → Bool × List Char
  | '-' :: cs => (true, cs)
  | '+' :: cs => (false, cs)
  | cs => (false, cs)

/-! ## Numbers -/

/-- Whether an integer fits into 64 bits with a sign. -/
def fits (i : Int) : Bool := Int64.minValue.toInt ≤ i && i ≤ Int64.maxValue.toInt

/-- Whether a decimal is so large that it rounds to no float. From half way between the
largest float and the next power of two it does. The digits are those before the exponent,
`10 ^ exponent` is the place of the last one. -/
def isHuge (ds : List Char) (exponent : Int) : Bool :=
  let coefficient := ofDigits ds
  let bound := 1 <<< 1024 - 1 <<< 970
  if coefficient = 0 then false
  else if exponent < 0 then
    if exponent < -(ds.length : Int) then false
    else bound * tenTo exponent.natAbs ≤ coefficient
  else if 400 < exponent then true
  else bound ≤ coefficient * tenTo exponent.toNat

/-- The digits before the point : a zero alone, or digits that do not start with one. -/
def whole? : List Char → Option (List Char × List Char)
  | '0' :: cs => some (['0'], cs)
  | cs => digits? Char.isDigit cs

/-- The digits after the point, none if there is no point. -/
def fraction? : List Char → Option (List Char × List Char)
  | '.' :: cs => digits? Char.isDigit cs
  | cs => some ([], cs)

/-- The exponent, if there is one. -/
def exponent? : List Char → Option (Option Int × List Char)
  | [] => some (none, [])
  | c :: cs =>
    if c = 'e' ∨ c = 'E' then do
      let (negative, cs) := sign cs
      let (ds, cs) ← digits? Char.isDigit cs
      return (some (if negative then -ofDigits ds else ofDigits ds), cs)
    else some (none, c :: cs)

/-- What is left after a decimal integer or float. -/
def decimal? (cs : List Char) : Option (List Char) := do
  let (negative, cs) := sign cs
  let (whole, cs) ← whole? cs
  let (fraction, cs) ← fraction? cs
  let (exponent, cs) ← exponent? cs
  let valid :=
    if fraction = [] ∧ exponent = none then
      fits (if negative then -ofDigits whole else ofDigits whole)
    else
      negative || !isHuge (whole ++ fraction) (exponent.getD 0 - fraction.length)
  if valid then some cs else none

/-- What is left after an integer in a given base. -/
def based? (base : Nat) (cs : List Char) : Option (List Char) := do
  let value (c : Char) : Option Nat := (hexValue? c).filter (· < base)
  let (ds, cs) ← digits? (fun c => (value c).isSome) cs
  if fits (ds.foldl (fun n c => base * n + (value c).getD 0) 0) then some cs else none

/-- What is left after an infinity or a float that is no number. -/
def special? (cs : List Char) : Option (List Char) :=
  match (sign cs).2 with
  | 'i' :: 'n' :: 'f' :: cs => some cs
  | 'n' :: 'a' :: 'n' :: cs => some cs
  | _ => none

/-- What is left after a number. -/
def number? : List Char → Option (List Char)
  | '0' :: 'x' :: cs => based? 16 cs
  | '0' :: 'o' :: cs => based? 8 cs
  | '0' :: 'b' :: cs => based? 2 cs
  | cs => special? cs <|> decimal? cs

/-! ## Moments -/

/-- The number written by exactly two digits, if it is in a range. -/
def twoDigits? (low high : Nat) : List Char → Option (Nat × List Char)
  | a :: b :: cs =>
    let n := ofDigits [a, b]
    if a.isDigit ∧ b.isDigit ∧ low ≤ n ∧ n ≤ high then some (n, cs) else none
  | _ => none

/-- What is left after a given character. -/
def expect? (c : Char) : List Char → Option (List Char)
  | c' :: cs => if c' = c then some cs else none
  | [] => none

/-- The year written by exactly four digits. -/
def year? : List Char → Option (Nat × List Char)
  | a :: b :: c :: d :: cs =>
    if [a, b, c, d].all Char.isDigit then some (ofDigits [a, b, c, d], cs) else none
  | _ => none

/-- How many days a month has. -/
def monthLength (year month : Nat) : Nat :=
  if month = 2 then
    if year % 4 = 0 ∧ (year % 100 ≠ 0 ∨ year % 400 = 0) then 29 else 28
  else if month = 4 ∨ month = 6 ∨ month = 9 ∨ month = 11 then 30
  else 31

/-- What is left after a date of the calendar. -/
def date? (cs : List Char) : Option (List Char) := do
  let (year, cs) ← year? cs
  let cs ← expect? '-' cs
  let (month, cs) ← twoDigits? 1 12 cs
  let cs ← expect? '-' cs
  let (_, cs) ← twoDigits? 1 (monthLength year month) cs
  return cs

/-- What is left after the digits after a point, if there is a point with digits. -/
def skipFraction : List Char → List Char
  | '.' :: c :: cs => if c.isDigit then cs.dropWhile Char.isDigit else '.' :: c :: cs
  | cs => cs

/-- What is left after a time of the day, in which a leap second may be the last. -/
def time? (cs : List Char) : Option (List Char) := do
  let (_, cs) ← twoDigits? 0 23 cs
  let cs ← expect? ':' cs
  let (_, cs) ← twoDigits? 0 59 cs
  let cs ← expect? ':' cs
  let (_, cs) ← twoDigits? 0 60 cs
  return skipFraction cs

/-- What is left after hours and minutes. -/
def clock? (cs : List Char) : Option (List Char) := do
  let (_, cs) ← twoDigits? 0 23 cs
  let cs ← expect? ':' cs
  let (_, cs) ← twoDigits? 0 59 cs
  return cs

/-- What is left after an offset, if there is one. -/
def skipOffset : List Char → List Char
  | [] => []
  | c :: cs =>
    if c = 'Z' ∨ c = 'z' then cs
    else if c = '+' ∨ c = '-' then (clock? cs).getD (c :: cs)
    else c :: cs

/-- What is left after the time that follows a date, if one follows. -/
def skipTime : List Char → List Char
  | [] => []
  | c :: cs =>
    if c = 'T' ∨ c = 't' ∨ c = ' ' then ((time? cs).map skipOffset).getD (c :: cs)
    else c :: cs

/-- What is left after a moment in time. -/
def moment? (cs : List Char) : Option (List Char) := (date? cs).map skipTime <|> time? cs

/-- What is left after a number or a moment. -/
def scalar? (cs : List Char) : Option (List Char) := moment? cs <|> number? cs

end VizSession.Toml
