import VizSession.Decimal.Shortest
import VizSession.Json

/-!
# Numbers of JSON texts

A numeral without fraction and exponent is an integer, `-0` excepted. Any numeral can be
read as a float, with two roundings at most : the leading digits that fit into 64 bits
make a significand, which is then multiplied or divided once by a power of ten. A numeral
that leaves the range upwards is no float.

A float is written with its shortest digits (`Numeral.ofFloat?`), in positional form from
`10 ^ -5` up to below `10 ^ 16` and with at least one digit after the point there, else
with one digit before the point and an exponent. Infinities and `NaN` have no numeral.
-/

namespace VizSession.Numeral

open Decimal

/-! ## Integers -/

/-- The integer a numeral stands for. -/
def integer? (n : Numeral) : Option Int :=
  if n.fraction = [] ∧ n.exponent = none then
    let magnitude := ofDigits n.whole
    if !n.negative then some magnitude
    else if magnitude = 0 then none
    else some (-magnitude)
  else none

/-- The numeral as an unsigned integer of 64 bits. -/
def uint64? (n : Numeral) : Option UInt64 :=
  n.integer?.bind fun i => if 0 ≤ i ∧ i.toNat < UInt64.size then some (.ofNat i.toNat) else none

/-- The numeral as a signed integer of 64 bits. -/
def int64? (n : Numeral) : Option Int64 :=
  n.integer?.bind fun i =>
    if Int64.minValue.toInt ≤ i ∧ i ≤ Int64.maxValue.toInt then some (.ofInt i) else none

/-- The numeral of a natural number. -/
def ofNat (n : Nat) : Numeral := ⟨false, digits n, [], none⟩

/-- The numeral of an integer. -/
def ofInt (i : Int) : Numeral := ⟨i < 0, digits i.natAbs, [], none⟩

/-! ## Reading floats -/

/-- Appends digits to a significand as long as it fits into 64 bits, and gives the digits
that did not. -/
def absorb (significand : Nat) : List Char → Nat × List Char
  | [] => (significand, [])
  | c :: cs =>
    let next := 10 * significand + digitValue c
    if next < UInt64.size then absorb next cs else (significand, c :: cs)

/-- A power of ten as a float, correctly rounded. -/
def powerOfTen (n : Nat) : Float := .ofScientific 1 false n

/-- A significand times a power of ten. What is beyond the largest float has no value;
dividing in steps of `10 ^ 308` leaves nothing below `10 ^ -616`. -/
def scale? (significand : Nat) (exponent : Int) : Option Float :=
  let x := (UInt64.ofNat significand).toFloat
  let down := (-exponent).toNat
  if 0 ≤ exponent then
    if exponent ≤ 308 then
      let y := x * powerOfTen exponent.toNat
      if y.isInf then none else some y
    else if significand = 0 then some x else none
  else if down ≤ 308 then some (x / powerOfTen down)
  else if down ≤ 616 then some (x / powerOfTen 308 / powerOfTen (down - 308))
  else some 0.0

/-- The power of ten written at the end of a numeral. -/
def power (n : Numeral) : Int :=
  match n.exponent with
  | none => 0
  | some e => if e.negative then -ofDigits e.digits else ofDigits e.digits

/-- The float a numeral stands for. Digits before the point that do not fit into the
significand count as powers of ten, those after the point are dropped. -/
def float? (n : Numeral) : Option Float :=
  let (leading, beyond) := absorb 0 n.whole
  let (significand, dropped) := absorb leading n.fraction
  let shift : Int := beyond.length - (n.fraction.length - dropped.length)
  (scale? significand (n.power + shift)).map fun x => if n.negative then -x else x

/-! ## Writing floats -/

/-- The numeral of a decimal number : positional when the exponent of its leading digit
is at least `-5` and below `16`. -/
def ofScaled (negative : Bool) (s : Scaled) : Numeral :=
  let ds := digits s.coefficient
  let leading : Int := s.exponent + ds.length - 1
  if leading < -5 ∨ 16 ≤ leading then
    ⟨negative, ds.take 1, ds.drop 1, some ⟨leading < 0, digits leading.natAbs⟩⟩
  else if 0 ≤ s.exponent then
    ⟨negative, ds ++ List.replicate s.exponent.toNat '0', ['0'], none⟩
  else if 0 ≤ leading then
    ⟨negative, ds.take (leading.toNat + 1), ds.drop (leading.toNat + 1), none⟩
  else
    ⟨negative, ['0'], List.replicate (-leading - 1).toNat '0' ++ ds, none⟩

/-- The numeral of a finite float. -/
def ofFloat? (x : Float) : Option Numeral :=
  let bits := x.toBits.toNat
  let negative := 1 <<< 63 ≤ bits
  let magnitude := bits % 1 <<< 63
  if magnitude = 0 then some ⟨negative, ['0'], ['0'], none⟩
  else if magnitude < 0x7ff <<< 52 then some (ofScaled negative (shortest magnitude))
  else none

end VizSession.Numeral
