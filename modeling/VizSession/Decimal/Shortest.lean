import VizSession.Decimal

/-!
# The shortest decimal of a float

A finite float stands for all reals that round to it, an interval around its exact value
that includes its ends when the significand is even. `shortest` gives the decimal in that
interval with the fewest digits; of two with equally few the nearer one, and of two
equally near the one with an even last digit. All arithmetic is exact.

On the grid of multiples of a power of ten only the two neighbours of the exact value
need a test, since any other point of the grid in the interval is further away on the
same side.
-/

namespace VizSession.Decimal

/-- The decimal number `coefficient · 10 ^ exponent`. -/
structure Scaled where
  /-- The digits, as a number. -/
  coefficient : Nat
  /-- The power of ten they are scaled by. -/
  exponent : Int
deriving DecidableEq

/-- The positive reals that round to one float, as numerators over one denominator. -/
structure Interval where
  /-- The lower end. -/
  low : Nat
  /-- The exact value of the float. -/
  value : Nat
  /-- The upper end. -/
  high : Nat
  /-- What the three are divided by. -/
  denominator : Nat
  /-- Whether the ends belong to the interval. -/
  closed : Bool

namespace Interval

/-- The interval of a positive finite float, given by its bits. The gap below a power of
two is half the gap above it, except at the smallest normal number. -/
def ofBits (bits : Nat) : Interval :=
  let fraction := bits % 1 <<< 52
  let exponent := bits >>> 52
  let significand := if exponent = 0 then fraction else fraction + 1 <<< 52
  let gap := if fraction = 0 ∧ 1 < exponent then 1 else 2
  let up := 1 <<< (exponent - 1077)
  { low := (4 * significand - gap) * up
    value := 4 * significand * up
    high := (4 * significand + 2) * up
    denominator := 1 <<< (1077 - max exponent 1)
    closed := significand % 2 = 0 }

/-- Whether the interval holds the fraction of two numbers. -/
def contains (i : Interval) (numerator denominator : Nat) : Bool :=
  let x := numerator * i.denominator
  let low := i.low * denominator
  let high := i.high * denominator
  if i.closed then low ≤ x && x ≤ high else low < x && x < high

/-- The exponent of the leading digit of the exact value. -/
def magnitude (i : Interval) : Int :=
  if i.denominator ≤ i.value then (digits (i.value / i.denominator)).length - 1
  else -(digits ((i.denominator - 1) / i.value)).length

/-- The better neighbour of the exact value among the multiples of `10 ^ exponent`, if one
of them is in the interval. -/
def neighbour? (i : Interval) (exponent : Int) : Option Nat :=
  let unit := tenTo exponent.toNat
  let parts := tenTo (-exponent).toNat
  let below := i.value * parts / (i.denominator * unit)
  let fitsBelow := i.contains (below * unit) parts
  let fitsAbove := i.contains ((below + 1) * unit) parts
  let gapBelow := i.value * parts - below * unit * i.denominator
  let gapAbove := (below + 1) * unit * i.denominator - i.value * parts
  if fitsBelow && fitsAbove then
    if gapBelow < gapAbove then some below
    else if gapAbove < gapBelow then some (below + 1)
    else some (below + below % 2)
  else if fitsBelow then some below
  else if fitsAbove then some (below + 1)
  else none

/-- The best decimal of the interval with a given number of digits, if there is one. A
coefficient that reaches the next power of ten is that power. -/
def withDigits? (i : Interval) (count : Nat) : Option Scaled :=
  let exponent := i.magnitude - (count - 1 : Nat)
  (i.neighbour? exponent).map fun c =>
    if c = tenTo count then ⟨1, exponent + count⟩ else ⟨c, exponent⟩

end Interval

/-- The shortest decimal that rounds to a positive finite float, given by its bits.
Seventeen digits always suffice. -/
def shortest (bits : Nat) : Scaled :=
  let i := Interval.ofBits bits
  ((List.range' 1 17).findSome? i.withDigits?).getD ⟨0, 0⟩

end VizSession.Decimal
