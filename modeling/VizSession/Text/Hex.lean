/-!
# Hexadecimal digits

Escapes give characters by their code points in hexadecimal digits of either case.
-/

namespace VizSession.Text

/-- The value of a hexadecimal digit. -/
def hexValue? (c : Char) : Option Nat :=
  if c.isDigit then some (c.toNat - '0'.toNat)
  else if 'a' ≤ c ∧ c ≤ 'f' then some (c.toNat - 'a'.toNat + 10)
  else if 'A' ≤ c ∧ c ≤ 'F' then some (c.toNat - 'A'.toNat + 10)
  else none

/-- The hexadecimal digit of a value below 16, a capital one above 9. -/
def hexDigit (n : Nat) : Char := n.digitChar.toUpper

/-- The character of a code point, unless it is out of range or belongs to a surrogate. -/
def ofCodePoint? (n : Nat) : Option Char := if n.isValidChar then some (.ofNat n) else none

theorem hexValue?_digitChar {n : Nat} (h : n < 16) : hexValue? n.digitChar = some n := by
  have : ∀ k < 16, hexValue? k.digitChar = some k := by decide
  exact this n h

theorem hexValue?_hexDigit {n : Nat} (h : n < 16) : hexValue? (hexDigit n) = some n := by
  have : ∀ k < 16, hexValue? (hexDigit k) = some k := by decide
  exact this n h

theorem ofCodePoint?_toNat (c : Char) : ofCodePoint? c.toNat = some c := by
  have h : c.toNat.isValidChar := c.valid
  simp [ofCodePoint?, h]

end VizSession.Text
