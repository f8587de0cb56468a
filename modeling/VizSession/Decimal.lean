/-!
# Decimal digits

Natural numbers and integers as decimal text, and the value of a run of digits. The
digits of a number read back as the number (`ofDigits_digits`).
-/

namespace VizSession.Decimal

/-- The decimal digits of a number, the leading one first. -/
def digits (n : Nat) : List Char := Nat.toDigits 10 n

/-- The value a character has as a digit. -/
def digitValue (c : Char) : Nat := c.toNat - '0'.toNat

/-- The number a run of digits stands for. -/
def ofDigits (cs : List Char) : Nat := cs.foldl (fun n c => 10 * n + digitValue c) 0

/-- A power of ten. -/
def tenTo (n : Nat) : Nat := Nat.pow 10 n

/-- A natural number as text. -/
def natural (n : Nat) : String := String.ofList (digits n)

/-- An integer as text, with a sign only below zero. -/
def integer (i : Int) : String := if i < 0 then "-" ++ natural i.natAbs else natural i.natAbs

theorem digits_eq (n : Nat) :
    digits n = if n < 10 then [n.digitChar] else digits (n / 10) ++ [(n % 10).digitChar] := by
  unfold digits
  split
  · rename_i h
    exact Nat.toDigits_of_lt_base h
  · rename_i h
    exact Nat.toDigits_of_base_le (by decide) (by omega)

theorem digits_ne_nil (n : Nat) : digits n ≠ [] := Nat.toDigits_ne_nil

theorem isDigit_of_mem_digits {n : Nat} {c : Char} (hc : c ∈ digits n) : c.isDigit = true :=
  Nat.isDigit_of_mem_toDigits (by decide) (by decide) hc

theorem digitValue_digitChar {n : Nat} (h : n < 10) : digitValue n.digitChar = n := by
  have : ∀ k < 10, digitValue k.digitChar = k := by decide
  exact this n h

theorem ofDigits_append_singleton (cs : List Char) (c : Char) :
    ofDigits (cs ++ [c]) = 10 * ofDigits cs + digitValue c := by
  simp [ofDigits]

theorem ofDigits_digits (n : Nat) : ofDigits (digits n) = n := by
  induction n using Nat.strongRecOn with
  | ind n ih =>
    rw [digits_eq]
    split
    · rename_i h
      simp [ofDigits, digitValue_digitChar h]
    · rename_i h
      rw [ofDigits_append_singleton, ih (n / 10) (by omega),
        digitValue_digitChar (Nat.mod_lt _ (by decide))]
      omega

end VizSession.Decimal
