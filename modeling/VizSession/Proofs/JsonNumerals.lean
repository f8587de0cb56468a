import VizSession.Json.Reader
import VizSession.Json.Writer
import VizSession.Json.Numeral
import Mathlib.Data.List.Basic

/-!
# Numerals of JSON texts

A numeral is well formed when its digits are as the grammar wants them
(`Numeral.WellFormed`) : digits in each of its parts, and no zero in front of the digits before
the point. A well-formed numeral is read from its text as it is, as long as what follows does not
go on with it (`numeral?_numeralChars`).

The numerals of natural numbers, of integers and of finite floats are well formed. For floats
this comes down to the digits before the point, which start with a zero only if the coefficient
of the shortest decimal does; it does not, as the interval of a positive float has a positive
lower end (`Interval.low_pos`), so no neighbour in it is zero (`shortest_cases`).
-/

namespace VizSession

/-! ## Digits -/

namespace Decimal

/-- The digits of a positive number do not start with a zero. -/
theorem head?_digits_ne_zero {n : Nat} (hn : 0 < n) : (digits n).head? ≠ some '0' := by
  induction n using Nat.strongRecOn with
  | ind n ih =>
    rw [digits_eq]
    split
    · simp [Nat.ne_of_gt hn]
    · rename_i h
      rw [List.head?_append_of_ne_nil _ (digits_ne_nil _)]
      exact ih (n / 10) (by omega) (by omega)

theorem digits_zero : digits 0 = ['0'] := rfl

end Decimal

/-! ## The grammar of numerals -/

namespace Numeral

/-- The digits of a numeral are as the grammar wants them. -/
structure WellFormed (n : Numeral) : Prop where
  /-- There are digits before the point. -/
  whole_ne_nil : n.whole ≠ []
  whole : ∀ c ∈ n.whole, c.isDigit = true
  /-- They start with a zero only if it is the only one. -/
  leading : n.whole = ['0'] ∨ n.whole.head? ≠ some '0'
  fraction : ∀ c ∈ n.fraction, c.isDigit = true
  exponent : ∀ e, n.exponent = some e → e.digits ≠ [] ∧ ∀ c ∈ e.digits, c.isDigit = true

end Numeral

namespace Json

/-- What follows does not go on with a numeral. -/
def Ends (rest : List Char) : Prop :=
  ∀ c ∈ rest.head?, c.isDigit = false ∧ c ≠ '.' ∧ c ≠ 'e' ∧ c ≠ 'E'

theorem spanDigits_append {ds rest : List Char} (hds : ∀ c ∈ ds, c.isDigit = true)
    (hrest : ∀ c ∈ rest.head?, c.isDigit = false) : spanDigits (ds ++ rest) = (ds, rest) := by
  unfold spanDigits
  rw [List.takeWhile_append_of_pos hds, List.dropWhile_append_of_pos hds]
  cases rest with
  | nil => simp
  | cons c rest =>
    have hc : c.isDigit = false := hrest c rfl
    simp [hc]

theorem whole?_append {ds rest : List Char} (hne : ds ≠ []) (hds : ∀ c ∈ ds, c.isDigit = true)
    (hleading : ds = ['0'] ∨ ds.head? ≠ some '0') (hrest : ∀ c ∈ rest.head?, c.isDigit = false) :
    whole? (ds ++ rest) = some (ds, rest) := by
  rcases hleading with rfl | hhead
  · rfl
  · unfold whole?
    split
    · rename_i cs hcs
      cases ds with
      | nil => exact absurd rfl hne
      | cons d ds =>
        obtain ⟨rfl, -⟩ := List.cons.inj hcs
        exact absurd rfl hhead
    · rw [spanDigits_append hds hrest]
      exact if_neg hne

theorem fraction?_append {ds rest : List Char} (hds : ∀ c ∈ ds, c.isDigit = true)
    (hrest : ∀ c ∈ rest.head?, c.isDigit = false ∧ c ≠ '.') :
    fraction? ((if ds = [] then [] else '.' :: ds) ++ rest) = some (ds, rest) := by
  by_cases hne : ds = []
  · subst hne
    rw [if_pos rfl, List.nil_append]
    unfold fraction?
    split
    · rename_i cs
      exact absurd rfl (hrest '.' (List.head?_cons ..)).2
    · rfl
  · rw [if_neg hne]
    show (if (spanDigits (ds ++ rest)).1 = [] then none
      else some (spanDigits (ds ++ rest))) = some (ds, rest)
    rw [spanDigits_append hds fun c hc => (hrest c hc).1]
    exact if_neg hne

theorem exponent?_append {e : Option Exponent} {rest : List Char}
    (he : ∀ e', e = some e' → e'.digits ≠ [] ∧ ∀ c ∈ e'.digits, c.isDigit = true)
    (hrest : Ends rest) : exponent? (exponentChars e ++ rest) = some (e, rest) := by
  cases e with
  | none =>
    cases rest with
    | nil => rfl
    | cons c rest =>
      obtain ⟨-, -, he, hE⟩ := hrest c rfl
      exact if_neg (not_or.mpr ⟨he, hE⟩)
  | some e =>
    obtain ⟨hne, hds⟩ := he e rfl
    have hdigits : exponentDigits? e.negative (e.digits ++ rest) = some (some e, rest) := by
      unfold exponentDigits?
      rw [spanDigits_append hds fun c hc => (hrest c hc).1]
      exact if_neg hne
    obtain ⟨negative, ds⟩ := e
    cases negative <;> exact hdigits

/-- What comes after the digits before the point does not go on with them. -/
theorem head?_exponentChars (e : Option Exponent) {rest : List Char} (hrest : Ends rest) :
    ∀ c ∈ (exponentChars e ++ rest).head?, c.isDigit = false ∧ c ≠ '.' := by
  cases e with
  | none => exact fun c hc => ⟨(hrest c hc).1, (hrest c hc).2.1⟩
  | some e =>
    intro c hc
    obtain rfl : 'e' = c := Option.some.inj hc
    decide

theorem head?_fractionChars (ds : List Char) {rest : List Char}
    (hrest : ∀ c ∈ rest.head?, c.isDigit = false ∧ c ≠ '.') :
    ∀ c ∈ ((if ds = [] then [] else '.' :: ds) ++ rest).head?, c.isDigit = false := by
  intro c hc
  split at hc
  · exact (hrest c hc).1
  · obtain rfl : '.' = c := Option.some.inj hc
    decide

/-- A well-formed numeral is read from its text as it is. -/
theorem numeral?_numeralChars {n : Numeral} (hn : n.WellFormed) {rest : List Char}
    (hrest : Ends rest) : numeral? (numeralChars n ++ rest) = some (n, rest) := by
  obtain ⟨negative, whole, fraction, exponent⟩ := n
  have hafter := head?_exponentChars exponent hrest
  have hwhole := whole?_append hn.whole_ne_nil hn.whole hn.leading
    (head?_fractionChars fraction hafter)
  have hfraction := fraction?_append hn.fraction hafter
  have hexponent := exponent?_append hn.exponent hrest
  have htext : numeralChars ⟨negative, whole, fraction, exponent⟩ ++ rest =
      (if negative then ['-'] else []) ++ (whole ++
        ((if fraction = [] then [] else '.' :: fraction) ++ (exponentChars exponent ++ rest))) := by
    simp [numeralChars, List.append_assoc]
  rw [htext]
  cases negative with
  | true =>
    unfold numeral?
    simp [hwhole, hfraction, hexponent]
  | false =>
    obtain ⟨d, ds, rfl⟩ := List.exists_cons_of_ne_nil hn.whole_ne_nil
    have hd : d ≠ '-' := by
      rintro rfl
      exact absurd (hn.whole '-' (List.mem_cons_self ..)) (by decide)
    unfold numeral?
    simp only [List.cons_append] at hwhole
    simp [hd, hwhole, hfraction, hexponent]

end Json

/-! ## Numerals of integers -/

namespace Numeral

open Decimal

theorem wellFormed_digits (negative : Bool) (n : Nat) :
    WellFormed ⟨negative, digits n, [], none⟩ where
  whole_ne_nil := digits_ne_nil n
  whole _ := isDigit_of_mem_digits
  leading := by
    rcases Nat.eq_zero_or_pos n with rfl | hn
    · exact Or.inl digits_zero
    · exact Or.inr (head?_digits_ne_zero hn)
  fraction _ h := absurd h List.not_mem_nil
  exponent _ h := by cases h

theorem integer?_ofNat (n : Nat) : (ofNat n).integer? = some (n : Int) := by
  simp [ofNat, integer?, ofDigits_digits]

theorem integer?_ofInt (i : Int) : (ofInt i).integer? = some i := by
  unfold ofInt integer?
  rw [if_pos ⟨rfl, rfl⟩]
  dsimp only
  rw [ofDigits_digits]
  by_cases hi : i < 0
  · have hne : i.natAbs ≠ 0 := by omega
    have hneg : -(i.natAbs : Int) = i := by omega
    rw [decide_eq_true hi, if_neg hne, hneg]
    rfl
  · have hpos : (i.natAbs : Int) = i := by omega
    rw [decide_eq_false hi, hpos]
    rfl

theorem uint64?_ofNat (n : UInt64) : (ofNat n.toNat).uint64? = some n := by
  unfold uint64?
  rw [integer?_ofNat, Option.bind_some, Int.toNat_natCast,
    if_pos ⟨Int.natCast_nonneg _, n.toNat_lt⟩, UInt64.ofNat_toNat]

theorem int64?_ofInt (n : Int64) : (ofInt n.toInt).int64? = some n := by
  unfold int64?
  rw [integer?_ofInt, Option.bind_some, if_pos ⟨n.minValue_le_toInt, n.toInt_le⟩,
    Int64.ofInt_toInt]

end Numeral

/-! ## Numerals of floats -/

namespace Decimal

theorem tenTo_pos (n : Nat) : 0 < tenTo n := Nat.pow_pos (by decide)

namespace Interval

/-- Zero is below all reals that round to a positive float. -/
theorem low_pos {bits : Nat} (hbits : 0 < bits) : 0 < (ofBits bits).low := by
  have hsignificand : 0 < if bits >>> 52 = 0 then bits % 1 <<< 52
      else bits % 1 <<< 52 + 1 <<< 52 := by
    split
    · rename_i hexponent
      rw [Nat.shiftRight_eq_div_pow] at hexponent
      have hsmall : bits < 1 <<< 52 := by
        rw [Nat.shiftLeft_eq]
        omega
      rwa [Nat.mod_eq_of_lt hsmall]
    · exact Nat.add_pos_right _ (by decide)
  have hgap : ∀ {p : Prop} [Decidable p], (if p then 1 else 2) < 4 := by
    intro p _
    split <;> decide
  refine Nat.mul_pos (Nat.sub_pos_of_lt (Nat.lt_of_lt_of_le hgap ?_)) ?_
  · exact Nat.le_mul_of_pos_right 4 hsignificand
  · rw [Nat.one_shiftLeft]
    exact Nat.two_pow_pos _

theorem contains_zero {i : Interval} (hlow : 0 < i.low) {denominator : Nat}
    (hd : 0 < denominator) : i.contains 0 denominator = false := by
  have hpos : 0 < i.low * denominator := Nat.mul_pos hlow hd
  unfold contains
  rw [Nat.zero_mul]
  simp [Nat.ne_of_gt hpos]

/-- A coefficient that is chosen is positive : zero lies below the interval, so the one below the
value is chosen only if it is positive, and the one above always is. -/
theorem pos_of_neighbour? {i : Interval} (hlow : 0 < i.low) {exponent : Int} {c : Nat}
    (hc : i.neighbour? exponent = some c) : 0 < c := by
  have hbelow : ∀ {below unit parts}, 0 < parts →
      i.contains (below * unit) parts = true → 0 < below := by
    intro below unit parts hparts hcontains
    refine Nat.pos_of_ne_zero fun hzero => ?_
    rw [hzero, Nat.zero_mul, contains_zero hlow hparts] at hcontains
    cases hcontains
  unfold neighbour? at hc
  dsimp only at hc
  split at hc
  · rename_i hboth
    have hpos := hbelow (tenTo_pos _) (Bool.and_eq_true_iff.mp hboth).1
    split at hc
    · rwa [← Option.some.inj hc]
    · split at hc
      · rw [← Option.some.inj hc]
        exact Nat.succ_pos _
      · rw [← Option.some.inj hc]
        exact Nat.add_pos_left hpos _
  · split at hc
    · rename_i hfits
      rw [← Option.some.inj hc]
      exact hbelow (tenTo_pos _) hfits
    · split at hc
      · rw [← Option.some.inj hc]
        exact Nat.succ_pos _
      · cases hc

theorem pos_of_withDigits? {i : Interval} (hlow : 0 < i.low) {count : Nat} {s : Scaled}
    (hs : i.withDigits? count = some s) : 0 < s.coefficient := by
  obtain ⟨c, hc, rfl⟩ := Option.map_eq_some_iff.mp hs
  split
  · exact Nat.one_pos
  · exact pos_of_neighbour? hlow hc

end Interval

/-- The shortest decimal has no zero in front, unless none was found. -/
theorem shortest_cases {bits : Nat} (hbits : 0 < bits) :
    0 < (shortest bits).coefficient ∨ shortest bits = ⟨0, 0⟩ := by
  unfold shortest
  dsimp only
  cases hfound : (List.range' 1 17).findSome? (Interval.ofBits bits).withDigits? with
  | none => exact Or.inr rfl
  | some s =>
    obtain ⟨count, -, hs⟩ := List.exists_of_findSome?_eq_some hfound
    exact Or.inl (Interval.pos_of_withDigits? (Interval.low_pos hbits) hs)

end Decimal

namespace Numeral

open Decimal

theorem isDigit_of_mem_zeros {n : Nat} {c : Char} (hc : c ∈ List.replicate n '0') :
    c.isDigit = true := by
  rw [List.eq_of_mem_replicate hc]
  decide

/-- A zero before the point. -/
theorem wellFormed_zero (negative : Bool) {ds : List Char} (hds : ∀ c ∈ ds, c.isDigit = true) :
    WellFormed ⟨negative, ['0'], ds, none⟩ where
  whole_ne_nil := List.cons_ne_nil _ _
  whole c hc := by
    rw [List.mem_singleton.mp hc]
    decide
  leading := Or.inl rfl
  fraction := hds
  exponent := nofun

/-- The numeral of a decimal is well formed, unless zeros are put behind the digit of zero. -/
theorem wellFormed_ofScaled (negative : Bool) {s : Scaled}
    (hs : 0 < s.coefficient ∨ s = ⟨0, 0⟩) : (ofScaled negative s).WellFormed := by
  have hne : digits s.coefficient ≠ [] := digits_ne_nil _
  have hdigits : ∀ c ∈ digits s.coefficient, c.isDigit = true := fun _ => isDigit_of_mem_digits
  have htake : ∀ {k}, 0 < k → (digits s.coefficient).take k ≠ [] := by
    intro k hk h
    rcases List.take_eq_nil_iff.mp h with h | h
    · exact Nat.ne_of_gt hk h
    · exact hne h
  unfold ofScaled
  dsimp only
  split
  · refine ⟨htake Nat.one_pos, fun c hc => hdigits c (List.mem_of_mem_take hc), ?_,
      fun c hc => hdigits c (List.mem_of_mem_drop hc), fun e he => ?_⟩
    · obtain ⟨d, ds, hds⟩ := List.exists_cons_of_ne_nil hne
      rw [hds]
      by_cases hd : d = '0'
      · exact Or.inl (by rw [hd]; rfl)
      · exact Or.inr fun h => hd (Option.some.inj h)
    · cases he
      exact ⟨digits_ne_nil _, fun _ => isDigit_of_mem_digits⟩
  · split
    · refine ⟨List.append_ne_nil_of_left_ne_nil hne _, ?_, ?_, ?_, nofun⟩
      · intro c hc
        exact (List.mem_append.mp hc).elim (hdigits c) isDigit_of_mem_zeros
      · rcases hs with hpos | rfl
        · refine Or.inr ?_
          rw [List.head?_append_of_ne_nil _ hne]
          exact head?_digits_ne_zero hpos
        · exact Or.inl rfl
      · intro c hc
        rw [List.mem_singleton.mp hc]
        decide
    · rename_i hexponent
      split
      · refine ⟨htake (Nat.succ_pos _), fun c hc => hdigits c (List.mem_of_mem_take hc), ?_,
          fun c hc => hdigits c (List.mem_of_mem_drop hc), nofun⟩
        rcases hs with hpos | rfl
        · refine Or.inr ?_
          rw [List.head?_take, if_neg (Nat.succ_ne_zero _)]
          exact head?_digits_ne_zero hpos
        · exact absurd (Int.le_refl 0) hexponent
      · exact wellFormed_zero _ fun c hc =>
          (List.mem_append.mp hc).elim isDigit_of_mem_zeros (hdigits c)

theorem wellFormed_of_ofFloat? {x : Float} {n : Numeral} (hn : ofFloat? x = some n) :
    n.WellFormed := by
  unfold ofFloat? at hn
  dsimp only at hn
  split at hn
  · rw [← Option.some.inj hn]
    exact wellFormed_zero _ fun _ hc => isDigit_of_mem_zeros (n := 1) hc
  · rename_i hmagnitude
    split at hn
    · rw [← Option.some.inj hn]
      exact wellFormed_ofScaled _ (shortest_cases (Nat.pos_of_ne_zero hmagnitude))
    · cases hn

end Numeral

end VizSession
