import VizSession.Toml.Quoted
import Mathlib.Data.List.TakeWhile
import Mathlib.Tactic.SplitIfs

/-!
# TOML strings and the texts they show

A string is read back as the text it was written for (`string?_quoted`), whatever form the
writer chose, if no quote follows it.

Between double quotes every character is written so that the reader takes exactly it again
(`basic?_escape`); between single quotes there are only characters that stand for themselves,
and `formOf` sees to that (`shows_formOf`). What needs care is the end of a block. Its three
quotes may come right after quotes of the text, of which the reader gives two back to the text
(`closing?_append`), and it takes a quote within the text for the end unless there are at most
two in a row. The writer escapes the third one (`length_takeWhile_escapeAll`) or counts the
longest run beforehand (`longestRun_le_iff`).
-/

namespace VizSession.Toml

open Text

/-! ## The end of a block -/

section Closing

variable {f : Form} {rest : List Char}

theorem takeWhile_replicate_append (n : Nat) {q : Char} (hrest : rest.head? ≠ some q) :
    (List.replicate n q ++ rest).takeWhile (· == q) = List.replicate n q := by
  have hstop : rest.takeWhile (· == q) = [] := by
    cases rest with
    | nil => rfl
    | cons c cs =>
      have hc : c ≠ q := by simpa using hrest
      simp [hc]
  rw [List.takeWhile_append_of_pos (by simp), hstop, List.append_nil]

theorem delimiter_block (hf : f.block = true) : f.delimiter = List.replicate 3 f.quote := by
  simp [Form.delimiter, hf]

theorem delimiter_line (hf : f.block = false) : f.delimiter = [f.quote] := by
  simp [Form.delimiter, hf]

/-- Of up to five quotes in a row, the first of which was read, the last three close a block. -/
theorem closing?_replicate (hf : f.block = true) {n : Nat} (hn : n ≤ 2)
    (hrest : rest.head? ≠ some f.quote) :
    closing? f (List.replicate (n + 2) f.quote ++ rest) =
      some (List.replicate n f.quote, rest) := by
  have hmin : min n 2 = n := by omega
  have hdrop : (List.replicate (n + 2) f.quote ++ rest).drop (n + 2) = rest :=
    List.drop_left' (by simp)
  simp [closing?, hf, takeWhile_replicate_append _ hrest, hmin, hdrop]

/-- A quote closes a block if nothing but quotes is left of the text, which get it and
themselves. -/
theorem closing?_append (hf : f.block = true) (cs : List Char)
    (hcs : (cs.takeWhile (· == f.quote)).length ≤ 1) (hrest : rest.head? ≠ some f.quote) :
    closing? f (cs ++ f.delimiter ++ rest) =
      if cs.all (· == f.quote) then some (f.quote :: cs, rest) else none := by
  split
  · rename_i hall
    have hquotes : cs = List.replicate cs.length f.quote :=
      List.eq_replicate_of_mem fun c hc => by simpa using List.all_eq_true.mp hall c hc
    have hlength : cs.length ≤ 1 := by
      rwa [List.takeWhile_eq_self_iff.mpr (by simpa using hall)] at hcs
    have hclose := closing?_replicate hf (show cs.length + 1 ≤ 2 by omega) hrest
    have htext : cs ++ f.delimiter = List.replicate (cs.length + 1 + 2) f.quote :=
      calc cs ++ f.delimiter
          = List.replicate cs.length f.quote ++ List.replicate 3 f.quote := by
            rw [← hquotes, delimiter_block hf]
        _ = List.replicate (cs.length + 1 + 2) f.quote := List.replicate_append_replicate
    rw [htext, hclose, List.replicate_succ, ← hquotes]
  · rename_i hall
    have hstop : (cs ++ (f.delimiter ++ rest)).takeWhile (· == f.quote) =
        cs.takeWhile (· == f.quote) := by
      rw [List.takeWhile_append, if_neg]
      intro heq
      have hself := List.IsPrefix.eq_of_length (List.takeWhile_prefix _) heq
      exact hall (List.all_eq_true.mpr fun c hc =>
        List.takeWhile_eq_self_iff.mp hself c hc)
    have hfew : (cs.takeWhile (· == f.quote)).length < 2 := by omega
    rw [List.append_assoc, closing?, hstop]
    simp [hf, hfew]

end Closing

/-! ## Between double quotes -/

theorem basic?_plain (block : Bool) {c : Char} (hc : isPlain c = true) (hquote : c ≠ '"')
    (hslash : c ≠ '\\') (cs : List Char) :
    basic? block .text (c :: cs) = push c (basic? block .text cs) := by
  have hreturn : c ≠ '\r' := by
    rintro rfl
    exact absurd hc (by decide)
  rw [basic?] <;> simp_all

theorem basic?_codePoint (block : Bool) {a b : Nat} (ha : a < 16) (hb : b < 16)
    (cs : List Char) :
    basic? block .text ('\\' :: 'u' :: '0' :: '0' :: hexDigit a :: hexDigit b :: cs) =
      (ofCodePoint? (16 * a + b)).bind fun c => push c (basic? block .text cs) := by
  have hzero : hexValue? '0' = some 0 := by decide
  simp [basic?, hexValue?_hexDigit, ha, hb, hzero]

/-- What is written for a character other than the quote is read as the character. -/
theorem basic?_escape (block : Bool) {c : Char} (hquote : c ≠ '"') (cs : List Char) :
    basic? block .text (escape block c ++ cs) = push c (basic? block .text cs) := by
  unfold escape
  split_ifs with h8 ht hn hblock hf hr hslash hplain
  · simp [h8, basic?, unescape?]
  · simp [ht, basic?, unescape?]
  · simp [hn, hblock, basic?, isPlain]
  · simp [hn, basic?, unescape?]
  · simp [hf, basic?, unescape?]
  · simp [hr, basic?, unescape?]
  · simp [hslash, basic?, unescape?]
  · exact basic?_plain block hplain hquote hslash cs
  · have hsmall : c.toNat < 128 := by
      simp [isPlain] at hplain
      omega
    have hsum : 16 * (c.toNat / 16) + c.toNat % 16 = c.toNat := by omega
    simp only [List.cons_append, List.nil_append]
    rw [basic?_codePoint block (by omega) (by omega), hsum, ofCodePoint?_toNat]
    rfl

theorem escape_eq_cons (block : Bool) {c : Char} (hquote : c ≠ '"') :
    ∃ d ds, escape block c = d :: ds ∧ d ≠ '"' ∧ d ≠ '\r' ∧ (d = '\n' → c = '\n') := by
  unfold escape
  split_ifs with h8 ht hn hblock hf hr hslash hplain
  case pos | pos => exact ⟨_, _, rfl, by simp [*]⟩
  all_goals exact ⟨_, _, rfl, by simp_all⟩

/-- A line between double quotes shows its text. -/
theorem basic?_line (cs rest : List Char) :
    basic? false .text (escapeAll false 0 cs ++ '"' :: rest) = some (cs, rest) := by
  induction cs with
  | nil => simp [escapeAll, basic?, closing?]
  | cons c cs ih =>
    by_cases hc : c = '"'
    · simp [hc, escapeAll, basic?, unescape?, ih, push]
    · rw [escapeAll, if_neg hc, List.append_assoc, basic?_escape false hc, ih]
      rfl

/-- No more than two quotes come in a row, counting those that were written before. -/
theorem length_takeWhile_escapeAll {run : Nat} (hrun : run ≤ 2) (cs : List Char) :
    ((escapeAll true run cs).takeWhile (· == '"')).length + run ≤ 2 := by
  induction cs generalizing run with
  | nil => simpa [escapeAll] using hrun
  | cons c cs ih =>
    by_cases hc : c = '"'
    · by_cases hfew : run < 2
      · have hrest := ih (show run + 1 ≤ 2 by omega)
        simp only [escapeAll, hc, hfew, and_self, if_true, List.takeWhile_cons,
          beq_self_eq_true, List.length_cons]
        omega
      · simpa [escapeAll, hc, hfew] using hrun
    · obtain ⟨d, ds, hescape, hd, -⟩ := escape_eq_cons true hc
      simpa [escapeAll, hc, hescape, hd] using hrun

/-- What is written as nothing but quotes is written as it is. -/
theorem escapeAll_of_all {run : Nat} {cs : List Char}
    (h : (escapeAll true run cs).all (· == '"') = true) : escapeAll true run cs = cs := by
  induction cs generalizing run with
  | nil => rfl
  | cons c cs ih =>
    by_cases hc : c = '"'
    · by_cases hfew : run < 2
      · simp only [escapeAll, hc, hfew, and_self, if_true, List.all_cons, beq_self_eq_true,
          Bool.true_and] at h ⊢
        rw [ih h]
      · simp [escapeAll, hc, hfew] at h
    · obtain ⟨d, ds, hescape, hd, -⟩ := escape_eq_cons true hc
      simp [escapeAll, hc, hescape, hd] at h

/-- A block between double quotes shows its text. -/
theorem basic?_block {rest : List Char} (hrest : rest.head? ≠ some '"') {run : Nat}
    (hrun : run ≤ 2) (cs : List Char) :
    basic? true .text (escapeAll true run cs ++ Form.delimiter ⟨true, true⟩ ++ rest) =
      some (cs, rest) := by
  induction cs generalizing run with
  | nil =>
    have hclose := closing?_replicate (f := ⟨true, true⟩) rfl (Nat.zero_le 2) hrest
    simp only [Form.quote, if_true, List.replicate, List.cons_append, List.nil_append] at hclose
    simp [escapeAll, Form.delimiter, Form.quote, List.replicate, basic?, hclose]
  | cons c cs ih =>
    by_cases hc : c = '"'
    · by_cases hfew : run < 2
      · have hlead := length_takeWhile_escapeAll (show run + 1 ≤ 2 by omega) cs
        have hclose := closing?_append (f := ⟨true, true⟩) rfl (escapeAll true (run + 1) cs)
          (show (List.takeWhile (· == '"') _).length ≤ 1 by omega) hrest
        simp only [escapeAll, hc, hfew, and_self, if_true, List.cons_append]
        rw [basic?] <;> try simp
        rw [← List.append_assoc, hclose]
        by_cases hall : (escapeAll true (run + 1) cs).all (· == '"') = true
        · have hself := escapeAll_of_all hall
          rw [hself] at hall ⊢
          simp [Form.quote, hall]
        · simp only [Form.quote, if_true, hall]
          rw [ih (show run + 1 ≤ 2 by omega)]
          rfl
      · have hrest := ih (Nat.zero_le 2)
        simp only [List.append_assoc] at hrest
        simp [escapeAll, hc, hfew, basic?, unescape?, hrest, push]
    · have hrest := ih (Nat.zero_le 2)
      rw [List.append_assoc] at hrest
      rw [escapeAll, if_neg hc, List.append_assoc, List.append_assoc, basic?_escape true hc, hrest]
      rfl

/-! ## Between single quotes -/

theorem literal?_plain (block : Bool) {c : Char}
    (hc : isPlain c = true ∨ (block = true ∧ c = '\n')) (hquote : c ≠ '\'') (cs : List Char) :
    literal? block (c :: cs) = push c (literal? block cs) := by
  have hreturn : c ≠ '\r' := by
    rintro rfl
    simp [isPlain] at hc
  rw [literal?] <;> simp_all

/-- A line between single quotes shows its text. -/
theorem literal?_line {cs : List Char} (hcs : ∀ c ∈ cs, isPlain c = true) (hquote : '\'' ∉ cs)
    (rest : List Char) : literal? false (cs ++ '\'' :: rest) = some (cs, rest) := by
  induction cs with
  | nil => simp [literal?, closing?]
  | cons c cs ih =>
    simp only [List.forall_mem_cons] at hcs
    simp only [List.mem_cons, not_or] at hquote
    rw [List.cons_append, literal?_plain false (.inl hcs.1) (Ne.symm hquote.1), ih hcs.2 hquote.2]
    rfl

/-- Whether no run of a character is longer than a bound, after a run of a given length. -/
def RunsAtMost (q : Char) (bound : Nat) : Nat → List Char → Prop
  | run, [] => run ≤ bound
  | run, c :: cs =>
    if c = q then RunsAtMost q bound (run + 1) cs else run ≤ bound ∧ RunsAtMost q bound 0 cs

section Runs

variable {q : Char} {bound run : Nat} {cs : List Char}

theorem RunsAtMost.length_takeWhile (h : RunsAtMost q bound run cs) :
    (cs.takeWhile (· == q)).length + run ≤ bound := by
  induction cs generalizing run with
  | nil => simpa [RunsAtMost] using h
  | cons c cs ih =>
    unfold RunsAtMost at h
    split_ifs at h with hc
    · have hrest := ih h
      simp only [hc, List.takeWhile_cons, beq_self_eq_true, if_true, List.length_cons]
      omega
    · simpa [hc] using h.1

theorem RunsAtMost.not_mem (h : RunsAtMost q 0 run cs) : q ∉ cs := by
  induction cs generalizing run with
  | nil => simp
  | cons c cs ih =>
    have hlead := h.length_takeWhile
    unfold RunsAtMost at h
    split_ifs at h with hc
    · simp [hc] at hlead
    · simpa [Ne.symm hc] using ih h.2

theorem longestRun_le_iff : longestRun q cs ≤ bound ↔ RunsAtMost q bound 0 cs := by
  -- The longest run so far is at least the one that is going on.
  suffices hfold : ∀ run longest, run ≤ longest →
      ((cs.foldl (fun (run : Nat × Nat) c =>
        if c = q then (run.1 + 1, max (run.1 + 1) run.2) else (0, run.2))
        (run, longest)).2 ≤ bound ↔ longest ≤ bound ∧ RunsAtMost q bound run cs) by
    simpa [longestRun] using hfold 0 0 (Nat.le_refl 0)
  induction cs with
  | nil =>
    intro run longest hrun
    simp only [List.foldl_nil, RunsAtMost]
    omega
  | cons c cs ih =>
    intro run longest hrun
    by_cases hc : c = q
    · have hlead := fun h : RunsAtMost q bound (run + 1) cs => h.length_takeWhile
      simp only [List.foldl_cons, hc, if_true, RunsAtMost, ih _ _ (Nat.le_max_left ..)]
      refine ⟨fun h => ⟨by omega, h.2⟩, fun h => ⟨?_, h.2⟩⟩
      have := hlead h.2
      omega
    · simp only [List.foldl_cons, hc, if_false, RunsAtMost, ih _ _ (Nat.zero_le _)]
      exact ⟨fun h => ⟨h.1, by omega, h.2⟩, fun h => ⟨h.1, h.2.2⟩⟩

end Runs

/-- A block between single quotes shows its text. -/
theorem literal?_block {rest : List Char} (hrest : rest.head? ≠ some '\'') {run : Nat}
    {cs : List Char} (hcs : ∀ c ∈ cs, isPlain c = true ∨ c = '\n')
    (hruns : RunsAtMost '\'' 2 run cs) :
    literal? true (cs ++ Form.delimiter ⟨false, true⟩ ++ rest) = some (cs, rest) := by
  induction cs generalizing run with
  | nil =>
    have hclose := closing?_replicate (f := ⟨false, true⟩) rfl (Nat.zero_le 2) hrest
    simp only [Form.quote, Bool.false_eq_true, if_false, List.replicate, List.cons_append,
      List.nil_append] at hclose
    simp [Form.delimiter, Form.quote, List.replicate, literal?, hclose]
  | cons c cs ih =>
    simp only [List.forall_mem_cons] at hcs
    unfold RunsAtMost at hruns
    split_ifs at hruns with hc
    · have hlead := hruns.length_takeWhile
      have hclose := closing?_append (f := ⟨false, true⟩) rfl cs
        (show (List.takeWhile (· == '\'') _).length ≤ 1 by omega) hrest
      rw [hc, List.cons_append, List.cons_append, literal?] <;> try simp
      rw [← List.append_assoc, hclose]
      by_cases hall : cs.all (· == '\'') = true
      · simp [Form.quote, hall]
      · simp only [Form.quote, Bool.false_eq_true, if_false, hall]
        rw [ih hcs.2 hruns]
        rfl
    · rw [List.cons_append, List.cons_append, literal?_plain true (by simpa using hcs.1) hc,
        ih hcs.2 hruns.2]
      rfl

/-! ## The form of a text -/

/-- Whether a form can show a text. Between double quotes anything can be shown. -/
structure Form.Shows (f : Form) (cs : List Char) : Prop where
  /-- Between single quotes every character stands for itself. -/
  plain : f.escapes = false → ∀ c ∈ cs, isPlain c = true ∨ (f.block = true ∧ c = '\n')
  /-- Within a line, the first single quote ends the string. -/
  quote : f.escapes = false → f.block = false → '\'' ∉ cs
  /-- In a block, the third in a row does. -/
  quotes : f.escapes = false → f.block = true → RunsAtMost '\'' 2 0 cs

theorem shows_of_escapes {f : Form} (hf : f.escapes = true) (cs : List Char) : f.Shows cs :=
  ⟨by simp [hf], by simp [hf], by simp [hf]⟩

/-- The writer picks a form that can show the text. -/
theorem shows_formOf (cs : List Char) : (formOf cs).Shows cs := by
  have hplain : cs.any isHidden = false → ∀ c ∈ cs, isPlain c = true ∨ c = '\n' := by
    intro h c hc
    have := List.any_eq_false.mp h c hc
    simp [isHidden] at this
    by_cases hn : c = '\n' <;> simp_all
  unfold formOf
  simp only
  split_ifs with h1 h2 h3 h4
  · exact shows_of_escapes rfl cs
  · simp only [Bool.and_eq_true, Bool.not_eq_true', decide_eq_true_eq, List.contains_eq_mem,
      decide_eq_false_iff_not] at h2
    refine ⟨fun _ c hc => ?_, fun _ _ => ?_, by simp⟩
    · rcases hplain h2.1.1 c hc with h | rfl
      · exact .inl h
      · exact absurd hc h2.1.2
    · exact (longestRun_le_iff.mp (Nat.le_of_eq h2.2)).not_mem
  · exact shows_of_escapes rfl cs
  · simp only [Bool.and_eq_true, Bool.not_eq_true', decide_eq_true_eq] at h4
    exact ⟨fun _ c hc => by simpa using hplain h4.1 c hc, by simp,
      fun _ _ => longestRun_le_iff.mp h4.2⟩
  · exact shows_of_escapes rfl cs

/-- A text as it stands between the quotes of a form. -/
def Form.inside (f : Form) (cs : List Char) : List Char :=
  if f.escapes then escapeAll f.block 0 cs else cs

/-- What stands between the quotes is read as the text. -/
theorem body?_inside {f : Form} {cs rest : List Char} (hf : f.Shows cs)
    (hrest : rest.head? ≠ some f.quote) :
    body? f (f.inside cs ++ f.delimiter ++ rest) = some (cs, rest) := by
  obtain ⟨escapes, block⟩ := f
  cases escapes with
  | true =>
    cases block with
    | true => exact basic?_block hrest (Nat.zero_le 2) cs
    | false => simpa [body?, Form.inside, Form.delimiter, Form.quote] using basic?_line cs rest
  | false =>
    cases block with
    | true =>
      have hplain : ∀ c ∈ cs, isPlain c = true ∨ c = '\n' := by simpa using hf.plain rfl
      exact literal?_block hrest hplain (hf.quotes rfl rfl)
    | false =>
      have hplain : ∀ c ∈ cs, isPlain c = true := by simpa using hf.plain rfl
      simpa [body?, Form.inside, Form.delimiter, Form.quote] using
        literal?_line hplain (hf.quote rfl rfl) rest

/-! ## The opening -/

/-- What stands first between the quotes. It ends a line only if the text starts with a line
ending, and within a line it is not the quote. -/
theorem inside_cons {f : Form} {c : Char} {cs : List Char} (hf : f.Shows (c :: cs)) :
    ∃ d ds, f.inside (c :: cs) = d :: ds ∧ d ≠ '\r' ∧ (d = '\n' → c = '\n') ∧
      (f.block = false → d ≠ f.quote) := by
  unfold Form.inside
  split_ifs with hescapes
  · unfold escapeAll
    split_ifs with hc hfew
    · exact ⟨_, _, rfl, by simp [hc], by simp [hc], by simp [hfew.1]⟩
    · exact ⟨_, _, rfl, by simp [Form.quote, hescapes]⟩
    · obtain ⟨d, ds, hescape, hd, hreturn, hline⟩ := escape_eq_cons f.block hc
      exact ⟨d, _, by rw [hescape, List.cons_append], hreturn, hline,
        fun _ => by simpa [Form.quote, hescapes] using hd⟩
  · have hescapes : f.escapes = false := by simpa using hescapes
    have hreturn : c ≠ '\r' := by
      rintro rfl
      simpa [isPlain] using hf.plain hescapes _ (List.mem_cons_self ..)
    have hquote : f.block = false → c ≠ '\'' := fun hblock =>
      Ne.symm (List.ne_of_not_mem_cons (hf.quote hescapes hblock))
    exact ⟨c, cs, rfl, hreturn, id, by simpa [Form.quote, hescapes] using hquote⟩

/-- One quote opens a line, unless it is the first of three. -/
theorem opening?_line {f : Form} (hf : f.block = false) {cs : List Char}
    (hcs : ∀ ds, cs ≠ f.quote :: f.quote :: ds) :
    opening? (f.delimiter ++ cs) = some (f, cs) := by
  obtain ⟨escapes, block⟩ := f
  subst hf
  cases escapes <;>
  · simp only [Form.delimiter, Form.quote] at hcs ⊢
    rw [opening?.eq_def]
    split <;> simp_all

/-- Three quotes open a block. -/
theorem opening?_block {f : Form} (hf : f.block = true) (cs : List Char) :
    opening? (f.delimiter ++ cs) = some (f, skipNewline cs) := by
  obtain ⟨escapes, block⟩ := f
  subst hf
  cases escapes <;> rfl

/-- In a block, what stands after the quotes ends no line if the text has no lines. -/
theorem newline?_inside {f : Form} {cs : List Char} (hf : f.Shows cs) (hblock : f.block = true)
    (hlines : '\n' ∉ cs) (rest : List Char) :
    newline? (f.inside cs ++ f.delimiter ++ rest) = none := by
  cases cs with
  | nil =>
    have hquote : f.quote ≠ '\n' ∧ f.quote ≠ '\r' := by
      unfold Form.quote
      split_ifs <;> decide
    simp [Form.inside, escapeAll, delimiter_block hblock, List.replicate, newline?, hquote]
  | cons c cs =>
    obtain ⟨d, ds, hinside, hreturn, hline, -⟩ := inside_cons hf
    have hd : d ≠ '\n' := fun h => hlines (by simp [hline h])
    simp [hinside, newline?, hreturn, hd]

/-- The opening that the writer puts in front of a text is read as that. -/
theorem opening?_inside {f : Form} {cs rest : List Char} (hf : f.Shows cs)
    (hrest : rest.head? ≠ some f.quote) :
    opening? (f.delimiter ++ ((if f.block ∧ '\n' ∈ cs then ['\n'] else []) ++
      (f.inside cs ++ f.delimiter ++ rest))) = some (f, f.inside cs ++ f.delimiter ++ rest) := by
  cases hblock : f.block with
  | false =>
    simp only [Bool.false_eq_true, false_and, if_false, List.nil_append]
    refine opening?_line hblock fun ds hds => ?_
    cases cs with
    | nil =>
      simp [Form.inside, escapeAll, delimiter_line hblock] at hds
      simp [hds] at hrest
    | cons c cs =>
      obtain ⟨d, ds', hinside, -, -, hd⟩ := inside_cons hf
      rw [hinside] at hds
      exact hd hblock (List.cons.inj hds).1
  | true =>
    rw [opening?_block hblock]
    split_ifs with hlines
    · rfl
    · have hnone := newline?_inside hf hblock (fun h => hlines ⟨rfl, h⟩) rest
      rw [List.nil_append, skipNewline, hnone, Option.getD_none]

/-- A string is read as the text it was written for. -/
theorem string?_quoted (s : String) (rest : List Char)
    (hdouble : rest.head? ≠ some '"') (hsingle : rest.head? ≠ some '\'') :
    string? (quoted s ++ rest) = some (s, rest) := by
  have hshows := shows_formOf s.toList
  have hrest : rest.head? ≠ some (formOf s.toList).quote := by
    unfold Form.quote
    split_ifs <;> assumption
  have hquoted : quoted s ++ rest = (formOf s.toList).delimiter ++
      ((if (formOf s.toList).block ∧ '\n' ∈ s.toList then ['\n'] else []) ++
        ((formOf s.toList).inside s.toList ++ (formOf s.toList).delimiter ++ rest)) := by
    simp [quoted, Form.inside]
  rw [string?, hquoted, opening?_inside hshows hrest]
  simp [-List.append_assoc, body?_inside hshows hrest]

end VizSession.Toml
