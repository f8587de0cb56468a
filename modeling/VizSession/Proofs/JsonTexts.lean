import VizSession.Proofs.JsonNumerals
import Mathlib.Data.List.DropRight

/-!
# JSON values and their texts

A value is read back from its text (`Plain.parse?_compact`) if it is made of well-formed numerals
and of literals that stand for texts (`Plain`).

The proof goes along the reader, which takes a value from the front of a text and gives what is
left. `Reads t v` says that the reader takes `v` from `t` whatever follows, as long as that does
not go on with a numeral, within a bound of twice the length of `t`. Literals are read from their
texts (`reads_text`, `reads_number`), and so are arrays and objects, if their items and the values
of their members are (`reads_array`, `reads_record`). Blanks in front of items and members, and
before the closing bracket, make no difference (`items?_joined`, `members?_joined`), which is all
that a text over several lines adds to one without blanks (`Plain.parse?_pretty`).
-/

namespace VizSession.Json

open Text

/-! ## String literals -/

/-- The characters with an escape of one letter. -/
def hasShortEscape (c : Char) : Bool :=
  c ∈ ['"', '\\', '\x08', '\x0c', '\n', '\r', '\t']

/-- How a character of a literal is read : a control character without an escape of one letter
comes as a number. -/
def piece (c : Char) : Piece :=
  if hasShortEscape c = false ∧ c.toNat < 0x20 then .unit c.toNat else .char c

theorem pieces?_short {c : Char} (hc : hasShortEscape c = true) (cs : List Char) :
    pieces? (escape c ++ cs) = pushPiece (.char c) (pieces? cs) := by
  have hcases : c = '"' ∨ c = '\\' ∨ c = '\x08' ∨ c = '\x0c' ∨ c = '\n' ∨ c = '\r' ∨ c = '\t' := by
    simpa [hasShortEscape] using hc
  rcases hcases with rfl | rfl | rfl | rfl | rfl | rfl | rfl <;> rfl

theorem escape_of_not_short {c : Char} (hc : hasShortEscape c = false) :
    escape c = if c.toNat < 0x20 then
      ['\\', 'u', '0', '0', (c.toNat / 16).digitChar, (c.toNat % 16).digitChar] else [c] := by
  simp only [hasShortEscape, List.mem_cons, List.not_mem_nil, or_false, decide_eq_false_iff_not,
    not_or] at hc
  unfold escape
  simp [hc]

theorem pieces?_control {n : Nat} (hn : n < 0x20) (cs : List Char) :
    pieces? ('\\' :: 'u' :: '0' :: '0' :: (n / 16).digitChar :: (n % 16).digitChar :: cs) =
      pushPiece (.unit n) (pieces? cs) := by
  have hhex : hex4? '0' '0' (n / 16).digitChar (n % 16).digitChar = some n := by
    have hzero : hexValue? '0' = some 0 := by decide
    have hsum : (0 * 16 + 0) * 256 + (n / 16 * 16 + n % 16) = n := by omega
    unfold hex4?
    rw [hexValue?_digitChar (by omega), hexValue?_digitChar (by omega), hzero]
    exact congrArg some hsum
  rw [pieces?, hhex]

theorem pieces?_plain {c : Char} (hc : hasShortEscape c = false) (hcontrol : ¬c.toNat < 0x20)
    (cs : List Char) : pieces? (c :: cs) = pushPiece (.char c) (pieces? cs) := by
  have hquote : c ≠ '"' := by
    rintro rfl
    exact absurd hc (by decide)
  have hslash : c ≠ '\\' := by
    rintro rfl
    exact absurd hc (by decide)
  rw [pieces?, if_neg (not_or.mpr ⟨hcontrol, hslash⟩)]
  · exact hquote
  · exact fun _ _ _ _ _ h _ => hslash h
  · exact fun _ _ h _ => hslash h

theorem pieces?_escape (c : Char) (cs : List Char) :
    pieces? (escape c ++ cs) = pushPiece (piece c) (pieces? cs) := by
  unfold piece
  cases hc : hasShortEscape c with
  | true => exact pieces?_short hc cs
  | false =>
    rw [escape_of_not_short hc]
    by_cases hcontrol : c.toNat < 0x20
    · rw [if_pos hcontrol, if_pos ⟨rfl, hcontrol⟩]
      exact pieces?_control hcontrol cs
    · rw [if_neg hcontrol, if_neg fun h => hcontrol h.2]
      exact pieces?_plain hc hcontrol cs

theorem pieces?_quoted (cs rest : List Char) :
    pieces? (cs.flatMap escape ++ '"' :: rest) = some (cs.map piece, rest) := by
  induction cs with
  | nil => rfl
  | cons c cs ih =>
    rw [List.flatMap_cons, List.append_assoc, pieces?_escape, ih]
    rfl

/-- A number that belongs to no surrogate stands for its character. -/
theorem textOf?_unit {n : Nat} (hhigh : isHighSurrogate n = false)
    (hlow : isLowSurrogate n = false) (ps : List Piece) :
    textOf? (.unit n :: ps) = (textOf? ps).map (.ofNat n :: ·) := by
  cases ps with
  | nil => simp [textOf?, hhigh, hlow]
  | cons p ps => cases p <;> simp [textOf?, hhigh, hlow]

theorem textOf?_piece (c : Char) (ps : List Piece) :
    textOf? (piece c :: ps) = (textOf? ps).map (c :: ·) := by
  unfold piece
  split
  · rename_i hcontrol
    have hhigh : isHighSurrogate c.toNat = false := by
      simp [isHighSurrogate]
      omega
    have hlow : isLowSurrogate c.toNat = false := by
      simp [isLowSurrogate]
      omega
    rw [textOf?_unit hhigh hlow, Char.ofNat_toNat]
  · rfl

theorem textOf?_map_piece (cs : List Char) : textOf? (cs.map piece) = some cs := by
  induction cs with
  | nil => rfl
  | cons c cs ih =>
    rw [List.map_cons, textOf?_piece, ih]
    rfl

/-- A quoted text is read as the text. -/
theorem string?_quoted (s : String) (rest : List Char) :
    string? (s.toList.flatMap escape ++ '"' :: rest) = some (some s, rest) := by
  unfold string?
  rw [pieces?_quoted, Option.map_some, textOf?_map_piece, Option.map_some, String.ofList_toList]

/-! ## Blanks -/

/-- A run of blanks. -/
def Blank (ws : List Char) : Prop := ∀ c ∈ ws, isSpace c = true

theorem blank_nil : Blank [] := fun _ h => absurd h List.not_mem_nil

theorem skipSpace_append {ws : List Char} (hws : Blank ws) (cs : List Char) :
    skipSpace (ws ++ cs) = skipSpace cs :=
  List.dropWhile_append_of_pos hws

theorem skipSpace_cons {c : Char} (hc : isSpace c = false) (cs : List Char) :
    skipSpace (c :: cs) = c :: cs :=
  List.dropWhile_cons_of_neg (by simp [hc])

theorem skipSpace_skipSpace (cs : List Char) : skipSpace (skipSpace cs) = skipSpace cs :=
  List.dropWhile_idempotent _ _

theorem value?_skipSpace (bound : Nat) (cs : List Char) :
    value? bound (skipSpace cs) = value? bound cs := by
  cases bound with
  | zero => rfl
  | succ bound => rw [value?, value?, skipSpace_skipSpace]

theorem items?_skipSpace (bound : Nat) (cs : List Char) :
    items? bound (skipSpace cs) = items? bound cs := by
  cases bound with
  | zero => rfl
  | succ bound => rw [items?, items?, value?_skipSpace]

theorem members?_skipSpace (bound : Nat) (cs : List Char) :
    members? bound (skipSpace cs) = members? bound cs := by
  cases bound with
  | zero => rfl
  | succ bound => rw [members?, members?, skipSpace_skipSpace]

theorem ends_cons {c : Char} {cs : List Char}
    (hc : c.isDigit = false ∧ c ≠ '.' ∧ c ≠ 'e' ∧ c ≠ 'E') : Ends (c :: cs) := by
  intro c' hc'
  obtain rfl := Option.some.inj hc'
  exact hc

theorem ends_append {ws cs : List Char} (hws : Blank ws) (hcs : Ends cs) : Ends (ws ++ cs) := by
  cases ws with
  | nil => exact hcs
  | cons w ws =>
    have hw : w = ' ' ∨ w = '\t' ∨ w = '\n' ∨ w = '\r' := by
      simpa [isSpace, or_assoc] using hws w (List.mem_cons_self ..)
    rw [List.cons_append]
    rcases hw with rfl | rfl | rfl | rfl <;> exact ends_cons (by decide)

/-! ## Values -/

/-- The value is read from the text, whatever follows, as long as that does not go on with a
numeral. -/
def Reads (t : List Char) (v : Json) : Prop :=
  ∀ bound rest, 2 * t.length ≤ bound → Ends rest → value? bound (t ++ rest) = some (v, rest)

theorem Reads.of_succ {t : List Char} {v : Json} (ht : t ≠ [])
    (h : ∀ bound rest, 2 * t.length ≤ bound + 1 → Ends rest →
      value? (bound + 1) (t ++ rest) = some (v, rest)) : Reads t v := by
  intro bound rest hbound hrest
  have hpos : 0 < t.length := List.length_pos_of_ne_nil ht
  obtain ⟨bound, rfl⟩ : ∃ b, bound = b + 1 := ⟨bound - 1, by omega⟩
  exact h bound rest hbound hrest

/-- Blanks in front of a text do not matter. -/
theorem Reads.blank {t ws : List Char} {v : Json} (h : Reads t v) (hws : Blank ws) :
    Reads (ws ++ t) v := by
  intro bound rest hbound hrest
  rw [List.length_append] at hbound
  rw [List.append_assoc, ← value?_skipSpace, skipSpace_append hws, value?_skipSpace]
  exact h bound rest (by omega) hrest

theorem reads_null : Reads "null".toList .null :=
  .of_succ (by decide) fun _ _ _ _ => rfl

theorem reads_bool (b : Bool) : Reads (chars (.bool b)) (.bool b) := by
  cases b <;> exact .of_succ (by decide) fun _ _ _ _ => rfl

theorem reads_text (s : String) : Reads (quote s) (text s) := by
  refine .of_succ (List.cons_ne_nil _ _) fun bound rest _ _ => ?_
  have hstring := string?_quoted s rest
  have htext : quote s ++ rest = '"' :: (s.toList.flatMap escape ++ '"' :: rest) := by
    simp [quote]
  rw [htext]
  show (string? (s.toList.flatMap escape ++ '"' :: rest)).map (fun r => (Json.string r.1, r.2)) = _
  rw [hstring]
  rfl

/-- What starts like a numeral is read as one. -/
theorem value?_numeral {c : Char} (hc : c = '-' ∨ c.isDigit = true) (bound : Nat)
    (cs : List Char) :
    value? (bound + 1) (c :: cs) = (numeral? (c :: cs)).map fun r => (.number r.1, r.2) := by
  have hother : ∀ d, ¬(d = '-' ∨ d.isDigit = true) → c ≠ d := by
    rintro d hd rfl
    exact hd hc
  have hspace : isSpace c = false := by
    simp [isSpace, hother ' ' (by decide), hother '\t' (by decide), hother '\n' (by decide),
      hother '\r' (by decide)]
  rw [value?, skipSpace_cons hspace]
  split
  all_goals try
    rename_i heq
    obtain ⟨rfl, -⟩ := List.cons.inj heq
    exact absurd hc (by decide)
  rfl

theorem numeralChars_cons {n : Numeral} (hn : n.WellFormed) :
    ∃ c cs, numeralChars n = c :: cs ∧ (c = '-' ∨ c.isDigit = true) := by
  obtain ⟨d, ds, hds⟩ := List.exists_cons_of_ne_nil hn.whole_ne_nil
  have hd : d.isDigit = true := hn.whole d (by rw [hds]; exact List.mem_cons_self ..)
  unfold numeralChars
  cases n.negative with
  | true => exact ⟨_, _, rfl, Or.inl rfl⟩
  | false =>
    rw [hds]
    exact ⟨_, _, rfl, Or.inr hd⟩

theorem reads_number {n : Numeral} (hn : n.WellFormed) : Reads (numeralChars n) (.number n) := by
  obtain ⟨c, cs, hchars, hc⟩ := numeralChars_cons hn
  refine .of_succ (by rw [hchars]; exact List.cons_ne_nil _ _) fun bound rest _ hrest => ?_
  have hread := numeral?_numeralChars hn hrest
  rw [hchars, List.cons_append] at hread ⊢
  rw [value?_numeral hc, hread]
  rfl

/-! ## Arrays and objects -/

theorem value?_closing {c : Char} (hc : c = ']' ∨ c = '}') (bound : Nat) {cs cs' : List Char}
    (hcs : skipSpace cs = c :: cs') : value? bound cs = none := by
  cases bound with
  | zero => rfl
  | succ bound =>
    rw [value?, hcs]
    rcases hc with rfl | rfl <;> rfl

/-- An array that does not end at once has items. -/
theorem value?_array {bound : Nat} {cs : List Char} {vs : List Json} {rest : List Char}
    (h : items? bound cs = some (vs, rest)) :
    value? (bound + 1) ('[' :: cs) = some (.array vs, rest) := by
  rw [value?]
  simp only [skipSpace_cons (by decide : isSpace '[' = false)]
  split
  · rename_i cs' hcs
    cases bound with
    | zero => cases h
    | succ bound =>
      rw [items?, value?_closing (Or.inl rfl) bound hcs] at h
      cases h
  · rw [items?_skipSpace, h]
    rfl

/-- An object that does not end at once has members. -/
theorem value?_object {bound : Nat} {cs : List Char} {ms : List (Option String × Json)}
    {rest : List Char} (h : members? bound cs = some (ms, rest)) :
    value? (bound + 1) ('{' :: cs) = some (.object ms, rest) := by
  rw [value?]
  simp only [skipSpace_cons (by decide : isSpace '{' = false)]
  split
  · rename_i cs' hcs
    cases bound with
    | zero => cases h
    | succ bound =>
      rw [members?, hcs] at h
      cases h
  · rw [members?_skipSpace, h]
    rfl

section Steps

variable {bound : Nat} {cs cs' rest : List Char} {v : Json}

theorem items?_last (hv : value? bound cs = some (v, cs')) (hclose : skipSpace cs' = ']' :: rest) :
    items? (bound + 1) cs = some ([v], rest) := by
  rw [items?, hv]
  dsimp only
  rw [hclose]
  rfl

theorem items?_more (hv : value? bound cs = some (v, cs')) (hcomma : skipSpace cs' = ',' :: rest) :
    items? (bound + 1) cs = (items? bound rest).map fun r => (v :: r.1, r.2) := by
  rw [items?, hv]
  dsimp only
  rw [hcomma]
  rfl

theorem quote_append (name : String) (cs : List Char) :
    quote name ++ ':' :: cs = '"' :: (name.toList.flatMap escape ++ '"' :: ':' :: cs) := by
  simp [quote]

theorem members?_last (name : String) (hv : value? bound cs = some (v, cs'))
    (hclose : skipSpace cs' = '}' :: rest) :
    members? (bound + 1) (quote name ++ ':' :: cs) = some ([(some name, v)], rest) := by
  have hquote : ∀ cs, skipSpace ('"' :: cs) = '"' :: cs := skipSpace_cons (by decide)
  have hcolon : ∀ cs, skipSpace (':' :: cs) = ':' :: cs := skipSpace_cons (by decide)
  rw [quote_append, members?]
  simp only [hquote, string?_quoted, hcolon, hv, hclose]

theorem members?_more (name : String) (hv : value? bound cs = some (v, cs'))
    (hcomma : skipSpace cs' = ',' :: rest) :
    members? (bound + 1) (quote name ++ ':' :: cs) =
      (members? bound rest).map fun r => ((some name, v) :: r.1, r.2) := by
  have hquote : ∀ cs, skipSpace ('"' :: cs) = '"' :: cs := skipSpace_cons (by decide)
  have hcolon : ∀ cs, skipSpace (':' :: cs) = ':' :: cs := skipSpace_cons (by decide)
  rw [quote_append, members?]
  simp only [hquote, string?_quoted, hcolon, hv, hcomma]

end Steps

section Joined

variable {f : Json → List Char} {ws : List Char}

theorem intercalate_map_cons_cons {α : Type} (g : α → List Char) (a b : α) (as : List α) :
    [','].intercalate ((a :: b :: as).map g) =
      g a ++ ',' :: [','].intercalate ((b :: as).map g) := by
  rw [List.map_cons, List.map_cons, List.intercalate_cons_cons, List.append_assoc,
    List.singleton_append]

/-- Items that are read from their texts are read from the texts joined by commas, up to the
closing bracket. -/
theorem items?_joined (hws : Blank ws) {v : Json} {vs : List Json}
    (h : ∀ u ∈ v :: vs, Reads (f u) u) (bound : Nat) (rest : List Char)
    (hbound : 2 * ([','].intercalate ((v :: vs).map f)).length < bound) :
    items? bound ([','].intercalate ((v :: vs).map f) ++ (ws ++ ']' :: rest)) =
      some (v :: vs, rest) := by
  induction vs generalizing v bound with
  | nil =>
    obtain ⟨bound, rfl⟩ : ∃ b, bound = b + 1 := ⟨bound - 1, by omega⟩
    rw [List.map_singleton, List.intercalate_singleton] at hbound ⊢
    have hread := h v (List.mem_cons_self ..) bound (ws ++ ']' :: rest) (by omega)
      (ends_append hws (ends_cons (by decide)))
    exact items?_last hread (by rw [skipSpace_append hws, skipSpace_cons (by decide)])
  | cons u vs ih =>
    obtain ⟨bound, rfl⟩ : ∃ b, bound = b + 1 := ⟨bound - 1, by omega⟩
    rw [intercalate_map_cons_cons] at hbound ⊢
    rw [List.length_append, List.length_cons] at hbound
    have hrest := ih (fun u hu => h u (List.mem_cons_of_mem _ hu)) bound (by omega)
    rw [List.append_assoc, List.cons_append]
    have hread := h v (List.mem_cons_self ..) bound
      (',' :: ([','].intercalate ((u :: vs).map f) ++ (ws ++ ']' :: rest))) (by omega)
      (ends_cons (by decide))
    rw [items?_more hread (skipSpace_cons (by decide) _), hrest]
    rfl

/-- A member of an object with blanks in front. -/
def member (ws : List Char) (f : Json → List Char) (m : String × Json) : List Char :=
  ws ++ (quote m.1 ++ ':' :: f m.2)

/-- Members whose values are read from their texts are read from the texts joined by commas, up
to the closing brace. -/
theorem members?_joined {pre : List Char} (hpre : Blank pre) (hws : Blank ws)
    {m : String × Json} {ms : List (String × Json)} (h : ∀ u ∈ m :: ms, Reads (f u.2) u.2)
    (bound : Nat) (rest : List Char)
    (hbound : 2 * ([','].intercalate ((m :: ms).map (member pre f))).length < bound) :
    members? bound ([','].intercalate ((m :: ms).map (member pre f)) ++ (ws ++ '}' :: rest)) =
      some ((m :: ms).map fun m => (some m.1, m.2), rest) := by
  have hskip : ∀ bound m rest, members? bound (member pre f m ++ rest) =
      members? bound (quote m.1 ++ ':' :: (f m.2 ++ rest)) := by
    intro bound m rest
    unfold member
    rw [List.append_assoc, ← members?_skipSpace, skipSpace_append hpre, members?_skipSpace,
      List.append_assoc, List.cons_append]
  have hlength : ∀ m, (f m.2).length < (member pre f m).length := by
    intro m
    simp only [member, List.length_append, List.length_cons]
    omega
  induction ms generalizing m bound with
  | nil =>
    obtain ⟨bound, rfl⟩ : ∃ b, bound = b + 1 := ⟨bound - 1, by omega⟩
    rw [List.map_singleton, List.intercalate_singleton] at hbound ⊢
    have hread := h m (List.mem_cons_self ..) bound (ws ++ '}' :: rest)
      (by have := hlength m; omega) (ends_append hws (ends_cons (by decide)))
    rw [hskip]
    exact members?_last m.1 hread (by rw [skipSpace_append hws, skipSpace_cons (by decide)])
  | cons u ms ih =>
    obtain ⟨bound, rfl⟩ : ∃ b, bound = b + 1 := ⟨bound - 1, by omega⟩
    rw [intercalate_map_cons_cons] at hbound ⊢
    rw [List.length_append, List.length_cons] at hbound
    have hrest := ih (fun u hu => h u (List.mem_cons_of_mem _ hu)) bound (by omega)
    have hread := h m (List.mem_cons_self ..) bound
      (',' :: ([','].intercalate ((u :: ms).map (member pre f)) ++ (ws ++ '}' :: rest)))
      (by have := hlength m; omega) (ends_cons (by decide))
    rw [List.append_assoc, List.cons_append, hskip,
      members?_more m.1 hread (skipSpace_cons (by decide) _), hrest]
    rfl

/-- What reads the items of an array reads the array. -/
theorem reads_brackets (hws : Blank ws) {v : Json} {vs : List Json}
    (h : ∀ u ∈ v :: vs, Reads (f u) u) :
    Reads ('[' :: ([','].intercalate ((v :: vs).map f) ++ (ws ++ [']']))) (.array (v :: vs)) := by
  refine .of_succ (List.cons_ne_nil _ _) fun bound rest hbound _ => ?_
  simp only [List.length_cons, List.length_append, List.length_nil] at hbound
  have hitems := items?_joined hws h bound rest (by omega)
  rw [List.cons_append, List.append_assoc, List.append_assoc]
  exact value?_array hitems

/-- What reads the members of an object reads the object. -/
theorem reads_braces {pre : List Char} (hpre : Blank pre) (hws : Blank ws) {m : String × Json}
    {ms : List (String × Json)} (h : ∀ u ∈ m :: ms, Reads (f u.2) u.2) :
    Reads ('{' :: ([','].intercalate ((m :: ms).map (member pre f)) ++ (ws ++ ['}'])))
      (record (m :: ms)) := by
  refine .of_succ (List.cons_ne_nil _ _) fun bound rest hbound _ => ?_
  simp only [List.length_cons, List.length_append, List.length_nil] at hbound
  have hmembers := members?_joined hpre hws h bound rest (by omega)
  rw [List.cons_append, List.append_assoc, List.append_assoc]
  exact value?_object hmembers

end Joined

/-! ## Plain values -/

/-- The value is made of well-formed numerals and of literals that stand for texts, as all values
are that the data model is written as. -/
inductive Plain : Json → Prop where
  | null : Plain .null
  | bool (b : Bool) : Plain (.bool b)
  | number {n : Numeral} (hn : n.WellFormed) : Plain (.number n)
  | text (s : String) : Plain (text s)
  | array {items : List Json} (h : ∀ v ∈ items, Plain v) : Plain (.array items)
  | record {members : List (String × Json)} (h : ∀ m ∈ members, Plain m.2) :
    Plain (record members)

theorem itemChars_eq (vs : List Json) : itemChars vs = vs.map chars := by
  induction vs with
  | nil => rfl
  | cons v vs ih => rw [itemChars, ih, List.map_cons]

theorem memberChars_eq (ms : List (String × Json)) :
    memberChars (ms.map fun m => (some m.1, m.2)) = ms.map (member [] chars) := by
  induction ms with
  | nil => rfl
  | cons m ms ih =>
    rw [List.map_cons, memberChars, ih]
    rfl

theorem reads_array {items : List Json} (h : ∀ v ∈ items, Reads (chars v) v) :
    Reads (chars (.array items)) (.array items) := by
  rw [chars, itemChars_eq]
  cases items with
  | nil => exact .of_succ (List.cons_ne_nil _ _) fun _ _ _ _ => rfl
  | cons v vs => exact reads_brackets blank_nil h

theorem reads_record {members : List (String × Json)} (h : ∀ m ∈ members, Reads (chars m.2) m.2) :
    Reads (chars (record members)) (record members) := by
  unfold record
  rw [chars, memberChars_eq]
  cases members with
  | nil => exact .of_succ (List.cons_ne_nil _ _) fun _ _ _ _ => rfl
  | cons m ms => exact reads_braces blank_nil blank_nil h

/-- A plain value is read from its text. -/
theorem Plain.reads {v : Json} (h : Plain v) : Reads (chars v) v := by
  induction h with
  | null => exact reads_null
  | bool b => exact reads_bool b
  | number hn => exact reads_number hn
  | text s => exact reads_text s
  | array _ ih => exact reads_array ih
  | record _ ih => exact reads_record ih

theorem ofChars?_of_reads {t : List Char} {v : Json} (h : Reads t v) : ofChars? t = some v := by
  have hread := h (2 * t.length + 2) [] (by omega) (fun c hc => by cases hc)
  rw [List.append_nil] at hread
  unfold ofChars?
  rw [hread]
  rfl

/-- What is written of a plain value is parsed as that value. -/
theorem Plain.parse?_compact {v : Json} (h : Plain v) : parse? v.compact = some v := by
  unfold parse? compact
  rw [String.toList_ofList]
  exact ofChars?_of_reads h.reads

/-! ## Over several lines -/

/-- A line ending and what indents the line after it. -/
def lineBreak (level : Nat) : List Char := '\n' :: indentation level

theorem blank_lineBreak (level : Nat) : Blank (lineBreak level) := by
  intro c hc
  have hcases : c = '\n' ∨ c = ' ' := by
    rcases List.mem_cons.mp hc with rfl | hc
    · exact .inl rfl
    · exact .inr (List.eq_of_mem_replicate hc)
  rcases hcases with rfl | rfl <;> decide

/-- A line ending after each comma and one in front are a line ending in front of each part. -/
theorem cons_intercalate (l : List Char) (ls : List (List Char)) :
    '\n' :: [',', '\n'].intercalate (l :: ls) = [','].intercalate ((l :: ls).map ('\n' :: ·)) := by
  induction ls generalizing l with
  | nil => simp
  | cons l' ls ih =>
    rw [List.map_cons, List.map_cons, List.intercalate_cons_cons, List.intercalate_cons_cons,
      ← List.map_cons, ← ih]
    simp

/-- A block of lines, with the line endings drawn to the lines after them. -/
theorem block_eq (opening closing : Char) (level : Nat) (l : List Char) (ls : List (List Char)) :
    block opening closing level (l :: ls) =
      opening :: ([','].intercalate ((l :: ls).map (lineBreak (level + 1) ++ ·)) ++
        (lineBreak level ++ [closing])) := by
  have hlines := cons_intercalate (indentation (level + 1) ++ l)
    (ls.map (indentation (level + 1) ++ ·))
  rw [block, if_neg (List.cons_ne_nil l ls), List.map_cons, ← List.cons_append, hlines]
  simp [lineBreak, Function.comp_def]

theorem prettyItems_eq (level : Nat) (vs : List Json) :
    prettyItems level vs = vs.map (prettyChars level) := by
  induction vs with
  | nil => rfl
  | cons v vs ih => rw [prettyItems, ih, List.map_cons]

/-- A value as it stands after the colon of a member. -/
def afterColon (level : Nat) (v : Json) : List Char := ' ' :: prettyChars level v

theorem prettyMembers_eq (level : Nat) (ms : List (String × Json)) :
    prettyMembers level (ms.map fun m => (some m.1, m.2)) =
      ms.map (member [] (afterColon level)) := by
  induction ms with
  | nil => rfl
  | cons m ms ih =>
    rw [List.map_cons, prettyMembers, ih]
    rfl

/-- A plain value is read from its text over several lines, at any level. -/
theorem Plain.reads_pretty {v : Json} (h : Plain v) (level : Nat) :
    Reads (prettyChars level v) v := by
  induction h generalizing level with
  | null => exact reads_null
  | bool b =>
    cases b with
    | false => exact reads_bool false
    | true => exact reads_bool true
  | number hn => exact reads_number hn
  | text s => exact reads_text s
  | @array items _ ih =>
    rw [prettyChars, prettyItems_eq]
    cases items with
    | nil => exact .of_succ (List.cons_ne_nil _ _) fun _ _ _ _ => rfl
    | cons v vs =>
      have hitems : ∀ u ∈ v :: vs,
          Reads (lineBreak (level + 1) ++ prettyChars (level + 1) u) u :=
        fun u hu => (ih u hu (level + 1)).blank (blank_lineBreak _)
      rw [List.map_cons, block_eq, ← List.map_cons, List.map_map]
      exact reads_brackets (blank_lineBreak level) hitems
  | @record members _ ih =>
    unfold Json.record
    rw [prettyChars, prettyMembers_eq]
    cases members with
    | nil => exact .of_succ (List.cons_ne_nil _ _) fun _ _ _ _ => rfl
    | cons m ms =>
      have hspace : Blank [' '] := by simp [Blank, isSpace]
      have hmembers : ∀ u ∈ m :: ms, Reads (afterColon (level + 1) u.2) u.2 :=
        fun u hu => (ih u hu (level + 1)).blank hspace
      rw [List.map_cons, block_eq, ← List.map_cons, List.map_map]
      exact reads_braces (blank_lineBreak (level + 1)) (blank_lineBreak level) hmembers

/-- What is written of a plain value over several lines is parsed as that value. -/
theorem Plain.parse?_pretty {v : Json} (h : Plain v) : parse? v.pretty = some v := by
  unfold parse? pretty
  rw [String.toList_ofList]
  exact ofChars?_of_reads (h.reads_pretty 0)

end VizSession.Json
