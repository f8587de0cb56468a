import VizSession.Config.Forms
import VizSession.Proofs.TomlStrings

/-!
# TOML documents of single lines

A document whose lines each hold a bare name, an equals sign and a value describes the table of
these names and values (`parse?_lines`), if no name stands in two of them.

The reader takes a line at a time. It has to see that the line is not blank and no header, read
the name up to the blank after it, then the value, and find the end of the line there. What makes
this work is part of an entry (`Entry`) : the name holds nothing but bare characters, and the value
is taken from its text in front of any line ending (`Scans`). A string and a truth value are
(`scans_quoted`, `scans_flag`).
-/

namespace VizSession.Toml

open OrderedMap (lookup? mem_map_fst_iff)

/-- The value is read from the text, which ends its line and starts with no blank. -/
structure Scans (t : List Char) (v : Node) : Prop where
  /-- The reader takes the value and leaves the end of the line. -/
  value?_eq : ∀ bound levels rest,
    value? (bound + 1) levels (t ++ '\n' :: rest) = some (v, '\n' :: rest)
  /-- Nothing of the text is skipped. -/
  skipSpace_eq : ∀ rest, skipSpace (t ++ '\n' :: rest) = t ++ '\n' :: rest

/-- An entry of a document : its name, the text of its value, and the value. -/
structure Entry where
  /-- The name. -/
  name : String
  /-- The value as it stands in the document. -/
  chars : List Char
  /-- The value. -/
  value : Node
  /-- The name is not empty. -/
  name_ne : name.toList ≠ []
  /-- The name needs no quotes. -/
  bare : ∀ c ∈ name.toList, isBare c = true
  /-- The value is read from its text. -/
  scans : Scans chars value

namespace Entry

/-- The line of an entry. -/
def line (e : Entry) : List Char := Config.tomlLine e.name e.chars

/-- What the table of the document holds of an entry. -/
def member (e : Entry) : String × Node := (e.name, e.value)

/-- What the line of an entry says. -/
def pair (e : Entry) : Line := .pair ⟨[], e.name⟩ e.value

end Entry

/-! ## Values -/

theorem scans_flag (b : Bool) : Scans (Config.flagChars b) (.bool b) := by
  cases b <;> exact ⟨fun _ _ _ => rfl, fun _ => rfl⟩

/-- What starts with a quote is read as a string. -/
theorem value?_string {c : Char} (hc : c = '"' ∨ c = '\'') {cs rest : List Char} {s : String}
    (h : string? (c :: cs) = some (s, rest)) (bound levels : Nat) :
    value? (bound + 1) levels (c :: cs) = some (.text s, rest) := by
  have hopening : (opening? (c :: cs)).isSome := by
    unfold string? at h
    cases hopening : opening? (c :: cs) with
    | none => simp [hopening] at h
    | some _ => rfl
  obtain ⟨r, hr⟩ := Option.isSome_iff_exists.mp hopening
  rcases hc with rfl | rfl <;> simp [value?, hr, h]

theorem quoted_eq_cons (s : String) : ∃ c cs, quoted s = c :: cs ∧ (c = '"' ∨ c = '\'') := by
  have hquote : ∀ f : Form, f.quote = '"' ∨ f.quote = '\'' := by
    intro f
    unfold Form.quote
    split_ifs <;> simp
  have hdelimiter : ∀ f : Form, ∃ qs, f.delimiter = f.quote :: qs := by
    intro f
    unfold Form.delimiter
    split_ifs <;> exact ⟨_, rfl⟩
  obtain ⟨qs, hqs⟩ := hdelimiter (formOf s.toList)
  simp only [quoted, hqs, List.cons_append]
  exact ⟨_, _, rfl, hquote _⟩

theorem scans_quoted (s : String) : Scans (quoted s) (.text s) := by
  obtain ⟨c, cs, hquoted, hc⟩ := quoted_eq_cons s
  refine ⟨fun bound levels rest => ?_, fun rest => ?_⟩
  · have hstring := string?_quoted s ('\n' :: rest) (by simp) (by simp)
    rw [hquoted] at hstring ⊢
    exact value?_string hc hstring bound levels
  · rw [hquoted, List.cons_append, skipSpace, List.dropWhile_cons_of_neg]
    rcases hc with rfl | rfl <;> decide

/-! ## Lines -/

/-- A bare character is none of those that mean something else at the start of a line. -/
theorem ne_of_isBare {c d : Char} (hc : isBare c = true) (hd : isBare d = false) : c ≠ d := by
  rintro rfl
  simp [hc] at hd

theorem skipSpace_of_isBare {c : Char} (hc : isBare c = true) (cs : List Char) :
    skipSpace (c :: cs) = c :: cs := by
  have hspace : isSpace c = false := by
    simp [isSpace, ne_of_isBare hc (d := ' ') (by decide), ne_of_isBare hc (d := '\t') (by decide)]
  exact List.dropWhile_cons_of_neg (by simp [hspace])

/-- A bare name is read up to what cannot belong to it. -/
theorem key?_bare (e : Entry) (rest : List Char)
    (hrest : ∀ c, rest.head? = some c → isBare c = false) :
    key? (e.name.toList ++ rest) = some (e.name, rest) := by
  have hstop : rest.takeWhile isBare = [] ∧ rest.dropWhile isBare = rest := by
    cases rest with
    | nil => simp
    | cons c cs => simp [hrest c rfl]
  have htake : (e.name.toList ++ rest).takeWhile isBare = e.name.toList := by
    rw [List.takeWhile_append_of_pos e.bare, hstop.1, List.append_nil]
  have hdrop : (e.name.toList ++ rest).dropWhile isBare = rest := by
    rw [List.dropWhile_append_of_pos e.bare, hstop.2]
  obtain ⟨c, cs, hname⟩ := List.exists_cons_of_ne_nil e.name_ne
  have hc : isBare c = true := e.bare c (by simp [hname])
  have hdouble := ne_of_isBare hc (d := '"') (by decide)
  have hsingle := ne_of_isBare hc (d := '\'') (by decide)
  rw [hname, List.cons_append] at htake hdrop ⊢
  rw [key?, htake, hdrop, ← hname]
  · simp [e.name_ne]
  · exact fun _ h => absurd (List.cons.inj h).1 hdouble
  · exact fun _ h => absurd (List.cons.inj h).1 hsingle

section Lines

variable (e : Entry) (rest : List Char)

theorem line_append : e.line ++ rest =
    e.name.toList ++ (' ' :: '=' :: ' ' :: (e.chars ++ '\n' :: rest)) := by
  simp [Entry.line, Config.tomlLine]

/-- The line of an entry starts with a bare character. -/
theorem line_eq_cons : ∃ c cs, e.line ++ rest = c :: cs ∧ isBare c = true := by
  obtain ⟨c, cs, hname⟩ := List.exists_cons_of_ne_nil e.name_ne
  rw [line_append, hname, List.cons_append]
  exact ⟨c, _, rfl, e.bare c (by simp [hname])⟩

theorem path?_line : path? (e.line ++ rest) =
    some (⟨[], e.name⟩, '=' :: ' ' :: (e.chars ++ '\n' :: rest)) := by
  obtain ⟨c, cs, hline, hc⟩ := line_eq_cons e rest
  have hkey := key?_bare e (' ' :: '=' :: ' ' :: (e.chars ++ '\n' :: rest)) (by simp; decide)
  rw [← line_append] at hkey
  have hskip : skipSpace (e.line ++ rest) = e.line ++ rest := by
    rw [hline, skipSpace_of_isBare hc]
  have hblank : ∀ cs, skipSpace (' ' :: '=' :: cs) = '=' :: cs := fun _ => rfl
  unfold path? pathLimit
  rw [keys?, hskip, hkey]
  simp [hblank, Path.ofKeys]

/-- The line of an entry is read as what it says. -/
theorem line?_line : line? (e.line ++ rest) = some (e.pair, '\n' :: rest) := by
  obtain ⟨c, cs, hline, hc⟩ := line_eq_cons e rest
  have hpair : pair? (e.line ++ rest) = some (e.pair, '\n' :: rest) := by
    have hblank : skipSpace (' ' :: (e.chars ++ '\n' :: rest)) = e.chars ++ '\n' :: rest :=
      e.scans.skipSpace_eq rest
    simp [pair?, path?_line, hblank, e.scans.value?_eq, Entry.pair]
  have hbracket := ne_of_isBare hc (d := '[') (by decide)
  rw [hline] at hpair ⊢
  rw [line?, skipSpace_of_isBare hc, ← hpair]
  split
  · rename_i heq
    exact absurd (List.cons.inj heq).1 hbracket
  · rfl

/-- The line of an entry is not blank. -/
theorem endOfLine?_line : endOfLine? (e.line ++ rest) = none := by
  obtain ⟨c, cs, hline, hc⟩ := line_eq_cons e rest
  have hhash := ne_of_isBare hc (d := '#') (by decide)
  have hfeed := ne_of_isBare hc (d := '\n') (by decide)
  have hreturn := ne_of_isBare hc (d := '\r') (by decide)
  have hcomment : skipComment (c :: cs) = c :: cs := by
    rw [skipComment]
    exact fun _ h => absurd (List.cons.inj h).1 hhash
  rw [hline, endOfLine?, skipSpace_of_isBare hc, hcomment]
  simp [newline?, hfeed, hreturn]

end Lines

/-! ## Documents -/

theorem lines?_flatMap (es : List Entry) {bound : Nat} (hbound : es.length < bound) :
    lines? bound (es.flatMap Entry.line) = some (es.map Entry.pair) := by
  induction es generalizing bound with
  | nil =>
    obtain ⟨bound, rfl⟩ : ∃ b, bound = b + 1 := ⟨bound - 1, by omega⟩
    rfl
  | cons e es ih =>
    obtain ⟨bound, rfl⟩ : ∃ b, bound = b + 1 := ⟨bound - 1, by omega⟩
    rw [List.length_cons] at hbound
    obtain ⟨c, cs, hline, -⟩ := line_eq_cons e (es.flatMap Entry.line)
    have hne : e.line ++ es.flatMap Entry.line ≠ [] := by simp [hline]
    have hend : ∀ rest, endOfLine? ('\n' :: rest) = some rest := fun _ => rfl
    rw [List.flatMap_cons, lines?, if_neg hne]
    simp [endOfLine?_line, line?_line, hend, ih (show es.length < bound by omega)]

theorem ofLines_map_pair (es : List Entry) :
    Document.ofLines (es.map Entry.pair) = ⟨es.map fun e => (⟨[], e.name⟩, e.value), []⟩ := by
  induction es with
  | nil => rfl
  | cons e es ih => simp [Document.ofLines, Entry.pair, ih]

/-- Values under new names are added at the end. -/
theorem fill?_of_nodup (t : Table) (es : List Entry)
    (h : (t.map Prod.fst ++ es.map Entry.name).Nodup) :
    fill? t (es.map fun e => (⟨[], e.name⟩, e.value)) = some (t ++ es.map Entry.member) := by
  induction es generalizing t with
  | nil => simp [fill?]
  | cons e es ih =>
    have hnew : e.name ∉ t.map Prod.fst := by
      intro hmem
      exact (List.nodup_append.mp h).2.2 e.name hmem e.name (by simp) rfl
    have hnone : lookup? e.name t = none := by
      simpa using mt (mem_map_fst_iff e.name t).mpr hnew
    have hrest := ih (t ++ [e.member]) (by simpa [Entry.member] using h)
    unfold fill? at hrest ⊢
    rw [List.map_cons, List.foldlM_cons]
    simpa [insert?, hnone, Entry.member] using hrest

theorem skipMark_flatMap (es : List Entry) :
    skipMark (es.flatMap Entry.line) = es.flatMap Entry.line := by
  cases es with
  | nil => rfl
  | cons e es =>
    obtain ⟨c, cs, hline, hc⟩ := line_eq_cons e (es.flatMap Entry.line)
    have hmark := ne_of_isBare hc (d := '\ufeff') (by decide)
    rw [List.flatMap_cons, hline, skipMark]
    exact fun _ h => absurd (List.cons.inj h).1 hmark

theorem length_le_length_flatMap (es : List Entry) :
    es.length ≤ (es.flatMap Entry.line).length := by
  induction es with
  | nil => simp
  | cons e es ih =>
    obtain ⟨c, cs, hline, -⟩ := line_eq_cons e []
    have hpos : 0 < e.line.length := List.length_pos_iff.mpr fun h => by simp [h] at hline
    rw [List.flatMap_cons, List.length_append, List.length_cons]
    omega

/-- A document of single lines describes the table of their names and values. -/
theorem parse?_lines {es : List Entry} (h : (es.map Entry.name).Nodup) :
    parse? (String.ofList (es.flatMap Entry.line)) = some (es.map Entry.member) := by
  have hlength := length_le_length_flatMap es
  have hlines := lines?_flatMap es (show es.length < (es.flatMap Entry.line).length + 1 by omega)
  have hfill := fill?_of_nodup [] es (by simpa using h)
  unfold parse?
  simp only [String.toList_ofList, skipMark_flatMap, hlines]
  simp [ofLines_map_pair, Document.table?, hfill]

end VizSession.Toml
