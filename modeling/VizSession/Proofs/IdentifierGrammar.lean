import Mathlib.Computability.RegularExpressions
import VizSession.ExportName

/-!
# The grammar of exported names

A name can be exported if it matches `[A-Za-z_][A-Za-z0-9_]*`, a contributed name is public if it
matches `[A-Za-z][A-Za-z0-9_]*`, and a label gives the identifier that is left of it. The
functions go by the first character and by the first one that does not belong; here they are
measured against the patterns as regular expressions over listed characters.

An expression of this kind matches what has its first character in one list and the others in
another (`mem_startingWith_iff`). The tests on characters are membership in the lists
(`isNameChar_iff`, `isDigit_iff`), so nothing beyond ASCII is let in. With that a text has no fault
exactly if it matches (`faultOf?_eq_none_iff`), and all that is said about labels follows, since
the identifier in a label is a sublist of it that the same test has passed.
-/

namespace VizSession.ExportName

/-! ## Patterns -/

/-- The characters from one to another, both included. -/
def span (first last : Char) : List Char :=
  (List.range' first.toNat (last.toNat + 1 - first.toNat)).map Char.ofNat

/-- The class `[A-Za-z]`. -/
def letters : List Char := span 'A' 'Z' ++ span 'a' 'z'

/-- The class `[0-9]`. -/
def digits : List Char := span '0' '9'

/-- The class `[A-Za-z0-9_]`. -/
def nameChars : List Char := letters ++ digits ++ ['_']

/-- One of the characters. -/
def oneOf (cs : List Char) : RegularExpression Char := (cs.map .char).sum

/-- One of the characters, and then characters of names. -/
def startingWith (firsts : List Char) : RegularExpression Char :=
  oneOf firsts * (oneOf nameChars).star

/-- The pattern `[A-Za-z_][A-Za-z0-9_]*`. -/
def exportPattern : RegularExpression Char := startingWith (letters ++ ['_'])

/-- The pattern `[A-Za-z][A-Za-z0-9_]*`. -/
def publicPattern : RegularExpression Char := startingWith letters

variable {cs firsts text : List Char} {c : Char}

theorem mem_oneOf_iff : text ∈ (oneOf cs).matches' ↔ ∃ c ∈ cs, text = [c] := by
  induction cs with
  | nil => simp [oneOf]
  | cons c cs ih =>
    rw [show oneOf (c :: cs) = .char c + oneOf cs from rfl, RegularExpression.matches'_add,
      RegularExpression.matches'_char, Language.mem_add, ih, List.exists_mem_cons_iff]
    rfl

theorem mem_star_oneOf_iff : text ∈ (oneOf cs).star.matches' ↔ ∀ c ∈ text, c ∈ cs := by
  rw [RegularExpression.matches'_star, Language.mem_kstar]
  constructor
  · rintro ⟨parts, rfl, hparts⟩ c hc
    obtain ⟨part, hpart, hc⟩ := List.mem_flatten.mp hc
    obtain ⟨d, hd, rfl⟩ := mem_oneOf_iff.mp (hparts part hpart)
    exact List.mem_singleton.mp hc ▸ hd
  · intro htext
    refine ⟨text.map fun c => [c], by simp [← List.flatMap_def], fun part hpart => ?_⟩
    obtain ⟨c, hc, rfl⟩ := List.mem_map.mp hpart
    exact mem_oneOf_iff.mpr ⟨c, htext c hc, rfl⟩

theorem mem_startingWith_iff : text ∈ (startingWith firsts).matches' ↔
    ∃ c rest, text = c :: rest ∧ c ∈ firsts ∧ ∀ d ∈ rest, d ∈ nameChars := by
  rw [startingWith, RegularExpression.matches'_mul, Language.mem_mul]
  constructor
  · rintro ⟨start, hstart, rest, hrest, rfl⟩
    obtain ⟨c, hc, rfl⟩ := mem_oneOf_iff.mp hstart
    exact ⟨c, rest, rfl, hc, mem_star_oneOf_iff.mp hrest⟩
  · rintro ⟨c, rest, rfl, hc, hrest⟩
    exact ⟨[c], mem_oneOf_iff.mpr ⟨c, hc, rfl⟩, rest, mem_star_oneOf_iff.mpr hrest, rfl⟩

/-! ## Characters -/

/-- Below the surrogates a span is an interval of code points. -/
theorem mem_span_iff {first last : Char} (hlast : last.toNat < 0xd800) :
    c ∈ span first last ↔ first.toNat ≤ c.toNat ∧ c.toNat ≤ last.toNat := by
  simp only [span, List.mem_map, List.mem_range'_1]
  constructor
  · rintro ⟨n, ⟨hfirst, hn⟩, rfl⟩
    have hvalid : n.isValidChar := Or.inl (by omega)
    have hcode : (Char.ofNat n).toNat = n := by
      rw [Char.ofNat, dif_pos hvalid]
      rfl
    omega
  · rintro ⟨hfirst, hc⟩
    exact ⟨c.toNat, ⟨hfirst, by omega⟩, Char.ofNat_toNat c⟩

theorem isDigit_iff : c.isDigit = true ↔ c ∈ digits := by
  rw [digits, mem_span_iff (by decide)]
  exact Bool.and_eq_true_iff.trans (and_congr decide_eq_true_iff decide_eq_true_iff)

theorem isNameChar_iff : isNameChar c = true ↔ c ∈ nameChars := by
  have hupper : c.isUpper = true ↔ c ∈ span 'A' 'Z' := by
    rw [mem_span_iff (by decide)]
    exact decide_eq_true_iff
  have hlower : c.isLower = true ↔ c ∈ span 'a' 'z' := by
    rw [mem_span_iff (by decide)]
    exact Bool.and_eq_true_iff.trans (and_congr decide_eq_true_iff decide_eq_true_iff)
  have hname : isNameChar c = (c.isUpper || c.isLower || c.isDigit || c == '_') := rfl
  simp only [hname, Bool.or_eq_true, beq_iff_eq, hupper, hlower, isDigit_iff, nameChars, letters,
    List.mem_append, List.mem_singleton]

/-! ## Names -/

/-- A name has no fault if its first character is no digit and all of them belong in a name. -/
theorem faultOf?_eq_none_iff : faultOf? text = none ↔
    ∃ c rest, text = c :: rest ∧ c ∉ digits ∧ ∀ d ∈ text, d ∈ nameChars := by
  cases text with
  | nil => simp [faultOf?]
  | cons c rest =>
    by_cases hc : c ∈ digits
    · simp [faultOf?, isDigit_iff, hc]
    · simp [faultOf?, isDigit_iff, hc, isNameChar_iff]

/-- Beside the digits, a name character is a letter or the underscore. -/
theorem mem_nameChars_iff : c ∈ nameChars ↔ c ∈ letters ++ ['_'] ∨ c ∈ digits := by
  simp only [nameChars, List.mem_append]
  tauto

theorem not_mem_digits (hc : c ∈ letters ++ ['_']) : c ∉ digits := by
  have hall : (letters ++ ['_']).all (fun c => !digits.contains c) = true := by decide +kernel
  simpa using List.all_eq_true.mp hall c hc

theorem fault?_eq_none_iff {name : String} :
    fault? name = none ↔ name.toList ∈ exportPattern.matches' := by
  rw [fault?, faultOf?_eq_none_iff, exportPattern, mem_startingWith_iff]
  refine exists_congr fun c => exists_congr fun rest => and_congr_right fun hname => ?_
  rw [hname, List.forall_mem_cons, mem_nameChars_iff]
  refine ⟨fun ⟨hdigit, hc, hrest⟩ => ⟨hc.resolve_right hdigit, hrest⟩, fun ⟨hc, hrest⟩ => ?_⟩
  exact ⟨not_mem_digits hc, Or.inl hc, hrest⟩

/-- A public name is one of the pattern that starts with a letter : the underscore is the only
character that a valid name may begin with and a public one may not. -/
theorem isPublic_iff {name : String} :
    isPublic name = true ↔ name.toList ∈ publicPattern.matches' := by
  have hvalid : isValid name = true ↔ name.toList ∈ exportPattern.matches' := by
    rw [isValid, Option.isNone_iff_eq_none, fault?_eq_none_iff]
  simp only [isPublic, Bool.and_eq_true, bne_iff_ne, hvalid, exportPattern, publicPattern,
    mem_startingWith_iff]
  have hunderscore : '_' ∉ letters := by decide +kernel
  constructor
  · rintro ⟨hfirst, c, rest, hname, hc, hrest⟩
    refine ⟨c, rest, hname, ?_, hrest⟩
    rcases List.mem_append.mp hc with hc | hc
    · exact hc
    · obtain rfl := List.mem_singleton.mp hc
      exact absurd (by rw [hname]; rfl) hfirst
  · rintro ⟨c, rest, hname, hc, hrest⟩
    refine ⟨?_, c, rest, hname, List.mem_append_left _ hc, hrest⟩
    rw [hname, List.head?_cons]
    rintro heq
    exact hunderscore (Option.some.inj heq ▸ hc)

/-! ## Labels -/

/-- The name characters of a label, in their order. -/
def nameCharsOf (label : String) : List Char := label.toList.filter (· ∈ nameChars)

/-- The two texts differ only in characters that do not belong in a name. -/
inductive DifferOutside : List Char → List Char → Prop where
  | nil : DifferOutside [] []
  | both {l l' : List Char} (c : Char) (h : DifferOutside l l') : DifferOutside (c :: l) (c :: l')
  | left {l l' : List Char} {c : Char} (hc : c ∉ nameChars) (h : DifferOutside l l') :
      DifferOutside (c :: l) l'
  | right {l l' : List Char} {c : Char} (hc : c ∉ nameChars) (h : DifferOutside l l') :
      DifferOutside l (c :: l')

variable {label label' name : String}

theorem DifferOutside.nameCharsOf_eq (h : DifferOutside label.toList label'.toList) :
    nameCharsOf label = nameCharsOf label' := by
  have hfilter : ∀ {l l'}, DifferOutside l l' →
      l.filter (· ∈ nameChars) = l'.filter (· ∈ nameChars) := by
    intro l l' h
    induction h with
    | nil => rfl
    | both c _ ih => rw [List.filter_cons, List.filter_cons, ih]
    | left hc _ ih => rw [List.filter_cons_of_neg (by simpa using hc), ih]
    | right hc _ ih => rw [List.filter_cons_of_neg (by simpa using hc), ih]
  exact hfilter h

theorem ofLabel?_eq (label : String) : ofLabel? label =
    if faultOf? (nameCharsOf label) = none then some (String.ofList (nameCharsOf label))
    else none := by
  have hfilter : label.toList.filter isNameChar = nameCharsOf label :=
    List.filter_congr fun c _ => Bool.eq_iff_iff.mpr (by simp [isNameChar_iff])
  simp only [ofLabel?, hfilter, isValid, fault?, String.toList_ofList, Option.isNone_iff_eq_none]

/-- What is left of a label has name characters only, so it can be at fault for its beginning
alone. -/
theorem faultOf?_nameCharsOf : faultOf? (nameCharsOf label) = none ↔
    nameCharsOf label ≠ [] ∧ ∀ c, (nameCharsOf label).head? = some c → c ∉ digits := by
  have hall : ∀ c ∈ nameCharsOf label, c ∈ nameChars := fun c hc =>
    of_decide_eq_true (List.mem_filter.mp hc).2
  rw [faultOf?_eq_none_iff]
  cases hname : nameCharsOf label with
  | nil => simp
  | cons c rest =>
    rw [hname] at hall
    refine ⟨?_, fun ⟨_, hfirst⟩ => ⟨c, rest, rfl, hfirst c rfl, hall⟩⟩
    rintro ⟨d, rest', heq, hfirst, -⟩
    obtain ⟨rfl, rfl⟩ := List.cons.inj heq
    exact ⟨List.cons_ne_nil c rest, fun d hd => Option.some.inj hd ▸ hfirst⟩

theorem ofLabel?_eq_some_iff : ofLabel? label = some name ↔
    name.toList = nameCharsOf label ∧ nameCharsOf label ≠ [] ∧
      ∀ c, (nameCharsOf label).head? = some c → c ∉ digits := by
  rw [ofLabel?_eq, ← faultOf?_nameCharsOf]
  split
  · rename_i hname
    rw [Option.some.injEq, and_iff_left hname, eq_comm, ← String.toList_inj, String.toList_ofList]
  · rename_i hfault
    simp [hfault]

theorem fault?_of_ofLabel? (h : ofLabel? label = some name) : fault? name = none := by
  obtain ⟨hname, hstart⟩ := ofLabel?_eq_some_iff.mp h
  rw [fault?, hname, faultOf?_nameCharsOf]
  exact hstart

/-- An identifier is the identifier in itself. -/
theorem ofLabel?_of_ofLabel? (h : ofLabel? label = some name) : ofLabel? name = some name := by
  have hsame : nameCharsOf name = name.toList := by
    rw [nameCharsOf, (ofLabel?_eq_some_iff.mp h).1, nameCharsOf, List.filter_filter]
    simp
  rw [ofLabel?_eq_some_iff, hsame, (ofLabel?_eq_some_iff.mp h).1]
  exact ⟨rfl, (ofLabel?_eq_some_iff.mp h).2⟩

/-! ## The grammar -/

/-- What the text is as a name to export, as a contributed name, and as a label. -/
structure Grammar (text : String) : Prop where
  valid_iff : fault? text = none ↔ text.toList ∈ exportPattern.matches'
  public_iff : isPublic text = true ↔ text.toList ∈ publicPattern.matches'
  /-- A label has an identifier in it if it has name characters and the first one is no digit, and
  the identifier is made of all of them. -/
  label_iff : ∀ name, ofLabel? text = some name ↔
    name.toList = nameCharsOf text ∧ nameCharsOf text ≠ [] ∧
      ∀ c, (nameCharsOf text).head? = some c → c ∉ digits
  /-- The identifier in a label can be exported, and it is the identifier in itself. -/
  label_valid : ∀ name, ofLabel? text = some name → fault? name = none
  label_fixed : ∀ name, ofLabel? text = some name → ofLabel? name = some name
  /-- All other characters of a label make no difference. -/
  label_congr : ∀ other : String, DifferOutside text.toList other.toList →
    ofLabel? text = ofLabel? other

/-- Names are told by the two patterns, and labels by their name characters alone, whatever the
text. -/
theorem identifier_grammar (text : String) : Grammar text where
  valid_iff := fault?_eq_none_iff
  public_iff := isPublic_iff
  label_iff _ := ofLabel?_eq_some_iff
  label_valid _ := fault?_of_ofLabel?
  label_fixed _ := ofLabel?_of_ofLabel?
  label_congr other h := by rw [ofLabel?_eq, ofLabel?_eq, h.nameCharsOf_eq]

/-- Letters and digits beyond ASCII are dropped, and a digit that comes first after that is in the
way. -/
example : ofLabel? "Größe ٣" = some "Gre" ∧ ofLabel? "é3D" = none ∧ fault? "_1" = none ∧
    isPublic "_1" = false ∧ fault? "aé" = some (.badCharacter 'é') := by
  decide

end VizSession.ExportName
