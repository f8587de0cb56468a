import VizSession.Proofs.Conformance
import Mathlib.Data.List.Basic
import Mathlib.Data.List.Induction
import Mathlib.Order.Bounds.Basic

/-!
# Properties in order of arrival

Operations on properties come down to edits of one name each (`Properties.Op.edits`), and what the
properties are can be read off the edits alone (`Properties.Recounts`) : the names are those whose
last edit has a value, by the time of their last arrival, and every name has the value that was
written last. A name arrives when it has no value and is given one. So a name that has a value
stays where it is when it is set, and one that is taken out and set again comes last.

One step of this is one edit, which writes (`Recounts.write`), takes a name out (`Recounts.erase`)
or finds a value there (`Recounts.pass`). An edit at the end is the last of its kind, or leaves the
last of that kind as it was (`isGreatest_occurrences_concat`, `occurrences_concat_of_not`). No two
properties are recounted by the same edits (`Recounts.unique`).

Defaults come after all that is there, in the order of their declarations
(`entries_fillDefaults`).
-/

namespace VizSession

namespace Properties

variable {ps qs : Properties} {specs : List PropertySpec} {n : String} {v w : Value}

theorem fillDefault_of_mem {spec : PropertySpec} (h : spec.name ∈ ps.keys) :
    ps.fillDefault spec = ps :=
  if_pos (OrderedMap.mem_keys_iff.mp h)

theorem fillDefault_of_not_mem {spec : PropertySpec} (h : spec.name ∉ ps.keys) :
    ps.fillDefault spec = ps.insert spec.name spec.default :=
  if_neg fun hcontains => h (OrderedMap.mem_keys_iff.mpr hcontains)

/-! ## Edits -/

/-- What an operation does under one name. -/
inductive Edit where
  /-- Gives the name a value. -/
  | set (name : String) (value : Value)
  /-- Takes the name out. -/
  | remove (name : String)
  /-- Gives the name the default of a declared property, unless it has a value. -/
  | fill (spec : PropertySpec)

namespace Edit

/-- The name that is edited. -/
def name : Edit → String
  | .set name _ | .remove name => name
  | .fill spec => spec.name

/-- The value that the edit has for its name. -/
def value? : Edit → Option Value
  | .set _ value => some value
  | .remove _ => none
  | .fill spec => some spec.default

/-- The properties after an edit. -/
def apply (ps : Properties) : Edit → Properties
  | .set name value => ps.insert name value
  | .remove name => ps.erase name
  | .fill spec => ps.fillDefault spec

end Edit

/-- The edits of an operation, one after another. -/
def Op.edits : Op → List Edit
  | .set name value => [.set name value]
  | .remove name => [.remove name]
  | .fillDefaults specs => specs.map .fill

/-- The properties after operations on none. -/
def after (ops : List Op) : Properties := ops.foldl apply ∅

theorem apply_eq_foldl (ps : Properties) (op : Op) :
    ps.apply op = op.edits.foldl Edit.apply ps := by
  cases op with
  | set name value => rfl
  | remove name => rfl
  | fillDefaults specs =>
    rw [Op.edits, List.foldl_map]
    rfl

theorem after_eq_foldl (ops : List Op) : after ops = (ops.flatMap Op.edits).foldl Edit.apply ∅ := by
  rw [List.foldl_flatMap]
  exact List.foldl_ext _ _ _ fun ps op _ => apply_eq_foldl ps op

/-! ## What the edits say -/

variable {es : List Edit} {e : Edit} {kind : List Edit → Edit → Prop} {i : ℕ}

/-- The name has a value after the edits : the last edit of the name has one. -/
def Holds (es : List Edit) (n : String) : Prop :=
  ((es.filter fun e => e.name = n).getLast?.bind Edit.value?).isSome

/-- The edit makes the name arrive : it had no value before, and has one then. -/
def Arrival (n : String) (past : List Edit) (e : Edit) : Prop :=
  ¬Holds past n ∧ Holds (past ++ [e]) n

/-- The edit writes under the name : it sets the name, or fills it in while it has no value. -/
def Write (n : String) (past : List Edit) : Edit → Prop
  | .set name _ => name = n
  | .remove _ => False
  | .fill spec => spec.name = n ∧ ¬Holds past n

/-- The positions of the edits that are of a kind, which may depend on the edits before. -/
def occurrences (kind : List Edit → Edit → Prop) (es : List Edit) : Set ℕ :=
  {i | ∃ e, es[i]? = some e ∧ kind (es.take i) e}

/-- The value is the one that was written last under the name. -/
def LastWritten (es : List Edit) (n : String) (v : Value) : Prop :=
  ∃ i, IsGreatest (occurrences (Write n) es) i ∧ es[i]?.bind Edit.value? = some v

/-- The names stand by the time of their last arrival. -/
def ByArrival (es : List Edit) (names : List String) : Prop :=
  ∃ arrival : String → ℕ,
    (∀ n ∈ names, IsGreatest (occurrences (Arrival n) es) (arrival n)) ∧
    names.Pairwise fun a b => arrival a < arrival b

/-- The properties are what the edits make them. -/
structure Recounts (ps : Properties) (es : List Edit) : Prop where
  once : ps.keys.Nodup
  names : ∀ n, n ∈ ps.keys ↔ Holds es n
  order : ByArrival es ps.keys
  values : ∀ n v, ps.find? n = some v → LastWritten es n v

/-! ## One more edit -/

theorem holds_concat : Holds (es ++ [e]) n ↔
    if e.name = n then e.value?.isSome = true else Holds es n := by
  unfold Holds
  rw [List.filter_append]
  by_cases he : e.name = n
  · simp [he]
  · simp [he]

theorem Write.name_eq (h : Write n es e) : e.name = n := by
  cases e with
  | set name value => exact h
  | remove name => exact h.elim
  | fill spec => exact h.1

theorem lt_of_mem_occurrences (h : i ∈ occurrences kind es) : i < es.length := by
  obtain ⟨e, he, -⟩ := h
  exact (List.getElem?_eq_some_iff.mp he).1

theorem mem_occurrences_concat : i ∈ occurrences kind (es ++ [e]) ↔
    i ∈ occurrences kind es ∨ i = es.length ∧ kind es e := by
  unfold occurrences
  rcases Nat.lt_trichotomy i es.length with hlt | heq | hgt
  · simp [List.getElem?_append_left hlt, List.take_append_of_le_length hlt.le, hlt.ne]
  · subst heq
    simp
  · have hnone : (es ++ [e])[i]? = none :=
      List.getElem?_eq_none (by simpa using Nat.succ_le_of_lt hgt)
    have hnone' : es[i]? = none := List.getElem?_eq_none hgt.le
    simp [hnone, hnone', hgt.ne']

/-- An edit at the end is the last of its kind. -/
theorem isGreatest_occurrences_concat (h : kind es e) :
    IsGreatest (occurrences kind (es ++ [e])) es.length := by
  refine ⟨mem_occurrences_concat.mpr (Or.inr ⟨rfl, h⟩), fun i hi => ?_⟩
  have hlt := lt_of_mem_occurrences hi
  rw [List.length_append, List.length_singleton] at hlt
  exact Nat.lt_succ_iff.mp hlt

theorem occurrences_concat_of_not (h : ¬kind es e) :
    occurrences kind (es ++ [e]) = occurrences kind es := by
  ext i
  rw [mem_occurrences_concat]
  exact or_iff_left fun hi => h hi.2

/-- What has a value does not arrive. -/
theorem arrivals_concat_of_holds (h : Holds es n) :
    occurrences (Arrival n) (es ++ [e]) = occurrences (Arrival n) es :=
  occurrences_concat_of_not fun harrival => harrival.1 h

theorem ByArrival.concat {names : List String} (h : ByArrival es names)
    (hholds : ∀ n ∈ names, Holds es n) (e : Edit) : ByArrival (es ++ [e]) names := by
  obtain ⟨arrival, hlast, hsorted⟩ := h
  refine ⟨arrival, fun n hn => ?_, hsorted⟩
  rw [arrivals_concat_of_holds (hholds n hn)]
  exact hlast n hn

theorem ByArrival.filter {names : List String} (h : ByArrival es names) (q : String → Bool) :
    ByArrival es (names.filter q) := by
  obtain ⟨arrival, hlast, hsorted⟩ := h
  exact ⟨arrival, fun n hn => hlast n (List.mem_filter.mp hn).1, hsorted.filter q⟩

/-- A name that arrives goes last. -/
theorem ByArrival.arrive {names : List String} (h : ByArrival es names)
    (hholds : ∀ n ∈ names, Holds es n) (harrival : Arrival n es e) :
    ByArrival (es ++ [e]) (names ++ [n]) := by
  obtain ⟨arrival, hlast, hsorted⟩ := h.concat hholds e
  -- the others arrived before, each at another position
  have hbefore : ∀ m ∈ names, arrival m < es.length := by
    intro m hm
    have hmem := (hlast m hm).1
    rw [arrivals_concat_of_holds (hholds m hm)] at hmem
    exact lt_of_mem_occurrences hmem
  have hkeep : ∀ m ∈ names, Function.update arrival n es.length m = arrival m := by
    intro m hm
    have hne : m ≠ n := fun heq => harrival.1 (heq ▸ hholds m hm)
    exact Function.update_of_ne hne ..
  refine ⟨Function.update arrival n es.length, fun m hm => ?_, ?_⟩
  · rcases List.mem_append.mp hm with hold | hnew
    · rw [hkeep m hold]
      exact hlast m hold
    · rw [List.mem_singleton.mp hnew, Function.update_self]
      exact isGreatest_occurrences_concat harrival
  · refine List.pairwise_append.mpr ⟨?_, List.pairwise_singleton .., fun a ha b hb => ?_⟩
    · refine hsorted.imp_of_mem fun {a b} ha hb hab => ?_
      rw [hkeep a ha, hkeep b hb]
      exact hab
    · rw [List.mem_singleton.mp hb, Function.update_self, hkeep a ha]
      exact hbefore a ha

theorem ByArrival.nodup {names : List String} (h : ByArrival es names) : names.Nodup := by
  obtain ⟨arrival, -, hsorted⟩ := h
  exact hsorted.imp fun hab heq => hab.ne (congrArg arrival heq)

/-- There is one order by arrival. -/
theorem ByArrival.unique {names others : List String} (h : ByArrival es names)
    (h' : ByArrival es others) (hmem : ∀ n, n ∈ names ↔ n ∈ others) : names = others := by
  have hperm : names.Perm others := (List.perm_ext_iff_of_nodup h.nodup h'.nodup).mpr hmem
  obtain ⟨arrival, hlast, hsorted⟩ := h
  obtain ⟨arrival', hlast', hsorted'⟩ := h'
  have hsame : ∀ n ∈ others, arrival' n = arrival n :=
    fun n hn => (hlast' n hn).unique (hlast n ((hmem n).mpr hn))
  have hsorted'' : others.Pairwise fun a b => arrival a < arrival b := by
    refine hsorted'.imp_of_mem fun {a b} ha hb hab => ?_
    rw [← hsame a ha, ← hsame b hb]
    exact hab
  exact hperm.eq_of_pairwise (fun _ _ _ _ hab hba => (lt_asymm hab hba).elim) hsorted hsorted''

theorem lastWritten_concat (h : Write n es e) (hv : e.value? = some v) :
    LastWritten (es ++ [e]) n v :=
  ⟨es.length, isGreatest_occurrences_concat h, by simpa using hv⟩

theorem LastWritten.concat (hv : LastWritten es n v) (h : ¬Write n es e) :
    LastWritten (es ++ [e]) n v := by
  obtain ⟨i, hi, hvalue⟩ := hv
  refine ⟨i, (occurrences_concat_of_not h).symm ▸ hi, ?_⟩
  rw [List.getElem?_append_left (lt_of_mem_occurrences hi.1)]
  exact hvalue

theorem LastWritten.unique (hv : LastWritten es n v) (hw : LastWritten es n w) : v = w := by
  obtain ⟨i, hi, hv⟩ := hv
  obtain ⟨j, hj, hw⟩ := hw
  obtain rfl := hi.unique hj
  exact Option.some.inj (hv.symm.trans hw)

/-! ## The properties after an edit -/

theorem recounts_empty : Recounts ∅ [] where
  once := List.nodup_nil
  names n := by simp [Holds]
  order := ⟨fun _ => 0, by simp, List.Pairwise.nil⟩
  values _ _ h := by simp at h

/-- A value is written : in place of another, or under a name that arrives. -/
theorem Recounts.write (h : ps.Recounts es) (hwrite : Write n es e) (hv : e.value? = some v) :
    Recounts (ps.insert n v) (es ++ [e]) where
  once := (ps.insert n v).nodup
  names m := by
    rw [OrderedMap.mem_keys_insert, h.names, holds_concat, hwrite.name_eq, hv]
    by_cases hm : n = m
    · simp [hm]
    · simp [hm, Ne.symm hm]
  order := by
    have hholds : ∀ m ∈ ps.keys, Holds es m := fun m => (h.names m).mp
    rw [OrderedMap.keys_insert]
    split
    · exact h.order.concat hholds e
    · rename_i hmem
      refine h.order.arrive hholds ⟨fun hold => hmem ((h.names n).mpr hold), ?_⟩
      rw [holds_concat, if_pos hwrite.name_eq, hv, Option.isSome_some]
  values m w hm := by
    rw [OrderedMap.find?_insert] at hm
    split at hm
    · rename_i heq
      obtain rfl := heq
      obtain rfl := Option.some.inj hm
      exact lastWritten_concat hwrite hv
    · rename_i hne
      exact (h.values m w hm).concat fun hother => hne (hwrite.name_eq.symm.trans hother.name_eq)

/-- After a removal the name has neither an arrival nor a last write, and all others keep theirs. -/
theorem Recounts.erase (h : ps.Recounts es) (n : String) :
    Recounts (ps.erase n) (es ++ [.remove n]) where
  once := (ps.erase n).nodup
  names m := by
    rw [OrderedMap.mem_keys_erase, h.names, holds_concat]
    by_cases hm : n = m
    · simp [Edit.name, Edit.value?, hm]
    · simp [Edit.name, hm, Ne.symm hm]
  order := by
    rw [OrderedMap.keys_erase]
    exact (h.order.concat (fun m => (h.names m).mp) _).filter _
  values m w hm := by
    rw [OrderedMap.find?_erase] at hm
    split at hm
    · cases hm
    · exact (h.values m w hm).concat id

/-- A default is not filled in where there is a value. -/
theorem Recounts.pass (h : ps.Recounts es) {spec : PropertySpec} (hmem : spec.name ∈ ps.keys) :
    ps.Recounts (es ++ [.fill spec]) where
  once := h.once
  names m := by
    rw [holds_concat, h.names]
    split
    · rename_i heq
      obtain rfl : spec.name = m := heq
      exact iff_of_true ((h.names _).mp hmem) rfl
    · rfl
  order := h.order.concat (fun m => (h.names m).mp) _
  values m w hm := by
    refine (h.values m w hm).concat fun hwrite => ?_
    obtain rfl : spec.name = m := hwrite.1
    exact hwrite.2 ((h.names _).mp hmem)

theorem Recounts.apply (h : ps.Recounts es) (e : Edit) : Recounts (e.apply ps) (es ++ [e]) := by
  cases e with
  | set name value => exact h.write (n := name) rfl rfl
  | remove name => exact h.erase name
  | fill spec =>
    by_cases hmem : spec.name ∈ ps.keys
    · rw [Edit.apply, fillDefault_of_mem hmem]
      exact h.pass hmem
    · rw [Edit.apply, fillDefault_of_not_mem hmem]
      exact h.write (n := spec.name) ⟨rfl, fun hholds => hmem ((h.names _).mpr hholds)⟩ rfl

theorem recounts_foldl (es : List Edit) : Recounts (es.foldl Edit.apply ∅) es := by
  induction es using List.reverseRecOn with
  | nil => exact recounts_empty
  | append_singleton es e ih =>
    rw [List.foldl_concat]
    exact ih.apply e

/-- The edits tell the properties. -/
theorem Recounts.unique (hp : ps.Recounts es) (hq : qs.Recounts es) : ps = qs := by
  have hmem : ∀ n, n ∈ ps.keys ↔ n ∈ qs.keys := fun n => (hp.names n).trans (hq.names n).symm
  refine OrderedMap.ext_views (hp.order.unique hq.order hmem) fun n => ?_
  have hsome : (ps.find? n).isSome ↔ (qs.find? n).isSome := by
    rw [← OrderedMap.mem_keys_iff, ← OrderedMap.mem_keys_iff]
    exact hmem n
  cases hv : ps.find? n with
  | none =>
    rw [hv] at hsome
    exact (Option.not_isSome_iff_eq_none.mp fun hq => nomatch hsome.mpr hq).symm
  | some v =>
    obtain ⟨w, hw⟩ := Option.isSome_iff_exists.mp (hsome.mp (Option.isSome_of_eq_some hv))
    rw [hw, (hp.values n v hv).unique (hq.values n w hw)]

/-! ## Where names stand -/

/-- What an operation under one name does to the entries. -/
structure KeepsPlaces (ps : Properties) : Prop where
  present : ∀ n ∈ ps.keys, ∀ v, (ps.apply (.set n v)).entries =
    ps.entries.map fun e => if e.1 = n then (n, v) else e
  absent : ∀ n ∉ ps.keys, ∀ v, (ps.apply (.set n v)).entries = ps.entries ++ [(n, v)]
  removed : ∀ n, (ps.apply (.remove n)).entries = ps.entries.filter fun e => e.1 ≠ n
  /-- A name that was taken out and is set again goes last. -/
  again : ∀ n v, ((ps.apply (.remove n)).apply (.set n v)).entries =
    (ps.entries.filter fun e => e.1 ≠ n) ++ [(n, v)]

theorem keepsPlaces (ps : Properties) : ps.KeepsPlaces where
  present _ hn v := OrderedMap.entries_insert_of_mem hn v
  absent _ hn v := OrderedMap.entries_insert_of_not_mem hn v
  removed _ := rfl
  again _ v := OrderedMap.entries_insert_of_not_mem
    (fun hn => (OrderedMap.mem_keys_erase.mp hn).2 rfl) v

/-! ## Defaults -/

/-- The defaults of the names without a value, in the order of the declarations; of a name that
is declared repeatedly, the first declaration counts. -/
def newDefaults (ps : Properties) (specs : List PropertySpec) : List (String × Value) :=
  ((specs.filter fun spec => spec.name ∉ ps.keys).eraseDupsBy fun a b => a.name == b.name).map
    fun spec => (spec.name, spec.default)

/-- What it is to fill in defaults. -/
structure Fills (ps : Properties) (specs : List PropertySpec) : Prop where
  entries : (ps.fillDefaults specs).entries = ps.entries ++ ps.newDefaults specs
  again : (ps.fillDefaults specs).fillDefaults specs = ps.fillDefaults specs
  parts : ∀ others, (ps.fillDefaults specs).fillDefaults others = ps.fillDefaults (specs ++ others)
  present : ∀ spec ∈ specs, spec.name ∈ (ps.fillDefaults specs).keys

/-- Defaults go last, in the order of their declarations. -/
theorem entries_fillDefaults (ps : Properties) (specs : List PropertySpec) :
    (ps.fillDefaults specs).entries = ps.entries ++ ps.newDefaults specs := by
  induction specs generalizing ps with
  | nil => exact (List.append_nil _).symm
  | cons spec specs ih =>
    have hstep : ps.fillDefaults (spec :: specs) = (ps.fillDefault spec).fillDefaults specs := rfl
    rw [hstep, ih]
    by_cases hmem : spec.name ∈ ps.keys
    · rw [fillDefault_of_mem hmem, newDefaults, newDefaults,
        List.filter_cons_of_neg (by simpa using hmem)]
    · -- what is new then was new before, without the name that is filled in
      have hrest : specs.filter (fun s => s.name ∉ (ps.insert spec.name spec.default).keys) =
          (specs.filter fun s => s.name ∉ ps.keys).filter
            fun s => (s.name == spec.name) = false := by
        rw [List.filter_filter]
        refine List.filter_congr fun s _ => ?_
        simp [OrderedMap.mem_keys_insert, and_comm]
      rw [fillDefault_of_not_mem hmem, OrderedMap.entries_insert_of_not_mem hmem, newDefaults,
        newDefaults, hrest, List.filter_cons_of_pos (by simpa using hmem), List.eraseDupsBy_cons,
        List.map_cons, List.append_assoc, List.singleton_append]

/-- Where every declared name has a value, nothing is filled in. -/
theorem fillDefaults_eq_self (h : ∀ spec ∈ specs, spec.name ∈ ps.keys) :
    ps.fillDefaults specs = ps := by
  have hnone : specs.filter (fun spec => spec.name ∉ ps.keys) = [] := by
    refine List.filter_eq_nil_iff.mpr fun spec hspec => ?_
    simpa using h spec hspec
  refine OrderedMap.ext ((entries_fillDefaults ps specs).trans ?_)
  rw [newDefaults, hnone]
  exact List.append_nil _

theorem fills (ps : Properties) (specs : List PropertySpec) : ps.Fills specs := by
  have hpresent : ∀ spec ∈ specs, spec.name ∈ (ps.fillDefaults specs).keys :=
    fun spec hspec => mem_keys_fillDefaults.mpr (Or.inr ⟨spec, hspec, rfl⟩)
  exact ⟨entries_fillDefaults ps specs, fillDefaults_eq_self hpresent,
    fun others => List.foldl_append.symm, hpresent⟩

end Properties

/-- Properties are listed by arrival. After any operations on none they are the properties that
the edits of the operations recount, and the only such : each name whose last edit has a value is
there once, the names stand by the time of their last arrival, and each has the value that was
written last. Any properties keep the places of their names when one is set or taken out, and a
name that is taken out and set again goes last. Defaults that are filled in go last as well, in
the order of their declarations, of each name without a value the first; then every declared name
has a value, a second time nothing is filled in, and to fill in more is to fill in all at once. -/
theorem properties_by_arrival (ps : Properties) :
    (∀ ops, ps.Recounts (ops.flatMap Properties.Op.edits) ↔ ps = Properties.after ops) ∧
      ps.KeepsPlaces ∧ ∀ specs, ps.Fills specs := by
  refine ⟨fun ops => ?_, ps.keepsPlaces, ps.fills⟩
  have hafter : (Properties.after ops).Recounts (ops.flatMap Properties.Op.edits) := by
    rw [Properties.after_eq_foldl]
    exact Properties.recounts_foldl _
  exact ⟨fun h => h.unique hafter, fun h => h ▸ hafter⟩

/-- A default does not replace a value, and a name that was taken out goes last. -/
example :
    (Properties.after [.set "Radius" (.int 2), .set "Center" .unset, .remove "Radius",
      .set "Center" (.int 0), .fillDefaults [⟨"Center", .int, .int 9⟩, ⟨"Radius", .int, .int 1⟩,
        ⟨"Radius", .int, .int 5⟩]]).entries = [("Center", .int 0), ("Radius", .int 1)] := by
  rfl

end VizSession
