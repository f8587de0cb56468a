import VizSession.Proofs.Names
import VizSession.Proofs.RegistryHistory

/-!
# What becomes of names that are merged

A merge offers names to the export list one after another, and its report has three lists of
names. Which of them an occurrence of a name is in depends on the name, on the list from before,
and on what was offered before it in the same merge (`ExportList.fate`, `verdict_merge`); so an
occurrence is in one of them, and each is the offered names with the other occurrences left out
(`ExportList.occurrences`). What is added is therefore each valid name that is new, where it
comes first.

The report of a merge in two parts is the two reports, one after the other (`merge_append`), and
names that are there already only show up as skipped (`merge_of_known`).
-/

namespace VizSession

/-- What becomes of an occurrence of a name that is offered. -/
inductive Fate where
  /-- The name is exported now. -/
  | added
  /-- The name was exported already. -/
  | skipped
  /-- The name cannot be exported. -/
  | failed
deriving DecidableEq

/-- The occurrences of the three fates are all occurrences. -/
theorem Fate.filter_perm {α : Type} (fate : α → Fate) (l : List α) :
    (l.filter (fun a => fate a = .added) ++ l.filter (fun a => fate a = .skipped) ++
      l.filter (fun a => fate a = .failed)).Perm l := by
  have hfirst := List.filter_append_perm (fun a => fate a = .added) l
  have hrest := List.filter_append_perm (fun a => fate a = .skipped)
    (l.filter fun a => !decide (fate a = .added))
  have hskipped : (fun a => decide (fate a = .skipped) && !decide (fate a = .added)) =
      fun a => decide (fate a = .skipped) := by
    funext a
    cases fate a <;> rfl
  have hfailed : (fun a => !decide (fate a = .skipped) && !decide (fate a = .added)) =
      fun a => decide (fate a = .failed) := by
    funext a
    cases fate a <;> rfl
  rw [List.filter_filter, List.filter_filter, hskipped, hfailed] at hrest
  rw [List.append_assoc]
  exact (hrest.append_left _).trans hfirst

namespace MergeReport

theorem append_eq (r s : MergeReport) :
    r ++ s = ⟨r.added ++ s.added, r.skipped ++ s.skipped, r.failed ++ s.failed⟩ := rfl

theorem append_assoc (r s t : MergeReport) : r ++ s ++ t = r ++ (s ++ t) := by
  simp only [append_eq, List.append_assoc]

theorem append_empty (r : MergeReport) : r ++ empty = r := by
  simp only [append_eq, empty, List.append_nil]

end MergeReport

/-- The entry of a report for a name that cannot be exported. -/
def ExportName.refusal? (name : String) : Option (String × String) :=
  (fault? name).map fun fault => (name, fault.message)

namespace ExportList

variable {l : ExportList} {names : List String}

/-! ## One occurrence -/

/-- What becomes of a name that is offered to the list after others. -/
def fate (l : ExportList) (before : List String) (name : String) : Fate :=
  if ExportName.isValid name then
    if name ∈ l.names ∨ name ∈ before then .skipped else .added
  else .failed

/-- The occurrences of offered names that have one fate, with their positions. -/
def occurrences (l : ExportList) (names : List String) (f : Fate) : List (String × Nat) :=
  names.zipIdx.filter fun p => l.fate (names.take p.2) p.1 = f

theorem fate_eq_failed_iff {before : List String} {name : String} :
    l.fate before name = .failed ↔ ¬ExportName.isValid name = true := by
  cases hvalid : ExportName.isValid name with
  | false => simp [fate, hvalid]
  | true => by_cases h : name ∈ l.names ∨ name ∈ before <;> simp [fate, hvalid, h]

theorem fate_eq_added_iff {before : List String} {name : String} :
    l.fate before name = .added ↔
      (ExportName.isValid name = true ∧ name ∉ l.names) ∧ name ∉ before := by
  cases hvalid : ExportName.isValid name with
  | false => simp [fate, hvalid]
  | true => simp [fate, hvalid]

/-- The verdict on a name, after others were merged. -/
theorem verdict_merge (l : ExportList) (before : List String) (name : String) :
    (l.merge before).2.verdict name =
      ⟨if l.fate before name = .added then [name] else [],
        if l.fate before name = .skipped then [name] else [],
        [name].filterMap ExportName.refusal?⟩ := by
  unfold verdict fate
  cases hfault : ExportName.fault? name with
  | some fault => simp [ExportName.isValid, ExportName.refusal?, hfault]
  | none =>
    have hvalid : ExportName.isValid name = true := by rw [ExportName.isValid, hfault]; rfl
    have hknown : name ∈ (l.merge before).2.names ↔ name ∈ l.names ∨ name ∈ before := by
      rw [mem_merge_iff, and_iff_left hvalid]
    have hsound : ExportName.refusal? name = none := by rw [ExportName.refusal?, hfault]; rfl
    by_cases h : name ∈ l.names ∨ name ∈ before
    · simp [hknown, h, hvalid, hsound]
    · simp [hknown, h, hvalid, hsound]

/-- One more name has the fate that the others leave to it, and they keep theirs. -/
theorem map_fst_occurrences_concat (l : ExportList) (names : List String) (name : String)
    (f : Fate) : (l.occurrences (names ++ [name]) f).map Prod.fst =
      (l.occurrences names f).map Prod.fst ++ if l.fate names name = f then [name] else [] := by
  have hbefore : ∀ p ∈ names.zipIdx, (names ++ [name]).take p.2 = names.take p.2 := fun p hp => by
    obtain ⟨hlt, -⟩ := List.getElem?_eq_some_iff.mp (List.mem_zipIdx_iff_getElem?.mp hp)
    exact List.take_append_of_le_length (Nat.le_of_lt hlt)
  unfold occurrences
  rw [List.zipIdx_append, List.filter_append, List.map_append]
  congr 1
  · rw [List.filter_congr fun p hp => by rw [hbefore p hp]]
  · by_cases h : l.fate names name = f
    · simp [h]
    · simp [h]

/-! ## A merge -/

/-- A merge in two parts. -/
theorem merge_append (l : ExportList) (names more : List String) :
    l.merge (names ++ more) =
      ((l.merge names).1 ++ ((l.merge names).2.merge more).1,
        ((l.merge names).2.merge more).2) := by
  induction names generalizing l with
  | nil => rfl
  | cons name names ih =>
    rw [List.cons_append, merge, merge]
    dsimp only
    rw [ih]
    exact congrArg (·, _) (MergeReport.append_assoc ..).symm

theorem merge_concat (l : ExportList) (names : List String) (name : String) :
    l.merge (names ++ [name]) =
      ((l.merge names).1 ++ (l.merge names).2.verdict name, (l.merge names).2.offer name) := by
  rw [merge_append, merge, merge]
  dsimp only
  rw [MergeReport.append_empty]

/-- The report has the occurrences by their fates. -/
theorem report_merge (l : ExportList) (names : List String) :
    (l.merge names).1 =
      ⟨(l.occurrences names .added).map Prod.fst, (l.occurrences names .skipped).map Prod.fst,
        names.filterMap ExportName.refusal?⟩ := by
  induction names using List.reverseRecOn with
  | nil => rfl
  | append_singleton names name ih =>
    rw [merge_concat, ih, verdict_merge, MergeReport.append_eq, map_fst_occurrences_concat,
      map_fst_occurrences_concat, List.filterMap_append]

/-- Valid names that are new are added, once and in the order in which they first come. -/
theorem map_fst_occurrences_added (l : ExportList) (names : List String) :
    (l.occurrences names .added).map Prod.fst =
      (names.filter fun n => ExportName.isValid n ∧ n ∉ l.names).eraseDups := by
  induction names using List.reverseRecOn with
  | nil => rfl
  | append_singleton names name ih =>
    rw [map_fst_occurrences_concat, ih, List.filter_append]
    simp only [fate_eq_added_iff]
    by_cases hnew : ExportName.isValid name = true ∧ name ∉ l.names
    · have hlast : [name].filter (fun n => ExportName.isValid n ∧ n ∉ l.names) = [name] := by
        simp [hnew]
      rw [hlast, eraseDups_concat]
      by_cases hbefore : name ∈ names
      · simp [hnew, hbefore]
      · simp [hnew, hbefore]
    · have hlast : [name].filter (fun n => ExportName.isValid n ∧ n ∉ l.names) = [] := by
        simpa using hnew
      rw [hlast, if_neg fun h => hnew h.1, List.append_nil, List.append_nil]

/-- Names that cannot be exported fail, each as often as it comes. -/
theorem map_fst_occurrences_failed (l : ExportList) (names : List String) :
    (l.occurrences names .failed).map Prod.fst = names.filter fun n => ¬ExportName.isValid n := by
  induction names using List.reverseRecOn with
  | nil => rfl
  | append_singleton names name ih =>
    rw [map_fst_occurrences_concat, ih, List.filter_append]
    simp only [fate_eq_failed_iff]
    cases hvalid : ExportName.isValid name with
    | true => simp [hvalid]
    | false => simp [hvalid]

theorem map_fst_failed_merge (l : ExportList) (names : List String) :
    (l.merge names).1.failed.map Prod.fst = (l.occurrences names .failed).map Prod.fst := by
  rw [report_merge, map_fst_occurrences_failed, List.map_filterMap, ← List.filterMap_eq_filter]
  refine List.filterMap_congr fun name _ => ?_
  unfold ExportName.refusal? ExportName.isValid
  cases h : ExportName.fault? name <;> simp [Option.guard, h]

/-- The verdict on a name that is there already, or cannot be exported. -/
theorem verdict_of_known {name : String} (h : ExportName.isValid name = true → name ∈ l.names) :
    l.verdict name =
      ⟨[], [name].filter fun n => ExportName.isValid n,
        [name].filterMap ExportName.refusal?⟩ := by
  have hverdict := verdict_merge l [] name
  rw [merge] at hverdict
  dsimp only at hverdict
  rw [hverdict]
  cases hvalid : ExportName.isValid name with
  | false => simp [fate, hvalid]
  | true => simp [fate, hvalid, h hvalid]

/-- Names that are there already, and names that cannot be exported, change nothing. -/
theorem merge_of_known (h : ∀ n ∈ names, ExportName.isValid n = true → n ∈ l.names) :
    l.merge names =
      (⟨[], names.filter fun n => ExportName.isValid n,
        names.filterMap ExportName.refusal?⟩, l) := by
  induction names with
  | nil => rfl
  | cons name names ih =>
    have hverdict := verdict_of_known (h name List.mem_cons_self)
    have hoffer : l.offer name = l :=
      ExportList.ext (by rw [names_offer, hverdict, List.append_nil])
    rw [merge, hoffer, ih fun n hn => h n (List.mem_cons_of_mem _ hn), hverdict]
    dsimp only
    rw [MergeReport.append_eq, ← List.filter_append, ← List.filterMap_append]
    rfl

/-! ## What a report says -/

/-- The report of a merge accounts for every occurrence of every name. -/
structure Accounts (l : ExportList) (names : List String) : Prop where
  /-- What is added follows what was there. -/
  grows : (l.merge names).2.names = l.names ++ (l.merge names).1.added
  /-- It is the valid names that are new, each once, in the order in which they first come. -/
  added : (l.merge names).1.added =
    (names.filter fun n => ExportName.isValid n ∧ n ∉ l.names).eraseDups
  /-- An occurrence of a name is added, skipped or failed, and nothing else is. -/
  each : (l.occurrences names .added ++ l.occurrences names .skipped ++
    l.occurrences names .failed).Perm names.zipIdx
  /-- The lists of the report have the occurrences in the order in which they come. -/
  reported : (l.merge names).1.added = (l.occurrences names .added).map Prod.fst ∧
    (l.merge names).1.skipped = (l.occurrences names .skipped).map Prod.fst ∧
    (l.merge names).1.failed.map Prod.fst = (l.occurrences names .failed).map Prod.fst
  /-- With a name that failed stands what is wrong with it. -/
  reasons : (l.merge names).1.failed = names.filterMap ExportName.refusal?
  /-- More names can be merged along or afterwards. -/
  append : ∀ more, l.merge (names ++ more) =
    ((l.merge names).1 ++ ((l.merge names).2.merge more).1, ((l.merge names).2.merge more).2)
  /-- A second time the names are skipped, or they fail again, and the list stays as it is. -/
  again : (l.merge names).2.merge names =
    (⟨[], names.filter fun n => ExportName.isValid n, (l.merge names).1.failed⟩,
      (l.merge names).2)
  /-- The same valid names, in whatever order and however often, make a list of the same names. -/
  same : ∀ others, (∀ n, ExportName.isValid n = true → (n ∈ names ↔ n ∈ others)) →
    (l.merge names).2.names.Perm (l.merge others).2.names

/-- Merging names adds the valid ones that are new at the end of the export list, in the order in
which they first come, and reports every occurrence of a name once, as added, skipped or failed.
In how many merges the names come does not matter, a second time they add nothing, and their
order matters for nothing but the order of the list. -/
theorem accounts_merge (l : ExportList) (names : List String) : l.Accounts names where
  grows := names_merge l names
  added := by rw [report_merge, map_fst_occurrences_added]
  each := Fate.filter_perm (fun p : String × Nat => l.fate (names.take p.2) p.1) names.zipIdx
  reported := ⟨by rw [report_merge], by rw [report_merge], map_fst_failed_merge l names⟩
  reasons := by rw [report_merge]
  append := merge_append l names
  again := by
    have hknown : ∀ n ∈ names, ExportName.isValid n = true → n ∈ (l.merge names).2.names :=
      fun n hn hvalid => mem_merge_iff.mpr (Or.inr ⟨hn, hvalid⟩)
    rw [merge_of_known hknown, report_merge]
  same others h := by
    refine (List.perm_ext_iff_of_nodup (l.merge names).2.nodup (l.merge others).2.nodup).mpr
      fun n => ?_
    rw [mem_merge_iff, mem_merge_iff]
    exact or_congr_right (and_congr_left (h n))

/-- Names are repeated, known and invalid by turns. -/
example :
    (ofNames ["render"]).merge ["Bar", "9x", "render", "Bar", "", "9x"] =
      (⟨["Bar"], ["render", "Bar"], [("9x", "name starts with a digit"), ("", "name is empty"),
        ("9x", "name starts with a digit")]⟩, ofNames ["render", "Bar"]) := by rfl

end ExportList

end VizSession
