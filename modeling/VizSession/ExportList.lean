import VizSession.ExportName

/-!
# The export list

The names a session offers to scripts, in the order in which they were exported, each
once. The list only grows. Names are offered one at a time (`offer`) : a valid name that
is new is added at the end, one that is there is skipped, any other fails, and a failure
undoes nothing. `merge` offers a list of names and reports what became of each.
-/

namespace VizSession

/-- What became of a batch of offered names. -/
structure MergeReport where
  /-- The names that are new, in the order offered. -/
  added : List String
  /-- The names that were there already. -/
  skipped : List String
  /-- The names that cannot be exported, with the reason. -/
  failed : List (String × String)
deriving DecidableEq

namespace MergeReport

/-- The report of no names. -/
def empty : MergeReport := ⟨[], [], []⟩

/-- Whether no name failed. -/
def isClean (r : MergeReport) : Bool := r.failed.isEmpty

/-- The report of one batch followed by another. -/
def append (r s : MergeReport) : MergeReport :=
  ⟨r.added ++ s.added, r.skipped ++ s.skipped, r.failed ++ s.failed⟩

instance : Append MergeReport := ⟨append⟩

@[simp] theorem added_append (r s : MergeReport) : (r ++ s).added = r.added ++ s.added := rfl

@[simp] theorem failed_append (r s : MergeReport) : (r ++ s).failed = r.failed ++ s.failed := rfl

end MergeReport

/-- The exported names in the order of their export. -/
@[ext]
structure ExportList where
  /-- The names, the oldest at the head. -/
  names : List String
  /-- No name is listed twice. -/
  nodup : names.Nodup

namespace ExportList

/-- The list without names. -/
def empty : ExportList := ⟨[], List.nodup_nil⟩

/-- Whether a name is exported. -/
def contains (l : ExportList) (name : String) : Bool := l.names.contains name

/-- Appends a name, unless it is there. No rule of naming is applied. -/
def push (l : ExportList) (name : String) : ExportList :=
  if h : name ∈ l.names then l
  else
    { names := l.names ++ [name]
      nodup := by
        rw [List.nodup_append]
        refine ⟨l.nodup, by simp, fun a ha b hb => ?_⟩
        rw [List.mem_singleton.mp hb]
        exact fun e => h (e ▸ ha) }

/-- The list of given names; of a repeated name the first position counts. -/
def ofNames (names : List String) : ExportList := names.foldl push empty

/-- What becomes of one offered name. -/
def verdict (l : ExportList) (name : String) : MergeReport :=
  match ExportName.fault? name with
  | some fault => ⟨[], [], [(name, fault.message)]⟩
  | none => if name ∈ l.names then ⟨[], [name], []⟩ else ⟨[name], [], []⟩

/-- The list after one offered name. -/
def offer (l : ExportList) (name : String) : ExportList :=
  if ExportName.isValid name then l.push name else l

/-- Offers names one after another. -/
def merge (l : ExportList) : List String → MergeReport × ExportList
  | [] => (.empty, l)
  | name :: names =>
    let (report, l') := (l.offer name).merge names
    (l.verdict name ++ report, l')

theorem names_push (l : ExportList) (name : String) :
    (l.push name).names = if name ∈ l.names then l.names else l.names ++ [name] := by
  unfold push
  split <;> simp_all

/-- New names go last, in their order. -/
theorem names_foldl_push {l : ExportList} {names : List String} (h : (l.names ++ names).Nodup) :
    (names.foldl push l).names = l.names ++ names := by
  induction names generalizing l with
  | nil => exact (List.append_nil _).symm
  | cons name names ih =>
    have hname : name ∉ l.names := fun hmem =>
      (List.nodup_append.mp h).2.2 name hmem name List.mem_cons_self rfl
    have hpush : (l.push name).names = l.names ++ [name] :=
      (names_push ..).trans (if_neg hname)
    have hrest := ih (l := l.push name) (by
      rw [hpush, List.append_assoc]
      exact h)
    rw [hpush, List.append_assoc] at hrest
    exact hrest

/-- The list of the names of a list is the list. -/
theorem ofNames_names (l : ExportList) : ofNames l.names = l :=
  ExportList.ext ((names_foldl_push (l := empty) l.nodup).trans (List.nil_append _))

/-- An offer adds to the end what its verdict calls added. -/
theorem names_offer (l : ExportList) (name : String) :
    (l.offer name).names = l.names ++ (l.verdict name).added := by
  unfold offer verdict ExportName.isValid
  cases ExportName.fault? name with
  | some fault => simp
  | none =>
    by_cases h : name ∈ l.names <;> simp [names_push, h]

/-- A merge adds to the end what its report calls added. -/
theorem names_merge (l : ExportList) (names : List String) :
    (l.merge names).2.names = l.names ++ (l.merge names).1.added := by
  induction names generalizing l with
  | nil => simp [merge, MergeReport.empty]
  | cons name names ih =>
    simp only [merge]
    rw [ih (l.offer name), names_offer]
    simp

end ExportList

end VizSession
