/-!
# Ordered maps

An `OrderedMap` lists its entries in the order in which their keys arrived. Writing
to a present key replaces the value where it stands, a new key goes last, and erasing
a key keeps the order of the others. No key is listed twice, which the type records.

Every operation is described through two views, the look-up `find?` and the list of
`keys` : `find?_insert`, `keys_insert`, `find?_erase`, `keys_erase`, `find?_modify`,
`keys_modify`, `find?_filter`. Two maps with the same entries are equal (`OrderedMap.ext`), and
so are two with the same views (`ext_views`).
-/

namespace VizSession

/-- A finite map whose entries are listed in the order in which their keys arrived. -/
@[ext]
structure OrderedMap (κ ν : Type) where
  /-- The entries, the key that arrived first at the head. -/
  entries : List (κ × ν)
  /-- No key is listed twice. -/
  nodup : (entries.map Prod.fst).Nodup

namespace OrderedMap

variable {κ ν : Type}

/-- The keys in order of arrival. -/
def keys (m : OrderedMap κ ν) : List κ := m.entries.map Prod.fst

/-- The values, in the order of their keys. -/
def values (m : OrderedMap κ ν) : List ν := m.entries.map Prod.snd

/-- How many keys the map holds. -/
def size (m : OrderedMap κ ν) : Nat := m.entries.length

/-- Whether the map holds no key. -/
def isEmpty (m : OrderedMap κ ν) : Bool := m.entries.isEmpty

/-- The map without entries. -/
def empty : OrderedMap κ ν := ⟨[], List.nodup_nil⟩

instance : EmptyCollection (OrderedMap κ ν) := ⟨empty⟩

instance : Inhabited (OrderedMap κ ν) := ⟨empty⟩

/-- Keeps the entries that pass the test, in their order. -/
def filter (p : κ → ν → Bool) (m : OrderedMap κ ν) : OrderedMap κ ν where
  entries := m.entries.filter fun e => p e.1 e.2
  nodup := m.nodup.sublist (List.filter_sublist.map _)

variable [DecidableEq κ]

/-! ## Looking up and writing -/

/-- The value listed under a key. -/
def lookup? (k : κ) : List (κ × ν) → Option ν
  | [] => none
  | (k', v) :: rest => if k' = k then some v else lookup? k rest

/-- Writes a value under a key : in place of the old one, or at the end. -/
def write (k : κ) (v : ν) : List (κ × ν) → List (κ × ν)
  | [] => [(k, v)]
  | (k', v') :: rest => if k' = k then (k', v) :: rest else (k', v') :: write k v rest

theorem map_fst_write (k : κ) (v : ν) (l : List (κ × ν)) :
    (write k v l).map Prod.fst =
      if k ∈ l.map Prod.fst then l.map Prod.fst else l.map Prod.fst ++ [k] := by
  induction l with
  | nil => simp [write]
  | cons e l ih =>
    obtain ⟨k', v'⟩ := e
    by_cases h : k' = k
    · simp [write, h]
    · have h' : k ≠ k' := fun e => h e.symm
      by_cases hk : k ∈ l.map Prod.fst
      · simp only [write, if_neg h, List.map_cons, ih, if_pos hk, List.mem_cons, h', false_or]
      · simp only [write, if_neg h, List.map_cons, ih, if_neg hk, List.mem_cons, h', false_or,
          List.cons_append]

theorem mem_map_fst_iff (k : κ) (l : List (κ × ν)) :
    k ∈ l.map Prod.fst ↔ (lookup? k l).isSome := by
  induction l with
  | nil => simp [lookup?]
  | cons e l ih =>
    obtain ⟨k', v⟩ := e
    by_cases h : k' = k
    · simp [lookup?, h]
    · have h' : k ≠ k' := fun e => h e.symm
      simp only [List.map_cons, List.mem_cons, h', false_or, lookup?, if_neg h, ih]

theorem lookup?_write (k j : κ) (v : ν) (l : List (κ × ν)) :
    lookup? j (write k v l) = if k = j then some v else lookup? j l := by
  induction l with
  | nil => simp [write, lookup?]
  | cons e l ih =>
    obtain ⟨k', v'⟩ := e
    by_cases h : k' = k
    · by_cases hj : k = j <;> simp [write, lookup?, h, hj]
    · by_cases hj : k' = j
      · subst hj
        have hkj : k ≠ k' := fun e => h e.symm
        simp [write, lookup?, h, hkj]
      · simp [write, lookup?, h, hj, ih]

theorem lookup?_filter_ne (k j : κ) (l : List (κ × ν)) :
    lookup? j (l.filter fun e => e.1 ≠ k) = if k = j then none else lookup? j l := by
  induction l with
  | nil => simp [lookup?]
  | cons e l ih =>
    obtain ⟨k', v⟩ := e
    by_cases h : k' = k
    · subst h
      by_cases hj : k' = j <;> simpa [lookup?, hj] using ih
    · by_cases hj : k' = j
      · subst hj
        have hkj : k ≠ k' := fun e => h e.symm
        simp [lookup?, h, hkj]
      · simpa [lookup?, h, hj] using ih

theorem lookup?_map_at (k j : κ) (f : ν → ν) (l : List (κ × ν)) :
    lookup? j (l.map fun e => (e.1, if e.1 = k then f e.2 else e.2)) =
      if k = j then (lookup? j l).map f else lookup? j l := by
  induction l with
  | nil => simp [lookup?]
  | cons e l ih =>
    obtain ⟨k', v⟩ := e
    by_cases hj : k' = j
    · subst hj
      by_cases h : k' = k
      · simp [lookup?, h]
      · have h' : k ≠ k' := fun e => h e.symm
        simp [lookup?, h, h']
    · simpa [lookup?, hj] using ih

/-- The value under a key, if the map holds the key. -/
def find? (m : OrderedMap κ ν) (k : κ) : Option ν := lookup? k m.entries

/-- Whether the map holds a key. -/
def contains (m : OrderedMap κ ν) (k : κ) : Bool := (m.find? k).isSome

/-- Writes a value under a key : a present key keeps its place, a new one goes last. -/
def insert (m : OrderedMap κ ν) (k : κ) (v : ν) : OrderedMap κ ν where
  entries := write k v m.entries
  nodup := by
    rw [map_fst_write]
    split
    · exact m.nodup
    · rename_i h
      rw [List.nodup_append]
      refine ⟨m.nodup, by simp, fun a ha b hb => ?_⟩
      rw [List.mem_singleton.mp hb]
      exact fun e => h (e ▸ ha)

/-- Removes a key; the other entries keep their order. -/
def erase (m : OrderedMap κ ν) (k : κ) : OrderedMap κ ν := m.filter fun k' _ => k' ≠ k

/-- Applies a function to the value under a key, if the map holds the key. -/
def modify (m : OrderedMap κ ν) (k : κ) (f : ν → ν) : OrderedMap κ ν where
  entries := m.entries.map fun e => (e.1, if e.1 = k then f e.2 else e.2)
  nodup := by simpa [List.map_map, Function.comp_def] using m.nodup

/-- Writes entries one after another, so the last value of a repeated key wins and its
first position stays. -/
def insertMany (m : OrderedMap κ ν) (l : List (κ × ν)) : OrderedMap κ ν :=
  l.foldl (fun m e => m.insert e.1 e.2) m

/-- The map of a list of entries, written one after another. -/
def ofList (l : List (κ × ν)) : OrderedMap κ ν := (empty : OrderedMap κ ν).insertMany l

/-! ## The two views of each operation -/

@[simp] theorem find?_empty (k : κ) : (∅ : OrderedMap κ ν).find? k = none := rfl

omit [DecidableEq κ] in
@[simp] theorem keys_empty : (∅ : OrderedMap κ ν).keys = [] := rfl

theorem mem_keys_iff {m : OrderedMap κ ν} {k : κ} : k ∈ m.keys ↔ (m.find? k).isSome :=
  mem_map_fst_iff k m.entries

theorem find?_eq_some_iff {m : OrderedMap κ ν} {k : κ} {v : ν} :
    m.find? k = some v ↔ (k, v) ∈ m.entries := by
  obtain ⟨l, hl⟩ := m
  unfold find?
  dsimp only
  induction l with
  | nil => simp [lookup?]
  | cons e l ih =>
    obtain ⟨k', v'⟩ := e
    have hcons := List.nodup_cons.mp hl
    by_cases h : k' = k
    · subst h
      have hk : (k', v) ∉ l := fun hmem => hcons.1 (List.mem_map.mpr ⟨_, hmem, rfl⟩)
      simp [lookup?, hk, eq_comm]
    · have h' : k ≠ k' := fun e => h e.symm
      simp [lookup?, h, h', ih hcons.2]

theorem find?_insert (m : OrderedMap κ ν) (k j : κ) (v : ν) :
    (m.insert k v).find? j = if k = j then some v else m.find? j :=
  lookup?_write k j v m.entries

/-- What is found after entries were written was there before, or is one of them. -/
theorem mem_of_find?_insertMany {m : OrderedMap κ ν} {l : List (κ × ν)} {k : κ} {v : ν}
    (h : (m.insertMany l).find? k = some v) : m.find? k = some v ∨ (k, v) ∈ l := by
  induction l generalizing m with
  | nil => exact Or.inl h
  | cons e l ih =>
    rcases ih (m := m.insert e.1 e.2) h with hm | hl
    · rw [find?_insert] at hm
      split at hm
      · rename_i hk
        obtain rfl := hk
        obtain rfl := Option.some.inj hm
        exact Or.inr (List.mem_cons_self ..)
      · exact Or.inl hm
    · exact Or.inr (List.mem_cons_of_mem _ hl)

theorem mem_of_find?_ofList {l : List (κ × ν)} {k : κ} {v : ν}
    (h : (ofList l).find? k = some v) : (k, v) ∈ l := by
  rcases mem_of_find?_insertMany h with hm | hl
  · cases hm
  · exact hl

theorem keys_insert (m : OrderedMap κ ν) (k : κ) (v : ν) :
    (m.insert k v).keys = if k ∈ m.keys then m.keys else m.keys ++ [k] :=
  map_fst_write k v m.entries

theorem mem_keys_insert {m : OrderedMap κ ν} {k j : κ} {v : ν} :
    j ∈ (m.insert k v).keys ↔ j ∈ m.keys ∨ j = k := by
  rw [keys_insert]
  split
  · rename_i h
    constructor
    · exact Or.inl
    · rintro (hj | rfl)
      · exact hj
      · exact h
  · simp

theorem mem_keys_insertMany {m : OrderedMap κ ν} {l : List (κ × ν)} {k : κ} :
    k ∈ (m.insertMany l).keys ↔ k ∈ m.keys ∨ k ∈ l.map Prod.fst := by
  induction l generalizing m with
  | nil => simp [insertMany]
  | cons e l ih =>
    have hstep : k ∈ (m.insertMany (e :: l)).keys ↔
        k ∈ (m.insert e.1 e.2).keys ∨ k ∈ l.map Prod.fst := ih
    rw [hstep, mem_keys_insert, List.map_cons, List.mem_cons, or_assoc]

theorem find?_erase (m : OrderedMap κ ν) (k j : κ) :
    (m.erase k).find? j = if k = j then none else m.find? j :=
  lookup?_filter_ne k j m.entries

theorem keys_erase (m : OrderedMap κ ν) (k : κ) :
    (m.erase k).keys = m.keys.filter (· ≠ k) := by
  simp [erase, filter, keys, List.filter_map, Function.comp_def]

theorem mem_keys_erase {m : OrderedMap κ ν} {k j : κ} :
    j ∈ (m.erase k).keys ↔ j ∈ m.keys ∧ j ≠ k := by
  simp [keys_erase]

theorem find?_foldl_erase (m : OrderedMap κ ν) (ks : List κ) (j : κ) :
    (ks.foldl erase m).find? j = if j ∈ ks then none else m.find? j := by
  induction ks generalizing m with
  | nil => simp
  | cons k ks ih =>
    rw [List.foldl_cons, ih, find?_erase]
    by_cases hj : j ∈ ks
    · simp [hj]
    · by_cases hk : k = j
      · simp [hk]
      · have hk' : j ≠ k := fun e => hk e.symm
        simp [hj, hk, hk']

theorem find?_filter (m : OrderedMap κ ν) (p : κ → ν → Bool) (k : κ) :
    (m.filter p).find? k = (m.find? k).filter (p k) := by
  apply Option.ext
  intro v
  rw [find?_eq_some_iff, Option.filter_eq_some_iff, find?_eq_some_iff]
  simp [filter]

theorem find?_modify (m : OrderedMap κ ν) (k j : κ) (f : ν → ν) :
    (m.modify k f).find? j = if k = j then (m.find? j).map f else m.find? j :=
  lookup?_map_at k j f m.entries

@[simp] theorem keys_modify (m : OrderedMap κ ν) (k : κ) (f : ν → ν) :
    (m.modify k f).keys = m.keys := by
  simp [modify, keys, List.map_map, Function.comp_def]

omit [DecidableEq κ] in
theorem keys_filter (m : OrderedMap κ ν) (q : κ → Bool) :
    (m.filter fun k _ => q k).keys = m.keys.filter q := by
  simp [filter, keys, List.filter_map, Function.comp_def]

/-! ## Entries at the end -/

/-- A new key goes last. -/
theorem entries_insert_of_find?_eq_none {m : OrderedMap κ ν} {k : κ} (h : m.find? k = none)
    (v : ν) : (m.insert k v).entries = m.entries ++ [(k, v)] := by
  have hwrite : ∀ l : List (κ × ν), lookup? k l = none → write k v l = l ++ [(k, v)] := by
    intro l
    induction l with
    | nil => intro _; rfl
    | cons e l ih =>
      obtain ⟨k', v'⟩ := e
      intro hl
      by_cases hk : k' = k
      · simp [lookup?, hk] at hl
      · rw [lookup?, if_neg hk] at hl
        rw [write, if_neg hk, ih hl, List.cons_append]
  exact hwrite m.entries h

theorem entries_insert_of_not_mem {m : OrderedMap κ ν} {k : κ} (h : k ∉ m.keys) (v : ν) :
    (m.insert k v).entries = m.entries ++ [(k, v)] := by
  rw [mem_keys_iff, Option.not_isSome_iff_eq_none] at h
  exact entries_insert_of_find?_eq_none h v

/-- New keys go last, in their order. -/
theorem entries_insertMany_of_nodup {m : OrderedMap κ ν} {l : List (κ × ν)}
    (h : (m.keys ++ l.map Prod.fst).Nodup) : (m.insertMany l).entries = m.entries ++ l := by
  induction l generalizing m with
  | nil => exact (List.append_nil _).symm
  | cons e l ih =>
    obtain ⟨k, v⟩ := e
    have hk : k ∉ m.keys := fun hmem =>
      (List.nodup_append.mp h).2.2 k hmem k List.mem_cons_self rfl
    have hnone : m.find? k = none := by
      rw [mem_keys_iff, Option.not_isSome_iff_eq_none] at hk
      exact hk
    have hkeys : (m.insert k v).keys = m.keys ++ [k] := (keys_insert ..).trans (if_neg hk)
    have hrest := ih (m := m.insert k v) (by
      rw [hkeys, List.append_assoc]
      exact h)
    rw [entries_insert_of_find?_eq_none hnone, List.append_assoc] at hrest
    exact hrest

theorem entries_ofList {l : List (κ × ν)} (h : (l.map Prod.fst).Nodup) : (ofList l).entries = l :=
  (entries_insertMany_of_nodup (m := empty) h).trans (List.nil_append _)

/-- The map of the entries of a map is the map. -/
theorem ofList_entries (m : OrderedMap κ ν) : ofList m.entries = m :=
  OrderedMap.ext (entries_ofList m.nodup)

/-! ## Equal maps -/

/-- The two views tell a map. -/
theorem ext_views {m m' : OrderedMap κ ν} (hkeys : m.keys = m'.keys)
    (hfind : ∀ k, m.find? k = m'.find? k) : m = m' := by
  have hlength : m.entries.length = m'.entries.length := by
    simpa [keys] using congrArg List.length hkeys
  refine OrderedMap.ext (List.ext_getElem hlength fun i hi hi' => ?_)
  have hkey : (m.entries[i]).1 = (m'.entries[i]).1 := by
    have h : m.keys[i]? = m'.keys[i]? := by rw [hkeys]
    simpa [keys, hi, hi'] using h
  have hvalue : m'.find? (m'.entries[i]).1 = some (m.entries[i]).2 := by
    rw [← hfind, ← hkey]
    exact find?_eq_some_iff.mpr (List.getElem_mem hi)
  have hvalue' : m'.find? (m'.entries[i]).1 = some (m'.entries[i]).2 :=
    find?_eq_some_iff.mpr (List.getElem_mem hi')
  exact Prod.ext hkey (Option.some.inj (hvalue.symm.trans hvalue'))

theorem insert_insert (m : OrderedMap κ ν) (k : κ) (v w : ν) :
    (m.insert k v).insert k w = m.insert k w := by
  refine ext_views ?_ fun j => ?_
  · rw [keys_insert, if_pos (mem_keys_insert.mpr (Or.inr rfl)), keys_insert, keys_insert]
  · simp only [find?_insert]
    split <;> rfl

/-- To write what is there changes nothing. -/
theorem insert_of_find? {m : OrderedMap κ ν} {k : κ} {v : ν} (h : m.find? k = some v) :
    m.insert k v = m := by
  refine ext_views ?_ fun j => ?_
  · rw [keys_insert, if_pos (mem_keys_iff.mpr (Option.isSome_of_eq_some h))]
  · rw [find?_insert]
    split
    · rename_i hj
      rw [← hj, h]
    · rfl

/-- To change the value of a key is to write the changed value. -/
theorem modify_eq_insert {m : OrderedMap κ ν} {k : κ} {v : ν}
    (h : m.find? k = some v) (f : ν → ν) : m.modify k f = m.insert k (f v) := by
  refine ext_views ?_ fun j => ?_
  · rw [keys_modify, keys_insert, if_pos (mem_keys_iff.mpr (Option.isSome_of_eq_some h))]
  · rw [find?_modify, find?_insert]
    split
    · rename_i hj
      rw [← hj, h, Option.map_some]
    · rfl

/-- A present key is written where it stands. -/
theorem entries_insert_of_mem {m : OrderedMap κ ν} {k : κ} (h : k ∈ m.keys) (v : ν) :
    (m.insert k v).entries = m.entries.map fun e => if e.1 = k then (k, v) else e := by
  obtain ⟨w, hw⟩ := Option.isSome_iff_exists.mp (mem_keys_iff.mp h)
  rw [← modify_eq_insert hw fun _ => v]
  refine List.map_congr_left fun e _ => ?_
  by_cases he : e.1 = k
  · simp [he]
  · simp [he]

/-- A write under a key that passes a test can be made before or after the test. -/
theorem filter_insert_pos (m : OrderedMap κ ν) {q : κ → Bool} {k : κ} (hq : q k = true) (v : ν) :
    (m.insert k v).filter (fun j _ => q j) = (m.filter fun j _ => q j).insert k v := by
  refine ext_views ?_ fun j => ?_
  · rw [keys_filter, keys_insert, keys_insert, keys_filter]
    by_cases hk : k ∈ m.keys
    · rw [if_pos hk, if_pos (List.mem_filter.mpr ⟨hk, hq⟩)]
    · rw [if_neg hk, if_neg fun h => hk (List.mem_filter.mp h).1]
      simp [hq]
  · rw [find?_filter, find?_insert, find?_insert, find?_filter]
    split
    · rename_i hj
      simp [← hj, hq]
    · rfl

/-- A write under a key that does not pass a test leaves no trace after the test. -/
theorem filter_insert_neg (m : OrderedMap κ ν) {q : κ → Bool} {k : κ} (hq : q k = false) (v : ν) :
    (m.insert k v).filter (fun j _ => q j) = m.filter fun j _ => q j := by
  refine ext_views ?_ fun j => ?_
  · rw [keys_filter, keys_filter, keys_insert]
    split
    · rfl
    · simp [hq]
  · rw [find?_filter, find?_filter, find?_insert]
    split
    · rename_i hj
      cases m.find? j <;> simp [← hj, hq, Option.filter]
    · rfl

/-- What is found under a key after entries were written depends on what stood under it before
only, and if the key is among those written, on nothing. -/
theorem find?_insertMany_congr {m n : OrderedMap κ ν} {l : List (κ × ν)} {k : κ}
    (h : m.find? k = n.find? k ∨ k ∈ l.map Prod.fst) :
    (m.insertMany l).find? k = (n.insertMany l).find? k := by
  induction l generalizing m n with
  | nil => exact h.resolve_right List.not_mem_nil
  | cons e l ih =>
    refine ih (m := m.insert e.1 e.2) (n := n.insert e.1 e.2) ?_
    rw [find?_insert, find?_insert]
    by_cases he : e.1 = k
    · exact Or.inl (by rw [if_pos he, if_pos he])
    · rw [if_neg he, if_neg he]
      exact h.imp_right fun hk => (List.mem_cons.mp hk).resolve_left (Ne.symm he)

theorem find?_insertMany_of_not_mem {m : OrderedMap κ ν} {l : List (κ × ν)} {k : κ}
    (h : k ∉ l.map Prod.fst) : (m.insertMany l).find? k = m.find? k := by
  induction l generalizing m with
  | nil => rfl
  | cons e l ih =>
    rw [List.map_cons, List.mem_cons, not_or] at h
    exact (ih (m := m.insert e.1 e.2) h.2).trans
      ((find?_insert ..).trans (if_neg (Ne.symm h.1)))

/-- What is written last counts. -/
theorem find?_insertMany_entries (m n : OrderedMap κ ν) (k : κ) :
    (m.insertMany n.entries).find? k = (n.find? k).or (m.find? k) := by
  have hkeys : k ∈ n.entries.map Prod.fst ↔ (n.find? k).isSome := mem_keys_iff
  cases hn : n.find? k with
  | none =>
    rw [hn] at hkeys
    rw [find?_insertMany_of_not_mem (by simpa using hkeys), Option.none_or]
  | some v =>
    have hk : k ∈ n.entries.map Prod.fst := hkeys.mpr (Option.isSome_of_eq_some hn)
    have hempty : (m.insertMany n.entries).find? k = (ofList n.entries).find? k :=
      find?_insertMany_congr (Or.inr hk)
    rw [hempty, ofList_entries, hn, Option.some_or]

/-- Entries whose keys are there are written in place. -/
theorem keys_insertMany_of_mem {m : OrderedMap κ ν} {l : List (κ × ν)}
    (h : ∀ k ∈ l.map Prod.fst, k ∈ m.keys) : (m.insertMany l).keys = m.keys := by
  induction l generalizing m with
  | nil => rfl
  | cons e l ih =>
    have hkeys : (m.insert e.1 e.2).keys = m.keys :=
      (keys_insert ..).trans (if_pos (h e.1 List.mem_cons_self))
    have hrest := ih (m := m.insert e.1 e.2) fun k hk => by
      rw [hkeys]
      exact h k (List.mem_cons_of_mem _ hk)
    exact hrest.trans hkeys

/-- Writing entries a second time changes nothing, repeated keys included. -/
theorem insertMany_insertMany (m : OrderedMap κ ν) (l : List (κ × ν)) :
    (m.insertMany l).insertMany l = m.insertMany l := by
  refine ext_views (keys_insertMany_of_mem fun k hk => mem_keys_insertMany.mpr (Or.inr hk))
    fun k => find?_insertMany_congr ?_
  by_cases hk : k ∈ l.map Prod.fst
  · exact Or.inr hk
  · exact Or.inl (find?_insertMany_of_not_mem hk)

end OrderedMap

end VizSession
