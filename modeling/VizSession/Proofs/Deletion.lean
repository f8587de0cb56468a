import VizSession.Proofs.Additions

/-!
# What a deletion takes

A deletion succeeds exactly if the connection of the handle is alive and holds the number of
the handle, and one that is refused changes nothing (`Engine.delete_stored`,
`Engine.delete_refused`). What goes is said beside the code by `Store.Takes` : the object, the
camera that is linked to it, and what the table has for a pair with the object as source or as
view. `Store.Deleted` says that exactly this is gone, the rest being listed as before; no two
stores can be what is left of one (`Deleted.eq`), so this tells the removal (`deleted_iff`).

The table of representations stands for one without an order. Two engines that list their
tables in another order (`Engine.Alike`) answer a deletion alike, and are alike after it
(`Alike.delete`) : the representations that go are the same whatever is scanned first, and the
order in which they are erased shows nowhere.

All this holds in every state and for every handle (`Engine.deletes_exactly`).
-/

namespace VizSession

namespace OrderedMap

variable {κ ν : Type}

/-- What is left of a map is told by the entries that are left. -/
theorem eq_of_sublist {l m n : OrderedMap κ ν} (hl : l.entries.Sublist n.entries)
    (hm : m.entries.Sublist n.entries) (hmem : ∀ p, p ∈ l.entries ↔ p ∈ m.entries) : l = m := by
  refine OrderedMap.ext ((n.nodup.of_map.perm_iff_eq_of_sublist hl hm).mp ?_)
  exact (List.perm_ext_iff_of_nodup l.nodup.of_map m.nodup.of_map).mpr hmem

end OrderedMap

namespace Store

/-! ## What goes with an object -/

/-- The objects that go when an object is deleted. -/
inductive Takes (s : Store) (id : UInt64) : UInt64 → Prop where
  /-- The object itself. -/
  | self : Takes s id id
  /-- The camera that is linked to it. -/
  | camera {r : Record} {k : UInt64} (hr : s.record? id = some r) (hk : r.camera = some k) :
      Takes s id k
  /-- What the table has for a pair with the object as source. -/
  | source {view k : UInt64} (hk : s.representations.find? (id, view) = some k) : Takes s id k
  /-- What the table has for a pair with the object as view. -/
  | view {source k : UInt64} (hk : s.representations.find? (source, id) = some k) : Takes s id k

/-- The store `s'` is what a deletion of the object `id` leaves of the store `s`. Objects are
compared with their handles, names, properties and cameras. -/
structure Deleted (s : Store) (id : UInt64) (s' : Store) : Prop where
  /-- The objects that stay keep their order. -/
  records : s'.records.entries.Sublist s.records.entries
  /-- Those stay, as they were, that do not go with the object. -/
  mem_records : ∀ k r, (k, r) ∈ s'.records.entries ↔ (k, r) ∈ s.records.entries ∧ ¬s.Takes id k
  /-- The pairs that stay keep their order. -/
  representations : s'.representations.entries.Sublist s.representations.entries
  /-- Those stay that do not have the object as source or as view. -/
  mem_representations : ∀ source view k, ((source, view), k) ∈ s'.representations.entries ↔
    ((source, view), k) ∈ s.representations.entries ∧ source ≠ id ∧ view ≠ id
  /-- The names that were generated stay counted. -/
  counters : s'.counters = s.counters

/-- The stores are the same but for the order in which their tables are listed. -/
structure Alike (s t : Store) : Prop where
  /-- The objects are the same, in the same order. -/
  records : t.records = s.records
  /-- The tables have the same entries. -/
  representations : t.representations.entries.Perm s.representations.entries
  /-- The counters are the same. -/
  counters : t.counters = s.counters

variable {s s' t t' : Store} {id k : UInt64}

theorem involves_iff {pair : UInt64 × UInt64} :
    involves id pair = true ↔ pair.1 = id ∨ pair.2 = id := by
  simp [involves]

/-- What goes is the object and what the removal finds to go along. -/
theorem takes_iff : s.Takes id k ↔ k ∈ id :: s.attendants id := by
  rw [List.mem_cons, mem_attendants]
  constructor
  · rintro (_ | ⟨hr, hk⟩ | hk | hk)
    · exact Or.inl rfl
    · exact Or.inr (Or.inl ⟨_, hr, hk⟩)
    · exact Or.inr (Or.inr ⟨_, hk, involves_iff.mpr (Or.inl rfl)⟩)
    · exact Or.inr (Or.inr ⟨_, hk, involves_iff.mpr (Or.inr rfl)⟩)
  · rintro (rfl | ⟨r, hr, hk⟩ | ⟨⟨source, view⟩, hk, hpair⟩)
    · exact .self
    · exact .camera hr hk
    · rcases involves_iff.mp hpair with rfl | rfl
      · exact .source hk
      · exact .view hk

/-! ## What is left -/

/-- The removal leaves what it should : the entries are erased one after another, which comes to
filtering them, and the table is filtered as it is. -/
theorem deleted_remove (s : Store) (id : UInt64) : s.Deleted id (s.remove id) := by
  have hrecords : (s.remove id).records.entries =
      s.records.entries.filter fun p => p.1 ∉ id :: s.attendants id :=
    OrderedMap.entries_foldl_erase s.records (id :: s.attendants id)
  have htable : (s.remove id).representations.entries =
      s.representations.entries.filter fun p => !involves id p.1 := rfl
  constructor
  case records =>
    rw [hrecords]
    exact List.filter_sublist
  case mem_records =>
    intro k r
    rw [hrecords, List.mem_filter, takes_iff, decide_eq_true_iff]
  case representations =>
    rw [htable]
    exact List.filter_sublist
  case mem_representations =>
    intro source view k
    rw [htable, List.mem_filter]
    simp [involves]
  case counters => rfl

/-- A store has one remainder. -/
theorem Deleted.eq (h : s.Deleted id s') (h' : s.Deleted id t') : s' = t' := by
  have hrecords : s'.records = t'.records :=
    OrderedMap.eq_of_sublist h.records h'.records fun p =>
      (h.mem_records p.1 p.2).trans (h'.mem_records p.1 p.2).symm
  have htable : s'.representations = t'.representations :=
    OrderedMap.eq_of_sublist h.representations h'.representations fun p =>
      (h.mem_representations p.1.1 p.1.2 p.2).trans
        (h'.mem_representations p.1.1 p.1.2 p.2).symm
  have hcounters : s'.counters = t'.counters := h.counters.trans h'.counters.symm
  cases s'
  cases t'
  cases hrecords
  cases htable
  cases hcounters
  rfl

/-- So what is said about the remainder tells the removal. -/
theorem deleted_iff : s.Deleted id s' ↔ s' = s.remove id := by
  refine ⟨fun h => h.eq (deleted_remove s id), ?_⟩
  rintro rfl
  exact deleted_remove s id

/-! ## The order of the table -/

theorem Alike.find? (h : Alike s t) (pair : UInt64 × UInt64) :
    t.representations.find? pair = s.representations.find? pair := by
  refine Option.ext fun k => ?_
  rw [OrderedMap.find?_eq_some_iff, OrderedMap.find?_eq_some_iff, h.representations.mem_iff]

theorem Alike.takes_iff (h : Alike s t) : t.Takes id k ↔ s.Takes id k := by
  simp only [Store.takes_iff, List.mem_cons, mem_attendants, record?, h.records, h.find?]

/-- What is left of tables in another order are tables in another order, of the same objects. -/
theorem Alike.deleted (h : Alike s t) (hs : s.Deleted id s') (ht : t.Deleted id t') :
    Alike s' t' where
  records := by
    refine OrderedMap.eq_of_sublist (n := s.records) (h.records ▸ ht.records) hs.records fun p => ?_
    rw [← Prod.eta p, ht.mem_records, hs.mem_records, h.records, h.takes_iff]
  representations := by
    refine (List.perm_ext_iff_of_nodup t'.representations.nodup.of_map
      s'.representations.nodup.of_map).mpr fun ⟨⟨source, view⟩, k⟩ => ?_
    rw [ht.mem_representations, hs.mem_representations, h.representations.mem_iff]
  counters := ht.counters.trans (h.counters.trans hs.counters.symm)

end Store

namespace Engine

variable {e f : Engine} {h : Handle}

/-! ## Deletions -/

/-- The connection of the handle is alive and holds the number of the handle. -/
def Holds (e : Engine) (h : Handle) : Prop :=
  ∃ s, e.connections.find? h.connection = some s ∧ h.id ∈ s.records.keys

/-- The engines are the same but for the order in which their tables are listed. -/
structure Alike (e f : Engine) : Prop where
  /-- The connections are the same. -/
  keys : f.connections.keys = e.connections.keys
  /-- Their stores are the same, but for the order of the tables. -/
  stores : ∀ c, Option.Rel Store.Alike (e.connections.find? c) (f.connections.find? c)
  /-- There is no other difference. -/
  rest : { f with connections := e.connections } = e

/-- What is left takes the place of what was there. -/
theorem delete_stored {s : Store} (hs : e.connections.find? h.connection = some s)
    (hid : h.id ∈ s.records.keys) : delete h e =
      (.ok (), { e with connections := e.connections.insert h.connection (s.remove h.id) }) := by
  obtain ⟨r, hr⟩ := Option.isSome_iff_exists.mp (OrderedMap.mem_keys_iff.mp hid)
  have hobject : e.object? h.connection h.id = some r := Option.bind_eq_some_iff.mpr ⟨s, hs, hr⟩
  rw [delete_eq hobject, updateStore, OrderedMap.modify_eq_insert hs]

/-- A connection that is not alive is reported before an object that is not there. -/
theorem delete_refused (hh : ¬e.Holds h) : delete h e =
    (.error (if e.isAlive h.connection then .proxyNotFound h.id
      else .unknownConnection h.connection), e) := by
  cases hs : e.connections.find? h.connection with
  | none => simp [delete, record, store, isAlive, OrderedMap.contains, hs, bind, Except.bind]
  | some s =>
    have hr : s.record? h.id = none := by
      have hkeys : h.id ∉ s.records.keys := fun hid => hh ⟨s, hs, hid⟩
      rwa [OrderedMap.mem_keys_iff, Option.not_isSome_iff_eq_none] at hkeys
    simp [delete, record, store, isAlive, OrderedMap.contains, hs, hr, bind, Except.bind]

theorem Alike.exists_store (ha : Alike e f) {c : ConnectionId} {s : Store}
    (hs : e.connections.find? c = some s) :
    ∃ t, f.connections.find? c = some t ∧ Store.Alike s t := by
  have hrel := ha.stores c
  rw [hs] at hrel
  generalize f.connections.find? c = found at hrel ⊢
  cases hrel with
  | some hst => exact ⟨_, rfl, hst⟩

theorem Alike.isAlive (ha : Alike e f) (c : ConnectionId) : f.isAlive c = e.isAlive c := by
  rw [Bool.eq_iff_iff, isAlive_iff_mem, isAlive_iff_mem, ha.keys]

theorem Alike.holds (ha : Alike e f) (hh : f.Holds h) : e.Holds h := by
  obtain ⟨t, ht, hid⟩ := hh
  obtain ⟨s, hs⟩ := isAlive_iff.mp ((ha.isAlive h.connection).symm.trans (isAlive_iff.mpr ⟨t, ht⟩))
  obtain ⟨t', ht', hst⟩ := ha.exists_store hs
  obtain rfl : t = t' := Option.some.inj (ht.symm.trans ht')
  exact ⟨s, hs, hst.records ▸ hid⟩

/-- The order of the tables shows neither in the answer of a deletion nor in what is left. -/
theorem Alike.delete (ha : Alike e f) (h : Handle) :
    (Engine.delete h f).1 = (Engine.delete h e).1 ∧
      Alike (Engine.delete h e).2 (Engine.delete h f).2 := by
  by_cases hh : e.Holds h
  · -- both have the object, in stores that list one table in two orders
    obtain ⟨s, hs, hid⟩ := hh
    obtain ⟨t, ht, hst⟩ := ha.exists_store hs
    rw [delete_stored hs hid, delete_stored ht (by rwa [hst.records])]
    refine ⟨rfl, ?_, fun c => ?_, ?_⟩
    · simp only [OrderedMap.keys_insert, ha.keys]
    · simp only [OrderedMap.find?_insert]
      split
      · exact .some (hst.deleted (s.deleted_remove h.id) (t.deleted_remove h.id))
      · exact ha.stores c
    · exact congrArg (fun g : Engine =>
        { g with connections := e.connections.insert h.connection (s.remove h.id) }) ha.rest
  · rw [delete_refused hh, delete_refused fun hf => hh (ha.holds hf), ha.isAlive]
    exact ⟨rfl, ha⟩

/-- A deletion succeeds exactly if there is something to delete, and takes exactly what is to
go. -/
structure DeletesExactly (e : Engine) (h : Handle) : Prop where
  /-- A deletion succeeds exactly if the connection of the handle is alive and holds its
  number. -/
  succeeds_iff : (Engine.delete h e).1 = .ok () ↔ e.Holds h
  /-- Then nothing differs but the store of that connection, in which nothing is missing but
  what goes with the object. -/
  removes : ∀ s, e.connections.find? h.connection = some s → h.id ∈ s.records.keys →
    ∃ s', s.Deleted h.id s' ∧
      (Engine.delete h e).2 = { e with connections := e.connections.insert h.connection s' }
  /-- A deletion that fails changes nothing; the connection is missed before the object. -/
  refused : ∀ fault, (Engine.delete h e).1 = .error fault → (Engine.delete h e).2 = e ∧
    fault = if e.isAlive h.connection then .proxyNotFound h.id
      else .unknownConnection h.connection
  /-- The order in which tables are listed shows neither in the answer nor in what is left. -/
  alike : ∀ f, Alike e f → (Engine.delete h f).1 = (Engine.delete h e).1 ∧
    Alike (Engine.delete h e).2 (Engine.delete h f).2

/-- In every state and with every handle, issued or not, a deletion is exact. -/
theorem deletes_exactly (e : Engine) (h : Handle) : e.DeletesExactly h where
  succeeds_iff := by
    refine ⟨fun hok => ?_, fun ⟨s, hs, hid⟩ => by rw [delete_stored hs hid]⟩
    by_contra hh
    rw [delete_refused hh] at hok
    cases hok
  removes := fun s hs hid => ⟨s.remove h.id, s.deleted_remove h.id, by rw [delete_stored hs hid]⟩
  refused := by
    intro fault hfault
    by_cases hh : e.Holds h
    · obtain ⟨s, hs, hid⟩ := hh
      rw [delete_stored hs hid] at hfault
      cases hfault
    · rw [delete_refused hh] at hfault ⊢
      exact ⟨rfl, (Except.error.inj hfault).symm⟩
  alike := fun _ ha => ha.delete h

end Engine

end VizSession
