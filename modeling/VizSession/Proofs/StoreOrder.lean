import VizSession.Proofs.Creations
import VizSession.Proofs.Isolation
import Mathlib.Data.List.Find
import Mathlib.Data.List.Sort

/-!
# Objects in the order of their creation

The objects of a connection are stored in the order in which they were made. One step of this is
one change : it brings at most the next number to a connection, at the end, and otherwise only
takes numbers away (`Change.numbers_sublist`). As all numbers given out are below the next one,
they increase along every connection (`Increasing.change`), next to what was known before : objects
are stored under their own handles, no number is used on two connections, and the two counters
bound all numbers. `Engine.Sound` puts these together, `sound_of_reachable` is the invariant.

What is made increases over a whole run as well (`pairwise_creations`), since one operation makes
objects on one connection only (`Op.addresses_of_mem_newObjects`). So what `list` says is part of
the sequence of creations, in that order (`sublist_creations`). That `list` and `find?` tell exactly
what is there (`Engine.Lists`) needs the invariant only.
-/

namespace VizSession

/-! ## Numbers in a store -/

namespace OrderedMap

variable {κ ν : Type} [DecidableEq κ]

theorem keys_foldl_erase_sublist (m : OrderedMap κ ν) (ks : List κ) :
    (ks.foldl erase m).keys.Sublist m.keys := by
  induction ks generalizing m with
  | nil => exact .refl _
  | cons k ks ih =>
    refine (ih (m.erase k)).trans ?_
    rw [keys_erase]
    exact List.filter_sublist

end OrderedMap

namespace Store

variable (s : Store)

theorem keys_add (h : Handle) (label : String) (ps : Properties) :
    (s.add h label ps).records.keys.Sublist (s.records.keys ++ [h.id]) := by
  simp only [add, OrderedMap.keys_insert]
  split
  · exact List.sublist_append_left ..
  · exact .refl _

@[simp] theorem keys_linkCamera (owner camera : UInt64) :
    (s.linkCamera owner camera).records.keys = s.records.keys := by simp [linkCamera]

@[simp] theorem keys_rename (id : UInt64) (name : String) :
    (s.rename id name).records.keys = s.records.keys := by simp [rename]

@[simp] theorem keys_write (id : UInt64) (ps : Properties) :
    (s.write id ps).records.keys = s.records.keys := by simp [write]

@[simp] theorem keys_represent (source view representation : UInt64) :
    (s.represent source view representation).records.keys = s.records.keys := rfl

theorem keys_remove (id : UInt64) : (s.remove id).records.keys.Sublist s.records.keys :=
  s.records.keys_foldl_erase_sublist (id :: s.attendants id)

end Store

namespace Engine

variable {e e' : Engine}

/-! ## Numbers on a connection -/

/-- The numbers of the objects on a connection, as they are stored. -/
def numbers (e : Engine) (c : ConnectionId) : List UInt64 :=
  ((e.connections.find? c).map fun s => s.records.keys).getD []

theorem mem_numbers {c : ConnectionId} {id : UInt64} :
    id ∈ e.numbers c ↔ ∃ r, e.object? c id = some r := by
  unfold numbers object? Store.record?
  cases e.connections.find? c with
  | none => simp
  | some s => simp [OrderedMap.mem_keys_iff, Option.isSome_iff_exists]

theorem nodup_numbers (e : Engine) (c : ConnectionId) : (e.numbers c).Nodup := by
  unfold numbers
  cases e.connections.find? c with
  | none => exact List.nodup_nil
  | some s => exact s.records.nodup

theorem numbers_congr {c : ConnectionId} (h : e'.connections.find? c = e.connections.find? c) :
    e'.numbers c = e.numbers c := by
  unfold numbers
  rw [h]

/-- What a write does to the numbers of each store it does to those of the connection. -/
theorem numbers_updateStore {f : Store → Store} {R : List UInt64 → List UInt64 → Prop}
    (hsame : ∀ l, R l l) (hf : ∀ s, R (f s).records.keys s.records.keys) (e : Engine)
    (c c' : ConnectionId) : R ((e.updateStore c f).numbers c') (e.numbers c') := by
  unfold numbers
  rw [find?_updateStore]
  cases e.connections.find? c' with
  | none => simpa using hsame []
  | some s =>
    split
    · simpa using hf s
    · simpa using hsame _

theorem numbers_updateStore_of_eq {f : Store → Store}
    (hf : ∀ s, (f s).records.keys = s.records.keys) (e : Engine) (c c' : ConnectionId) :
    (e.updateStore c f).numbers c' = e.numbers c' :=
  numbers_updateStore (R := Eq) (fun _ => rfl) hf e c c'

theorem numbers_addObject (e : Engine) (c : ConnectionId) (d : Definition) (ps : Properties)
    (c' : ConnectionId) :
    ((e.addObject c d ps).numbers c').Sublist (e.numbers c' ++ [.ofNat e.nextObject]) :=
  numbers_updateStore
    (f := fun s => s.add (e.nextHandle c d) d.label (ps.fillDefaults d.properties))
    (R := fun l l' => l.Sublist (l' ++ [UInt64.ofNat e.nextObject]))
    (fun _ => List.sublist_append_left ..) (fun s => s.keys_add ..) e c c'

/-- A change brings at most the next number to a connection, behind those it has. -/
theorem Change.numbers_sublist (h : Change e e') (c : ConnectionId) :
    (e'.numbers c).Sublist (e.numbers c ++ [.ofNat e.nextObject]) := by
  have hless : (e'.numbers c).Sublist (e.numbers c) →
      (e'.numbers c).Sublist (e.numbers c ++ [.ofNat e.nextObject]) :=
    fun hsub => hsub.trans (List.sublist_append_left ..)
  have hsame : e'.numbers c = e.numbers c →
      (e'.numbers c).Sublist (e.numbers c ++ [.ofNat e.nextObject]) :=
    fun heq => hless (heq ▸ .refl _)
  cases h with
  | edit h =>
    cases h with
    | count | refuse | define => exact hsame rfl
    | @make c₀ d ps => exact numbers_addObject e c₀ d ps c
    | @equip c₀ owner r d =>
      rw [addCamera, numbers_updateStore_of_eq fun s => s.keys_linkCamera ..]
      exact numbers_addObject e c₀ d ∅ c
    | @represent source view r r' d =>
      rw [addRepresentation, numbers_updateStore_of_eq fun s => s.keys_represent ..]
      exact numbers_addObject e source.connection d _ c
    | rename => exact hsame (numbers_updateStore_of_eq (fun s => s.keys_rename ..) e _ c)
    | write => exact hsame (numbers_updateStore_of_eq (fun s => s.keys_write ..) e _ c)
    | display => exact hsame (numbers_updateStore_of_eq (fun s => s.keys_write ..) e _ c)
  | connect =>
    by_cases hc : e.nextConnectionId = c
    · refine hless ?_
      simp [numbers, withConnection, OrderedMap.find?_insert, hc, Store.empty]
    · exact hsame (numbers_congr ((OrderedMap.find?_insert ..).trans (if_neg hc)))
  | @disconnect c₀ =>
    by_cases hc : c₀ = c
    · refine hless ?_
      simp [numbers, without, OrderedMap.find?_erase, hc]
    · exact hsame (numbers_congr ((OrderedMap.find?_erase ..).trans (if_neg hc)))
  | remove =>
    exact hless (numbers_updateStore (fun _ => .refl _) (fun s => s.keys_remove ..) e _ c)

/-! ## The invariant -/

/-- Along every connection the numbers increase. -/
def Increasing (e : Engine) : Prop := ∀ c, (e.numbers c).Pairwise (· < ·)

theorem Increasing.change (hi : e.Increasing) (we : e.WellFormed) (h : Change e e')
    (hn : e.NumbersLeft) : e'.Increasing := by
  intro c
  refine List.Pairwise.sublist (h.numbers_sublist c) ?_
  simp only [List.pairwise_append, List.pairwise_singleton, List.mem_singleton, true_and]
  refine ⟨hi c, fun id hid next hnext => ?_⟩
  obtain ⟨r, hr⟩ := mem_numbers.mp hid
  rw [hnext, UInt64.lt_iff_toNat_lt, hn.toNat_nextObject]
  exact we.object_lt hr

/-- The engine keeps its objects in order : under their handles, by increasing numbers, each number
once, and below the counters. -/
structure Sound (e : Engine) : Prop where
  /-- An object is stored under the number of its handle, on the connection of its handle. -/
  keyed : e.Keyed
  /-- Along a connection numbers increase. -/
  increasing : e.Increasing
  /-- No number is on two connections. -/
  unshared : e.Unshared
  /-- The numbers of objects are below the next one. -/
  object_lt : ∀ {c id r}, e.object? c id = some r → id.toNat < e.nextObject
  /-- So are those of connections. -/
  connection_lt : ∀ {c}, e.isAlive c = true → c.raw.toNat < e.nextConnection

theorem sound_of_reachable (he : e.Reachable) (hn : e.NumbersLeft) : e.Sound := by
  have we := wellFormed_of_reachable he hn
  refine ⟨we.keyed, ?_, unshared_of_reachable he hn, we.object_lt, we.connection_lt⟩
  obtain ⟨catalog, ops, rfl⟩ := he
  exact (changes_run _ ops).keeps_of_wellFormed
    (fun _ _ we hn h (hi : Increasing _) => hi.change we h hn) (wellFormed_ofCatalog catalog) hn
    fun _ => List.Pairwise.nil

/-! ## Lists -/

section Lists

variable {c : ConnectionId} {s : Store}

theorem Keyed.map_id_values (hk : e.Keyed) (hs : e.connections.find? c = some s) :
    s.records.values.map (fun r => r.handle.id) = s.records.keys := by
  unfold OrderedMap.values OrderedMap.keys
  rw [List.map_map]
  refine List.map_congr_left fun p hp => ?_
  have hobject : e.object? c p.1 = some p.2 :=
    Option.bind_eq_some_iff.mpr ⟨s, hs, OrderedMap.find?_eq_some_iff.mpr hp⟩
  exact (hk c p.1 p.2 hobject).1

/-- The objects of a connection, as they are stored. -/
def records (e : Engine) (c : ConnectionId) : List Record :=
  ((e.connections.find? c).map fun s => s.records.values).getD []

theorem list_eq (e : Engine) (c : ConnectionId) (g : Group) :
    e.list c g = ((e.records c).filter fun r => r.handle.group = g).map Record.handle := by
  unfold list records
  cases e.connections.find? c <;> rfl

theorem find?_eq (e : Engine) (c : ConnectionId) (g : Group) (name : String) :
    e.find? c g name =
      (((e.records c).filter fun r => r.handle.group = g).find? fun r => r.name = name).map
        Record.handle := by
  unfold find? records
  cases e.connections.find? c <;> rfl

theorem Keyed.map_id_records (hk : e.Keyed) (c : ConnectionId) :
    (e.records c).map (fun r => r.handle.id) = e.numbers c := by
  unfold records numbers
  cases hs : e.connections.find? c with
  | none => rfl
  | some s => exact hk.map_id_values hs

theorem Keyed.mem_records (hk : e.Keyed) {r : Record} :
    r ∈ e.records c ↔ e.object? c r.handle.id = some r := by
  unfold records object? Store.record?
  cases hs : e.connections.find? c with
  | none => simp
  | some s =>
    simp only [Option.map_some, Option.getD_some, Option.bind_some, OrderedMap.values,
      List.mem_map, OrderedMap.find?_eq_some_iff]
    refine ⟨?_, fun h => ⟨_, h, rfl⟩⟩
    rintro ⟨⟨id, r⟩, hmem, rfl⟩
    have hobject : e.object? c id = some r :=
      Option.bind_eq_some_iff.mpr ⟨s, hs, OrderedMap.find?_eq_some_iff.mpr hmem⟩
    rwa [(hk c id r hobject).1]

/-- What `list` and `find?` tell about a connection, against the objects that are there. -/
structure Lists (e : Engine) (c : ConnectionId) : Prop where
  /-- A list has the handles of the objects of its group. -/
  mem_list_iff : ∀ {g h}, h ∈ e.list c g ↔
    h.group = g ∧ h.connection = c ∧ ∃ r, e.object? c h.id = some r ∧ r.handle = h
  /-- The lists of all groups together have each object once. -/
  partition : ((Group.all.flatMap (e.list c)).map Handle.id).Perm (e.numbers c)
  /-- So no list has a handle twice, and no two lists have one in common. -/
  nodup : (Group.all.flatMap (e.list c)).Nodup
  /-- Along a list numbers increase. -/
  increasing : ∀ g, ((e.list c g).map Handle.id).Pairwise (· < ·)
  /-- What is listed is there. -/
  isLive : ∀ {g h}, h ∈ e.list c g → e.isLive h = true
  /-- What is found is the first on the list that is registered under the name. -/
  find?_eq_some_iff : ∀ {g name h}, e.find? c g name = some h ↔
    e.registrationName h = .ok name ∧ ∃ before after, e.list c g = before ++ h :: after ∧
      ∀ h' ∈ before, e.registrationName h' ≠ .ok name
  /-- Nothing is found if nothing on the list is. -/
  find?_eq_none_iff : ∀ {g name}, e.find? c g name = none ↔
    ∀ h ∈ e.list c g, e.registrationName h ≠ .ok name

theorem Keyed.nodup_records (hk : e.Keyed) (c : ConnectionId) : (e.records c).Nodup := by
  have hnumbers := e.nodup_numbers c
  rw [← hk.map_id_records c] at hnumbers
  exact hnumbers.of_map _

/-- The groups share out a list. -/
theorem flatMap_filter_perm {l : List Record} (hl : l.Nodup) :
    (Group.all.flatMap fun g => l.filter fun r => r.handle.group = g).Perm l := by
  refine (List.perm_ext_iff_of_nodup ?_ hl).mpr fun r => ?_
  · refine List.nodup_flatMap.mpr ⟨fun g _ => hl.filter _, ?_⟩
    have hall : Group.all.Nodup := by decide
    refine hall.imp fun hne r hr hr' => hne ?_
    simp only [List.mem_filter, decide_eq_true_eq] at hr hr'
    rw [← hr.2, ← hr'.2]
  · simp [Group.mem_all]

theorem Keyed.mem_list_iff (hk : e.Keyed) {c : ConnectionId} {g : Group} {h : Handle} :
    h ∈ e.list c g ↔
      h.group = g ∧ h.connection = c ∧ ∃ r, e.object? c h.id = some r ∧ r.handle = h := by
  simp only [list_eq, List.mem_map, List.mem_filter, decide_eq_true_eq, hk.mem_records]
  refine ⟨?_, ?_⟩
  · rintro ⟨r, ⟨hr, hg⟩, rfl⟩
    exact ⟨hg, (hk _ _ _ hr).2, r, hr, rfl⟩
  · rintro ⟨hg, -, r, hr, rfl⟩
    exact ⟨r, ⟨hr, hg⟩, rfl⟩

theorem Sound.registrationName_eq (hs : e.Sound) {r : Record} (hr : r ∈ e.records c) :
    e.registrationName r.handle = .ok r.name := by
  have hobject := hs.keyed.mem_records.mp hr
  have hc : r.handle.connection = c := (hs.keyed _ _ _ hobject).2
  exact registrationName_eq_ok_iff.mpr ⟨r, hc.symm ▸ hobject, rfl⟩

/-- What is found is the first on the list that is registered under the name. -/
theorem Sound.find?_eq_find? (hs : e.Sound) (c : ConnectionId) (g : Group) (name : String) :
    e.find? c g name =
      (e.list c g).find? fun h => (e.registrationName h).toOption = some name := by
  rw [find?_eq, list_eq, List.find?_map]
  refine congrArg _ (List.find?_congr fun r hr => ?_)
  simp [hs.registrationName_eq (List.mem_filter.mp hr).1, Except.toOption]

theorem toOption_eq_some_iff {ε α : Type} {x : Except ε α} {a : α} :
    x.toOption = some a ↔ x = .ok a := by
  cases x <;> simp [Except.toOption]

/-- The lists of a sound engine tell what is there. -/
theorem Sound.lists (hs : e.Sound) (c : ConnectionId) : e.Lists c := by
  have hlist : e.list c = fun g =>
      ((e.records c).filter fun r => r.handle.group = g).map Record.handle :=
    funext fun g => list_eq e c g
  have hperm : ((Group.all.flatMap (e.list c)).map Handle.id).Perm (e.numbers c) := by
    rw [hlist, ← List.map_flatMap, ← hs.keyed.map_id_records c, List.map_map]
    exact (flatMap_filter_perm (hs.keyed.nodup_records c)).map _
  have hnodup := (hperm.nodup_iff.mpr (e.nodup_numbers c)).of_map _
  refine ⟨hs.keyed.mem_list_iff, hperm, hnodup, fun g => ?_, fun h => ?_, ?_, ?_⟩
  · have hsub := (List.filter_sublist (p := fun r : Record => r.handle.group = g)
      (l := e.records c)).map fun r => r.handle.id
    rw [hs.keyed.map_id_records c] at hsub
    rw [list_eq, List.map_map]
    exact (hs.increasing c).sublist hsub
  · obtain ⟨-, rfl, r, hr, -⟩ := hs.keyed.mem_list_iff.mp h
    exact isLive_iff.mpr ⟨r, hr⟩
  · intro g name h
    simp [hs.find?_eq_find?, List.find?_eq_some_iff_append, toOption_eq_some_iff]
  · intro g name
    simp [hs.find?_eq_find?, toOption_eq_some_iff]

end Lists

/-! ## Creations -/

theorem SameOn.object? {c : ConnectionId} (h : SameOn c e e') (id : UInt64) :
    e'.object? c id = e.object? c id := by
  have hstore := h.2
  unfold store at hstore
  refine object?_congr ?_ id
  cases hs : e.connections.find? c <;> cases hs' : e'.connections.find? c <;> simp_all

/-- Objects are new only on a connection that the operation is addressed to. -/
theorem Op.addresses_of_mem_newObjects {op : Op} {c : ConnectionId} {id : UInt64}
    (h : (c, id) ∈ newObjects e (perform op e).2) : op.Addresses c := by
  obtain ⟨hnone, r, hr⟩ := mem_newObjects.mp h
  by_contra hop
  have hsame : SameOn c e (perform op e).2 := by
    refine sameOn_perform hop fun url hurl hc => ?_
    -- a connection that was made just now has no objects
    subst hurl hc
    rw [snd_perform_establish] at hr
    obtain ⟨stats, ⟨fault, hmade⟩ | hmade⟩ := establish_cases url e <;> rw [hmade] at hr
    · exact absurd (hnone.symm.trans hr) nofun
    · simp [object?_withConnection, nextConnectionId] at hr
  rw [hsame.object?, hnone] at hr
  cases hr

/-- The new objects of one operation come by increasing numbers : they are on one connection. -/
theorem pairwise_newObjects {op : Op} (hi : (perform op e).2.Increasing) :
    (newObjects e (perform op e).2).Pairwise fun p q => p.2 < q.2 := by
  refine List.pairwise_flatMap.mpr ⟨fun p hp => ?_, ?_⟩
  · have hnumbers : (perform op e).2.numbers p.1 = p.2.records.keys := by
      rw [numbers, OrderedMap.find?_eq_some_iff.mpr hp]
      rfl
    have hkeys := hi p.1
    rw [hnumbers] at hkeys
    exact List.pairwise_map.mpr (hkeys.filter _)
  · refine (List.pairwise_map.mp (perform op e).2.connections.nodup).imp_of_mem ?_
    intro p q hp hq hne x hx y hy
    have hxnew : x ∈ newObjects e (perform op e).2 := List.mem_flatMap.mpr ⟨p, hp, hx⟩
    have hynew : y ∈ newObjects e (perform op e).2 := List.mem_flatMap.mpr ⟨q, hq, hy⟩
    obtain ⟨id, -, rfl⟩ := List.mem_map.mp hx
    obtain ⟨id', -, rfl⟩ := List.mem_map.mp hy
    have hsame := sameOn_perform_of_addresses (e := e) (Op.addresses_of_mem_newObjects hxnew)
      (Ne.symm hne)
    obtain ⟨hnone, r, hr⟩ := mem_newObjects.mp hynew
    rw [hsame.object?, hnone] at hr
    cases hr

/-- What operations make comes by increasing numbers. -/
theorem pairwise_creations (he : e.Reachable) {ops : List Op} (hn : (e.run ops).NumbersLeft) :
    (e.creations ops).Pairwise fun p q => p.2 < q.2 := by
  induction ops generalizing e with
  | nil => exact .nil
  | cons op ops ih =>
    have hn' := hn.of_changes (changes_run (perform op e).2 ops)
    have hnext : (perform op e).2.Reachable := he.run [op]
    rw [creations, brought, List.pairwise_append]
    refine ⟨pairwise_newObjects (sound_of_reachable hnext hn').increasing, ih hnext hn, ?_⟩
    intro p hp q hq
    have hlt := (counts_newObjects.bounds he (changes_perform op e) hn' hp).2
    have hle := counts_newObjects.le_of_mem_brought hnext hn hq
    exact UInt64.lt_iff_toNat_lt.mpr (Nat.lt_of_lt_of_le hlt hle)

/-- What is there in the end and was not in the beginning was made. -/
theorem mem_creations {c : ConnectionId} {id : UInt64} {ops : List Op}
    (hnone : e.object? c id = none) {r : Record} (hr : (e.run ops).object? c id = some r) :
    (c, id) ∈ e.creations ops := by
  induction ops generalizing e with
  | nil => exact absurd (hnone.symm.trans hr) nofun
  | cons op ops ih =>
    rw [creations, brought, List.mem_append]
    cases hmade : (perform op e).2.object? c id with
    | none => exact .inr (ih hmade hr)
    | some r' => exact .inl (mem_newObjects.mpr ⟨hnone, r', hmade⟩)

/-- A list is part of the sequence in which a run made the objects. -/
theorem sublist_creations {catalog : List Definition} {ops : List Op}
    (hn : ((ofCatalog catalog).run ops).NumbersLeft) (c : ConnectionId) (g : Group) :
    ((((ofCatalog catalog).run ops).list c g).map fun h => (c, h.id)).Sublist
      ((ofCatalog catalog).creations ops) := by
  have hbegin : (ofCatalog catalog).Reachable := ⟨catalog, [], rfl⟩
  have hlists := (sound_of_reachable (hbegin.run ops) hn).lists c
  have hpairwise : ((((ofCatalog catalog).run ops).list c g).map fun h => (c, h.id)).Pairwise
      fun p q => p.2 < q.2 :=
    List.pairwise_map.mpr (List.pairwise_map.mp (hlists.increasing g))
  have hmade : ∀ p ∈ (((ofCatalog catalog).run ops).list c g).map fun h => (c, h.id),
      p ∈ (ofCatalog catalog).creations ops := by
    intro p hp
    obtain ⟨h, hh, rfl⟩ := List.mem_map.mp hp
    obtain ⟨-, -, r, hr, -⟩ := hlists.mem_list_iff.mp hh
    exact mem_creations rfl hr
  have hasymm : Std.Antisymm fun p q : ConnectionId × UInt64 => p.2 < q.2 :=
    ⟨fun p q hpq hqp => absurd hqp (UInt64.lt_asymm hpq)⟩
  have hnodup := hpairwise.imp fun {p q} (h : p.2 < q.2) (heq : p = q) =>
    UInt64.ne_of_lt h (congrArg Prod.snd heq)
  exact List.sublist_of_subperm_of_pairwise (List.subperm_of_subset hnodup hmade) hpairwise
    (pairwise_creations hbegin hn)

/-! ## Runs -/

/-- The engine that operations lead to from a catalog keeps its objects in order, and its lists tell
what is there, in the order of creation. -/
structure KeepsOrder (catalog : List Definition) (ops : List Op) : Prop where
  sound : ((ofCatalog catalog).run ops).Sound
  lists : ∀ c, ((ofCatalog catalog).run ops).Lists c
  order : ∀ c g, ((((ofCatalog catalog).run ops).list c g).map fun h => (c, h.id)).Sublist
    ((ofCatalog catalog).creations ops)

/-- Every run keeps objects in order as long as there are numbers left. -/
theorem keeps_order_of_run {catalog : List Definition} {ops : List Op}
    (hn : ((ofCatalog catalog).run ops).NumbersLeft) : KeepsOrder catalog ops := by
  have hs := sound_of_reachable ⟨catalog, ops, rfl⟩ hn
  exact ⟨hs, hs.lists, sublist_creations hn⟩

/-- Of two spheres the second one gets the name of the first, by a handle that was made up. Both are
listed, and under the name the first one is found. -/
theorem keeps_order_two_spheres :
    let first : Handle := ⟨1, ⟨1⟩, .sources, "SphereSource"⟩
    let second : Handle := ⟨2, ⟨1⟩, .sources, "SphereSource"⟩
    let ops : List Op :=
      [.establish "builtin:", .create ⟨1⟩ .sources "SphereSource" ∅,
        .create ⟨1⟩ .sources "SphereSource" ∅, .rename ⟨2, ⟨1⟩, .views, "Made up"⟩ "Sphere1"]
    let e := (ofCatalog builtinCatalog).run ops
    e.NumbersLeft ∧ KeepsOrder builtinCatalog ops ∧ e.list ⟨1⟩ .sources = [first, second] ∧
      e.registrationName second = .ok "Sphere1" ∧
      e.find? ⟨1⟩ .sources "Sphere1" = some first := by
  intro first second ops e
  have hn : e.NumbersLeft := ⟨by decide, by decide⟩
  exact ⟨hn, keeps_order_of_run hn, rfl, rfl, rfl⟩

end Engine

end VizSession
