import VizSession.Engine

/-!
# The objects of an engine

An engine is seen through three questions : whether a connection is alive, which object
has a number on a connection (`Engine.object?`), and which representation the table of a
connection has for a pair (`Engine.tabled?`). What an operation says about a handle is said
through them (`record_eq_ok_iff`, `isLive_iff`).

This module gives the answers after each write an operation is made of. A write reaches one
connection. Making an object adds its number (`object?_addObject`); a camera, a new name and
new properties change one object where it is; a removal takes an object with everything that
attends it (`object?_remove`).
-/

namespace VizSession

namespace Engine

/-- The object of a number on a connection. -/
def object? (e : Engine) (c : ConnectionId) (id : UInt64) : Option Record :=
  (e.connections.find? c).bind fun s => s.record? id

/-- The representation that the table of a connection has for a pair. -/
def tabled? (e : Engine) (c : ConnectionId) (pair : UInt64 × UInt64) : Option UInt64 :=
  (e.connections.find? c).bind fun s => s.representations.find? pair

/-- `k` is the camera of the object `id`, or the representation of a pair it is part of. -/
def Attends (e : Engine) (c : ConnectionId) (id k : UInt64) : Prop :=
  (∃ r, e.object? c id = some r ∧ r.camera = some k) ∨
    ∃ pair, e.tabled? c pair = some k ∧ Store.involves id pair = true

theorem object?_congr {e e' : Engine} {c : ConnectionId}
    (h : e'.connections.find? c = e.connections.find? c) (id : UInt64) :
    e'.object? c id = e.object? c id := by
  unfold object?
  rw [h]

theorem tabled?_congr {e e' : Engine} {c : ConnectionId}
    (h : e'.connections.find? c = e.connections.find? c) (pair : UInt64 × UInt64) :
    e'.tabled? c pair = e.tabled? c pair := by
  unfold tabled?
  rw [h]

/-! ## Questions about handles -/

theorem isAlive_iff {e : Engine} {c : ConnectionId} :
    e.isAlive c = true ↔ ∃ s, e.connections.find? c = some s := by
  rw [isAlive, OrderedMap.contains, Option.isSome_iff_exists]

theorem isAlive_iff_mem {e : Engine} {c : ConnectionId} :
    e.isAlive c = true ↔ c ∈ e.connections.keys :=
  OrderedMap.mem_keys_iff.symm

theorem store_eq_ok_iff {e : Engine} {c : ConnectionId} {s : Store} :
    e.store c = .ok s ↔ e.connections.find? c = some s := by
  unfold store
  split <;> simp_all

theorem record_eq_ok_iff {e : Engine} {h : Handle} {r : Record} :
    e.record h = .ok r ↔ e.object? h.connection h.id = some r := by
  unfold record object? store
  cases e.connections.find? h.connection with
  | none => simp [bind, Except.bind]
  | some s => cases hr : s.record? h.id <;> simp [bind, Except.bind, hr]

theorem isLive_iff {e : Engine} {h : Handle} :
    e.isLive h = true ↔ ∃ r, e.object? h.connection h.id = some r := by
  unfold isLive
  cases hr : e.record h with
  | error fault =>
    constructor
    · intro h
      cases h
    · rintro ⟨r, hobj⟩
      rw [record_eq_ok_iff.mpr hobj] at hr
      cases hr
  | ok r => exact ⟨fun _ => ⟨r, record_eq_ok_iff.mp hr⟩, fun _ => rfl⟩

/-- What is read off an object is read off the one that is there. -/
theorem map_record_eq_ok_iff {e : Engine} {h : Handle} {α : Type} {f : Record → α} {a : α} :
    (e.record h).map f = .ok a ↔ ∃ r, e.object? h.connection h.id = some r ∧ f r = a := by
  constructor
  · intro ha
    obtain ⟨r, hr, rfl⟩ := Step.ok_of_map ha
    exact ⟨r, record_eq_ok_iff.mp hr, rfl⟩
  · rintro ⟨r, hr, rfl⟩
    rw [record_eq_ok_iff.mpr hr]
    rfl

theorem registrationName_eq_ok_iff {e : Engine} {h : Handle} {name : String} :
    e.registrationName h = .ok name ↔
      ∃ r, e.object? h.connection h.id = some r ∧ r.name = name :=
  map_record_eq_ok_iff

theorem properties_eq_ok_iff {e : Engine} {h : Handle} {ps : Properties} :
    e.properties h = .ok ps ↔ ∃ r, e.object? h.connection h.id = some r ∧ r.properties = ps :=
  map_record_eq_ok_iff

theorem isAlive_of_object? {e : Engine} {c : ConnectionId} {id : UInt64} {r : Record}
    (h : e.object? c id = some r) : e.isAlive c = true := by
  obtain ⟨s, hs, -⟩ := Option.bind_eq_some_iff.mp h
  exact isAlive_iff.mpr ⟨s, hs⟩

theorem definition_eq_ok_iff {e : Engine} {g : Group} {name : String} {d : Definition} :
    e.definition g name = .ok d ↔ e.definition? g name = some d := by
  unfold definition
  split <;> simp_all

/-- A definition is found under its own group and name. -/
theorem group_name_of_definition? {e : Engine} {g : Group} {name : String} {d : Definition}
    (h : e.definition? g name = some d) : d.group = g ∧ d.name = name := by
  simpa using List.find?_some h

/-! ## Writes to one connection -/

section Update

variable (e : Engine) (c c' : ConnectionId) (f : Store → Store)

@[simp] theorem nextObject_updateStore : (e.updateStore c f).nextObject = e.nextObject := rfl

@[simp] theorem nextConnection_updateStore :
    (e.updateStore c f).nextConnection = e.nextConnection := rfl

@[simp] theorem catalog_updateStore : (e.updateStore c f).catalog = e.catalog := rfl

theorem find?_updateStore : (e.updateStore c f).connections.find? c' =
    if c = c' then (e.connections.find? c').map f else e.connections.find? c' :=
  OrderedMap.find?_modify ..

theorem find?_updateStore_of_ne {c c' : ConnectionId} (h : c' ≠ c) :
    (e.updateStore c f).connections.find? c' = e.connections.find? c' :=
  (find?_updateStore e c c' f).trans (if_neg fun heq => h heq.symm)

@[simp] theorem keys_updateStore : (e.updateStore c f).connections.keys = e.connections.keys :=
  OrderedMap.keys_modify ..

@[simp] theorem isAlive_updateStore : (e.updateStore c f).isAlive c' = e.isAlive c' := by
  unfold isAlive OrderedMap.contains
  rw [find?_updateStore]
  split <;> simp

theorem object?_updateStore (id : UInt64) : (e.updateStore c f).object? c' id =
    if c = c' then (e.connections.find? c').bind fun s => (f s).record? id
    else e.object? c' id := by
  unfold object?
  rw [find?_updateStore]
  split
  · rw [Option.bind_map, Function.comp_def]
  · rfl

theorem tabled?_updateStore (pair : UInt64 × UInt64) : (e.updateStore c f).tabled? c' pair =
    if c = c' then (e.connections.find? c').bind fun s => (f s).representations.find? pair
    else e.tabled? c' pair := by
  unfold tabled?
  rw [find?_updateStore]
  split
  · rw [Option.bind_map, Function.comp_def]
  · rfl

variable {f}

/-- A write that changes one object where it is. -/
theorem object?_updateStore_modify {i : UInt64} {g : Record → Record}
    (hf : ∀ s j, (f s).record? j = if i = j then (s.record? j).map g else s.record? j)
    (id : UInt64) : (e.updateStore c f).object? c' id =
      if c = c' ∧ i = id then (e.object? c' id).map g else e.object? c' id := by
  rw [object?_updateStore]
  by_cases hc : c = c'
  · subst hc
    simp only [hf, if_true, true_and, object?]
    cases e.connections.find? c with
    | none => simp
    | some s => rfl
  · simp [hc]

/-- A write that leaves the objects alone. -/
theorem object?_updateStore_of_eq (hf : ∀ s j, (f s).record? j = s.record? j) (id : UInt64) :
    (e.updateStore c f).object? c' id = e.object? c' id := by
  rw [object?_updateStore]
  simp only [hf]
  exact ite_self _

/-- A write that leaves the table alone. -/
theorem tabled?_updateStore_of_eq (hf : ∀ s, (f s).representations = s.representations)
    (pair : UInt64 × UInt64) : (e.updateStore c f).tabled? c' pair = e.tabled? c' pair := by
  rw [tabled?_updateStore]
  simp only [hf]
  exact ite_self _

end Update

/-! ## Changed objects -/

section Change

variable (e : Engine) (c c' : ConnectionId)

theorem object?_linkCamera (owner camera id : UInt64) :
    (e.updateStore c fun s => s.linkCamera owner camera).object? c' id =
      if c = c' ∧ owner = id then
        (e.object? c' id).map fun r => { r with camera := some camera }
      else e.object? c' id :=
  object?_updateStore_modify e c c' (fun s j => s.record?_linkCamera owner camera j) id

theorem object?_rename (i : UInt64) (name : String) (id : UInt64) :
    (e.updateStore c fun s => s.rename i name).object? c' id =
      if c = c' ∧ i = id then (e.object? c' id).map fun r => { r with name := name }
      else e.object? c' id :=
  object?_updateStore_modify e c c' (fun s j => s.record?_rename i j name) id

theorem object?_write (i : UInt64) (ps : Properties) (id : UInt64) :
    (e.updateStore c fun s => s.write i ps).object? c' id =
      if c = c' ∧ i = id then
        (e.object? c' id).map fun r =>
          { r with properties := r.properties.insertMany ps.entries }
      else e.object? c' id :=
  object?_updateStore_modify e c c' (fun s j => s.record?_write i j ps) id

end Change

/-! ## New objects -/

/-- The object that is made next from a definition. -/
def newRecord (e : Engine) (c : ConnectionId) (d : Definition) (ps : Properties) : Record where
  handle := e.nextHandle c d
  name := ((e.connections.find? c).getD .empty).nextName d.label
  properties := ps.fillDefaults d.properties
  camera := none

section New

variable (e : Engine) (c : ConnectionId) (d : Definition) (ps : Properties)

@[simp] theorem nextObject_addObject : (e.addObject c d ps).nextObject = e.nextObject + 1 := rfl

@[simp] theorem nextConnection_addObject :
    (e.addObject c d ps).nextConnection = e.nextConnection := rfl

@[simp] theorem catalog_addObject : (e.addObject c d ps).catalog = e.catalog := rfl

@[simp] theorem keys_addObject : (e.addObject c d ps).connections.keys = e.connections.keys :=
  keys_updateStore e c _

@[simp] theorem isAlive_addObject (c' : ConnectionId) :
    (e.addObject c d ps).isAlive c' = e.isAlive c' :=
  isAlive_updateStore e c c' _

theorem object?_addObject (hc : e.isAlive c = true) (c' : ConnectionId) (id : UInt64) :
    (e.addObject c d ps).object? c' id =
      if c = c' ∧ .ofNat e.nextObject = id then some (e.newRecord c d ps)
      else e.object? c' id := by
  obtain ⟨s, hs⟩ := isAlive_iff.mp hc
  show (e.updateStore c _).object? c' id = _
  rw [object?_updateStore]
  by_cases hcc : c = c'
  · subst hcc
    simp only [if_true, true_and, hs, Option.bind_some, Store.record?_add, newRecord,
      Option.getD_some, object?]
    rfl
  · simp [hcc]

theorem object?_addObject_self (hc : e.isAlive c = true) :
    (e.addObject c d ps).object? c (e.nextHandle c d).id = some (e.newRecord c d ps) := by
  rw [object?_addObject e c d ps hc]
  exact if_pos ⟨rfl, rfl⟩

@[simp] theorem tabled?_addObject (c' : ConnectionId) (pair : UInt64 × UInt64) :
    (e.addObject c d ps).tabled? c' pair = e.tabled? c' pair :=
  tabled?_updateStore_of_eq e c c' (fun s => s.representations_add ..) pair

@[simp] theorem nextObject_addCamera (owner : UInt64) :
    (e.addCamera c owner d).nextObject = e.nextObject + 1 := rfl

@[simp] theorem nextConnection_addCamera (owner : UInt64) :
    (e.addCamera c owner d).nextConnection = e.nextConnection := rfl

@[simp] theorem keys_addCamera (owner : UInt64) :
    (e.addCamera c owner d).connections.keys = e.connections.keys := by
  simp [addCamera]

@[simp] theorem isAlive_addCamera (owner : UInt64) (c' : ConnectionId) :
    (e.addCamera c owner d).isAlive c' = e.isAlive c' := by
  simp [addCamera]

@[simp] theorem tabled?_addCamera (owner : UInt64) (c' : ConnectionId) (pair : UInt64 × UInt64) :
    (e.addCamera c owner d).tabled? c' pair = e.tabled? c' pair := by
  unfold addCamera
  rw [tabled?_updateStore_of_eq _ c c' (fun s => s.representations_linkCamera ..),
    tabled?_addObject]

@[simp] theorem nextObject_addRepresentation (source view : Handle) :
    (e.addRepresentation source view d).nextObject = e.nextObject + 1 := rfl

@[simp] theorem nextConnection_addRepresentation (source view : Handle) :
    (e.addRepresentation source view d).nextConnection = e.nextConnection := rfl

@[simp] theorem keys_addRepresentation (source view : Handle) :
    (e.addRepresentation source view d).connections.keys = e.connections.keys := by
  simp [addRepresentation]

@[simp] theorem isAlive_addRepresentation (source view : Handle) (c' : ConnectionId) :
    (e.addRepresentation source view d).isAlive c' = e.isAlive c' := by
  simp [addRepresentation]

/-- What a representation starts from : it shows its source. -/
def inputOf (source : Handle) : Properties := OrderedMap.ofList [("Input", .proxy source)]

theorem object?_addRepresentation {source : Handle} (view : Handle)
    (hc : e.isAlive source.connection = true) (c' : ConnectionId) (id : UInt64) :
    (e.addRepresentation source view d).object? c' id =
      if source.connection = c' ∧ .ofNat e.nextObject = id then
        some (e.newRecord source.connection d (inputOf source))
      else e.object? c' id := by
  show ((e.addObject source.connection d (inputOf source)).updateStore _ _).object? c' id = _
  rw [object?_updateStore_of_eq _ _ _ (fun s j => s.record?_represent ..),
    object?_addObject e _ d _ hc]

theorem object?_addRepresentation_self {source : Handle} (view : Handle)
    (hc : e.isAlive source.connection = true) :
    (e.addRepresentation source view d).object? source.connection
      (e.nextHandle source.connection d).id =
        some (e.newRecord source.connection d (inputOf source)) := by
  rw [object?_addRepresentation e d view hc]
  exact if_pos ⟨rfl, rfl⟩

theorem tabled?_addRepresentation {source : Handle} (view : Handle)
    (hc : e.isAlive source.connection = true) (c' : ConnectionId) (pair : UInt64 × UInt64) :
    (e.addRepresentation source view d).tabled? c' pair =
      if source.connection = c' ∧ (source.id, view.id) = pair then some (.ofNat e.nextObject)
      else e.tabled? c' pair := by
  show ((e.addObject source.connection d (inputOf source)).updateStore _ _).tabled? c' pair = _
  rw [tabled?_updateStore]
  by_cases hcc : source.connection = c'
  · subst hcc
    rw [← isAlive_addObject e source.connection d (inputOf source)] at hc
    obtain ⟨s, hs⟩ := isAlive_iff.mp hc
    rw [← tabled?_addObject e source.connection d (inputOf source)]
    simp only [if_true, true_and, hs, Option.bind_some, Store.find?_represent, tabled?]
    rfl
  · simp [hcc]

end New

/-! ## Removed objects -/

section Removed

variable (e : Engine) (c c' : ConnectionId)

/-- An object goes with what attends it, and nothing else goes. -/
theorem object?_remove (i id : UInt64) (r : Record) :
    (e.updateStore c fun s => s.remove i).object? c' id = some r ↔
      e.object? c' id = some r ∧ ¬(c = c' ∧ (id = i ∨ e.Attends c i id)) := by
  rw [object?_updateStore]
  by_cases hcc : c = c'
  · subst hcc
    unfold Attends object? tabled?
    cases e.connections.find? c with
    | none => simp
    | some s =>
      simp only [if_true, true_and, Option.bind_some, Store.record?_remove]
      rw [← Store.mem_attendants, ← List.mem_cons]
      by_cases h : id ∈ i :: s.attendants i
      · simp only [h, if_true, not_true, and_false, reduceCtorEq]
      · simp only [h, if_false, not_false_eq_true, and_true]
  · simp [hcc]

/-- The pairs an object is part of leave the table with it. -/
theorem tabled?_remove (i : UInt64) (pair : UInt64 × UInt64) (k : UInt64) :
    (e.updateStore c fun s => s.remove i).tabled? c' pair = some k ↔
      e.tabled? c' pair = some k ∧ ¬(c = c' ∧ Store.involves i pair = true) := by
  rw [tabled?_updateStore]
  by_cases hcc : c = c'
  · subst hcc
    unfold tabled?
    cases e.connections.find? c with
    | none => simp
    | some s => simp [Store.find?_remove, Option.filter_eq_some_iff]
  · simp [hcc]

theorem object?_without (id : UInt64) :
    (e.without c).object? c' id = if c = c' then none else e.object? c' id := by
  unfold object? without
  dsimp only
  rw [OrderedMap.find?_erase]
  split <;> rfl

theorem tabled?_without (pair : UInt64 × UInt64) :
    (e.without c).tabled? c' pair = if c = c' then none else e.tabled? c' pair := by
  unfold tabled? without
  dsimp only
  rw [OrderedMap.find?_erase]
  split <;> rfl

theorem isAlive_without :
    (e.without c).isAlive c' = true ↔ c ≠ c' ∧ e.isAlive c' = true := by
  unfold isAlive OrderedMap.contains without
  dsimp only
  rw [OrderedMap.find?_erase]
  split <;> simp_all

theorem object?_withConnection (id : UInt64) : e.withConnection.object? c' id =
    if e.nextConnectionId = c' then none else e.object? c' id := by
  unfold object? withConnection
  dsimp only
  rw [OrderedMap.find?_insert]
  split <;> rfl

theorem tabled?_withConnection (pair : UInt64 × UInt64) : e.withConnection.tabled? c' pair =
    if e.nextConnectionId = c' then none else e.tabled? c' pair := by
  unfold tabled? withConnection
  dsimp only
  rw [OrderedMap.find?_insert]
  split <;> rfl

theorem isAlive_withConnection : e.withConnection.isAlive c' = true ↔
    e.nextConnectionId = c' ∨ e.isAlive c' = true := by
  unfold isAlive OrderedMap.contains withConnection
  dsimp only
  rw [OrderedMap.find?_insert]
  split <;> simp_all

end Removed

end Engine

end VizSession
