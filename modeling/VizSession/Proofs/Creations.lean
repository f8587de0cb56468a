import VizSession.Proofs.Visibility
import Mathlib.Data.List.Nodup

/-!
# What a run makes

What an operation makes is what is there after it and was not there before. A run is listed
operation by operation (`Engine.brought`) : the objects it makes, each with its connection
(`Engine.creations`), and the connections (`Engine.establishments`). What an answer says was
made is on the list of its operation (`Makes.mem_newObjects`, `mem_newConnections`).

As long as an engine has numbers left, the two counters number what is new (`Counts`) :
what an operation makes is numbered from where the counter stood to where it stands
afterwards. So no number is on the lists of a run twice, whatever is ended in between and
on whatever connection objects are made (`Counts.nodup_brought`). That the new objects of
one operation differ needs that a number names an object on one connection only
(`Engine.Unshared`).
-/

namespace VizSession

namespace Engine

variable {e e' : Engine}

/-! ## Runs -/

theorem Reachable.run (he : e.Reachable) (ops : List Op) : (e.run ops).Reachable := by
  obtain ⟨catalog, before, rfl⟩ := he
  exact ⟨catalog, before ++ ops, (run_append _ before ops).symm⟩

/-- What operations bring one after another, `new` telling what is new from one state to the
next. -/
def brought {α : Type} (new : Engine → Engine → List α) (e : Engine) : List Op → List α
  | [] => []
  | op :: ops => new e (perform op e).2 ++ brought new (perform op e).2 ops

/-- The objects that are there now and were not before, with their connections. -/
def newObjects (e e' : Engine) : List (ConnectionId × UInt64) :=
  e'.connections.entries.flatMap fun (c, s) =>
    (s.records.keys.filter fun id => (e.object? c id).isNone).map fun id => (c, id)

/-- The connections that are alive now and were not before. -/
def newConnections (e e' : Engine) : List ConnectionId :=
  e'.connections.keys.filter fun c => !e.isAlive c

/-- The objects that operations make, with their connections. -/
def creations (e : Engine) (ops : List Op) : List (ConnectionId × UInt64) :=
  e.brought newObjects ops

/-- The connections that operations make. -/
def establishments (e : Engine) (ops : List Op) : List ConnectionId :=
  e.brought newConnections ops

theorem mem_newObjects {c : ConnectionId} {id : UInt64} :
    (c, id) ∈ newObjects e e' ↔ e.object? c id = none ∧ ∃ r, e'.object? c id = some r := by
  simp only [newObjects, List.mem_flatMap, List.mem_map, List.mem_filter, Prod.exists,
    OrderedMap.mem_keys_iff, Option.isNone_iff_eq_none, Option.isSome_iff_exists]
  constructor
  · rintro ⟨c', s, hs, id', ⟨⟨r, hr⟩, hnone⟩, heq⟩
    obtain ⟨rfl, rfl⟩ := Prod.mk.inj heq
    exact ⟨hnone, r, Option.bind_eq_some_iff.mpr ⟨s, OrderedMap.find?_eq_some_iff.mpr hs, hr⟩⟩
  · rintro ⟨hnone, r, hr⟩
    obtain ⟨s, hs, hr⟩ := Option.bind_eq_some_iff.mp hr
    exact ⟨c, s, OrderedMap.find?_eq_some_iff.mp hs, id, ⟨⟨r, hr⟩, hnone⟩, rfl⟩

theorem mem_newConnections {c : ConnectionId} :
    c ∈ newConnections e e' ↔ e.isAlive c = false ∧ e'.isAlive c = true := by
  rw [newConnections, List.mem_filter, ← isAlive_iff_mem, Bool.not_eq_true', and_comm]

theorem nodup_newObjects (e e' : Engine) : (newObjects e e').Nodup := by
  refine List.nodup_flatMap.mpr ⟨fun x _ => ?_, ?_⟩
  · exact (x.2.records.nodup.filter _).map fun _ _ h => (Prod.mk.inj h).2
  · refine (List.pairwise_map.mp e'.connections.nodup).imp fun hne => ?_
    intro p hp hp'
    obtain ⟨_, -, rfl⟩ := List.mem_map.mp hp
    obtain ⟨_, -, h⟩ := List.mem_map.mp hp'
    exact hne (congrArg Prod.fst h).symm

/-! ## Numbers on one connection -/

/-- What a change brings to one connection under the next number, while nothing had that number
before, leaves every number on one connection. -/
theorem Change.eq_connection (h : Change e e') {P Q : ConnectionId → UInt64 → Prop}
    (helse : ∀ {c k}, e'.connections.find? c = e.connections.find? c → Q c k → P c k)
    (hnew : ∀ {c k}, Q c k → P c k ∨ k = .ofNat e.nextObject)
    (hnext : ∀ {c k}, P c k → k ≠ .ofNat e.nextObject)
    (hone : ∀ {c c' k}, P c k → P c' k → c = c') {c c' : ConnectionId} {k : UInt64}
    (hk : Q c k) (hk' : Q c' k) : c = c' := by
  obtain ⟨c₀, hsame⟩ := h.elsewhere
  -- if one of the two was there before, so was the other, as the number is not the next one
  have old_of_old : ∀ {c c'}, P c k → Q c' k → P c' k :=
    fun hold hk' => (hnew hk').resolve_right (hnext hold)
  by_cases hc : c = c₀
  · by_cases hc' : c' = c₀
    · rw [hc, hc']
    · have hold := helse (hsame c' hc') hk'
      exact hone (old_of_old hold hk) hold
  · have hold := helse (hsame c hc) hk
    exact hone hold (old_of_old hold hk')

/-- A number names an object on one connection only. -/
def Unshared (e : Engine) : Prop :=
  ∀ c c' id r r', e.object? c id = some r → e.object? c' id = some r' → c = c'

/-- A new object has a number that no object had, on whatever connection. -/
theorem Unshared.change (hu : e.Unshared) (we : e.WellFormed) (h : Change e e')
    (hn : e.NumbersLeft) : e'.Unshared := by
  intro c c' id r r' hr hr'
  refine h.eq_connection (P := fun c id => ∃ r, e.object? c id = some r)
    (Q := fun c id => ∃ r, e'.object? c id = some r) ?_ ?_ ?_ ?_ ⟨r, hr⟩ ⟨r', hr'⟩
  · rintro c id hsame ⟨r, hr⟩
    exact ⟨r, (object?_congr hsame id).symm.trans hr⟩
  · rintro c id ⟨r, hr⟩
    rcases h.origin hr with ⟨r₀, hr₀, -⟩ | ⟨hid, -⟩
    · exact Or.inl ⟨r₀, hr₀⟩
    · exact Or.inr hid
  · rintro c id ⟨r, hr⟩ hid
    exact we.id_ne_next hn hr hid.symm
  · rintro c c' id ⟨r, hr⟩ ⟨r', hr'⟩
    exact hu _ _ _ _ _ hr hr'

theorem Unshared.changes (hu : e.Unshared) (we : e.WellFormed) (h : Changes e e')
    (hn : e'.NumbersLeft) : e'.Unshared :=
  h.keeps_of_wellFormed (fun _ _ we hn h hu => hu.change we h hn) we hn hu

theorem unshared_of_reachable (he : e.Reachable) (hn : e.NumbersLeft) : e.Unshared := by
  obtain ⟨catalog, ops, rfl⟩ := he
  have hempty : (ofCatalog catalog).Unshared := fun _ _ _ _ _ hr _ => by cases hr
  exact hempty.changes (wellFormed_ofCatalog catalog) (changes_run _ ops) hn

/-- No object has the next number. -/
theorem WellFormed.object?_next (we : e.WellFormed) (hn : e.NumbersLeft) (c : ConnectionId) :
    e.object? c (.ofNat e.nextObject) = none :=
  Option.eq_none_iff_forall_ne_some.mpr fun _ hr => we.id_ne_next hn hr rfl

/-! ## What the counters number -/

/-- The counter numbers what is new : from where it stood to where it stands, and no two
things alike. -/
structure Counts {α : Type} (new : Engine → Engine → List α) (number : α → Nat)
    (counter : Engine → Nat) : Prop where
  /-- The counter never goes back. -/
  mono : ∀ {e e'}, Changes e e' → counter e ≤ counter e'
  /-- New numbers are those that the counter passed. -/
  bounds : ∀ {e e' a}, e.Reachable → Changes e e' → e'.NumbersLeft → a ∈ new e e' →
    counter e ≤ number a ∧ number a < counter e'
  /-- What is new at once differs in its numbers. -/
  nodup : ∀ {e e'}, e.Reachable → Changes e e' → e'.NumbersLeft →
    ((new e e').map number).Nodup

section Counts

variable {α : Type} {new : Engine → Engine → List α} {number : α → Nat} {counter : Engine → Nat}

theorem Counts.le_of_mem_brought (h : Counts new number counter) (he : e.Reachable)
    {ops : List Op} (hn : (e.run ops).NumbersLeft) {a : α} (ha : a ∈ e.brought new ops) :
    counter e ≤ number a := by
  induction ops generalizing e with
  | nil => cases ha
  | cons op ops ih =>
    have hstep := changes_perform op e
    rcases List.mem_append.mp ha with hnow | hlater
    · exact (h.bounds he hstep (hn.of_changes (changes_run _ ops)) hnow).1
    · exact Nat.le_trans (h.mono hstep) (ih (he.run [op]) hn hlater)

/-- What a run makes is numbered below the counter that it comes to. -/
theorem Counts.lt_of_mem_brought (h : Counts new number counter) (he : e.Reachable)
    {ops : List Op} (hn : (e.run ops).NumbersLeft) {a : α} (ha : a ∈ e.brought new ops) :
    number a < counter (e.run ops) := by
  induction ops generalizing e with
  | nil => cases ha
  | cons op ops ih =>
    have hlater := changes_run (perform op e).2 ops
    rcases List.mem_append.mp ha with hnow | hrest
    · have hlt := (h.bounds he (changes_perform op e) (hn.of_changes hlater) hnow).2
      exact Nat.lt_of_lt_of_le hlt (h.mono hlater)
    · exact ih (he.run [op]) hn hrest

/-- In the course of a run no number is given out twice. -/
theorem Counts.nodup_brought (h : Counts new number counter) (he : e.Reachable)
    {ops : List Op} (hn : (e.run ops).NumbersLeft) : ((e.brought new ops).map number).Nodup := by
  induction ops generalizing e with
  | nil => exact List.nodup_nil
  | cons op ops ih =>
    have hstep := changes_perform op e
    have hn' := hn.of_changes (changes_run _ ops)
    rw [brought, List.map_append, List.nodup_append]
    refine ⟨h.nodup he hstep hn', ih (he.run [op]) hn, ?_⟩
    -- what the operation made is numbered below the counter, what comes later is not
    intro n hnow m hlater heq
    obtain ⟨a, ha, rfl⟩ := List.mem_map.mp hnow
    obtain ⟨b, hb, rfl⟩ := List.mem_map.mp hlater
    have hlt := (h.bounds he hstep hn' ha).2
    have hle := h.le_of_mem_brought (he.run [op]) hn hb
    exact Nat.lt_irrefl _ (Nat.lt_of_lt_of_le (heq ▸ hlt) hle)

end Counts

/-- A connection that is alive under a number given out before was alive all along. -/
theorem Changes.alive_kept (h : Changes e e') (hn : e'.NumbersLeft) {c : ConnectionId}
    (hlt : c.raw.toNat < e.nextConnection) (hc : e'.isAlive c = true) : e.isAlive c = true := by
  induction h with
  | refl => exact hc
  | tail hchanges hstep ih =>
    have hn' := hn.of_change hstep
    rcases hstep.alive_origin hc with hold | ⟨rfl, -⟩
    · exact ih hn' hold
    · rw [hn'.toNat_nextConnection] at hlt
      exact absurd hlt (Nat.not_lt.mpr (Changes.counters hchanges).2)

/-- Objects are counted by the next number : what a chain of changes makes has numbers from there
on, and no two objects have the same one, whatever their connections. -/
theorem counts_newObjects : Counts newObjects (fun p => p.2.toNat) nextObject where
  mono h := h.counters.1
  bounds := by
    rintro e e' ⟨c, id⟩ he h hn hp
    obtain ⟨hnone, r, hr⟩ := mem_newObjects.mp hp
    have we := wellFormed_of_reachable he (hn.of_changes h)
    refine ⟨Nat.le_of_not_lt fun hlt => ?_, (we.changes h hn).object_lt hr⟩
    obtain ⟨r₀, hr₀, -⟩ := h.kept hn hlt hr
    rw [hnone] at hr₀
    cases hr₀
  nodup := by
    intro e e' he h hn
    have hn₀ := hn.of_changes h
    have hu := (unshared_of_reachable he hn₀).changes (wellFormed_of_reachable he hn₀) h hn
    refine (nodup_newObjects e e').map_on fun p hp q hq heq => ?_
    obtain ⟨-, r, hr⟩ := mem_newObjects.mp hp
    obtain ⟨-, r', hr'⟩ := mem_newObjects.mp hq
    have hid : p.2 = q.2 := UInt64.toNat_inj.mp heq
    exact Prod.ext (hu _ _ _ _ _ hr (hid ▸ hr')) hid

/-- So are connections; no two have the same number as each is listed once. -/
theorem counts_newConnections :
    Counts newConnections (fun c => c.raw.toNat) nextConnection where
  mono h := h.counters.2
  bounds := by
    intro e e' c he h hn hc
    obtain ⟨hnew, halive⟩ := mem_newConnections.mp hc
    have we := wellFormed_of_reachable he (hn.of_changes h)
    refine ⟨Nat.le_of_not_lt fun hlt => ?_, (we.changes h hn).connection_lt halive⟩
    rw [h.alive_kept hn hlt halive] at hnew
    cases hnew
  nodup := by
    intro e e' _ _ _
    refine (e'.connections.nodup.filter _).map fun c c' h => ?_
    have hraw : c.raw = c'.raw := UInt64.toNat_inj.mp h
    cases c
    cases c'
    exact congrArg ConnectionId.mk hraw

/-- No two objects that a run makes have the same number, on whatever connections. -/
theorem nodup_creations (he : e.Reachable) {ops : List Op} (hn : (e.run ops).NumbersLeft) :
    ((e.creations ops).map Prod.snd).Nodup := by
  have h := counts_newObjects.nodup_brought he hn
  rw [show (fun p : ConnectionId × UInt64 => p.2.toNat) = UInt64.toNat ∘ Prod.snd from rfl,
    ← List.map_map] at h
  exact h.of_map _

/-- No two connections that a run makes are the same. -/
theorem nodup_establishments (he : e.Reachable) {ops : List Op} (hn : (e.run ops).NumbersLeft) :
    (e.establishments ops).Nodup :=
  (counts_newConnections.nodup_brought he hn).of_map _

/-! ## What answers say was made -/

/-- By its answer the operation made the object : the object that it was to create or the
camera of that object, or the representation of a pair that the table did not have. -/
inductive Makes (e : Engine) : Op → ConnectionId × UInt64 → Prop where
  | object {c : ConnectionId} {g : Group} {name : String} {ps : Properties} {h : Handle}
      {e' : Engine} (hmade : create c g name ps e = (.ok h, e')) :
      Makes e (.create c g name ps) (h.connection, h.id)
  | camera {c : ConnectionId} {g : Group} {name : String} {ps : Properties} {h : Handle}
      {e' : Engine} {r : Record} {k : UInt64} (hmade : create c g name ps e = (.ok h, e'))
      (hr : e'.object? h.connection h.id = some r) (hk : r.camera = some k) :
      Makes e (.create c g name ps) (h.connection, k)
  | representation {source view h : Handle} {visible : Bool} {e' : Engine}
      (hp : e.tabled? source.connection (source.id, view.id) = none)
      (hmade : setVisibility source view visible e = (.ok h, e')) :
      Makes e (.setVisibility source view visible) (h.connection, h.id)

theorem object?_addCamera_self {c : ConnectionId} (hc : e.isAlive c = true) (owner : UInt64)
    (d : Definition) :
    ∃ r, (e.addCamera c owner d).object? c (.ofNat e.nextObject) = some r := by
  have hnew : (e.addObject c d ∅).object? c (.ofNat e.nextObject) = some (e.newRecord c d ∅) :=
    object?_addObject_self e c d ∅ hc
  rw [addCamera, object?_linkCamera, hnew]
  split
  · exact ⟨_, rfl⟩
  · exact ⟨_, rfl⟩

/-- The camera of a new view is there. -/
theorem exists_camera_of_create {c : ConnectionId} {g : Group} {name : String} {ps : Properties}
    {h : Handle} (hmade : create c g name ps e = (.ok h, e')) {r : Record}
    (hr : e'.object? c h.id = some r) {k : UInt64} (hk : r.camera = some k) :
    ∃ r', e'.object? c k = some r' := by
  rcases create_cases c g name ps e with ⟨fault, heq⟩ | ⟨d, hc, -, -, hcase⟩
  · rw [heq] at hmade
    cases hmade
  rcases hcase with ⟨-, heq⟩ | ⟨-, -, fault, heq⟩ | ⟨-, camera, -, heq⟩
  · rw [heq] at hmade
    cases hmade
    rw [object?_addObject_self e c d ps hc] at hr
    cases hr
    cases hk
  · rw [heq] at hmade
    cases hmade
  · rw [heq] at hmade
    cases hmade
    rw [addCamera, object?_linkCamera, if_pos ⟨rfl, rfl⟩] at hr
    obtain ⟨r₀, -, rfl⟩ := Option.map_eq_some_iff.mp hr
    obtain rfl := Option.some.inj hk
    exact object?_addCamera_self (by simpa using hc) _ camera

/-- What an answer says was made is new. -/
theorem Makes.mem_newObjects {op : Op} {p : ConnectionId × UInt64} (h : Makes e op p)
    (we : e.WellFormed) (hn : (perform op e).2.NumbersLeft) :
    p ∈ newObjects e (perform op e).2 := by
  have hn₀ := hn.of_changes (changes_perform op e)
  cases h with
  | @object c g name ps h e' hmade =>
    have hstate : (perform (.create c g name ps) e).2 = e' :=
      (snd_perform_create ..).trans (congrArg Prod.snd hmade)
    rw [hstate] at hn ⊢
    obtain ⟨rfl, ⟨r, hr, -⟩, -⟩ := create_ok we hn hmade
    exact Engine.mem_newObjects.mpr ⟨we.object?_next hn₀ c, r, hr⟩
  | @camera c g name ps h e' r k hmade hr hk =>
    have hstate : (perform (.create c g name ps) e).2 = e' :=
      (snd_perform_create ..).trans (congrArg Prod.snd hmade)
    rw [hstate] at hn ⊢
    obtain ⟨rfl, ⟨r', hr', -, hlt⟩, -⟩ := create_ok we hn hmade
    obtain rfl := Option.some.inj (hr.symm.trans hr')
    refine Engine.mem_newObjects.mpr ⟨?_, exists_camera_of_create hmade hr hk⟩
    refine Option.eq_none_iff_forall_ne_some.mpr fun r₀ hr₀ => ?_
    exact Nat.lt_asymm (hlt k hk) (we.object_lt hr₀)
  | @representation source view h visible e' hp hmade =>
    have hstate : (perform (.setVisibility source view visible) e).2 = e' :=
      (snd_perform_setVisibility ..).trans (congrArg Prod.snd hmade)
    rw [hstate]
    rcases setVisibility_cases source view visible e with ⟨fault, heq⟩ |
      ⟨r, r', hc, hs, hv, ⟨k, rep, hk, hrep, heq⟩ | ⟨d, -, hd, heq⟩⟩
    · rw [heq] at hmade
      cases hmade
    · rw [hp] at hk
      cases hk
    · rw [heq] at hmade
      cases hmade
      exact Engine.mem_newObjects.mpr ⟨we.object?_next hn₀ _, object?_display
        (object?_addRepresentation_self e d view (isAlive_of_object? hs)) visible⟩

/-- A connection that was made is new. -/
theorem mem_newConnections_of_establish {url : String} {c : ConnectionId} (we : e.WellFormed)
    (hn : e.NumbersLeft) (hmade : (establish url e).1 = .ok c) :
    c ∈ newConnections e (perform (.establish url) e).2 := by
  rw [snd_perform_establish]
  obtain ⟨stats, ⟨fault, heq⟩ | heq⟩ := establish_cases url e
  · rw [heq] at hmade
    cases hmade
  · rw [heq] at hmade ⊢
    obtain rfl := Except.ok.inj hmade
    refine mem_newConnections.mpr ⟨?_, (isAlive_withConnection ..).mpr (Or.inl rfl)⟩
    exact Bool.eq_false_iff.mpr fun halive => we.connection_ne_next hn halive rfl

end Engine

end VizSession
