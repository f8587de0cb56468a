import VizSession.Proofs.Ownership
import VizSession.Proofs.StoreOrder

/-!
# What a creation adds

A creation puts its object behind those of the connection, and behind a view the camera that
it gets; nothing else differs but the counters behind numbers and names (`Engine.Gains`,
`gains_of_create`). For this each write says what it does to the objects of a connection as
they are stored (`Engine.records`). Deleting what was just made takes back the whole addition,
the camera included (`Gains.discard`).

A creation that fails leaves the engine as it was, with one exception (`create_error_cases`) :
the view is made before its camera is looked up in the catalog, so without a definition of
cameras the call fails and leaves a view without a camera behind (`LacksCamera`, `HalfMade`).
So creations are atomic in all states that come about from a catalog exactly if the catalog
has a definition of cameras (`failed_creations`).
-/

namespace VizSession

namespace OrderedMap

variable {κ ν : Type} [DecidableEq κ]

/-- The values stay in their order, but for those of the erased keys. -/
theorem entries_foldl_erase (m : OrderedMap κ ν) (ks : List κ) :
    (ks.foldl erase m).entries = m.entries.filter fun p => p.1 ∉ ks := by
  induction ks generalizing m with
  | nil => simp
  | cons k ks ih =>
    rw [List.foldl_cons, ih, erase, filter, List.filter_filter]
    exact List.filter_congr fun p _ => by simp [Bool.and_comm]

end OrderedMap

namespace Engine

variable {e e' : Engine} {c : ConnectionId} {rs : List Record}

/-! ## The objects of a connection after each write -/

section Records

variable {f : Store → Store} {i : UInt64} {g : Record → Record}

theorem records_updateStore_of_ne {c' : ConnectionId} (h : c' ≠ c) (e : Engine)
    (f : Store → Store) : (e.updateStore c f).records c' = e.records c' := by
  unfold records
  rw [find?_updateStore_of_ne e f h]

/-- A new object comes behind the others. -/
theorem WellFormed.records_addObject (we : e.WellFormed) (hn : e.NumbersLeft)
    (hc : e.isAlive c = true) (d : Definition) (ps : Properties) :
    (e.addObject c d ps).records c = e.records c ++ [e.newRecord c d ps] := by
  obtain ⟨s, hs⟩ := isAlive_iff.mp hc
  have hnext : s.records.find? (e.nextHandle c d).id = none := by
    have hnone := we.object?_next hn c
    rwa [object?, hs, Option.bind_some] at hnone
  have hstore : (e.addObject c d ps).connections.find? c =
      some (s.add (e.nextHandle c d) d.label (ps.fillDefaults d.properties)) := by
    show (e.updateStore c _).connections.find? c = _
    rw [find?_updateStore, if_pos rfl, hs]
    rfl
  simp only [records, hstore, hs, Option.map_some, Option.getD_some, OrderedMap.values, Store.add]
  rw [OrderedMap.entries_insert_of_find?_eq_none hnext, List.map_append]
  simp [newRecord, hs]

/-- A write that changes one object where it is. -/
theorem Keyed.records_modify (hk : e.Keyed)
    (hf : ∀ s, (f s).records = s.records.modify i g) (c : ConnectionId) :
    (e.updateStore c f).records c =
      (e.records c).map fun r => if r.handle.id = i then g r else r := by
  unfold records
  rw [find?_updateStore, if_pos rfl]
  cases hs : e.connections.find? c with
  | none => rfl
  | some s =>
    simp only [Option.map_some, Option.getD_some, OrderedMap.values, hf, OrderedMap.modify,
      List.map_map]
    refine List.map_congr_left fun p hp => ?_
    have hobject : e.object? c p.1 = some p.2 :=
      Option.bind_eq_some_iff.mpr ⟨s, hs, OrderedMap.find?_eq_some_iff.mpr hp⟩
    simp [(hk c p.1 p.2 hobject).1]

/-- A removal leaves the first part of the objects when it takes the others along. -/
theorem Keyed.records_remove (hk : e.Keyed) {l : List Record} (hl : e.records c = l ++ rs)
    (hstays : ∀ r ∈ l, ¬(r.handle.id = i ∨ e.Attends c i r.handle.id))
    (hgoes : ∀ r ∈ rs, r.handle.id = i ∨ e.Attends c i r.handle.id) :
    (e.updateStore c fun s => s.remove i).records c = l := by
  cases hs : e.connections.find? c with
  | none =>
    simp only [records, hs, Option.map_none, Option.getD_none] at hl
    rw [(List.append_eq_nil_iff.mp hl.symm).1, records, find?_updateStore, if_pos rfl, hs]
    rfl
  | some s =>
    have hattends : ∀ k, k = i ∨ e.Attends c i k ↔ k ∈ i :: s.attendants i := by
      intro k
      simp [Attends, object?, tabled?, hs, Store.mem_attendants]
    simp only [hattends] at hstays hgoes
    have hrecords : (e.updateStore c fun s => s.remove i).records c =
        (e.records c).filter fun r => r.handle.id ∉ i :: s.attendants i := by
      have herase := OrderedMap.entries_foldl_erase s.records (i :: s.attendants i)
      rw [List.foldl_cons] at herase
      unfold records
      rw [find?_updateStore, if_pos rfl, hs]
      simp only [Option.map_some, Option.getD_some, OrderedMap.values, Store.remove, herase]
      rw [List.filter_map]
      refine congrArg _ (List.filter_congr fun p hp => ?_)
      have hobject : e.object? c p.1 = some p.2 :=
        Option.bind_eq_some_iff.mpr ⟨s, hs, OrderedMap.find?_eq_some_iff.mpr hp⟩
      simp only [Function.comp_apply, (hk c p.1 p.2 hobject).1]
    rw [hrecords, hl, List.filter_append, List.filter_eq_self.mpr, List.filter_eq_nil_iff.mpr,
      List.append_nil]
    · exact fun r hr => by simp only [hgoes r hr, not_true, decide_false, Bool.false_eq_true,
        not_false_eq_true]
    · exact fun r hr => decide_eq_true (hstays r hr)

end Records

/-! ## Additions -/

/-- The objects `rs` came to the end of the connection `c`. Nothing else differs but the
counters behind numbers and names, which only go on. -/
structure Gains (e e' : Engine) (c : ConnectionId) (rs : List Record) : Prop where
  connections : e'.connections.keys = e.connections.keys
  here : e'.records c = e.records c ++ rs
  elsewhere : ∀ {c'}, c' ≠ c → e'.records c' = e.records c'
  tabled : ∀ c' pair, e'.tabled? c' pair = e.tabled? c' pair
  catalog : e'.catalog = e.catalog
  refusal : e'.refusal = e.refusal
  stats : e'.stats = e.stats
  nextConnection : e'.nextConnection = e.nextConnection
  nextObject : e.nextObject ≤ e'.nextObject

theorem Gains.refl (e : Engine) (c : ConnectionId) : Gains e e c [] where
  connections := rfl
  here := (List.append_nil _).symm
  elsewhere _ := rfl
  tabled _ _ := rfl
  catalog := rfl
  refusal := rfl
  stats := rfl
  nextConnection := rfl
  nextObject := Nat.le_refl _

/-- A write to the connection counts by what it does to the objects there, if it leaves the
table alone. -/
theorem Gains.updateStore (h : Gains e e' c rs) {f : Store → Store} {rs' : List Record}
    (hhere : (e'.updateStore c f).records c = e.records c ++ rs')
    (htabled : ∀ c' pair, (e'.updateStore c f).tabled? c' pair = e'.tabled? c' pair) :
    Gains e (e'.updateStore c f) c rs' where
  connections := (keys_updateStore e' c f).trans h.connections
  here := hhere
  elsewhere hc' := (records_updateStore_of_ne hc' e' f).trans (h.elsewhere hc')
  tabled c' pair := (htabled c' pair).trans (h.tabled c' pair)
  catalog := h.catalog
  refusal := h.refusal
  stats := h.stats
  nextConnection := h.nextConnection
  nextObject := h.nextObject

theorem Gains.addObject (h : Gains e e' c rs) (we' : e'.WellFormed) (hn : e'.NumbersLeft)
    (hc : e'.isAlive c = true) (d : Definition) (ps : Properties) :
    Gains e (e'.addObject c d ps) c (rs ++ [e'.newRecord c d ps]) where
  connections := (keys_addObject e' c d ps).trans h.connections
  here := by rw [we'.records_addObject hn hc, h.here, List.append_assoc]
  elsewhere hc' := (records_updateStore_of_ne hc' e' _).trans (h.elsewhere hc')
  tabled c' pair := (tabled?_addObject ..).trans (h.tabled c' pair)
  catalog := h.catalog
  refusal := h.refusal
  stats := h.stats
  nextConnection := h.nextConnection
  nextObject := Nat.le_succ_of_le h.nextObject

theorem WellFormed.toNat_id_lt (we : e.WellFormed) {r : Record} (hr : r ∈ e.records c) :
    r.handle.id.toNat < e.nextObject :=
  we.object_lt (we.keyed.mem_records.mp hr)

/-- A write that changes an object with a new number changes one of those that came. -/
theorem Gains.modify (h : Gains e e' c rs) (we : e.WellFormed) (hk : e'.Keyed)
    {f : Store → Store} {i : UInt64} {g : Record → Record}
    (hf : ∀ s, (f s).records = s.records.modify i g)
    (htable : ∀ s, (f s).representations = s.representations) (hi : e.nextObject ≤ i.toNat) :
    Gains e (e'.updateStore c f) c (rs.map fun r => if r.handle.id = i then g r else r) := by
  refine h.updateStore ?_ fun c' pair => tabled?_updateStore_of_eq e' c c' htable pair
  rw [hk.records_modify hf, h.here, List.map_append]
  refine congrArg (· ++ _) ((List.map_congr_left fun r hr => if_neg ?_).trans (List.map_id _))
  rintro rfl
  exact Nat.not_le.mpr (we.toNat_id_lt hr) hi

/-- What a new object brings along : a view owns a camera, and other objects have none. -/
inductive Brings (g : Group) (r : Record) : List Record → Prop where
  | nothing (hg : g ≠ .views) (hr : r.camera = none) : Brings g r []
  | camera {x : Record} (hg : g = .views) (hr : r.camera = some x.handle.id)
      (hgroup : x.handle.group = .cameras) (hname : x.handle.definition = "Camera") :
      Brings g r [x]

/-- The cameras behind a new object are of another group. -/
theorem Brings.filter_group {g : Group} {r : Record} {cameras : List Record}
    (h : Brings g r cameras) : cameras.filter (fun x => x.handle.group = g) = [] := by
  cases h with
  | nothing => rfl
  | camera hg _ hgroup => simp [hgroup, hg]

section Brings

variable {g : Group} {r : Record} {cameras : List Record}

/-- Of its group, a new object is all that was added. -/
theorem Gains.filter_group (h : Gains e e' c (r :: cameras)) (hb : Brings g r cameras)
    (hr : r.handle.group = g) : (e'.records c).filter (fun x => x.handle.group = g) =
      (e.records c).filter (fun x => x.handle.group = g) ++ [r] := by
  rw [h.here, List.filter_append, List.filter_cons, if_pos (decide_eq_true hr), hb.filter_group]

theorem Gains.list (h : Gains e e' c (r :: cameras)) (hb : Brings g r cameras)
    (hr : r.handle.group = g) : e'.list c g = e.list c g ++ [r.handle] := by
  rw [list_eq, list_eq, h.filter_group hb hr, List.map_append, List.map_singleton]

/-- What is found under a name is what was found before, or else the new object if it has the
name. -/
theorem Gains.find? (h : Gains e e' c (r :: cameras)) (hb : Brings g r cameras)
    (hr : r.handle.group = g) (name : String) : e'.find? c g name =
      (e.find? c g name).or (if r.name = name then some r.handle else none) := by
  rw [find?_eq, find?_eq, h.filter_group hb hr, List.find?_append, Option.map_or]
  by_cases hname : r.name = name <;> simp [hname]

end Brings

/-- From the first engine to the second the object `r` was made from the definition and the
properties, under the next number, with the cameras behind it. Its name is left open. -/
structure Made (e e' : Engine) (c : ConnectionId) (d : Definition) (ps : Properties)
    (r : Record) (cameras : List Record) : Prop where
  handle : r.handle = e.nextHandle c d
  properties : r.properties = ps.fillDefaults d.properties
  brings : Brings d.group r cameras
  /-- A camera was made after its owner. -/
  later : ∀ x ∈ cameras, e.nextObject < x.handle.id.toNat
  gains : Gains e e' c (r :: cameras)

section Made

variable {d : Definition} {ps : Properties} {r : Record} {cameras : List Record}

theorem Made.toNat_id (h : Made e e' c d ps r cameras) (hn : e.NumbersLeft) :
    r.handle.id.toNat = e.nextObject := by
  rw [h.handle]
  exact hn.toNat_nextObject

/-- The new object is there. -/
theorem Made.object? (h : Made e e' c d ps r cameras) (hk : e'.Keyed) :
    e'.object? c r.handle.id = some r :=
  hk.mem_records.mp (h.gains.here ▸ List.mem_append_right _ List.mem_cons_self)

theorem made_of_addObject (we : e.WellFormed) (hn : e.NumbersLeft) (hc : e.isAlive c = true)
    (hg : d.group ≠ .views) (ps : Properties) :
    Made e (e.addObject c d ps) c d ps (e.newRecord c d ps) [] where
  handle := rfl
  properties := rfl
  brings := .nothing hg rfl
  later := nofun
  gains := (Gains.refl e c).addObject we hn hc d ps

/-- A view comes with its camera behind it. -/
theorem made_of_addView {camera : Definition} (we : e.WellFormed) (hc : e.isAlive c = true)
    (hd : e.definition? .views d.name = some d) (hps : e.validate c d ps = .ok ())
    (hcamera : e.definition? .cameras "Camera" = some camera)
    (hn : (e.addView c d camera ps).NumbersLeft) :
    Made e (e.addView c d camera ps) c d ps
      { e.newRecord c d ps with camera := some (.ofNat (e.nextObject + 1)) }
      [(e.addObject c d ps).newRecord c camera ∅] := by
  obtain ⟨hn₀, hn₁⟩ := numbersLeft_of_addView hn
  have hgroup := (group_name_of_definition? hd).1
  obtain ⟨hcameras, hname⟩ := group_name_of_definition? hcamera
  have hc₁ : (e.addObject c d ps).isAlive c = true := by rwa [isAlive_addObject]
  have we₁ := we.change (.edit (.make hc (hgroup ▸ hd) hps)) hn₀
  have hequip : Change (e.addObject c d ps) ((e.addObject c d ps).addObject c camera ∅) :=
    .edit (.make hc₁ (hcameras ▸ hname ▸ hcamera) rfl)
  have we₂ := we₁.change hequip hn₁
  -- the camera has the number after that of the view
  have hfirst : (e.nextHandle c d).id.toNat = e.nextObject := hn₀.toNat_nextObject
  have hsecond : ((e.addObject c d ps).nextHandle c camera).id.toNat = e.nextObject + 1 :=
    hn₁.toNat_nextObject
  have hview : (e.newRecord c d ps).handle.id = (e.nextHandle c d).id := rfl
  have hother : ((e.addObject c d ps).newRecord c camera ∅).handle.id ≠ (e.nextHandle c d).id :=
    fun heq => Nat.succ_ne_self _ (hsecond.symm.trans ((congrArg UInt64.toNat heq).trans hfirst))
  have hboth := ((Gains.refl e c).addObject we hn₀ hc d ps).addObject we₁ hn₁ hc₁ camera ∅
  have hlinked := hboth.modify we we₂.keyed
    (f := fun s => s.linkCamera (e.nextHandle c d).id (.ofNat (e.nextObject + 1)))
    (g := fun r => { r with camera := some (.ofNat (e.nextObject + 1)) }) (fun _ => rfl)
    (fun _ => rfl) (Nat.le_of_eq hfirst.symm)
  simp only [List.nil_append, List.cons_append, List.map_cons, List.map_nil, if_pos hview,
    if_neg hother] at hlinked
  refine ⟨rfl, rfl, .camera hgroup rfl hcameras hname, fun x hx => ?_, hlinked⟩
  obtain rfl := List.mem_singleton.mp hx
  exact Nat.lt_of_lt_of_eq (Nat.lt_succ_self _) hsecond.symm

/-- Another name does not change what was made. -/
theorem Made.rename (h : Made e e' c d ps r cameras) (we : e.WellFormed) (hn : e.NumbersLeft)
    (hk : e'.Keyed) (name : String) :
    Made e (e'.updateStore c fun s => s.rename r.handle.id name) c d ps { r with name := name }
      cameras where
  handle := h.handle
  properties := h.properties
  brings := by
    cases h.brings with
    | nothing hg hr => exact .nothing hg hr
    | camera hg hr hgroup hname => exact .camera hg hr hgroup hname
  later := h.later
  gains := by
    have hgains := h.gains.modify we hk
      (f := fun s => s.rename r.handle.id name) (g := fun r => { r with name := name })
      (fun _ => rfl) (fun _ => rfl) (Nat.le_of_eq (h.toNat_id hn).symm)
    rw [List.map_cons, if_pos rfl] at hgains
    refine (congrArg (Gains e _ c) (congrArg (_ :: ·) ?_)).mp hgains
    refine (List.map_congr_left fun x hx => if_neg fun heq => ?_).trans (List.map_id _)
    have hlater := h.later x hx
    rw [heq, h.toNat_id hn] at hlater
    exact Nat.lt_irrefl _ hlater

/-- When a new object is deleted at once, all that was made with it goes, and nothing else. -/
theorem Made.discard (h : Made e e' c d ps r cameras) (we : e.WellFormed) (hn : e.NumbersLeft)
    (hk : e'.Keyed) : Gains e (e'.updateStore c fun s => s.remove r.handle.id) c [] := by
  have hobject := h.object? hk
  have hapart : ∀ pair k, e'.tabled? c pair = some k →
      Store.involves r.handle.id pair = false := by
    intro pair k hpair
    rw [h.gains.tabled] at hpair
    obtain ⟨h₁, h₂⟩ := we.pair_lt hpair
    refine Bool.eq_false_iff.mpr fun hinvolves => ?_
    rw [Store.involves, Bool.or_eq_true, beq_iff_eq, beq_iff_eq] at hinvolves
    rcases hinvolves with heq | heq
    · rw [heq, h.toNat_id hn] at h₁
      exact Nat.lt_irrefl _ h₁
    · rw [heq, h.toNat_id hn] at h₂
      exact Nat.lt_irrefl _ h₂
  have hattends : ∀ k, e'.Attends c r.handle.id k → r.camera = some k := by
    rintro k (⟨r', hr', hcamera⟩ | ⟨pair, hpair, hinvolves⟩)
    · obtain rfl := Option.some.inj (hobject.symm.trans hr')
      exact hcamera
    · rw [hapart pair k hpair] at hinvolves
      cases hinvolves
  refine h.gains.updateStore ?_ fun c' pair => Option.ext fun k => ?_
  · rw [List.append_nil]
    refine hk.records_remove h.gains.here (fun r₀ hr₀ => ?_) fun x hx => ?_
    · have hlt := we.toNat_id_lt hr₀
      rintro (heq | hgoes)
      · rw [heq, h.toNat_id hn] at hlt
        exact Nat.lt_irrefl _ hlt
      · cases h.brings with
        | nothing hg hr =>
          rw [hr] at hattends
          cases hattends _ hgoes
        | camera hg hr =>
          rw [hr] at hattends
          have hlater := h.later _ List.mem_cons_self
          rw [Option.some.inj (hattends _ hgoes)] at hlater
          exact Nat.lt_asymm hlt hlater
    · rcases List.mem_cons.mp hx with rfl | hx
      · exact Or.inl rfl
      · cases h.brings with
        | nothing => cases hx
        | camera hg hr =>
          obtain rfl := List.mem_singleton.mp hx
          exact Or.inr (Or.inl ⟨r, hobject, hr⟩)
  · rw [tabled?_remove]
    refine and_iff_left_of_imp fun hpair => ?_
    rintro ⟨rfl, hinvolves⟩
    rw [hapart pair k hpair] at hinvolves
    cases hinvolves

/-- A creation that succeeds makes its object from the definition, and names it after the
label. -/
theorem made_of_create (we : e.WellFormed) (hn : e'.NumbersLeft) {g : Group} {name : String}
    {h : Handle} (hmade : create c g name ps e = (.ok h, e')) :
    ∃ d r cameras, e.definition? g name = some d ∧ r.handle = h ∧
      r.name = (e.newRecord c d ps).name ∧ Made e e' c d ps r cameras := by
  rcases create_cases c g name ps e with ⟨fault, heq⟩ | ⟨d, hc, hd, hps, hcase⟩
  · rw [heq] at hmade
    cases hmade
  obtain ⟨rfl, rfl⟩ := group_name_of_definition? hd
  rcases hcase with ⟨hg, heq⟩ | ⟨-, -, fault, heq⟩ | ⟨hg, camera, hcamera, heq⟩
  · rw [heq] at hmade
    cases hmade
    have hn₀ : e.NumbersLeft := ⟨Nat.lt_of_le_of_lt (Nat.le_succ _) hn.1, hn.2⟩
    exact ⟨d, _, _, hd, rfl, rfl, made_of_addObject we hn₀ hc hg ps⟩
  · rw [heq] at hmade
    cases hmade
  · rw [heq] at hmade
    cases hmade
    refine ⟨d, _, _, hd, ?_, ?_, made_of_addView we hc (hg ▸ hd) hps hcamera hn⟩
    · rfl
    · rfl

end Made

/-! ## Creations that fail -/

/-- The call is for a view that can be made, and the catalog has no definition of the camera
that the view is to get. -/
structure LacksCamera (e : Engine) (c : ConnectionId) (g : Group) (name : String)
    (ps : Properties) : Prop where
  view : g = .views
  possible : ∃ d, e.blueprint c g name ps = .ok d
  camera : e.definition? .cameras "Camera" = none

/-- What is left by a creation that lacks a camera : the view is there all the same, and it has
no camera. Its number and its name were counted, and nothing else was touched. -/
structure HalfMade (e e' : Engine) (c : ConnectionId) (ps : Properties) (view : Handle) :
    Prop where
  made : ∃ d, e.definition? .views view.definition = some d ∧ e' = e.addObject c d ps
  object : ∃ r, e'.object? c view.id = some r ∧ r.handle = view ∧ r.camera = none
  others : ∀ c' id, ¬(c' = c ∧ id = view.id) → e'.object? c' id = e.object? c' id
  tabled : ∀ c' pair, e'.tabled? c' pair = e.tabled? c' pair
  counted : e'.nextObject = e.nextObject + 1
  camera : e'.cameraOf view = .error (.proxyNotFound view.id)

/-- What a call for an object does when it fails : the engine is as it was unless the object is a
view that lacks its camera, and then the view is left half made. -/
structure Failures (e : Engine) (c : ConnectionId) (g : Group) (name : String)
    (ps : Properties) : Prop where
  changed_iff : (∃ fault e', create c g name ps e = (.error fault, e') ∧ e' ≠ e) ↔
    e.LacksCamera c g name ps
  left : e.LacksCamera c g name ps → ∃ e',
    create c g name ps e = (.error (.unknownDefinition .cameras "Camera"), e') ∧
      HalfMade e e' c ps ⟨.ofNat e.nextObject, c, .views, name⟩

/-- No creation that fails changes the engine. -/
def CreatesAtomically (e : Engine) : Prop :=
  ∀ c g name ps fault e', create c g name ps e = (.error fault, e') → e' = e

section Failure

variable {g : Group} {name : String} {ps : Properties} {fault : EngineError}

theorem halfMade_addObject (hc : e.isAlive c = true) {d : Definition}
    (hd : e.definition? .views name = some d) (ps : Properties) :
    HalfMade e (e.addObject c d ps) c ps ⟨.ofNat e.nextObject, c, .views, name⟩ := by
  obtain ⟨hgroup, rfl⟩ := group_name_of_definition? hd
  have hself := object?_addObject_self e c d ps hc
  refine ⟨⟨d, hd, rfl⟩, ⟨_, hself, ?_, rfl⟩, fun c' id hother => ?_,
    fun c' pair => tabled?_addObject .., rfl, ?_⟩
  · simp [newRecord, nextHandle, hgroup]
  · rw [object?_addObject e c d ps hc, if_neg fun h => hother ⟨h.1.symm, h.2.symm⟩]
  · obtain ⟨s, hs, -⟩ := Option.bind_eq_some_iff.mp hself
    have hrecord : (e.addObject c d ps).record ⟨.ofNat e.nextObject, c, .views, d.name⟩ =
        .ok (e.newRecord c d ps) := record_eq_ok_iff.mpr hself
    simp [cameraOf, store_eq_ok_iff.mpr hs, hrecord, newRecord, bind, Except.bind]

/-- What can be made is made, and a view gets its camera if there is a definition of it. -/
theorem create_of_blueprint {d : Definition} (hb : e.blueprint c g name ps = .ok d) :
    create c g name ps e =
      if g ≠ .views then (.ok (e.nextHandle c d), e.addObject c d ps)
      else
        match e.definition? .cameras "Camera" with
        | none => (.error (.unknownDefinition .cameras "Camera"), e.addObject c d ps)
        | some camera => (.ok (e.nextHandle c d), e.addView c d camera ps) := by
  have hlookup : (e.addObject c d ps).definition .cameras "Camera" =
      e.definition .cameras "Camera" := rfl
  unfold create
  rw [hb]
  dsimp only
  rw [hlookup, definition]
  cases e.definition? .cameras "Camera" <;> rfl

/-- A view that lacks its camera is made, and the call fails. -/
theorem create_of_lacksCamera (h : e.LacksCamera c g name ps) :
    ∃ e', create c g name ps e = (.error (.unknownDefinition .cameras "Camera"), e') ∧
      HalfMade e e' c ps ⟨.ofNat e.nextObject, c, .views, name⟩ := by
  obtain ⟨rfl, ⟨d, hb⟩, hcamera⟩ := h
  obtain ⟨hc, hd, -⟩ := blueprint_eq_ok hb
  exact ⟨_, by simp [create_of_blueprint hb, hcamera], halfMade_addObject hc hd ps⟩

theorem blueprint_of_create {h : Handle} (hmade : create c g name ps e = (.ok h, e')) :
    ∃ d, e.blueprint c g name ps = .ok d := by
  cases hb : e.blueprint c g name ps with
  | error refusal => simp [create, hb] at hmade
  | ok d => exact ⟨d, rfl⟩

/-- What can be made and lacks no camera is made. -/
theorem exists_create_eq_ok {d : Definition} (hb : e.blueprint c g name ps = .ok d)
    (hcamera : ¬e.LacksCamera c g name ps) :
    ∃ h e', create c g name ps e = (.ok h, e') := by
  rw [create_of_blueprint hb]
  by_cases hg : g = .views
  · cases hd : e.definition? .cameras "Camera" with
    | none => exact absurd ⟨hg, ⟨d, hb⟩, hd⟩ hcamera
    | some camera => exact ⟨_, _, if_neg (not_not_intro hg)⟩
  · exact ⟨_, _, if_pos hg⟩

/-- A creation that fails leaves the engine as it was, or a view lacked its camera. -/
theorem create_error_cases (h : create c g name ps e = (.error fault, e')) :
    e' = e ∨ e.LacksCamera c g name ps := by
  cases hb : e.blueprint c g name ps with
  | error refusal =>
    simp only [create, hb] at h
    exact Or.inl (Prod.ext_iff.mp h).2.symm
  | ok d =>
    by_contra hcases
    obtain ⟨made, e'', hmade⟩ := exists_create_eq_ok hb fun hcamera => hcases (Or.inr hcamera)
    rw [hmade] at h
    cases h

theorem create_fails_changed_iff :
    (∃ fault e', create c g name ps e = (.error fault, e') ∧ e' ≠ e) ↔
      e.LacksCamera c g name ps := by
  constructor
  · rintro ⟨fault, e', hfails, hchanged⟩
    exact (create_error_cases hfails).resolve_left hchanged
  · intro h
    obtain ⟨e', hfails, hleft⟩ := create_of_lacksCamera h
    refine ⟨_, e', hfails, ?_⟩
    rintro rfl
    exact Nat.succ_ne_self _ hleft.counted.symm

theorem createsAtomically_of_camera {d : Definition}
    (hd : e.definition? .cameras "Camera" = some d) : e.CreatesAtomically := by
  intro c g name ps fault e' hfails
  refine (create_error_cases hfails).resolve_right fun hlacks => ?_
  rw [hlacks.camera] at hd
  cases hd

/-- Without a definition of cameras, a view can be defined that lacks its camera. -/
theorem exists_lacksCamera {catalog : List Definition}
    (hnone : (ofCatalog catalog).definition? .cameras "Camera" = none) :
    ∃ ops c name, ((ofCatalog catalog).run ops).LacksCamera c .views name ∅ := by
  let view : Definition := ⟨.views, "View", "View", []⟩
  let ops : List Op := [.establish servedUrl, .addDefinition view]
  let e : Engine := (ofCatalog catalog).run ops
  have hcatalog : e.catalog = catalog ++ [view] := rfl
  obtain ⟨d, hd⟩ : ∃ d, e.definition? .views "View" = some d := by
    refine Option.isSome_iff_exists.mp ?_
    rw [definition?, List.find?_isSome]
    exact ⟨view, by simp [hcatalog], by simp [view]⟩
  have hstore : e.store ⟨1⟩ = .ok .empty := rfl
  refine ⟨ops, ⟨1⟩, "View", rfl, ⟨d, ?_⟩, ?_⟩
  · show e.blueprint ⟨1⟩ .views "View" ∅ = .ok d
    rw [blueprint, hstore, definition_eq_ok_iff.mpr hd]
    rfl
  · show List.find? _ (catalog ++ [view]) = none
    rw [List.find?_append]
    exact (congrArg (Option.or · _) hnone).trans (by simp [view])

end Failure

end Engine

/-- A creation that fails leaves the engine as it was, in every state that operations lead to
from any catalog, with one exception : a view that can be made is left behind, without a
camera, when the catalog has no definition of its camera. So creations are atomic in all those
states exactly if the catalog has a definition of cameras to begin with. -/
theorem failed_creations (catalog : List Definition) :
    (∀ ops c g name ps, ((Engine.ofCatalog catalog).run ops).Failures c g name ps) ∧
      ((∀ ops, ((Engine.ofCatalog catalog).run ops).CreatesAtomically) ↔
        ∃ d, (Engine.ofCatalog catalog).definition? .cameras "Camera" = some d) := by
  refine ⟨fun ops c g name ps =>
    ⟨Engine.create_fails_changed_iff, Engine.create_of_lacksCamera⟩, ?_, ?_⟩
  · intro hatomic
    by_contra hnone
    obtain ⟨ops, c, name, hlacks⟩ := Engine.exists_lacksCamera
      (Option.eq_none_iff_forall_ne_some.mpr fun d hd => hnone ⟨d, hd⟩)
    obtain ⟨fault, e', hfails, hchanged⟩ := Engine.create_fails_changed_iff.mpr hlacks
    exact hchanged (hatomic ops c .views name ∅ fault e' hfails)
  · rintro ⟨d, hd⟩ ops
    exact Engine.createsAtomically_of_camera ((Engine.changes_run _ ops).definition? hd)

/-- A catalog that offers views and no cameras : the view is left behind by a call that fails.
With the built-in catalog no creation does that. -/
theorem failed_creations_plain_views :
    let catalog : List Definition := [⟨.views, "RenderView", "Render View", []⟩]
    let e := (Engine.ofCatalog catalog).run [.establish "builtin:"]
    let view : Handle := ⟨1, ⟨1⟩, .views, "RenderView"⟩
    (∃ e', Engine.create ⟨1⟩ .views "RenderView" ∅ e =
        (.error (.unknownDefinition .cameras "Camera"), e') ∧ e.HalfMade e' ⟨1⟩ ∅ view) ∧
      ¬(∀ ops, ((Engine.ofCatalog catalog).run ops).CreatesAtomically) ∧
      ∀ ops, ((Engine.ofCatalog builtinCatalog).run ops).CreatesAtomically := by
  intro catalog e view
  refine ⟨?_, fun hatomic => ?_, (failed_creations builtinCatalog).2.mpr ⟨_, rfl⟩⟩
  · exact ((failed_creations catalog).1 [.establish "builtin:"] ⟨1⟩ .views "RenderView" ∅).left
      ⟨rfl, ⟨_, rfl⟩, rfl⟩
  · obtain ⟨d, hd⟩ := (failed_creations catalog).2.mp hatomic
    cases hd

/-- A call that fails leaves a view on its connection. -/
theorem failed_creation_leaves_view :
    let catalog : List Definition := [⟨.views, "RenderView", "Render View", []⟩]
    let e := (Engine.ofCatalog catalog).run [.establish "builtin:"]
    let made := Engine.create ⟨1⟩ .views "RenderView" ∅ e
    made.1 = .error (.unknownDefinition .cameras "Camera") ∧ made.2 ≠ e ∧
      e.list ⟨1⟩ .views = [] ∧ made.2.list ⟨1⟩ .views = [⟨1, ⟨1⟩, .views, "RenderView"⟩] ∧
      made.2.nextObject = e.nextObject + 1 := by
  refine ⟨rfl, fun h => ?_, rfl, rfl, rfl⟩
  cases congrArg Engine.nextObject h

end VizSession
