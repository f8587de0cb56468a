import VizSession.Proofs.Changes

/-!
# Numbers given out once

As long as an engine has numbers left (`Engine.NumbersLeft`), no number is given out twice.
So an object is there with the handle it was made with, or it was made just now under a new
number (`Change.origin`). A handle that was given out (`Engine.Issued`) stays one
(`Issued.changes`), and what is gone does not come back (`Changes.kept`).

`Engine.WellFormed` is the joint invariant of the objects, the links to cameras and the
table of representations : every object is stored under its own handle, a camera that is
there is in the group of cameras, and what the table names is the representation of one
pair, unless it is gone. Every reachable engine that has numbers left is well-formed
(`wellFormed_of_reachable`).
-/

namespace VizSession

namespace Engine

/-! ## Counters -/

/-- There is a number left for the next object and for the next connection : fewer than
`2 ^ 64 - 1` of either were made so far. -/
def NumbersLeft (e : Engine) : Prop :=
  e.nextObject < UInt64.size ∧ e.nextConnection < UInt64.size

/-- Counters never go back. -/
theorem Change.counters {e e' : Engine} (h : Change e e') :
    e.nextObject ≤ e'.nextObject ∧ e.nextConnection ≤ e'.nextConnection := by
  cases h with
  | edit h =>
    cases h with
    | make | equip | represent => exact ⟨Nat.le_succ _, Nat.le_refl _⟩
    | count | refuse | define | rename | write | display =>
      exact ⟨Nat.le_refl _, Nat.le_refl _⟩
  | connect => exact ⟨Nat.le_refl _, Nat.le_succ _⟩
  | disconnect | remove => exact ⟨Nat.le_refl _, Nat.le_refl _⟩

theorem NumbersLeft.of_change {e e' : Engine} (h : Change e e') (hn : e'.NumbersLeft) :
    e.NumbersLeft :=
  ⟨Nat.lt_of_le_of_lt h.counters.1 hn.1, Nat.lt_of_le_of_lt h.counters.2 hn.2⟩

theorem NumbersLeft.of_changes {e e' : Engine} (h : Changes e e') (hn : e'.NumbersLeft) :
    e.NumbersLeft := by
  induction h with
  | refl => exact hn
  | tail _ hstep ih => exact ih (hn.of_change hstep)

theorem Changes.counters {e e' : Engine} (h : Changes e e') :
    e.nextObject ≤ e'.nextObject ∧ e.nextConnection ≤ e'.nextConnection := by
  induction h with
  | refl => exact ⟨Nat.le_refl _, Nat.le_refl _⟩
  | tail _ hstep ih =>
    exact ⟨Nat.le_trans ih.1 hstep.counters.1, Nat.le_trans ih.2 hstep.counters.2⟩

theorem NumbersLeft.toNat_nextObject {e : Engine} (hn : e.NumbersLeft) :
    (UInt64.ofNat e.nextObject).toNat = e.nextObject :=
  UInt64.toNat_ofNat_of_lt hn.1

/-- The number of the next object was not given out. -/
theorem NumbersLeft.nextObject_not_lt {e : Engine} (hn : e.NumbersLeft) :
    ¬(UInt64.ofNat e.nextObject).toNat < e.nextObject := by
  rw [hn.toNat_nextObject]
  exact Nat.lt_irrefl _

/-- It is when the next object was made. -/
theorem NumbersLeft.nextObject_lt {e e' : Engine} (hn : e.NumbersLeft)
    (hnext : e'.nextObject = e.nextObject + 1) :
    (UInt64.ofNat e.nextObject).toNat < e'.nextObject := by
  rw [hn.toNat_nextObject, hnext]
  exact Nat.lt_succ_self _

theorem NumbersLeft.toNat_nextConnection {e : Engine} (hn : e.NumbersLeft) :
    e.nextConnectionId.raw.toNat = e.nextConnection :=
  UInt64.toNat_ofNat_of_lt hn.2

/-! ## Where objects come from -/

/-- A write that changes one object where it is keeps every object but for that change. -/
theorem eq_some_of_ite_map {p : Prop} [Decidable p] {o : Option Record} {g : Record → Record}
    {r' : Record} (h : (if p then o.map g else o) = some r') :
    ∃ r, o = some r ∧ (r' = r ∨ r' = g r) := by
  split at h
  · obtain ⟨r, hr, rfl⟩ := Option.map_eq_some_iff.mp h
    exact ⟨r, hr, Or.inr rfl⟩
  · exact ⟨r', h, Or.inl rfl⟩

theorem object?_of_addObject {e : Engine} {c c' : ConnectionId} {d : Definition}
    {ps : Properties} {id : UInt64} {r' : Record} (hc : e.isAlive c = true)
    (h : (e.addObject c d ps).object? c' id = some r') :
    e.object? c' id = some r' ∨
      c = c' ∧ .ofNat e.nextObject = id ∧ r' = e.newRecord c d ps := by
  rw [object?_addObject e c d ps hc] at h
  split at h
  · rename_i hnew
    exact Or.inr ⟨hnew.1, hnew.2, (Option.some.inj h).symm⟩
  · exact Or.inl h

/-- An object that is there after an edit is an object from before, its handle and its
camera being the same; or the edit made it; or the edit gave it its camera. -/
theorem Edit.object_cases {e e' : Engine} (h : Edit e e') {c : ConnectionId} {id : UInt64}
    {r' : Record} (hr : e'.object? c id = some r') :
    (∃ r, e.object? c id = some r ∧ r'.handle = r.handle ∧ r'.camera = r.camera) ∨
      (∃ d ps, id = .ofNat e.nextObject ∧ e'.nextObject = e.nextObject + 1 ∧
        r' = e.newRecord c d ps) ∨
      ∃ r d, e' = e.addCamera c id d ∧ d.group = .cameras ∧ e.isAlive c = true ∧
        (e.addObject c d ∅).object? c id = some r ∧
        r' = { r with camera := some (.ofNat e.nextObject) } := by
  cases h with
  | count | refuse | define => exact Or.inl ⟨r', hr, rfl, rfl⟩
  | @make _ d ps hc =>
    rcases object?_of_addObject hc hr with hold | ⟨rfl, rfl, rfl⟩
    · exact Or.inl ⟨r', hold, rfl, rfl⟩
    · exact Or.inr (Or.inl ⟨d, ps, rfl, rfl, rfl⟩)
  | @equip c₀ owner r₀ d hown hd =>
    have hlive := isAlive_of_object? hown
    rw [addCamera, object?_linkCamera] at hr
    split at hr
    · rename_i howner
      obtain ⟨rfl, rfl⟩ := howner
      obtain ⟨r, hadd, rfl⟩ := Option.map_eq_some_iff.mp hr
      exact Or.inr (Or.inr ⟨r, d, rfl, (group_name_of_definition? hd).1, hlive, hadd, rfl⟩)
    · rcases object?_of_addObject hlive hr with hold | ⟨rfl, rfl, rfl⟩
      · exact Or.inl ⟨r', hold, rfl, rfl⟩
      · exact Or.inr (Or.inl ⟨d, ∅, rfl, rfl, rfl⟩)
  | @represent source view _ _ d hc hs =>
    rw [object?_addRepresentation e d view (isAlive_of_object? hs)] at hr
    split at hr
    · rename_i hnew
      obtain ⟨rfl, rfl⟩ := hnew
      exact Or.inr (Or.inl ⟨d, inputOf source, rfl, rfl, (Option.some.inj hr).symm⟩)
    · exact Or.inl ⟨r', hr, rfl, rfl⟩
  | rename =>
    rw [object?_rename] at hr
    obtain ⟨r, hold, rfl | rfl⟩ := eq_some_of_ite_map hr
    · exact Or.inl ⟨_, hold, rfl, rfl⟩
    · exact Or.inl ⟨r, hold, rfl, rfl⟩
  | write =>
    rw [object?_write] at hr
    obtain ⟨r, hold, rfl | rfl⟩ := eq_some_of_ite_map hr
    · exact Or.inl ⟨_, hold, rfl, rfl⟩
    · exact Or.inl ⟨r, hold, rfl, rfl⟩
  | display =>
    rw [Engine.display, object?_write] at hr
    obtain ⟨r, hold, rfl | rfl⟩ := eq_some_of_ite_map hr
    · exact Or.inl ⟨_, hold, rfl, rfl⟩
    · exact Or.inl ⟨r, hold, rfl, rfl⟩

/-- Connections that are made or ended, and objects that are removed, bring no object. -/
theorem Change.object_cases {e e' : Engine} (h : Change e e') {c : ConnectionId} {id : UInt64}
    {r' : Record} (hr : e'.object? c id = some r') : e.object? c id = some r' ∨ Edit e e' := by
  cases h with
  | edit h => exact Or.inr h
  | connect =>
    rw [object?_withConnection] at hr
    split at hr
    · cases hr
    · exact Or.inl hr
  | disconnect =>
    rw [object?_without] at hr
    split at hr
    · cases hr
    · exact Or.inl hr
  | remove => exact Or.inl ((object?_remove ..).mp hr).1

/-- An object that is there after a change was there before with the same handle, or the
change made it, under the number that was next. -/
theorem Change.origin {e e' : Engine} (h : Change e e') {c : ConnectionId} {id : UInt64}
    {r' : Record} (hr : e'.object? c id = some r') :
    (∃ r, e.object? c id = some r ∧ r'.handle = r.handle) ∨
      id = .ofNat e.nextObject ∧ e'.nextObject = e.nextObject + 1 ∧ r'.handle.id = id ∧
        r'.handle.connection = c := by
  rcases h.object_cases hr with hold | h
  · exact Or.inl ⟨r', hold, rfl⟩
  rcases h.object_cases hr with ⟨r, hold, hhandle, -⟩ | ⟨d, ps, rfl, hnext, rfl⟩ |
    ⟨r, d, rfl, -, hc, hadd, rfl⟩
  · exact Or.inl ⟨r, hold, hhandle⟩
  · exact Or.inr ⟨rfl, hnext, rfl, rfl⟩
  · rcases object?_of_addObject hc hadd with hold | ⟨-, rfl, rfl⟩
    · exact Or.inl ⟨r, hold, rfl⟩
    · exact Or.inr ⟨rfl, rfl, rfl, rfl⟩

/-- A camera that an object has after a change it had before, or it is new and a camera. -/
theorem Change.camera_origin {e e' : Engine} (h : Change e e') {c : ConnectionId}
    {id k : UInt64} {r' : Record} (hr : e'.object? c id = some r') (hk : r'.camera = some k) :
    (∃ r, e.object? c id = some r ∧ r.camera = some k) ∨
      k = .ofNat e.nextObject ∧ e'.nextObject = e.nextObject + 1 ∧
        ∀ r'', e'.object? c k = some r'' → r''.handle.group = .cameras := by
  rcases h.object_cases hr with hold | h
  · exact Or.inl ⟨r', hold, hk⟩
  rcases h.object_cases hr with ⟨r, hold, -, hcamera⟩ | ⟨d, ps, -, -, rfl⟩ |
    ⟨r, d, rfl, hgroup, hc, -, rfl⟩
  · exact Or.inl ⟨r, hold, hcamera ▸ hk⟩
  · cases hk
  · obtain rfl : .ofNat e.nextObject = k := Option.some.inj hk
    refine Or.inr ⟨rfl, rfl, fun r'' hr'' => ?_⟩
    rw [addCamera, object?_linkCamera, object?_addObject e c d ∅ hc] at hr''
    obtain ⟨r₀, hnew, rfl | rfl⟩ := eq_some_of_ite_map hr''
    · rw [if_pos ⟨rfl, rfl⟩] at hnew
      obtain rfl := Option.some.inj hnew
      exact hgroup
    · rw [if_pos ⟨rfl, rfl⟩] at hnew
      obtain rfl := Option.some.inj hnew
      exact hgroup

/-- The pair is new in the table : its two objects were there, the number of its
representation was the next one, and the representation is there. -/
structure NewPair (e e' : Engine) (c : ConnectionId) (pair : UInt64 × UInt64) (k : UInt64) :
    Prop where
  number : k = .ofNat e.nextObject
  next : e'.nextObject = e.nextObject + 1
  source : ∃ r, e.object? c pair.1 = some r
  view : ∃ r, e.object? c pair.2 = some r
  object : ∃ r, e'.object? c k = some r ∧ r.handle.group = .representations
  definition : ∀ {r}, e'.object? c k = some r → r.handle.definition = "GeometryRepresentation"
  /-- No other pair came to the table. -/
  unique : ∀ {pair'}, e'.tabled? c pair' = some k → e.tabled? c pair' = some k ∨ pair' = pair

/-- What the table has after a change it had before, or the pair is new. -/
theorem Change.tabled_origin {e e' : Engine} (h : Change e e') {c : ConnectionId}
    {pair : UInt64 × UInt64} {k : UInt64} (hk : e'.tabled? c pair = some k) :
    e.tabled? c pair = some k ∨ NewPair e e' c pair k := by
  cases h with
  | edit h =>
    rcases h.tabled_cases with hsame | ⟨source, view, r, r', d, hc, hs, hv, hd, -, rfl⟩
    · exact Or.inl (hsame c pair ▸ hk)
    have halive := isAlive_of_object? hs
    rw [tabled?_addRepresentation e d view halive] at hk
    split at hk
    · rename_i hpair
      obtain ⟨rfl, rfl⟩ := hpair
      obtain rfl := Option.some.inj hk
      have hobj := object?_addRepresentation_self e d view halive
      obtain ⟨hgroup, hname⟩ := group_name_of_definition? hd
      refine Or.inr ⟨rfl, rfl, ⟨r, hs⟩, ⟨r', hc ▸ hv⟩, ⟨_, hobj, hgroup⟩, fun hr => ?_,
        fun {pair'} hk' => ?_⟩
      · obtain rfl := Option.some.inj (hobj.symm.trans hr)
        exact hname
      rw [tabled?_addRepresentation e d view halive] at hk'
      split at hk'
      · rename_i hpair
        exact Or.inr hpair.2.symm
      · exact Or.inl hk'
    · exact Or.inl hk
  | connect =>
    rw [tabled?_withConnection] at hk
    split at hk
    · cases hk
    · exact Or.inl hk
  | disconnect =>
    rw [tabled?_without] at hk
    split at hk
    · cases hk
    · exact Or.inl hk
  | remove => exact Or.inl ((tabled?_remove ..).mp hk).1

/-- A connection that is alive after a change was alive before, or the change made it. -/
theorem Change.alive_origin {e e' : Engine} (h : Change e e') {c : ConnectionId}
    (hc : e'.isAlive c = true) : e.isAlive c = true ∨
      c = e.nextConnectionId ∧ e'.nextConnection = e.nextConnection + 1 := by
  cases h with
  | edit h => exact Or.inl (by rwa [h.isAlive] at hc)
  | connect =>
    rcases (isAlive_withConnection e c).mp hc with rfl | hold
    · exact Or.inr ⟨rfl, rfl⟩
    · exact Or.inl hold
  | disconnect => exact Or.inl ((isAlive_without ..).mp hc).2
  | remove => exact Or.inl (by simpa using hc)

/-! ## Handles that were given out -/

/-- Every object is stored under its own handle. -/
def Keyed (e : Engine) : Prop :=
  ∀ c id r, e.object? c id = some r → r.handle.id = id ∧ r.handle.connection = c

theorem Keyed.change {e e' : Engine} (he : e.Keyed) (h : Change e e') : e'.Keyed := by
  intro c id r' hr
  rcases h.origin hr with ⟨r, hold, hhandle⟩ | ⟨-, -, hkey⟩
  · rw [hhandle]
    exact he c id r hold
  · exact hkey

theorem keyed_of_reachable {e : Engine} (h : e.Reachable) : e.Keyed := by
  obtain ⟨catalog, ops, rfl⟩ := h
  refine (changes_run _ ops).keeps (fun e e' hstep (he : e.Keyed) => he.change hstep) ?_
  intro c id r hr
  cases hr

/-- The number `k` was given out; if its object is still there on the connection, it is in
the group. -/
def Names (e : Engine) (c : ConnectionId) (k : UInt64) (g : Group) : Prop :=
  k.toNat < e.nextObject ∧ ∀ r, e.object? c k = some r → r.handle.group = g

/-- The handle is one that the engine gave out : its number was given out, and the object
of that number carries the handle as long as it is there. -/
def Issued (e : Engine) (h : Handle) : Prop :=
  h.id.toNat < e.nextObject ∧ ∀ r, e.object? h.connection h.id = some r → r.handle = h

/-- The handle of an object that is there. -/
theorem issued_of_handle {e : Engine} {h : Handle} (hid : h.id.toNat < e.nextObject)
    (hobject : (e.object? h.connection h.id).map Record.handle = some h) : e.Issued h := by
  refine ⟨hid, fun r hr => ?_⟩
  rw [hr] at hobject
  exact Option.some.inj hobject

/-- Under a number given out before a change, the change makes no object. -/
theorem Change.kept {e e' : Engine} (h : Change e e') (hn : e.NumbersLeft) {c : ConnectionId}
    {id : UInt64} (hid : id.toNat < e.nextObject) {r' : Record}
    (hr : e'.object? c id = some r') : ∃ r, e.object? c id = some r ∧ r'.handle = r.handle := by
  rcases h.origin hr with hold | ⟨rfl, -⟩
  · exact hold
  · exact absurd hid hn.nextObject_not_lt

theorem Names.change {e e' : Engine} {c : ConnectionId} {k : UInt64} {g : Group}
    (hk : e.Names c k g) (h : Change e e') (hn : e.NumbersLeft) : e'.Names c k g := by
  refine ⟨Nat.lt_of_lt_of_le hk.1 h.counters.1, fun r' hr' => ?_⟩
  obtain ⟨r, hr, hhandle⟩ := h.kept hn hk.1 hr'
  rw [hhandle]
  exact hk.2 r hr

/-- What is gone does not come back : an object that is there under a number that was given
out before was there all along. -/
theorem Changes.kept {e e' : Engine} (h : Changes e e') (hn : e'.NumbersLeft) {c : ConnectionId}
    {id : UInt64} (hid : id.toNat < e.nextObject) {r' : Record}
    (hr : e'.object? c id = some r') : ∃ r, e.object? c id = some r ∧ r'.handle = r.handle := by
  induction h generalizing r' with
  | refl => exact ⟨r', hr, rfl⟩
  | tail hchanges hstep ih =>
    have hn' := hn.of_change hstep
    have hid' := Nat.lt_of_lt_of_le hid (Changes.counters hchanges).1
    obtain ⟨r₁, hr₁, hhandle₁⟩ := hstep.kept hn' hid' hr
    obtain ⟨r, hr, hhandle⟩ := ih hn' hr₁
    exact ⟨r, hr, hhandle₁.trans hhandle⟩

/-- An object that is gone under a number that was given out stays away. -/
theorem Changes.isLive_eq_false {e e' : Engine} (h : Changes e e') (hn : e'.NumbersLeft)
    {x : Handle} (hid : x.id.toNat < e.nextObject) (hgone : e.isLive x = false) :
    e'.isLive x = false := by
  refine Bool.eq_false_iff.mpr fun hlive => Bool.eq_false_iff.mp hgone ?_
  obtain ⟨r', hr'⟩ := isLive_iff.mp hlive
  obtain ⟨r, hr, -⟩ := h.kept hn hid hr'
  exact isLive_iff.mpr ⟨r, hr⟩

/-- A handle that was given out stays one that was given out. -/
theorem Issued.changes {e e' : Engine} {h : Handle} (hh : e.Issued h) (hc : Changes e e')
    (hn : e'.NumbersLeft) : e'.Issued h := by
  refine ⟨Nat.lt_of_lt_of_le hh.1 hc.counters.1, fun r' hr' => ?_⟩
  obtain ⟨r, hr, hhandle⟩ := hc.kept hn hh.1 hr'
  rw [hhandle]
  exact hh.2 r hr

/-! ## The invariant -/

/-- What holds of the objects, the cameras and the table of an engine that has numbers
left. -/
structure WellFormed (e : Engine) : Prop where
  /-- The numbers of connections were given out. -/
  connection_lt : ∀ {c}, e.isAlive c = true → c.raw.toNat < e.nextConnection
  /-- Every object is stored under its own handle. -/
  keyed : e.Keyed
  /-- The numbers of objects were given out. -/
  object_lt : ∀ {c id r}, e.object? c id = some r → id.toNat < e.nextObject
  /-- What an object has as its camera is a camera. -/
  camera : ∀ {c id r k}, e.object? c id = some r → r.camera = some k → e.Names c k .cameras
  /-- The numbers of a pair were given out. -/
  pair_lt : ∀ {c pair k}, e.tabled? c pair = some k →
    pair.1.toNat < e.nextObject ∧ pair.2.toNat < e.nextObject
  /-- What the table names is a representation. -/
  tabled : ∀ {c pair k}, e.tabled? c pair = some k → e.Names c k .representations
  /-- It was made from the definition of representations. -/
  tabled_definition : ∀ {c pair k r}, e.tabled? c pair = some k → e.object? c k = some r →
    r.handle.definition = "GeometryRepresentation"
  /-- A representation is that of one pair. -/
  pair_unique : ∀ {c pair pair' k}, e.tabled? c pair = some k → e.tabled? c pair' = some k →
    pair = pair'

theorem wellFormed_ofCatalog (catalog : List Definition) : (ofCatalog catalog).WellFormed where
  connection_lt h := by cases h
  keyed _ _ _ h := by cases h
  object_lt h := by cases h
  camera h := by cases h
  pair_lt h := by cases h
  tabled h := by cases h
  tabled_definition h := by cases h
  pair_unique h := by cases h

/-- One change keeps the invariant. Each field holds of what was there before, as no number is used
again, and of what the change made, which has the next number. -/
theorem WellFormed.change {e e' : Engine} (we : e.WellFormed) (h : Change e e')
    (hn : e.NumbersLeft) : e'.WellFormed where
  connection_lt hc := by
    rcases h.alive_origin hc with hold | ⟨rfl, hnext⟩
    · exact Nat.lt_of_lt_of_le (we.connection_lt hold) h.counters.2
    · rw [hn.toNat_nextConnection, hnext]
      exact Nat.lt_succ_self _
  keyed := we.keyed.change h
  object_lt hr := by
    rcases h.origin hr with ⟨r, hold, -⟩ | ⟨rfl, hnext, -⟩
    · exact Nat.lt_of_lt_of_le (we.object_lt hold) h.counters.1
    · exact hn.nextObject_lt hnext
  camera hr hk := by
    rcases h.camera_origin hr hk with ⟨r, hold, hcamera⟩ | ⟨rfl, hnext, hgroup⟩
    · exact (we.camera hold hcamera).change h hn
    · exact ⟨hn.nextObject_lt hnext, hgroup⟩
  pair_lt hk := by
    rcases h.tabled_origin hk with hold | hnew
    · obtain ⟨h₁, h₂⟩ := we.pair_lt hold
      exact ⟨Nat.lt_of_lt_of_le h₁ h.counters.1, Nat.lt_of_lt_of_le h₂ h.counters.1⟩
    · obtain ⟨⟨r, hr⟩, r', hr'⟩ := And.intro hnew.source hnew.view
      exact ⟨Nat.lt_of_lt_of_le (we.object_lt hr) h.counters.1,
        Nat.lt_of_lt_of_le (we.object_lt hr') h.counters.1⟩
  tabled hk := by
    rcases h.tabled_origin hk with hold | hnew
    · exact (we.tabled hold).change h hn
    · obtain ⟨r, hr, hgroup⟩ := hnew.object
      refine ⟨hnew.number ▸ hn.nextObject_lt hnew.next, fun r' hr' => ?_⟩
      rw [hr] at hr'
      exact Option.some.inj hr' ▸ hgroup
  tabled_definition hk hr := by
    rcases h.tabled_origin hk with hold | hnew
    · obtain ⟨r₀, hr₀, hhandle⟩ := h.kept hn (we.tabled hold).1 hr
      rw [hhandle]
      exact we.tabled_definition hold hr₀
    · exact hnew.definition hr
  pair_unique {c pair pair' k} hk hk' := by
    -- a number that the table has was given out, so it is not the next one
    have old_ne_new {p p'} (hold : e.tabled? c p = some k) (hnew : NewPair e e' c p' k) :
        False :=
      hn.nextObject_not_lt (hnew.number ▸ (we.tabled hold).1)
    rcases h.tabled_origin hk with hold | hnew
    · rcases h.tabled_origin hk' with hold' | hnew'
      · exact we.pair_unique hold hold'
      · exact (old_ne_new hold hnew').elim
    · rcases hnew.unique hk' with hold' | heq
      · exact (old_ne_new hold' hnew).elim
      · exact heq.symm

theorem WellFormed.changes {e e' : Engine} (we : e.WellFormed) (h : Changes e e')
    (hn : e'.NumbersLeft) : e'.WellFormed := by
  induction h with
  | refl => exact we
  | tail _ hstep ih =>
    have hn' := hn.of_change hstep
    exact (ih hn').change hstep hn'

/-- What every change of a well-formed engine keeps while there are numbers left, every chain of
changes keeps. -/
theorem Changes.keeps_of_wellFormed {P : Engine → Prop}
    (hP : ∀ e e', e.WellFormed → e.NumbersLeft → Change e e' → P e → P e') {e e' : Engine}
    (h : Changes e e') (we : e.WellFormed) (hn : e'.NumbersLeft) (he : P e) : P e' := by
  induction h with
  | refl => exact he
  | tail hchanges hstep ih =>
    have hn' := hn.of_change hstep
    exact hP _ _ (we.changes hchanges hn') hn' hstep (ih hn')

/-- Every reachable engine that has numbers left is well-formed. -/
theorem wellFormed_of_reachable {e : Engine} (h : e.Reachable) (hn : e.NumbersLeft) :
    e.WellFormed := by
  obtain ⟨catalog, ops, rfl⟩ := h
  exact (wellFormed_ofCatalog catalog).changes (changes_run _ ops) hn

/-- The handle of an object that is there was given out. -/
theorem WellFormed.issued_handle {e : Engine} (we : e.WellFormed) {c : ConnectionId}
    {id : UInt64} {r : Record} (hr : e.object? c id = some r) : e.Issued r.handle := by
  obtain ⟨hid, hc⟩ := we.keyed c id r hr
  refine ⟨by rw [hid]; exact we.object_lt hr, fun r' hr' => ?_⟩
  rw [hid, hc, hr] at hr'
  exact (Option.some.inj hr').symm ▸ rfl

/-- What goes with an object is a camera or a representation. -/
theorem WellFormed.group_of_attends {e : Engine} (we : e.WellFormed) {c : ConnectionId}
    {i id : UInt64} {r : Record} (h : e.Attends c i id) (hr : e.object? c id = some r) :
    r.handle.group = .cameras ∨ r.handle.group = .representations := by
  rcases h with ⟨r', hr', hk⟩ | ⟨pair, hk, -⟩
  · exact Or.inl ((we.camera hr' hk).2 r hr)
  · exact Or.inr ((we.tabled hk).2 r hr)

end Engine

end VizSession
