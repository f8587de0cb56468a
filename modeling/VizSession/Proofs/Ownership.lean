import VizSession.Proofs.Handles
import VizSession.Proofs.Representations

/-!
# What belongs to what

A view owns the camera that was made for it, and the table of a connection lists the
representation of each pair that was shown. `Engine.Owning` says that the three places agree
where this is kept : every view has a camera that is there, no camera has two owners, and
what stands in the table is there, the pair and its representation.

An operation either lets everything stay and adds to it (`Grows`), or it lets things go
together with what they own (`Sheds`). In the second case nothing stays behind : a camera
that is left has its owner, and a representation that is left has its pair. Both hold of an
operation as long as cameras and representations are not deleted by their own handles and
pairs are shown as a source in a view (`Tidy`, `grows_or_sheds`). So a run of such operations
leaks nothing (`Ownership`).
-/

namespace VizSession

/-- What an object is to others : its handle, and the camera that it owns. -/
def Record.ties (r : Record) : Handle × Option UInt64 := (r.handle, r.camera)

namespace Engine

variable {e e' e'' : Engine}

/-- There is an object of the group under the number. -/
def HasOf (e : Engine) (g : Group) (c : ConnectionId) (id : UInt64) : Prop :=
  ∃ r, e.object? c id = some r ∧ r.handle.group = g

/-- The object owns the camera of the number. -/
def Owns (e : Engine) (c : ConnectionId) (id k : UInt64) : Prop :=
  ∃ r, e.object? c id = some r ∧ r.camera = some k

/-- The source and the view of the pair are there, and so is its representation. -/
structure Complete (e : Engine) (c : ConnectionId) (pair : UInt64 × UInt64) (k : UInt64) :
    Prop where
  source : e.HasOf .sources c pair.1
  view : e.HasOf .views c pair.2
  representation : e.HasOf .representations c k

/-- Views and cameras belong to each other, and the table lists what is there. -/
structure Owning (e : Engine) : Prop where
  /-- A view can get a camera. -/
  equipped : ∃ d, e.definition? .cameras "Camera" = some d
  /-- Every view owns a camera that is there. -/
  camera : ∀ {c id}, e.HasOf .views c id → ∃ k, e.Owns c id k ∧ e.HasOf .cameras c k
  /-- What owns a camera is a view. -/
  owner : ∀ {c id k}, e.Owns c id k → e.HasOf .views c id
  /-- A camera has one owner. -/
  single : ∀ {c id id' k}, e.Owns c id k → e.Owns c id' k → id = id'
  /-- What the table lists is there. -/
  listed : ∀ {c pair k}, e.tabled? c pair = some k → e.Complete c pair k

theorem owning_new : new.Owning where
  equipped := ⟨_, rfl⟩
  camera := by
    rintro c id ⟨r, hr, -⟩
    cases hr
  owner := by
    rintro c id k ⟨r, hr, -⟩
    cases hr
  single := by
    rintro c id id' k ⟨r, hr, -⟩
    cases hr
  listed hk := by cases hk

/-! ## Operations that add -/

/-- Every object stays with its handle and its camera, every pair stays in the table, and what
is new is in order : an object without a camera that is no view, or a view with a new camera,
or a pair whose parts are there. -/
structure Grows (e e' : Engine) : Prop where
  object : ∀ {c id r}, e.object? c id = some r →
    ∃ r', e'.object? c id = some r' ∧ r'.ties = r.ties
  tabled : ∀ {c pair k}, e.tabled? c pair = some k → e'.tabled? c pair = some k
  new_object : ∀ {c id r'}, e'.object? c id = some r' →
    (∃ r, e.object? c id = some r ∧ r'.ties = r.ties) ∨
      (r'.camera = none ∧ r'.handle.group ≠ .views) ∨
      (r'.handle.group = .views ∧ id = .ofNat e.nextObject ∧
        ∃ k, r'.camera = some k ∧ e.nextObject ≤ k.toNat ∧ e'.HasOf .cameras c k)
  new_pair : ∀ {c pair k}, e'.tabled? c pair = some k →
    e.tabled? c pair = some k ∨ e'.Complete c pair k

theorem HasOf.of_object {g : Group} {c : ConnectionId} {id : UInt64} (h : e.HasOf g c id)
    (hobject : ∀ {r}, e.object? c id = some r →
      ∃ r', e'.object? c id = some r' ∧ r'.ties = r.ties) : e'.HasOf g c id := by
  obtain ⟨r, hr, hgroup⟩ := h
  obtain ⟨r', hr', hties⟩ := hobject hr
  exact ⟨r', hr', (congrArg (fun t => t.1.group) hties).trans hgroup⟩

theorem Grows.hasOf (h : Grows e e') {g : Group} {c : ConnectionId} {id : UInt64}
    (hhas : e.HasOf g c id) : e'.HasOf g c id :=
  hhas.of_object h.object

theorem Grows.owns (h : Grows e e') {c : ConnectionId} {id k : UInt64} (ho : e.Owns c id k) :
    e'.Owns c id k := by
  obtain ⟨r, hr, hcamera⟩ := ho
  obtain ⟨r', hr', hties⟩ := h.object hr
  exact ⟨r', hr', (congrArg Prod.snd hties).trans hcamera⟩

theorem Grows.complete (h : Grows e e') {c : ConnectionId} {pair : UInt64 × UInt64} {k : UInt64}
    (hc : e.Complete c pair k) : e'.Complete c pair k :=
  ⟨h.hasOf hc.source, h.hasOf hc.view, h.hasOf hc.representation⟩

/-- A camera that is owned was owned before, or it and its owner are new and the owner is a
view. -/
theorem Grows.owns_cases (h : Grows e e') {c : ConnectionId} {id k : UInt64}
    (ho : e'.Owns c id k) : e.Owns c id k ∨
      e'.HasOf .views c id ∧ id = .ofNat e.nextObject ∧ e.nextObject ≤ k.toNat := by
  obtain ⟨r', hr', hcamera⟩ := ho
  rcases h.new_object hr' with ⟨r, hr, hties⟩ | ⟨hnone, -⟩ | ⟨hgroup, hid, k', hk', hle, -⟩
  · exact Or.inl ⟨r, hr, (congrArg Prod.snd hties).symm.trans hcamera⟩
  · rw [hnone] at hcamera
    cases hcamera
  · rw [hk'] at hcamera
    obtain rfl := Option.some.inj hcamera
    exact Or.inr ⟨⟨r', hr', hgroup⟩, hid, hle⟩

/-- What grows in order keeps the invariant. A view has the camera from before or the new one; a
camera has one owner as a new camera has a number that no owned one has. -/
theorem Owning.grows (ho : e.Owning) (we : e.WellFormed) (h : Grows e e')
    (hequipped : ∃ d, e'.definition? .cameras "Camera" = some d) : e'.Owning where
  equipped := hequipped
  camera := by
    rintro c id ⟨r', hr', hgroup⟩
    rcases h.new_object hr' with ⟨r, hr, hties⟩ | ⟨-, hviews⟩ | ⟨-, -, k, hk, -, hcamera⟩
    · have hview : e.HasOf .views c id :=
        ⟨r, hr, (congrArg (fun t => t.1.group) hties).symm.trans hgroup⟩
      obtain ⟨k, howns, hcamera⟩ := ho.camera hview
      exact ⟨k, h.owns howns, h.hasOf hcamera⟩
    · exact absurd hgroup hviews
    · exact ⟨k, ⟨r', hr', hk⟩, hcamera⟩
  owner howns := by
    rcases h.owns_cases howns with hold | ⟨hview, -⟩
    · exact h.hasOf (ho.owner hold)
    · exact hview
  single {c id id' k} howns howns' := by
    -- a camera that was owned before has a number that was given out, so it is not a new one
    have old_lt {id} (hold : e.Owns c id k) : k.toNat < e.nextObject := by
      obtain ⟨r, hr, hk⟩ := hold
      exact (we.camera hr hk).1
    rcases h.owns_cases howns with hold | ⟨-, hid, hle⟩
    · rcases h.owns_cases howns' with hold' | ⟨-, -, hle'⟩
      · exact ho.single hold hold'
      · exact absurd (old_lt hold) (Nat.not_lt.mpr hle')
    · rcases h.owns_cases howns' with hold' | ⟨-, hid', -⟩
      · exact absurd (old_lt hold') (Nat.not_lt.mpr hle)
      · rw [hid, hid']
  listed hk := by
    rcases h.new_pair hk with hold | hnew
    · exact h.complete (ho.listed hold)
    · exact hnew

/-- All objects stay with their handles and cameras, the tables stay, and nothing is new. -/
structure SameTies (e e' : Engine) : Prop where
  object : ∀ c id, (e'.object? c id).map Record.ties = (e.object? c id).map Record.ties
  tabled : ∀ c pair, e'.tabled? c pair = e.tabled? c pair

theorem SameTies.symm (h : SameTies e e') : SameTies e' e :=
  ⟨fun c id => (h.object c id).symm, fun c pair => (h.tabled c pair).symm⟩

theorem SameTies.exists_object (h : SameTies e e') {c : ConnectionId} {id : UInt64} {r : Record}
    (hr : e.object? c id = some r) : ∃ r', e'.object? c id = some r' ∧ r'.ties = r.ties := by
  have hsame := h.object c id
  rw [hr, Option.map_some] at hsame
  exact Option.map_eq_some_iff.mp hsame

theorem Grows.refl (e : Engine) : Grows e e where
  object hr := ⟨_, hr, rfl⟩
  tabled hk := hk
  new_object hr := Or.inl ⟨_, hr, rfl⟩
  new_pair hk := Or.inl hk

/-- Whether names, properties or counts change in the end does not matter. -/
theorem Grows.sameTies (h : Grows e e') (hs : SameTies e' e'') : Grows e e'' where
  object hr := by
    obtain ⟨r', hr', hties⟩ := h.object hr
    obtain ⟨r'', hr'', hties'⟩ := hs.exists_object hr'
    exact ⟨r'', hr'', hties'.trans hties⟩
  tabled hk := by
    rw [hs.tabled]
    exact h.tabled hk
  new_object {c id r''} hr'' := by
    obtain ⟨r', hr', hties'⟩ := hs.symm.exists_object hr''
    have hhandle : r''.handle = r'.handle := (congrArg Prod.fst hties').symm
    have hcamera : r''.camera = r'.camera := (congrArg Prod.snd hties').symm
    rcases h.new_object hr' with ⟨r, hr, hties⟩ | ⟨hnone, hviews⟩ |
      ⟨hgroup, hid, k, hk, hle, hhas⟩
    · exact Or.inl ⟨r, hr, hties'.symm.trans hties⟩
    · exact Or.inr (Or.inl ⟨hcamera.trans hnone, hhandle ▸ hviews⟩)
    · exact Or.inr (Or.inr ⟨hhandle ▸ hgroup, hid, k, hcamera.trans hk, hle,
        hhas.of_object hs.exists_object⟩)
  new_pair {c pair k} hk := by
    rw [hs.tabled] at hk
    rcases h.new_pair hk with hold | hc
    · exact Or.inl hold
    · exact Or.inr ⟨hc.source.of_object hs.exists_object, hc.view.of_object hs.exists_object,
        hc.representation.of_object hs.exists_object⟩

/-- A write that changes neither the handle nor the camera of an object. -/
theorem map_ties_ite {p : Prop} [Decidable p] {o : Option Record} {g : Record → Record}
    (hg : ∀ r, (g r).ties = r.ties) :
    (if p then o.map g else o).map Record.ties = o.map Record.ties := by
  split
  · rw [Option.map_map]
    exact congrArg (fun f => o.map f) (funext hg)
  · rfl

theorem sameTies_rename (e : Engine) (c : ConnectionId) (id : UInt64) (name : String) :
    SameTies e (e.updateStore c fun s => s.rename id name) where
  object c' j := by
    rw [object?_rename]
    exact map_ties_ite fun _ => rfl
  tabled c' := tabled?_updateStore_of_eq e c c' fun s => s.representations_rename ..

theorem sameTies_write (e : Engine) (c : ConnectionId) (id : UInt64) (ps : Properties) :
    SameTies e (e.updateStore c fun s => s.write id ps) where
  object c' j := by
    rw [object?_write]
    exact map_ties_ite fun _ => rfl
  tabled c' := tabled?_updateStore_of_eq e c c' fun s => s.representations_write ..

theorem grows_addObject (we : e.WellFormed) (hn : e.NumbersLeft) {c : ConnectionId}
    (hc : e.isAlive c = true) {d : Definition} (hd : d.group ≠ .views) (ps : Properties) :
    Grows e (e.addObject c d ps) where
  object hr := ⟨_, we.object?_addObject_old hn hc hr d ps, rfl⟩
  tabled hk := by rwa [tabled?_addObject]
  new_object hr := by
    rcases object?_of_addObject hc hr with hold | ⟨rfl, rfl, rfl⟩
    · exact Or.inl ⟨_, hold, rfl⟩
    · exact Or.inr (Or.inl ⟨rfl, hd⟩)
  new_pair hk := Or.inl (by rwa [tabled?_addObject] at hk)

section AddView

variable {c c' : ConnectionId} {d camera : Definition} {id : UInt64} {r : Record}
  {ps : Properties}

/-- The engine in which a view was made, and then its camera. -/
def addView (e : Engine) (c : ConnectionId) (d camera : Definition) (ps : Properties) : Engine :=
  (e.addObject c d ps).addCamera c (e.nextHandle c d).id camera

theorem numbersLeft_of_addView (hn : (e.addView c d camera ps).NumbersLeft) :
    e.NumbersLeft ∧ (e.addObject c d ps).NumbersLeft := by
  have hle : (e.addObject c d ps).nextObject ≤ (e.addView c d camera ps).nextObject :=
    Nat.le_succ _
  have hnext : (e.addObject c d ps).NumbersLeft := ⟨Nat.lt_of_le_of_lt hle hn.1, hn.2⟩
  exact ⟨⟨Nat.lt_of_le_of_lt (Nat.le_succ _) hnext.1, hnext.2⟩, hnext⟩

/-- Also where the numbers start anew, two in a row differ. -/
theorem ofNat_succ_ne (n : Nat) : UInt64.ofNat (n + 1) ≠ .ofNat n := by
  intro heq
  have hnat := congrArg UInt64.toNat heq
  rw [UInt64.toNat_ofNat', UInt64.toNat_ofNat'] at hnat
  omega

/-- The view is there and owns the camera, which has the number after its own. -/
theorem object?_addView_self (hc : e.isAlive c = true) :
    (e.addView c d camera ps).object? c (.ofNat e.nextObject) =
      some { e.newRecord c d ps with camera := some (.ofNat (e.nextObject + 1)) } := by
  have hself : (e.addObject c d ps).object? c (.ofNat e.nextObject) = some (e.newRecord c d ps) :=
    object?_addObject_self e c d ps hc
  rw [addView, addCamera, object?_linkCamera, if_pos ⟨rfl, rfl⟩,
    object?_addObject _ c camera ∅ (by simpa using hc), if_neg fun h => ofNat_succ_ne _ h.2, hself]
  rfl

/-- An object that is there when a view was made was there before, or it is the view with the
new camera, or it is the camera. -/
theorem object?_addView_cases (hc : e.isAlive c = true)
    (hr : (e.addView c d camera ps).object? c' id = some r) :
    e.object? c' id = some r ∨
      (c = c' ∧ id = .ofNat e.nextObject ∧
        r = { e.newRecord c d ps with camera := some (.ofNat (e.nextObject + 1)) }) ∨
      (c = c' ∧ id = .ofNat (e.nextObject + 1) ∧ r.handle.group = camera.group ∧
        r.camera = none) := by
  by_cases hview : c = c' ∧ (e.nextHandle c d).id = id
  · obtain ⟨rfl, rfl⟩ := hview
    have hself : (e.addView c d camera ps).object? c (e.nextHandle c d).id = _ :=
      object?_addView_self hc
    rw [hself] at hr
    exact Or.inr (Or.inl ⟨rfl, rfl, (Option.some.inj hr).symm⟩)
  · rw [addView, addCamera, object?_linkCamera, if_neg hview] at hr
    rcases object?_of_addObject (by simpa using hc) hr with hold | ⟨rfl, rfl, rfl⟩
    · rcases object?_of_addObject hc hold with hold | ⟨rfl, rfl, -⟩
      · exact Or.inl hold
      · exact absurd ⟨rfl, rfl⟩ hview
    · exact Or.inr (Or.inr ⟨rfl, rfl, rfl, rfl⟩)

/-- The camera of a new view is there. -/
theorem hasOf_addView (hc : e.isAlive c = true) :
    (e.addView c d camera ps).HasOf camera.group c (.ofNat (e.nextObject + 1)) := by
  have hnew : ((e.addObject c d ps).addObject c camera ∅).object? c
      (.ofNat (e.nextObject + 1)) = some ((e.addObject c d ps).newRecord c camera ∅) :=
    object?_addObject_self (e.addObject c d ps) c camera ∅ (by simpa using hc)
  obtain ⟨r, hr, hhandle⟩ : ∃ r, (e.addView c d camera ps).object? c
      (.ofNat (e.nextObject + 1)) = some r ∧
        r.handle = ((e.addObject c d ps).newRecord c camera ∅).handle := by
    rw [addView, addCamera, object?_linkCamera]
    exact exists_of_ite_map rfl hnew
  exact ⟨r, hr, congrArg Handle.group hhandle⟩

/-- A view is added in order : it has the next number and its camera the one after, so neither was
there. -/
theorem grows_addView (we : e.WellFormed) (hc : e.isAlive c = true)
    (hd : e.definition? .views d.name = some d) (hps : e.validate c d ps = .ok ())
    (hcamera : camera.group = .cameras) (hn : (e.addView c d camera ps).NumbersLeft) :
    Grows e (e.addView c d camera ps) where
  object {c' id r} hr := by
    obtain ⟨hn₀, hn₁⟩ := numbersLeft_of_addView hn
    have hgroup := (group_name_of_definition? hd).1
    have we₁ := we.change (.edit (.make hc (hgroup ▸ hd) hps)) hn₀
    have hold := we.object?_addObject_old hn₀ hc hr d ps
    have hold' := we₁.object?_addObject_old hn₁ (by simpa using hc) hold camera ∅
    refine ⟨r, ?_, rfl⟩
    rw [addView, addCamera, object?_linkCamera, if_neg fun h => we.id_ne_next hn₀ hr h.2]
    exact hold'
  tabled hk := by
    rw [addView, tabled?_addCamera, tabled?_addObject]
    exact hk
  new_object {c' id r'} hr := by
    rcases object?_addView_cases hc hr with hold | ⟨rfl, rfl, rfl⟩ | ⟨rfl, rfl, hg, hnone⟩
    · exact Or.inl ⟨r', hold, rfl⟩
    · have hle : e.nextObject ≤ (UInt64.ofNat (e.nextObject + 1)).toNat := by
        have hnext := (numbersLeft_of_addView hn).2.toNat_nextObject
        rw [nextObject_addObject] at hnext
        rw [hnext]
        exact Nat.le_succ _
      exact Or.inr (Or.inr ⟨(group_name_of_definition? hd).1, rfl, _, rfl, hle,
        hcamera ▸ hasOf_addView hc⟩)
    · refine Or.inr (Or.inl ⟨hnone, ?_⟩)
      rw [hg, hcamera]
      decide
  new_pair hk := by
    rw [addView, tabled?_addCamera, tabled?_addObject] at hk
    exact Or.inl hk

end AddView

/-- A representation is added in order if the pair is not in the table and its source and its view
are there, on one connection. -/
theorem grows_addRepresentation (we : e.WellFormed) (hn : e.NumbersLeft) {source view : Handle}
    {d : Definition} (hd : d.group = .representations)
    (hconn : source.connection = view.connection)
    (hs : e.HasOf .sources source.connection source.id)
    (hv : e.HasOf .views view.connection view.id)
    (hp : e.tabled? source.connection (source.id, view.id) = none) :
    Grows e (e.addRepresentation source view d) := by
  have hc : e.isAlive source.connection = true := by
    obtain ⟨r, hr, -⟩ := hs
    exact isAlive_of_object? hr
  have hkept : ∀ {c id r}, e.object? c id = some r →
      ∃ r', (e.addRepresentation source view d).object? c id = some r' ∧ r'.ties = r.ties := by
    intro c id r hr
    rw [object?_addRepresentation e d view hc, if_neg fun h => we.id_ne_next hn hr h.2]
    exact ⟨r, hr, rfl⟩
  refine ⟨hkept, fun {c pair k} hk => ?_, fun {c id r'} hr => ?_, fun {c pair k} hk => ?_⟩
  · rw [tabled?_addRepresentation e d view hc, if_neg, hk]
    rintro ⟨rfl, rfl⟩
    rw [hp] at hk
    cases hk
  · rw [object?_addRepresentation e d view hc] at hr
    split at hr
    · obtain rfl := Option.some.inj hr
      refine Or.inr (Or.inl ⟨rfl, ?_⟩)
      show d.group ≠ .views
      rw [hd]
      decide
    · exact Or.inl ⟨r', hr, rfl⟩
  · rw [tabled?_addRepresentation e d view hc] at hk
    split at hk
    · rename_i hpair
      obtain ⟨rfl, rfl⟩ := hpair
      obtain rfl := Option.some.inj hk
      exact Or.inr ⟨hs.of_object hkept, hconn ▸ hv.of_object hkept,
        ⟨_, object?_addRepresentation_self e d view hc, hd⟩⟩
    · exact Or.inl hk

/-- A connection is new, so nothing is there or listed on it, and nothing is lost. -/
theorem grows_withConnection (we : e.WellFormed) (hn : e.NumbersLeft) :
    Grows e e.withConnection where
  object hr := by
    refine ⟨_, ?_, rfl⟩
    rw [object?_withConnection, if_neg (we.connection_ne_next hn (isAlive_of_object? hr))]
    exact hr
  tabled {c pair k} hk := by
    obtain ⟨s, hs, -⟩ := Option.bind_eq_some_iff.mp hk
    rw [tabled?_withConnection, if_neg (we.connection_ne_next hn (isAlive_iff.mpr ⟨s, hs⟩))]
    exact hk
  new_object hr := by
    rw [object?_withConnection] at hr
    split at hr
    · cases hr
    · exact Or.inl ⟨_, hr, rfl⟩
  new_pair hk := by
    rw [tabled?_withConnection] at hk
    split at hk
    · cases hk
    · exact Or.inl hk

/-! ## Operations that let go -/

/-- Nothing is new, and nothing is torn apart : a view that stays keeps its camera, a pair that
stays listed keeps its parts, a camera that stays keeps its owner, and a representation that
stays keeps its pair. -/
structure Sheds (e e' : Engine) : Prop where
  object : ∀ {c id r}, e'.object? c id = some r → e.object? c id = some r
  tabled : ∀ {c pair k}, e'.tabled? c pair = some k → e.tabled? c pair = some k
  camera : ∀ {c id k}, e'.Owns c id k → e.HasOf .cameras c k → e'.HasOf .cameras c k
  listed : ∀ {c pair k}, e'.tabled? c pair = some k → e.Complete c pair k →
    e'.Complete c pair k
  owner : ∀ {c id k r}, e.Owns c id k → e'.object? c k = some r → e'.Owns c id k
  pair : ∀ {c pair k r}, e.tabled? c pair = some k → e'.object? c k = some r →
    e'.tabled? c pair = some k

theorem Sheds.owns (h : Sheds e e') {c : ConnectionId} {id k : UInt64} (ho : e'.Owns c id k) :
    e.Owns c id k := by
  obtain ⟨r, hr, hk⟩ := ho
  exact ⟨r, h.object hr, hk⟩

/-- What lets go in order keeps the invariant : what stays was there before, and kept what belongs
to it. -/
theorem Owning.sheds (ho : e.Owning) (h : Sheds e e')
    (hequipped : ∃ d, e'.definition? .cameras "Camera" = some d) : e'.Owning where
  equipped := hequipped
  camera := by
    rintro c id ⟨r, hr, hgroup⟩
    obtain ⟨k, ⟨r', hr', hk⟩, hcamera⟩ := ho.camera ⟨r, h.object hr, hgroup⟩
    obtain rfl := Option.some.inj ((h.object hr).symm.trans hr')
    exact ⟨k, ⟨r, hr, hk⟩, h.camera ⟨r, hr, hk⟩ hcamera⟩
  owner := by
    rintro c id k ⟨r, hr, hk⟩
    obtain ⟨r', hr', hgroup⟩ := ho.owner ⟨r, h.object hr, hk⟩
    obtain rfl := Option.some.inj ((h.object hr).symm.trans hr')
    exact ⟨r, hr, hgroup⟩
  single howns howns' := ho.single (h.owns howns) (h.owns howns')
  listed hk := h.listed hk (ho.listed (h.tabled hk))

/-- A connection goes as a whole, with views, cameras, representations and the table. -/
theorem sheds_without (e : Engine) (c₀ : ConnectionId) : Sheds e (e.without c₀) := by
  have hobject : ∀ {c id r}, (e.without c₀).object? c id = some r →
      c₀ ≠ c ∧ e.object? c id = some r := by
    intro c id r hr
    rw [object?_without] at hr
    split at hr
    · cases hr
    · rename_i hc
      exact ⟨hc, hr⟩
  have htabled : ∀ {c pair k}, (e.without c₀).tabled? c pair = some k →
      c₀ ≠ c ∧ e.tabled? c pair = some k := by
    intro c pair k hk
    rw [tabled?_without] at hk
    split at hk
    · cases hk
    · rename_i hc
      exact ⟨hc, hk⟩
  have hkept : ∀ {c}, c₀ ≠ c → ∀ {g id}, e.HasOf g c id → (e.without c₀).HasOf g c id := by
    rintro c hc g id ⟨r, hr, hgroup⟩
    exact ⟨r, by rw [object?_without, if_neg hc, hr], hgroup⟩
  refine ⟨fun hr => (hobject hr).2, fun hk => (htabled hk).2, ?_, fun hk hc => ?_, ?_, ?_⟩
  · rintro c id k ⟨r, hr, -⟩ hcamera
    exact hkept (hobject hr).1 hcamera
  · have hne := (htabled hk).1
    exact ⟨hkept hne hc.source, hkept hne hc.view, hkept hne hc.representation⟩
  · rintro c id k r ⟨r', hr', hk⟩ hr
    exact ⟨r', by rw [object?_without, if_neg (hobject hr).1, hr'], hk⟩
  · intro c pair k r hk hr
    rw [tabled?_without, if_neg (hobject hr).1, hk]

theorem HasOf.group_eq {g g' : Group} {c : ConnectionId} {id : UInt64} (h : e.HasOf g c id)
    (h' : e.HasOf g' c id) : g = g' := by
  obtain ⟨r, hr, rfl⟩ := h
  obtain ⟨r', hr', rfl⟩ := h'
  obtain rfl := Option.some.inj (hr.symm.trans hr')
  rfl

/-- A removal is in order unless a camera or a representation is removed by itself. -/
theorem Owning.sheds_remove (ho : e.Owning) (we : e.WellFormed) {c₀ : ConnectionId} {i : UInt64}
    {g₀ : Group} (hi : e.HasOf g₀ c₀ i) (hcameras : g₀ ≠ .cameras)
    (hrepresentations : g₀ ≠ .representations) :
    Sheds e (e.updateStore c₀ fun s => s.remove i) := by
  -- an object stays unless it is the one that is removed, or attends it
  have hkept : ∀ {c id g}, e.HasOf g c id → ¬(c₀ = c ∧ (id = i ∨ e.Attends c₀ i id)) →
      (e.updateStore c₀ fun s => s.remove i).HasOf g c id := by
    rintro c id g ⟨r, hr, hgroup⟩ hstays
    exact ⟨r, (object?_remove ..).mpr ⟨hr, hstays⟩, hgroup⟩
  have hattends : ∀ {id g}, e.Attends c₀ i id → e.HasOf g c₀ id →
      g = .cameras ∨ g = .representations := by
    rintro id g hattends ⟨r, hr, rfl⟩
    exact we.group_of_attends hattends hr
  refine ⟨fun hr => ((object?_remove ..).mp hr).1, fun hk => ((tabled?_remove ..).mp hk).1,
    ?_, fun {c pair k} hk hc => ?_, ?_, ?_⟩
  · rintro c id k ⟨r, hr, hk⟩ hcamera
    obtain ⟨hr, hstays⟩ := (object?_remove ..).mp hr
    refine hkept hcamera ?_
    rintro ⟨rfl, rfl | howns | ⟨pair, htabled, -⟩⟩
    · exact hcameras (hi.group_eq hcamera)
    · exact hstays ⟨rfl, Or.inl (ho.single ⟨r, hr, hk⟩ howns)⟩
    · cases hcamera.group_eq (ho.listed htabled).representation
  · obtain ⟨hold, hstays⟩ := (tabled?_remove ..).mp hk
    rw [Store.involves, Bool.or_eq_true, beq_iff_eq, beq_iff_eq] at hstays
    refine ⟨hkept hc.source ?_, hkept hc.view ?_, hkept hc.representation ?_⟩
    · rintro ⟨rfl, hid | hgoes⟩
      · exact hstays ⟨rfl, Or.inl hid⟩
      · rcases hattends hgoes hc.source with hg | hg <;> cases hg
    · rintro ⟨rfl, hid | hgoes⟩
      · exact hstays ⟨rfl, Or.inr hid⟩
      · rcases hattends hgoes hc.view with hg | hg <;> cases hg
    · rintro ⟨rfl, rfl | ⟨r, hr, hk⟩ | ⟨pair', hk', hinvolves⟩⟩
      · exact hrepresentations (hi.group_eq hc.representation)
      · obtain ⟨x, hx, hgroup⟩ := hc.representation
        rw [(we.camera hr hk).2 x hx] at hgroup
        cases hgroup
      · obtain rfl := we.pair_unique hk' hold
        rw [Store.involves, Bool.or_eq_true, beq_iff_eq, beq_iff_eq] at hinvolves
        exact hstays ⟨rfl, hinvolves⟩
  · rintro c id k x howns hx
    obtain ⟨r, hr, hk⟩ := howns
    refine ⟨r, (object?_remove ..).mpr ⟨hr, ?_⟩, hk⟩
    rintro ⟨rfl, rfl | hgoes⟩
    · exact ((object?_remove ..).mp hx).2 ⟨rfl, Or.inr (Or.inl ⟨r, hr, hk⟩)⟩
    · rcases hattends hgoes (ho.owner ⟨r, hr, hk⟩) with hg | hg <;> cases hg
  · intro c pair k x hk hx
    refine (tabled?_remove ..).mpr ⟨hk, ?_⟩
    rintro ⟨rfl, hinvolves⟩
    exact ((object?_remove ..).mp hx).2 ⟨rfl, Or.inr (Or.inr ⟨pair, hk, hinvolves⟩)⟩

/-! ## Every operation -/

/-- The operation deletes no camera and no representation, and it shows a source in a view, all
by handles that were given out. -/
def Tidy (e : Engine) : Op → Prop
  | .delete h => e.Issued h ∧ h.group ≠ .cameras ∧ h.group ≠ .representations
  | .setVisibility source view _ =>
    (e.Issued source ∧ source.group = .sources) ∧ e.Issued view ∧ view.group = .views
  | _ => True

theorem Issued.hasOf {h : Handle} (hh : e.Issued h) {r : Record}
    (hr : e.object? h.connection h.id = some r) : e.HasOf h.group h.connection h.id :=
  ⟨r, hr, congrArg Handle.group (hh.2 r hr)⟩

/-- Whatever is made is added in order : a view gets its camera, as the catalog has a definition of
one. -/
theorem Owning.grows_create (ho : e.Owning) (we : e.WellFormed) {c : ConnectionId} {g : Group}
    {name : String} {ps : Properties} (hn : (create c g name ps e).2.NumbersLeft) :
    Grows e (create c g name ps e).2 := by
  have hn₀ := hn.of_changes (edits_create c g name ps e).changes
  rcases create_cases c g name ps e with ⟨fault, h⟩ | ⟨d, hc, hd, hps, hcase⟩
  · rw [h]
    exact .refl e
  obtain ⟨rfl, rfl⟩ := group_name_of_definition? hd
  rcases hcase with ⟨hgroup, h⟩ | ⟨-, hnone, -⟩ | ⟨hgroup, camera, hcamera, h⟩
  · rw [h]
    exact grows_addObject we hn₀ hc hgroup ps
  · obtain ⟨camera, hcamera⟩ := ho.equipped
    rw [hcamera] at hnone
    cases hnone
  · rw [h] at hn ⊢
    exact grows_addView we hc (hgroup ▸ hd) hps (group_name_of_definition? hcamera).1 hn

/-- Showing and hiding adds a representation in order, or nothing. -/
theorem grows_setVisibility (we : e.WellFormed) (hn : e.NumbersLeft) {source view : Handle}
    (hsource : e.Issued source) (hsources : source.group = .sources) (hview : e.Issued view)
    (hviews : view.group = .views) (visible : Bool) :
    Grows e (setVisibility source view visible e).2 := by
  rcases setVisibility_cases source view visible e with ⟨fault, h⟩ |
    ⟨r, r', hc, hs, hv, ⟨k, rep, -, -, h⟩ | ⟨d, hp, hd, h⟩⟩
  · rw [h]
    exact .refl e
  · rw [h]
    exact (Grows.refl e).sameTies (sameTies_write ..)
  · rw [h]
    have hgrows := grows_addRepresentation we hn (group_name_of_definition? hd).1 hc
      (hsources ▸ hsource.hasOf hs) (hviews ▸ hview.hasOf hv) hp
    exact hgrows.sameTies (sameTies_write ..)

/-- Every operation lets everything stay, or lets things go in order. -/
theorem Owning.grows_or_sheds (ho : e.Owning) (we : e.WellFormed) {op : Op} (hop : e.Tidy op)
    (hn : (perform op e).2.NumbersLeft) :
    Grows e (perform op e).2 ∨ Sheds e (perform op e).2 := by
  have hn₀ := hn.of_changes (changes_perform op e)
  have hsame : ∀ {e'}, SameTies e e' → Grows e e' := (Grows.refl e).sameTies
  cases op with
  | establish url =>
    rw [snd_perform_establish]
    obtain ⟨stats, ⟨fault, h⟩ | h⟩ := establish_cases url e
    · rw [h]
      exact Or.inl (hsame ⟨fun _ _ => rfl, fun _ _ => rfl⟩)
    · rw [h]
      have hcount : Change e { e with stats := stats } := .edit (.count e stats)
      have hgrows := grows_withConnection (we.change hcount hn₀) hn₀
      exact Or.inl ⟨hgrows.object, hgrows.tabled, hgrows.new_object, hgrows.new_pair⟩
  | disconnect c =>
    rw [snd_perform_disconnect]
    obtain ⟨stats, h⟩ := disconnect_eq c e
    rw [h]
    split
    · have hsheds := sheds_without { e with stats := stats } c
      exact Or.inr ⟨hsheds.object, hsheds.tabled, hsheds.camera,
        fun hk hc => hsheds.listed hk ⟨hc.source, hc.view, hc.representation⟩, hsheds.owner,
        hsheds.pair⟩
    · exact Or.inl (hsame ⟨fun _ _ => rfl, fun _ _ => rfl⟩)
  | create c g name ps =>
    rw [snd_perform_create] at hn ⊢
    exact Or.inl (ho.grows_create we hn)
  | delete h =>
    rw [snd_perform_delete]
    rcases delete_cases h e with ⟨fault, hdel⟩ | ⟨r, hr, hdel⟩
    · rw [hdel]
      exact Or.inl (.refl e)
    · rw [hdel]
      obtain ⟨hissued, hcameras, hrepresentations⟩ := hop
      exact Or.inr (ho.sheds_remove we (hissued.hasOf hr) hcameras hrepresentations)
  | rename h name =>
    rw [snd_perform_rename]
    rcases rename_cases h name e with ⟨fault, hname⟩ | ⟨r, -, -, hname⟩
    · rw [hname]
      exact Or.inl (.refl e)
    · rw [hname]
      exact Or.inl (hsame (sameTies_rename ..))
  | setProperties h ps =>
    rw [snd_perform_setProperties]
    rcases setProperties_cases h ps e with ⟨fault, hset⟩ | ⟨r, d, -, -, -, hset⟩
    · rw [hset]
      exact Or.inl (.refl e)
    · rw [hset]
      exact Or.inl (hsame (sameTies_write ..))
  | render view =>
    rw [snd_perform_render]
    obtain ⟨stats, h⟩ := render_eq view e
    rw [h]
    exact Or.inl (hsame ⟨fun _ _ => rfl, fun _ _ => rfl⟩)
  | interact view =>
    rw [snd_perform_interact]
    obtain ⟨stats, h⟩ := interact_eq view e
    rw [h]
    exact Or.inl (hsame ⟨fun _ _ => rfl, fun _ _ => rfl⟩)
  | setVisibility source view visible =>
    rw [snd_perform_setVisibility]
    obtain ⟨⟨hsource, hsources⟩, hview, hviews⟩ := hop
    exact Or.inl (grows_setVisibility we hn₀ hsource hsources hview hviews visible)
  | setRefusal | addDefinition => exact Or.inl (hsame ⟨fun _ _ => rfl, fun _ _ => rfl⟩)
  | isAlive | isLive | registrationName | find | list | properties | cameraOf | definitions
  | representation | inventory => exact Or.inl (.refl e)

end Engine

end VizSession
