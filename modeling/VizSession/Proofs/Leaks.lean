import VizSession.Proofs.Ownership

/-!
# Nothing is left behind

A run in which every operation is in order (`Engine.Orderly`) keeps `Owning`. And it loses no
tie : as long as a camera is there, it is owned by the view that it was made for, and as long
as a representation is there, it stands in the table under the pair that it was made for
(`Owning.lasts`). So what a run makes for a view or for a pair is gone when they are gone
(`Engine.Ownership`).
-/

namespace VizSession

namespace Engine

variable {e e' : Engine}

/-! ## Runs in order -/

/-- Every operation of the run is in order in the state in which it comes. -/
def Orderly : Engine → List Op → Prop
  | _, [] => True
  | e, op :: ops => e.Tidy op ∧ Orderly (perform op e).2 ops

theorem Orderly.cons {op : Op} {ops : List Op} (hop : e.Tidy op)
    (hops : (perform op e).2.Orderly ops) : e.Orderly (op :: ops) :=
  ⟨hop, hops⟩

theorem orderly_append {pre post : List Op} :
    e.Orderly (pre ++ post) ↔ e.Orderly pre ∧ (e.run pre).Orderly post := by
  induction pre generalizing e with
  | nil => exact (and_iff_right trivial).symm
  | cons op pre ih =>
    show e.Tidy op ∧ Orderly _ (pre ++ post) ↔ (e.Tidy op ∧ Orderly _ pre) ∧ _
    rw [ih, and_assoc]
    rfl

theorem Owning.perform (ho : e.Owning) (we : e.WellFormed) {op : Op} (hop : e.Tidy op)
    (hn : (perform op e).2.NumbersLeft) : (perform op e).2.Owning := by
  have hequipped : ∃ d, (Engine.perform op e).2.definition? .cameras "Camera" = some d := by
    obtain ⟨d, hd⟩ := ho.equipped
    exact ⟨d, (changes_perform op e).definition? hd⟩
  rcases ho.grows_or_sheds we hop hn with hgrows | hsheds
  · exact ho.grows we hgrows hequipped
  · exact ho.sheds hsheds hequipped

theorem Owning.run (ho : e.Owning) (we : e.WellFormed) {ops : List Op} (hops : e.Orderly ops)
    (hn : (e.run ops).NumbersLeft) : (e.run ops).Owning := by
  induction ops generalizing e with
  | nil => exact ho
  | cons op ops ih =>
    have hn' := hn.of_changes (changes_run (Engine.perform op e).2 ops)
    exact ih (ho.perform we hops.1 hn') (we.changes (changes_perform op e) hn') hops.2 hn

/-- What ties others to an object lasts as long as the object is there, if it does when
everything stays and when things go in order. -/
theorem Owning.lasts {P : Engine → Prop} {c : ConnectionId} {k : UInt64}
    (hgrows : ∀ {e e'}, Grows e e' → P e → P e')
    (hsheds : ∀ {e e' r}, Sheds e e' → e'.object? c k = some r → P e → P e')
    (ho : e.Owning) (we : e.WellFormed) {ops : List Op} (hops : e.Orderly ops)
    (hn : (e.run ops).NumbersLeft) (hk : k.toNat < e.nextObject) (htie : P e)
    (hlive : ∃ r, (e.run ops).object? c k = some r) : P (e.run ops) := by
  induction ops generalizing e with
  | nil => exact htie
  | cons op ops ih =>
    have hop := changes_perform op e
    have hlater := changes_run (Engine.perform op e).2 ops
    have hn' := hn.of_changes hlater
    have hk' := Nat.lt_of_lt_of_le hk hop.counters.1
    -- the object is there in the end, so it is there after the first operation
    obtain ⟨r, hr⟩ := hlive
    obtain ⟨r', hr', -⟩ := hlater.kept hn hk' hr
    refine ih (ho.perform we hops.1 hn') (we.changes hop hn') hops.2 hn hk' ?_ ⟨r, hr⟩
    rcases ho.grows_or_sheds we hops.1 hn' with h | h
    · exact hgrows h htie
    · exact hsheds h hr' htie

/-- What ties others to a new object from the operation that makes it lasts as long as the
object is there. -/
theorem Owning.lasts_of_made {P : Engine → Prop} {c : ConnectionId} {k : UInt64} {g : Group}
    (hgrows : ∀ {e e'}, Grows e e' → P e → P e')
    (hsheds : ∀ {e e' r}, Sheds e e' → e'.object? c k = some r → P e → P e')
    (ho : e.Owning) (we : e.WellFormed) {pre post : List Op} {op : Op}
    (hops : e.Orderly (pre ++ op :: post)) (hn : (e.run (pre ++ op :: post)).NumbersLeft)
    (hmade : (c, k) ∈ newObjects (e.run pre) (Engine.perform op (e.run pre)).2)
    (htie : (e.run pre).Owning → (Engine.perform op (e.run pre)).2.HasOf g c k →
      P (Engine.perform op (e.run pre)).2)
    (hlive : (e.run (pre ++ op :: post)).HasOf g c k) : P (e.run (pre ++ op :: post)) := by
  obtain ⟨hpre, hop, hpost⟩ := orderly_append.mp hops
  have hsplit : e.run (pre ++ op :: post) = (Engine.perform op (e.run pre)).2.run post :=
    run_append e pre (op :: post)
  rw [hsplit] at hn hlive ⊢
  have hstep := changes_perform op (e.run pre)
  have hlater := changes_run (Engine.perform op (e.run pre)).2 post
  have hn' := hn.of_changes hlater
  have hn₀ := hn'.of_changes hstep
  have ho₀ := ho.run we hpre hn₀
  have we₀ := we.changes (changes_run e pre) hn₀
  have we' := we₀.changes hstep hn'
  obtain ⟨-, r, hr⟩ := mem_newObjects.mp hmade
  obtain ⟨r', hr', hgroup⟩ := hlive
  -- it is the object that was made, so it was of its group from the beginning
  obtain ⟨r₀, hr₀, hhandle⟩ := hlater.kept hn (we'.object_lt hr) hr'
  have htie' := htie ho₀ ⟨r₀, hr₀, (congrArg Handle.group hhandle).symm.trans hgroup⟩
  exact Owning.lasts hgrows hsheds (ho₀.perform we₀ hop hn') we' hpost hn (we'.object_lt hr) htie'
    ⟨r', hr'⟩

/-! ## What is made for others -/

/-- Of what an operation makes for a view, the camera is owned by the view. -/
theorem Owning.owns_of_create (ho : e.Owning) {c c' : ConnectionId} {name : String}
    {ps : Properties} {k : UInt64}
    (hk : (c', k) ∈ newObjects e (create c .views name ps e).2)
    (hcamera : (create c .views name ps e).2.HasOf .cameras c' k) :
    ∃ id, (create c .views name ps e).2.Owns c' id k := by
  obtain ⟨hnew, r, hr⟩ := mem_newObjects.mp hk
  obtain ⟨x, hx, hgroup⟩ := hcamera
  obtain rfl := Option.some.inj (hr.symm.trans hx)
  rcases create_cases c .views name ps e with ⟨fault, h⟩ | ⟨d, hc, hd, -, hcase⟩
  · rw [h, hnew] at hr
    cases hr
  rcases hcase with ⟨hviews, -⟩ | ⟨-, hnone, -⟩ | ⟨-, camera, -, h⟩
  · exact absurd rfl hviews
  · obtain ⟨camera, hcamera⟩ := ho.equipped
    rw [hcamera] at hnone
    cases hnone
  · rw [h] at hr ⊢
    rcases object?_addView_cases hc hr with hold | ⟨rfl, rfl, rfl⟩ | ⟨rfl, rfl, -⟩
    · rw [hnew] at hold
      cases hold
    · cases (group_name_of_definition? hd).1.symm.trans hgroup
    · exact ⟨_, _, object?_addView_self hc, rfl⟩

/-- What showing and hiding make is in the table for the pair. -/
theorem tabled?_of_mem_newObjects {source view : Handle} {visible : Bool} {c : ConnectionId}
    {k : UInt64} (hk : (c, k) ∈ newObjects e (setVisibility source view visible e).2) :
    (setVisibility source view visible e).2.tabled? c (source.id, view.id) = some k := by
  rcases setVisibility_cases source view visible e with ⟨fault, h⟩ |
    ⟨r, r', -, hs, -, ⟨k', rep, -, -, h⟩ | ⟨d, hp, hd, h⟩⟩
  · rw [h, (SameObjects.refl e).newObjects_eq_nil] at hk
    cases hk
  · rw [h, (sameObjects_display ..).newObjects_eq_nil] at hk
    cases hk
  · have hc := isAlive_of_object? hs
    rw [h, (sameObjects_display ..).mem_newObjects_iff, mem_newObjects,
      object?_addRepresentation e d view hc] at hk
    obtain ⟨hnew, x, hx⟩ := hk
    split at hx
    · rename_i hself
      obtain ⟨rfl, rfl⟩ := hself
      rw [h]
      exact (tabled?_display ..).trans
        ((tabled?_addRepresentation e d view hc ..).trans (if_pos ⟨rfl, rfl⟩))
    · rw [hnew] at hx
      cases hx

/-! ## What a run leaves -/

/-- After the run views and cameras belong to each other, the table lists what is there, and
what was made for a view or a pair is there for it only. -/
structure Ownership (e : Engine) (ops : List Op) : Prop where
  /-- A view owns a camera on its connection, and the question for its camera answers with
  it. -/
  camera : ∀ {view}, (e.run ops).Carries view → view.group = .views → ∃ camera,
    (e.run ops).Owns view.connection view.id camera.id ∧
      (e.run ops).cameraOf view = .ok camera ∧ (e.run ops).Carries camera ∧
        camera.group = .cameras ∧ camera.connection = view.connection
  /-- No two views own the same camera. -/
  single : ∀ {view view' camera}, (e.run ops).Carries view → (e.run ops).Carries view' →
    (e.run ops).cameraOf view = .ok camera → (e.run ops).cameraOf view' = .ok camera →
      view = view'
  /-- Of a pair in the table the source, the view and the representation are there. -/
  listed : ∀ {c pair k}, (e.run ops).tabled? c pair = some k → (e.run ops).Complete c pair k
  /-- A camera that was made for a view is owned by a view as long as it is there. -/
  made_camera : ∀ {pre c name ps post camera}, ops = pre ++ .create c .views name ps :: post →
    (camera.connection, camera.id) ∈
      newObjects (e.run pre) (Engine.perform (.create c .views name ps) (e.run pre)).2 →
    camera.group = .cameras → (e.run ops).Carries camera →
      ∃ view, (e.run ops).Carries view ∧ view.group = .views ∧
        (e.run ops).cameraOf view = .ok camera
  /-- A representation that was made for a pair is in the table as long as it is there. -/
  made_representation : ∀ {pre source view visible post r},
    ops = pre ++ .setVisibility source view visible :: post →
    (r.connection, r.id) ∈ newObjects (e.run pre)
      (Engine.perform (.setVisibility source view visible) (e.run pre)).2 →
    (e.run ops).Carries r → (e.run ops).tabled? r.connection (source.id, view.id) = some r.id

theorem Carries.hasOf {h : Handle} (hh : e.Carries h) : e.HasOf h.group h.connection h.id := by
  obtain ⟨r, hr, hhandle⟩ := hh
  exact ⟨r, hr, congrArg Handle.group hhandle⟩

theorem Carries.eq {h h' : Handle} (hh : e.Carries h) (hh' : e.Carries h')
    (hc : h.connection = h'.connection) (hid : h.id = h'.id) : h = h' := by
  obtain ⟨r, hr, rfl⟩ := hh
  obtain ⟨r', hr', hhandle⟩ := hh'
  rw [← hc, ← hid, hr] at hr'
  rw [← hhandle, Option.some.inj hr']

/-- What the question for the camera answers is owned, and it is on the connection of the
view. -/
theorem Keyed.owns_of_cameraOf (he : e.Keyed) {view camera : Handle}
    (h : e.cameraOf view = .ok camera) :
    e.Owns view.connection view.id camera.id ∧ camera.connection = view.connection := by
  obtain ⟨-, r, k, r', hr, hk, hr', rfl⟩ := cameraOf_eq_ok_iff.mp h
  obtain ⟨rfl, hc⟩ := he _ _ _ hr'
  exact ⟨⟨r, hr, hk⟩, hc⟩

/-- The question for the camera of an object that owns one answers with it. -/
theorem Owning.cameraOf_of_owns (ho : e.Owning) (he : e.Keyed) {c : ConnectionId}
    {id k : UInt64} (howns : e.Owns c id k) : ∃ view camera, e.Carries view ∧
      view.group = .views ∧ view.connection = c ∧ view.id = id ∧
        e.cameraOf view = .ok camera ∧ e.Carries camera ∧ camera.group = .cameras ∧
          camera.connection = c ∧ camera.id = k := by
  obtain ⟨r, hr, hgroup⟩ := ho.owner howns
  obtain ⟨k', howns', x, hx, hcameras⟩ := ho.camera ⟨r, hr, hgroup⟩
  obtain rfl : k' = k := by
    obtain ⟨r₁, hr₁, hk⟩ := howns
    obtain ⟨r₂, hr₂, hk'⟩ := howns'
    obtain rfl := Option.some.inj (hr₁.symm.trans hr₂)
    exact Option.some.inj (hk'.symm.trans hk)
  obtain ⟨r', hr', hk⟩ := howns
  obtain rfl := Option.some.inj (hr.symm.trans hr')
  obtain ⟨hid, hc⟩ := he _ _ _ hr
  obtain ⟨hxid, hxc⟩ := he _ _ _ hx
  refine ⟨r.handle, x.handle, he.carries hr, hgroup, hc, hid, ?_, he.carries hx, hcameras, hxc,
    hxid⟩
  exact cameraOf_eq_ok_iff.mpr ⟨hgroup, r, k', x, by rw [hid, hc, hr], hk, hc ▸ hx, rfl⟩

/-- After an orderly run what the invariant says of numbers holds of the handles that were given
out : those of views and their cameras, of pairs and their representations. -/
theorem Owning.ownership (ho : e.Owning) (we : e.WellFormed) {ops : List Op}
    (hops : e.Orderly ops) (hn : (e.run ops).NumbersLeft) : e.Ownership ops := by
  have ho' := ho.run we hops hn
  have we' := we.changes (changes_run e ops) hn
  have he' := we'.keyed
  refine ⟨fun hview hgroup => ?_, fun {view view' camera} hview hview' hcamera hcamera' => ?_,
    ho'.listed, ?_, ?_⟩
  · obtain ⟨k, howns, -⟩ := ho'.camera (hgroup ▸ hview.hasOf)
    obtain ⟨view, camera, hcarries, -, hc, hid, hanswer, hcamera, hcameras, hcc, rfl⟩ :=
      ho'.cameraOf_of_owns he' howns
    obtain rfl := hcarries.eq hview hc hid
    exact ⟨camera, howns, hanswer, hcamera, hcameras, hcc⟩
  · obtain ⟨howns, hc⟩ := he'.owns_of_cameraOf hcamera
    obtain ⟨howns', hc'⟩ := he'.owns_of_cameraOf hcamera'
    have hconn := hc.symm.trans hc'
    exact hview.eq hview' hconn (ho'.single (hconn ▸ howns) howns')
  · rintro pre c name ps post camera rfl hmade hgroup hcarries
    obtain ⟨id, howns⟩ : ∃ id, (e.run _).Owns camera.connection id camera.id := by
      refine Owning.lasts_of_made (P := fun e => ∃ id, e.Owns camera.connection id camera.id)
        (g := .cameras) ?_ ?_ ho we hops hn hmade ?_ (hgroup ▸ hcarries.hasOf)
      · rintro e e' h ⟨id, howns⟩
        exact ⟨id, h.owns howns⟩
      · rintro e e' r h hr ⟨id, howns⟩
        exact ⟨id, h.owner howns hr⟩
      · intro ho₀ hcamera
        rw [snd_perform_create] at hmade hcamera ⊢
        exact ho₀.owns_of_create hmade hcamera
    obtain ⟨view, camera', hview, hviews, -, -, hanswer, hcamera', -, hc, hid⟩ :=
      ho'.cameraOf_of_owns he' howns
    obtain rfl := hcamera'.eq hcarries hc hid
    exact ⟨view, hview, hviews, hanswer⟩
  · rintro pre source view visible post r rfl hmade hcarries
    refine Owning.lasts_of_made
      (P := fun e => e.tabled? r.connection (source.id, view.id) = some r.id)
      (fun h => h.tabled) (fun h hr hk => h.pair hk hr) ho we hops hn hmade ?_ hcarries.hasOf
    intro _ _
    rw [snd_perform_setVisibility] at hmade ⊢
    exact tabled?_of_mem_newObjects hmade

end Engine

/-- Whatever a run of the engine does that deletes no camera and no representation by its own
handle and shows only sources in views : every view owns a camera that is there, no two views
own the same one, and the table lists only pairs whose objects and representation are there.
No camera that was made for a view is left without a view, and no representation that was made
for a pair is left outside the table. -/
theorem ownership_run_new (ops : List Engine.Op) (hops : Engine.new.Orderly ops)
    (hn : (Engine.new.run ops).NumbersLeft) : Engine.new.Ownership ops :=
  Engine.owning_new.ownership (Engine.wellFormed_ofCatalog builtinCatalog) hops hn

/-- A sphere is shown in one of two views, and the other view is deleted. The camera that is
left is that of the first view, and the pair is in the table with all its parts. -/
theorem ownership_of_view_left :
    let sphere : Handle := ⟨1, ⟨1⟩, .sources, "SphereSource"⟩
    let view : Handle := ⟨2, ⟨1⟩, .views, "RenderView"⟩
    let camera : Handle := ⟨3, ⟨1⟩, .cameras, "Camera"⟩
    let other : Handle := ⟨4, ⟨1⟩, .views, "RenderView"⟩
    let ops : List Engine.Op :=
      [.establish "builtin:", .create ⟨1⟩ .sources "SphereSource" ∅,
        .create ⟨1⟩ .views "RenderView" ∅, .create ⟨1⟩ .views "RenderView" ∅,
        .setVisibility sphere view true, .delete other]
    let e := Engine.new.run ops
    Engine.new.Orderly ops ∧ e.NumbersLeft ∧ Engine.new.Ownership ops ∧
      e.cameraOf view = .ok camera ∧ e.list ⟨1⟩ .cameras = [camera] ∧
        e.Complete ⟨1⟩ (1, 2) 6 := by
  intro sphere view camera other ops e
  have hshows : (Engine.new.run (ops.take 4)).Tidy (.setVisibility sphere view true) :=
    ⟨⟨⟨by decide, fun r hr => by cases hr; rfl⟩, rfl⟩,
      ⟨by decide, fun r hr => by cases hr; rfl⟩, rfl⟩
  have hdeletes : (Engine.new.run (ops.take 5)).Tidy (.delete other) :=
    ⟨⟨by decide, fun r hr => by cases hr; rfl⟩, by decide, by decide⟩
  have hops : Engine.new.Orderly ops :=
    .cons trivial (.cons trivial (.cons trivial (.cons trivial (.cons hshows
      (.cons hdeletes trivial)))))
  have hn : e.NumbersLeft := ⟨by decide, by decide⟩
  have howns := ownership_run_new ops hops hn
  exact ⟨hops, hn, howns, rfl, rfl, howns.listed rfl⟩

end VizSession
