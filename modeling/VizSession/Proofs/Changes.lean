import VizSession.Engine.Run
import VizSession.Proofs.Objects
import Mathlib.Logic.Relation

/-!
# What operations do to an engine

Whatever operation is carried out, and whether it succeeds, the engine goes through a chain
of a few kinds of change (`Engine.Change`, `changes_perform`). Each kind carries what was
checked before it, so a property that every change keeps holds after every run
(`Changes.keeps`). Most operations end nothing : they are chains of edits (`Engine.Edit`).
What else there is are connections that are made and ended, and objects that are removed.

The operations with more than one ending have a lemma that lists their endings, with the
answer and the engine in each : `create_cases`, `delete_cases`, `setProperties_cases` and
`setVisibility_cases`.
-/

namespace VizSession

open Relation

namespace Engine

/-! ## The kinds of change -/

/-- A change that ends nothing, with what was checked before it. -/
inductive Edit : Engine → Engine → Prop where
  /-- A call was counted. -/
  | count (e : Engine) (stats : Stats) : Edit e { e with stats := stats }
  /-- Connections are refused from now on, or accepted. -/
  | refuse (e : Engine) (reason : Option String) : Edit e (setRefusal reason e)
  /-- A definition came to the catalog. -/
  | define (e : Engine) (d : Definition) : Edit e (addDefinition d e)
  /-- An object was made, with valid properties. -/
  | make {e : Engine} {c : ConnectionId} {d : Definition} {ps : Properties}
      (hc : e.isAlive c = true) (hd : e.definition? d.group d.name = some d)
      (hps : e.validate c d ps = .ok ()) : Edit e (e.addObject c d ps)
  /-- An object got a camera. -/
  | equip {e : Engine} {c : ConnectionId} {owner : UInt64} {r : Record} {d : Definition}
      (hr : e.object? c owner = some r) (hd : e.definition? .cameras "Camera" = some d) :
      Edit e (e.addCamera c owner d)
  /-- A pair that the table did not have got its representation. -/
  | represent {e : Engine} {source view : Handle} {r r' : Record} {d : Definition}
      (hc : source.connection = view.connection)
      (hs : e.object? source.connection source.id = some r)
      (hv : e.object? view.connection view.id = some r')
      (hd : e.definition? .representations "GeometryRepresentation" = some d)
      (hp : e.tabled? source.connection (source.id, view.id) = none) :
      Edit e (e.addRepresentation source view d)
  /-- An object got a name without control characters. -/
  | rename {e : Engine} {c : ConnectionId} {id : UInt64} {r : Record} {name : String}
      (hr : e.object? c id = some r) (hname : Text.hasControl name = false) :
      Edit e (e.updateStore c fun s => s.rename id name)
  /-- An object got valid properties. -/
  | write {e : Engine} {h : Handle} {r : Record} {d : Definition} {ps : Properties}
      (hr : e.object? h.connection h.id = some r)
      (hd : e.definition? h.group h.definition = some d)
      (hps : e.validate h.connection d ps = .ok ()) :
      Edit e (e.updateStore h.connection fun s => s.write h.id ps)
  /-- What a representation draws was shown or hidden. -/
  | display {e : Engine} {c : ConnectionId} {pair : UInt64 × UInt64} {k : UInt64} {r : Record}
      {visible : Bool} (hk : e.tabled? c pair = some k) (hr : e.object? c k = some r) :
      Edit e (e.display c k visible)

/-- One change of an engine, with what was checked before it. -/
inductive Change : Engine → Engine → Prop where
  /-- Something was made or changed, and nothing ended. -/
  | edit {e e' : Engine} (h : Edit e e') : Change e e'
  /-- A connection was made. -/
  | connect (e : Engine) : Change e e.withConnection
  /-- A connection ended. -/
  | disconnect {e : Engine} {c : ConnectionId} (hc : e.isAlive c = true) : Change e (e.without c)
  /-- An object was removed with what attends it. -/
  | remove {e : Engine} {c : ConnectionId} {id : UInt64} {r : Record}
      (hr : e.object? c id = some r) : Change e (e.updateStore c fun s => s.remove id)

/-- A chain of edits. -/
abbrev Edits : Engine → Engine → Prop := ReflTransGen Edit

/-- A chain of changes. -/
abbrev Changes : Engine → Engine → Prop := ReflTransGen Change

/-- What every change keeps, every chain of changes keeps. -/
theorem Changes.keeps {P : Engine → Prop} (hP : ∀ e e', Change e e' → P e → P e') {e e' : Engine}
    (h : Changes e e') (he : P e) : P e' := by
  induction h with
  | refl => exact he
  | tail _ hstep ih => exact hP _ _ hstep ih

theorem Edits.changes {e e' : Engine} (h : Edits e e') : Changes e e' :=
  ReflTransGen.mono (fun _ _ => Change.edit) _ _ h

/-- Catalogs only grow. -/
theorem Change.catalog_subset {e e' : Engine} (h : Change e e') : e.catalog ⊆ e'.catalog := by
  cases h with
  | edit h =>
    cases h with
    | define d => exact List.subset_append_left ..
    | count | refuse | make | equip | represent | rename | write | display =>
      exact List.Subset.refl _
  | connect | disconnect | remove => exact List.Subset.refl _

theorem Changes.catalog_subset {e e' : Engine} (h : Changes e e') : e.catalog ⊆ e'.catalog := by
  induction h with
  | refl => exact List.Subset.refl _
  | tail _ hstep ih => exact List.Subset.trans ih hstep.catalog_subset

/-- Edits leave the connections alone. -/
theorem Edit.keys {e e' : Engine} (h : Edit e e') : e'.connections.keys = e.connections.keys := by
  cases h with
  | count | refuse | define => rfl
  | make | equip | represent | rename | write => simp
  | display => simp [Engine.display]

theorem Edit.isAlive {e e' : Engine} (h : Edit e e') (c : ConnectionId) :
    e'.isAlive c = e.isAlive c := by
  rw [Bool.eq_iff_iff, isAlive_iff_mem, isAlive_iff_mem, h.keys]

theorem Edits.keys {e e' : Engine} (h : Edits e e') :
    e'.connections.keys = e.connections.keys := by
  induction h with
  | refl => rfl
  | tail _ hstep ih => rw [hstep.keys, ih]

/-- An edit reaches one connection at most. -/
theorem Edit.elsewhere {e e' : Engine} (h : Edit e e') :
    ∃ c₀, ∀ c, c ≠ c₀ → e'.connections.find? c = e.connections.find? c := by
  cases h with
  | count | refuse | define => exact ⟨e.nextConnectionId, fun _ _ => rfl⟩
  | @make c₀ => exact ⟨c₀, fun _ hc => find?_updateStore_of_ne e _ hc⟩
  | @equip c₀ =>
    exact ⟨c₀, fun _ hc => (find?_updateStore_of_ne (e.addObject c₀ _ ∅) _ hc).trans
      (find?_updateStore_of_ne e _ hc)⟩
  | @represent source =>
    exact ⟨source.connection, fun _ hc =>
      (find?_updateStore_of_ne (e.addObject source.connection _ (inputOf source)) _ hc).trans
        (find?_updateStore_of_ne e _ hc)⟩
  | @rename c₀ => exact ⟨c₀, fun _ hc => find?_updateStore_of_ne e _ hc⟩
  | @write h => exact ⟨h.connection, fun _ hc => find?_updateStore_of_ne e _ hc⟩
  | @display c₀ => exact ⟨c₀, fun _ hc => find?_updateStore_of_ne e _ hc⟩

/-- A change reaches one connection at most. -/
theorem Change.elsewhere {e e' : Engine} (h : Change e e') :
    ∃ c₀, ∀ c, c ≠ c₀ → e'.connections.find? c = e.connections.find? c := by
  cases h with
  | edit h => exact h.elsewhere
  | connect =>
    exact ⟨e.nextConnectionId, fun _ hc =>
      (OrderedMap.find?_insert ..).trans (if_neg fun h => hc h.symm)⟩
  | @disconnect c₀ =>
    exact ⟨c₀, fun _ hc => (OrderedMap.find?_erase ..).trans (if_neg fun h => hc h.symm)⟩
  | @remove c₀ => exact ⟨c₀, fun _ hc => find?_updateStore_of_ne e _ hc⟩

/-- Edits leave the tables alone, but for a pair that the table did not have. -/
theorem Edit.tabled_cases {e e' : Engine} (h : Edit e e') :
    (∀ c pair, e'.tabled? c pair = e.tabled? c pair) ∨
      ∃ source view r r' d, source.connection = view.connection ∧
        e.object? source.connection source.id = some r ∧
        e.object? view.connection view.id = some r' ∧
        e.definition? .representations "GeometryRepresentation" = some d ∧
        e.tabled? source.connection (source.id, view.id) = none ∧
        e' = e.addRepresentation source view d := by
  cases h with
  | count | refuse | define => exact Or.inl fun _ _ => rfl
  | make => exact Or.inl fun _ _ => tabled?_addObject ..
  | equip => exact Or.inl fun _ _ => tabled?_addCamera ..
  | @represent source view r r' d hc hs hv hd hp =>
    exact Or.inr ⟨source, view, r, r', d, hc, hs, hv, hd, hp, rfl⟩
  | rename =>
    exact Or.inl fun _ _ => tabled?_updateStore_of_eq _ _ _ (fun s => s.representations_rename ..) _
  | write =>
    exact Or.inl fun _ _ => tabled?_updateStore_of_eq _ _ _ (fun s => s.representations_write ..) _
  | display =>
    exact Or.inl fun _ _ => tabled?_updateStore_of_eq _ _ _ (fun s => s.representations_write ..) _

/-! ## Connections -/

/-- The engine after a call for a connection was counted. -/
def countEstablish (e : Engine) : Engine :=
  { e with stats.establishCalls := e.stats.establishCalls + 1 }

/-- A connection is refused, or made. Either way the call is counted. -/
theorem establish_counted (url : String) (e : Engine) :
    (∃ fault, establish url e = (.error fault, e.countEstablish)) ∨
      establish url e = (.ok e.nextConnectionId, e.countEstablish.withConnection) := by
  cases hr : e.refusal with
  | some reason => exact Or.inl ⟨.connectionFailed url (.refused reason), by
      simp [establish, countEstablish, hr]⟩
  | none =>
    by_cases hurl : url = servedUrl
    · exact Or.inr (by simp [establish, countEstablish, nextConnectionId, hr, hurl])
    · exact Or.inl ⟨.connectionFailed url (.unserved servedUrl), by
        simp [establish, countEstablish, hr, hurl]⟩

theorem establish_cases (url : String) (e : Engine) : ∃ stats,
    (∃ fault, establish url e = (.error fault, { e with stats := stats })) ∨
      establish url e =
        (.ok e.nextConnectionId, withConnection { e with stats := stats }) :=
  ⟨{ e.stats with establishCalls := e.stats.establishCalls + 1 }, establish_counted url e⟩

/-- A connection that is alive ends. Either way the call is counted. -/
theorem disconnect_eq (c : ConnectionId) (e : Engine) : ∃ stats, disconnect c e =
    if e.isAlive c then (.ok (), without { e with stats := stats } c)
    else (.error (.unknownConnection c), { e with stats := stats }) :=
  ⟨{ e.stats with disconnectCalls := e.stats.disconnectCalls + 1 }, rfl⟩

theorem changes_disconnect (c : ConnectionId) (e : Engine) :
    Changes e (disconnect c e).2 := by
  obtain ⟨stats, h⟩ := disconnect_eq c e
  rw [h]
  split
  · rename_i hc
    exact .tail (.single (.edit (.count e stats))) (.disconnect hc)
  · exact .single (.edit (.count e stats))

/-! ## Making and deleting -/

/-- An object is made only on a live connection, from the first definition of the group and name,
with properties that are valid for it. -/
theorem blueprint_eq_ok {e : Engine} {c : ConnectionId} {g : Group} {name : String}
    {ps : Properties} {d : Definition} (h : e.blueprint c g name ps = .ok d) :
    e.isAlive c = true ∧ e.definition? g name = some d ∧ e.validate c d ps = .ok () := by
  unfold blueprint at h
  cases hs : e.store c with
  | error fault => simp [hs, bind, Except.bind] at h
  | ok s =>
    cases hd : e.definition g name with
    | error fault => simp [hs, hd, bind, Except.bind] at h
    | ok d' =>
      cases hv : e.validate c d' ps with
      | error fault => simp [hs, hd, hv, bind, Except.bind] at h
      | ok u =>
        simp only [hs, hd, hv, bind, Except.bind, pure, Except.pure, Except.ok.injEq] at h
        subst h
        exact ⟨isAlive_iff.mpr ⟨s, store_eq_ok_iff.mp hs⟩, definition_eq_ok_iff.mp hd, hv⟩

/-- Creation is refused and changes nothing, or it makes an object. A view is left without
a camera when the catalog has no definition of one, and then the call fails; otherwise it
gets a camera. -/
theorem create_cases (c : ConnectionId) (g : Group) (name : String) (ps : Properties)
    (e : Engine) :
    (∃ fault, create c g name ps e = (.error fault, e)) ∨
      ∃ d, e.isAlive c = true ∧ e.definition? g name = some d ∧ e.validate c d ps = .ok () ∧
        ((g ≠ .views ∧ create c g name ps e = (.ok (e.nextHandle c d), e.addObject c d ps)) ∨
          (g = .views ∧ e.definition? .cameras "Camera" = none ∧
            ∃ fault, create c g name ps e = (.error fault, e.addObject c d ps)) ∨
          (g = .views ∧ ∃ camera, e.definition? .cameras "Camera" = some camera ∧
            create c g name ps e = (.ok (e.nextHandle c d),
              (e.addObject c d ps).addCamera c (e.nextHandle c d).id camera))) := by
  cases hb : e.blueprint c g name ps with
  | error fault => exact Or.inl ⟨fault, by simp [create, hb]⟩
  | ok d =>
    obtain ⟨hc, hd, hps⟩ := blueprint_eq_ok hb
    refine Or.inr ⟨d, hc, hd, hps, ?_⟩
    by_cases hg : g = .views
    · subst hg
      have hcat : (e.addObject c d ps).definition .cameras "Camera" =
          e.definition .cameras "Camera" := rfl
      cases hcam : e.definition? .cameras "Camera" with
      | none =>
        refine Or.inr (Or.inl ⟨rfl, rfl, .unknownDefinition .cameras "Camera", ?_⟩)
        have hcam' : e.definition .cameras "Camera" =
            .error (.unknownDefinition .cameras "Camera") := by
          simp [definition, hcam]
        simp [create, hb, hcat, hcam']
      | some camera =>
        refine Or.inr (Or.inr ⟨rfl, camera, rfl, ?_⟩)
        simp [create, hb, hcat, definition_eq_ok_iff.mpr hcam]
    · exact Or.inl ⟨hg, by simp [create, hb, hg]⟩

theorem edits_create (c : ConnectionId) (g : Group) (name : String) (ps : Properties)
    (e : Engine) : Edits e (create c g name ps e).2 := by
  rcases create_cases c g name ps e with ⟨fault, h⟩ | ⟨d, hc, hd, hps, hcase⟩
  · rw [h]
  · obtain ⟨hgroup, hname⟩ := group_name_of_definition? hd
    have hmake : Edit e (e.addObject c d ps) := .make hc (by rw [hgroup, hname, hd]) hps
    rcases hcase with ⟨-, h⟩ | ⟨-, -, fault, h⟩ | ⟨-, camera, hcam, h⟩
    · rw [h]
      exact .single hmake
    · rw [h]
      exact .single hmake
    · rw [h]
      exact .tail (.single hmake) (.equip (object?_addObject_self e c d ps hc) hcam)

theorem delete_eq {h : Handle} {e : Engine} {r : Record}
    (hr : e.object? h.connection h.id = some r) :
    delete h e = (.ok (), e.updateStore h.connection fun s => s.remove h.id) := by
  simp [delete, record_eq_ok_iff.mpr hr]

/-- A deletion is refused and changes nothing, or the object was there and is removed. -/
theorem delete_cases (h : Handle) (e : Engine) :
    (∃ fault, delete h e = (.error fault, e)) ∨
      ∃ r, e.object? h.connection h.id = some r ∧
        delete h e = (.ok (), e.updateStore h.connection fun s => s.remove h.id) := by
  cases hr : e.record h with
  | error fault => exact Or.inl ⟨fault, by simp [delete, hr]⟩
  | ok r =>
    rw [record_eq_ok_iff] at hr
    exact Or.inr ⟨r, hr, delete_eq hr⟩

theorem changes_delete (h : Handle) (e : Engine) : Changes e (delete h e).2 := by
  rcases delete_cases h e with ⟨fault, hd⟩ | ⟨r, hr, hd⟩
  · rw [hd]
  · rw [hd]
    exact .single (.remove hr)

theorem rename_cases (h : Handle) (name : String) (e : Engine) :
    (∃ fault, rename h name e = (.error fault, e)) ∨
      ∃ r, e.object? h.connection h.id = some r ∧ Text.hasControl name = false ∧
        rename h name e = (.ok (), e.updateStore h.connection fun s => s.rename h.id name) := by
  cases hn : Text.hasControl name with
  | true => exact Or.inl ⟨_, by simp [rename, hn]; rfl⟩
  | false =>
    cases hr : e.record h with
    | error fault => exact Or.inl ⟨fault, by simp [rename, hn, hr]⟩
    | ok r => exact Or.inr ⟨r, record_eq_ok_iff.mp hr, rfl, by simp [rename, hn, hr]⟩

theorem edits_rename (h : Handle) (name : String) (e : Engine) :
    Edits e (rename h name e).2 := by
  rcases rename_cases h name e with ⟨fault, hn⟩ | ⟨r, hr, hname, hn⟩
  · rw [hn]
  · rw [hn]
    exact .single (.rename hr hname)

theorem setProperties_eq {h : Handle} {ps : Properties} {e : Engine} {r : Record}
    {d : Definition} (hr : e.object? h.connection h.id = some r)
    (hd : e.definition? h.group h.definition = some d)
    (hps : e.validate h.connection d ps = .ok ()) :
    setProperties h ps e = (.ok (), e.updateStore h.connection fun s => s.write h.id ps) := by
  simp [setProperties, record_eq_ok_iff.mpr hr, definition_eq_ok_iff.mpr hd, hps, bind,
    Except.bind]

/-- Properties are refused and nothing changes, or they are valid for the definition that the handle
names, and they are written. -/
theorem setProperties_cases (h : Handle) (ps : Properties) (e : Engine) :
    (∃ fault, setProperties h ps e = (.error fault, e)) ∨
      ∃ r d, e.object? h.connection h.id = some r ∧
        e.definition? h.group h.definition = some d ∧ e.validate h.connection d ps = .ok () ∧
        setProperties h ps e =
          (.ok (), e.updateStore h.connection fun s => s.write h.id ps) := by
  cases hr : e.record h with
  | error fault => exact Or.inl ⟨fault, by simp [setProperties, hr, bind, Except.bind]⟩
  | ok r =>
    cases hd : e.definition h.group h.definition with
    | error fault => exact Or.inl ⟨fault, by simp [setProperties, hr, hd, bind, Except.bind]⟩
    | ok d =>
      cases hv : e.validate h.connection d ps with
      | error fault =>
        exact Or.inl ⟨fault, by simp [setProperties, hr, hd, hv, bind, Except.bind]⟩
      | ok u =>
        rw [record_eq_ok_iff] at hr
        rw [definition_eq_ok_iff] at hd
        exact Or.inr ⟨r, d, hr, hd, hv, setProperties_eq hr hd hv⟩

theorem edits_setProperties (h : Handle) (ps : Properties) (e : Engine) :
    Edits e (setProperties h ps e).2 := by
  rcases setProperties_cases h ps e with ⟨fault, hs⟩ | ⟨r, d, hr, hd, hps, hs⟩
  · rw [hs]
  · rw [hs]
    exact .single (.write hr hd hps)

/-! ## Rendering -/

/-- The engine after that many views were rendered. -/
def rendered (e : Engine) (n : Nat) : Engine :=
  { e with stats.renders := e.stats.renders + n }

/-- A view that is there can be rendered, and that is counted. -/
theorem render_of_isLive {view : Handle} {e : Engine} (hg : view.group = .views)
    (hlive : e.isLive view = true) : render view e = (.ok (), e.rendered 1) := by
  obtain ⟨r, hr⟩ := isLive_iff.mp hlive
  simp [render, rendered, hg, record_eq_ok_iff.mpr hr]

/-- Rendering is refused and changes nothing, or it is counted. -/
theorem render_cases (view : Handle) (e : Engine) :
    (∃ fault, render view e = (.error fault, e)) ∨ render view e = (.ok (), e.rendered 1) := by
  by_cases hg : view.group = .views
  · cases hr : e.record view with
    | error fault => exact Or.inl ⟨fault, by simp [render, hg, hr]⟩
    | ok r => exact Or.inr (render_of_isLive hg (isLive_iff.mpr ⟨r, record_eq_ok_iff.mp hr⟩))
  · exact Or.inl ⟨_, by simp [render, hg]; rfl⟩

/-- Interacting is refused and changes nothing, or both the rendering and the interaction are
counted. -/
theorem interact_cases (view : Handle) (e : Engine) :
    (∃ fault, interact view e = (.error fault, e)) ∨
      interact view e = (.ok (),
        { e.rendered 1 with stats.interactions := e.stats.interactions + 1 }) := by
  rcases render_cases view e with ⟨fault, h⟩ | h
  · exact Or.inl ⟨fault, Step.bind_error h⟩
  · exact Or.inr (Step.bind_ok h)

/-- Rendering counts a call at most. -/
theorem render_eq (view : Handle) (e : Engine) :
    ∃ stats, (render view e).2 = { e with stats := stats } := by
  rcases render_cases view e with ⟨fault, h⟩ | h
  · exact ⟨e.stats, by rw [h]⟩
  · exact ⟨_, by rw [h]; rfl⟩

theorem edits_render (view : Handle) (e : Engine) : Edits e (render view e).2 := by
  obtain ⟨stats, h⟩ := render_eq view e
  rw [h]
  exact .single (.count e stats)

/-- So does interacting. -/
theorem interact_eq (view : Handle) (e : Engine) :
    ∃ stats, (interact view e).2 = { e with stats := stats } := by
  rcases interact_cases view e with ⟨fault, h⟩ | h
  · exact ⟨e.stats, by rw [h]⟩
  · exact ⟨_, by rw [h]; rfl⟩

theorem edits_interact (view : Handle) (e : Engine) : Edits e (interact view e).2 := by
  obtain ⟨stats, h⟩ := interact_eq view e
  rw [h]
  exact .single (.count e stats)

/-- Showing and hiding a pair of live objects of one connection goes by the table. -/
theorem setVisibility_eq {source view : Handle} {e : Engine} {r r' : Record}
    (hc : source.connection = view.connection)
    (hs : e.object? source.connection source.id = some r)
    (hv : e.object? view.connection view.id = some r') (visible : Bool) :
    setVisibility source view visible e =
      match e.tabled? source.connection (source.id, view.id) with
      | some k =>
        match e.object? source.connection k with
        | none => (.error (.proxyNotFound k), e)
        | some rep => (.ok rep.handle, e.display source.connection k visible)
      | none =>
        match e.definition .representations "GeometryRepresentation" with
        | .error fault => (.error fault, e)
        | .ok d =>
          (.ok (e.nextHandle source.connection d),
            (e.addRepresentation source view d).display source.connection
              (e.nextHandle source.connection d).id visible) := by
  obtain ⟨s, hstore, hrec⟩ := Option.bind_eq_some_iff.mp hs
  have hsource : e.record source = .ok r := record_eq_ok_iff.mpr hs
  have hview : e.record view = .ok r' := record_eq_ok_iff.mpr hv
  have hok : e.store source.connection = .ok s := store_eq_ok_iff.mpr hstore
  have hk : ∀ pair, e.tabled? source.connection pair = s.representations.find? pair := by
    simp [tabled?, hstore]
  have hobj : ∀ id, e.object? source.connection id = s.record? id := by
    simp [object?, hstore]
  have hstart : setVisibility source view visible e =
      (do
        let id ← ensureRepresentation source view
        let s ← Step.query fun e : Engine => e.store source.connection
        match s.record? id with
        | none => Step.fail (.proxyNotFound id)
        | some rep =>
          Step.update fun e => e.display source.connection id visible
          return rep.handle : Step Engine EngineError Handle) e := by
    unfold setVisibility
    rw [if_neg (Decidable.not_not.mpr hc)]
    have hasks : Step.query (fun e : Engine => e.record source) e = (.ok r, e) := by
      rw [Step.query_apply, hsource]
    have haskv : Step.query (fun e : Engine => e.record view) e = (.ok r', e) := by
      rw [Step.query_apply, hview]
    exact (Step.bind_ok hasks).trans (Step.bind_ok haskv)
  rw [hstart, hk]
  cases hp : s.representations.find? (source.id, view.id) with
  | some k =>
    have hens : ensureRepresentation source view e = (.ok k, e) := by
      simp [ensureRepresentation, hok, hp]
    simp only [Step.bind_ok hens, Step.bind_apply, Step.query_apply, hok, hobj]
    cases hrep : s.record? k with
    | none => rfl
    | some rep => rfl
  | none =>
    cases hd : e.definition .representations "GeometryRepresentation" with
    | error fault =>
      have hens : ensureRepresentation source view e = (.error fault, e) := by
        simp [ensureRepresentation, hok, hp, hd]
      simp only [Step.bind_error hens]
    | ok d =>
      have hens : ensureRepresentation source view e =
          (.ok (e.nextHandle source.connection d).id, e.addRepresentation source view d) := by
        simp [ensureRepresentation, hok, hp, hd]
      obtain ⟨s', hstore', hrec'⟩ := Option.bind_eq_some_iff.mp
        (object?_addRepresentation_self e d view (isAlive_of_object? hs))
      simp only [Step.bind_ok hens, Step.bind_apply, Step.query_apply,
        store_eq_ok_iff.mpr hstore', hrec']
      rfl

/-- Showing and hiding is refused and changes nothing; or the table has a representation
that is there, and it is shown or hidden; or the table has none and a new one is made
first. -/
theorem setVisibility_cases (source view : Handle) (visible : Bool) (e : Engine) :
    (∃ fault, setVisibility source view visible e = (.error fault, e)) ∨
      ∃ r r', source.connection = view.connection ∧
        e.object? source.connection source.id = some r ∧
        e.object? view.connection view.id = some r' ∧
        ((∃ k rep, e.tabled? source.connection (source.id, view.id) = some k ∧
            e.object? source.connection k = some rep ∧
            setVisibility source view visible e =
              (.ok rep.handle, e.display source.connection k visible)) ∨
          ∃ d, e.tabled? source.connection (source.id, view.id) = none ∧
            e.definition? .representations "GeometryRepresentation" = some d ∧
            setVisibility source view visible e =
              (.ok (e.nextHandle source.connection d),
                (e.addRepresentation source view d).display source.connection
                  (e.nextHandle source.connection d).id visible)) := by
  by_cases hc : source.connection = view.connection
  · cases hs : e.record source with
    | error fault =>
      refine Or.inl ⟨fault, ?_⟩
      simp [setVisibility, hc, Step.bind_apply, hs]
    | ok r =>
      cases hv : e.record view with
      | error fault =>
        refine Or.inl ⟨fault, ?_⟩
        simp [setVisibility, hc, Step.bind_apply, hs, hv]
      | ok r' =>
        rw [record_eq_ok_iff] at hs hv
        rw [setVisibility_eq hc hs hv]
        cases hk : e.tabled? source.connection (source.id, view.id) with
        | some k =>
          cases hrep : e.object? source.connection k with
          | none => exact Or.inl ⟨.proxyNotFound k, by simp only [hrep]⟩
          | some rep =>
            refine Or.inr ⟨r, r', hc, hs, hv, Or.inl ⟨k, rep, rfl, hrep, ?_⟩⟩
            simp only [hrep]
        | none =>
          cases hd : e.definition .representations "GeometryRepresentation" with
          | error fault => exact Or.inl ⟨fault, rfl⟩
          | ok d =>
            exact Or.inr ⟨r, r', hc, hs, hv,
              Or.inr ⟨d, rfl, definition_eq_ok_iff.mp hd, rfl⟩⟩
  · exact Or.inl ⟨_, by simp [setVisibility, hc]; rfl⟩

theorem edits_setVisibility (source view : Handle) (visible : Bool) (e : Engine) :
    Edits e (setVisibility source view visible e).2 := by
  rcases setVisibility_cases source view visible e with ⟨fault, h⟩ |
    ⟨r, r', hc, hs, hv, ⟨k, rep, hk, hrep, h⟩ | ⟨d, hp, hd, h⟩⟩
  · rw [h]
  · rw [h]
    exact .single (.display hk hrep)
  · have halive := isAlive_of_object? hs
    have hk : (e.addRepresentation source view d).tabled? source.connection
        (source.id, view.id) = some (e.nextHandle source.connection d).id := by
      rw [tabled?_addRepresentation e d view halive]
      exact if_pos ⟨rfl, rfl⟩
    rw [h]
    exact .tail (.single (.represent hc hs hv hd hp))
      (.display hk (object?_addRepresentation_self e d view halive))

/-! ## All operations -/

theorem Edits.answer {α β : Type} {x : Step Engine EngineError α} {e : Engine}
    (h : Edits e (x e).2) (f : α → β) : Edits e ((x >>= fun a => pure (f a)) e).2 := by
  rw [Step.snd_bind_pure]
  exact h

section Perform

variable (e : Engine)

theorem snd_perform_establish (url : String) :
    (perform (.establish url) e).2 = (establish url e).2 := Step.snd_bind_pure ..

theorem snd_perform_disconnect (c : ConnectionId) :
    (perform (.disconnect c) e).2 = (disconnect c e).2 := Step.snd_bind_pure ..

theorem snd_perform_create (c : ConnectionId) (g : Group) (name : String) (ps : Properties) :
    (perform (.create c g name ps) e).2 = (create c g name ps e).2 := Step.snd_bind_pure ..

theorem snd_perform_delete (h : Handle) : (perform (.delete h) e).2 = (delete h e).2 :=
  Step.snd_bind_pure ..

theorem snd_perform_rename (h : Handle) (name : String) :
    (perform (.rename h name) e).2 = (rename h name e).2 := Step.snd_bind_pure ..

theorem snd_perform_setProperties (h : Handle) (ps : Properties) :
    (perform (.setProperties h ps) e).2 = (setProperties h ps e).2 := Step.snd_bind_pure ..

theorem snd_perform_render (view : Handle) : (perform (.render view) e).2 = (render view e).2 :=
  Step.snd_bind_pure ..

theorem snd_perform_interact (view : Handle) :
    (perform (.interact view) e).2 = (interact view e).2 := Step.snd_bind_pure ..

theorem snd_perform_setVisibility (source view : Handle) (visible : Bool) :
    (perform (.setVisibility source view visible) e).2 =
      (setVisibility source view visible e).2 := Step.snd_bind_pure ..

end Perform

/-- An operation is a chain of edits; or it makes or ends a connection, which is counted
too; or it deletes an object that is there. -/
theorem perform_cases (op : Op) (e : Engine) :
    Edits e (perform op e).2 ∨
      (∃ url stats, op = .establish url ∧
        (perform op e).2 = withConnection { e with stats := stats }) ∨
      (∃ c stats, op = .disconnect c ∧ e.isAlive c = true ∧
        (perform op e).2 = without { e with stats := stats } c) ∨
      ∃ h r, op = .delete h ∧ e.object? h.connection h.id = some r ∧
        (perform op e).2 = e.updateStore h.connection fun s => s.remove h.id := by
  cases op with
  | establish url =>
    rw [snd_perform_establish]
    obtain ⟨stats, ⟨fault, h⟩ | h⟩ := establish_cases url e
    · rw [h]
      exact Or.inl (.single (.count e stats))
    · rw [h]
      exact Or.inr (Or.inl ⟨url, stats, rfl, rfl⟩)
  | disconnect c =>
    rw [snd_perform_disconnect]
    obtain ⟨stats, h⟩ := disconnect_eq c e
    rw [h]
    split
    · rename_i hc
      exact Or.inr (Or.inr (Or.inl ⟨c, stats, rfl, hc, rfl⟩))
    · exact Or.inl (.single (.count e stats))
  | delete h =>
    rw [snd_perform_delete]
    rcases delete_cases h e with ⟨fault, hd⟩ | ⟨r, hr, hd⟩
    · rw [hd]
      exact Or.inl .refl
    · rw [hd]
      exact Or.inr (Or.inr (Or.inr ⟨h, r, rfl, hr, rfl⟩))
  | create c g name ps => exact Or.inl ((edits_create c g name ps e).answer _)
  | rename h name => exact Or.inl ((edits_rename h name e).answer _)
  | setProperties h ps => exact Or.inl ((edits_setProperties h ps e).answer _)
  | render view => exact Or.inl ((edits_render view e).answer _)
  | interact view => exact Or.inl ((edits_interact view e).answer _)
  | setVisibility source view visible =>
    exact Or.inl ((edits_setVisibility source view visible e).answer _)
  | setRefusal reason => exact Or.inl (.single (.refuse e reason))
  | addDefinition d => exact Or.inl (.single (.define e d))
  | isAlive | isLive | registrationName | find | list | properties | cameraOf | definitions
  | representation | inventory => exact Or.inl .refl

/-- Every operation is a chain of changes, whether it succeeds or fails. -/
theorem changes_perform (op : Op) (e : Engine) : Changes e (perform op e).2 := by
  rcases perform_cases op e with h | ⟨url, stats, -, h⟩ | ⟨c, stats, -, hc, h⟩ |
    ⟨h, r, -, hr, hop⟩
  · exact h.changes
  · rw [h]
    exact .tail (.single (.edit (.count e stats))) (.connect _)
  · rw [h]
    exact .tail (.single (.edit (.count e stats))) (.disconnect hc)
  · rw [hop]
    exact .single (.remove hr)

theorem run_append (e : Engine) (ops rest : List Op) :
    e.run (ops ++ rest) = (e.run ops).run rest :=
  List.foldl_append

theorem changes_run (e : Engine) (ops : List Op) : Changes e (e.run ops) := by
  induction ops generalizing e with
  | nil => exact .refl
  | cons op ops ih => exact (changes_perform op e).trans (ih _)

/-- What an operation leaves behind has the catalog from before, unless the operation adds a
definition. -/
theorem catalog_perform (op : Op) (e : Engine) :
    (perform op e).2.catalog = e.catalog ∨ ∃ d, op = .addDefinition d := by
  cases op with
  | addDefinition d => exact Or.inr ⟨d, rfl⟩
  | establish url =>
    rw [snd_perform_establish]
    obtain ⟨stats, ⟨fault, h⟩ | h⟩ := establish_cases url e
    · exact Or.inl (by rw [h])
    · exact Or.inl (by rw [h]; rfl)
  | disconnect c =>
    rw [snd_perform_disconnect]
    obtain ⟨stats, h⟩ := disconnect_eq c e
    rw [h]
    split
    · exact Or.inl rfl
    · exact Or.inl rfl
  | create c g name ps =>
    rw [snd_perform_create]
    rcases create_cases c g name ps e with ⟨fault, h⟩ |
      ⟨d, -, -, -, ⟨-, h⟩ | ⟨-, -, fault, h⟩ | ⟨-, camera, -, h⟩⟩
    all_goals
      rw [h]
      exact Or.inl rfl
  | delete x =>
    rw [snd_perform_delete]
    rcases delete_cases x e with ⟨fault, h⟩ | ⟨r, -, h⟩
    all_goals
      rw [h]
      exact Or.inl rfl
  | rename x name =>
    rw [snd_perform_rename]
    rcases rename_cases x name e with ⟨fault, h⟩ | ⟨r, -, -, h⟩
    all_goals
      rw [h]
      exact Or.inl rfl
  | setProperties x ps =>
    rw [snd_perform_setProperties]
    rcases setProperties_cases x ps e with ⟨fault, h⟩ | ⟨r, d, -, -, -, h⟩
    all_goals
      rw [h]
      exact Or.inl rfl
  | render view =>
    rw [snd_perform_render]
    obtain ⟨stats, h⟩ := render_eq view e
    exact Or.inl (by rw [h])
  | interact view =>
    rw [snd_perform_interact]
    obtain ⟨stats, h⟩ := interact_eq view e
    exact Or.inl (by rw [h])
  | setVisibility source view visible =>
    rw [snd_perform_setVisibility]
    rcases setVisibility_cases source view visible e with ⟨fault, h⟩ |
      ⟨r, r', -, -, -, ⟨k, rep, -, -, h⟩ | ⟨d, -, -, h⟩⟩
    all_goals
      rw [h]
      exact Or.inl rfl
  | setRefusal => exact Or.inl rfl
  | isAlive | isLive | registrationName | find | list | properties | cameraOf | definitions
  | representation | inventory => exact Or.inl rfl

theorem catalog_run {e : Engine} {ops : List Op} (hops : ∀ d, Op.addDefinition d ∉ ops) :
    (e.run ops).catalog = e.catalog := by
  induction ops generalizing e with
  | nil => rfl
  | cons op ops ih =>
    have hrest : ((perform op e).2.run ops).catalog = (perform op e).2.catalog :=
      ih fun d hd => hops d (List.mem_cons_of_mem _ hd)
    rcases catalog_perform op e with hsame | ⟨d, rfl⟩
    · exact hrest.trans hsame
    · exact absurd (List.mem_cons_self ..) (hops d)

end Engine

end VizSession
