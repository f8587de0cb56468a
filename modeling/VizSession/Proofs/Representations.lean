import VizSession.Proofs.Creations
import VizSession.Proofs.Liveness

/-!
# The representation of a pair

A pair of objects has at most one representation, and every way to it leads to the same one.
`Engine.Draws` says that the table has the representation and that it is there. Then the
question for the representation answers with it (`representation_eq_some_iff`), and so do
showing and hiding, which do no more than change whether it is visible
(`Draws.setVisibility`). Whatever showing and hiding answer, the pair is drawn by it
afterwards (`draws_of_setVisibility`), and it stays so as long as the two objects and the
representation are there (`Draws.changes`).

Among the calls of a session that name a pair (`Session.PairCall`), the first makes a
representation if there is none, and all others come upon it : one object is made, and whether
it is visible at the end is what was asked last (`Session.makesOne_of_untabled`).
-/

namespace VizSession

namespace Engine

variable {e e' : Engine} {source view r : Handle}

/-! ## Tables of different connections -/

/-- A number stands in the table of one connection only. -/
def TablesApart (e : Engine) : Prop :=
  ∀ c c' pair pair' k, e.tabled? c pair = some k → e.tabled? c' pair' = some k → c = c'

/-- A representation that is new in a table has the next number, and no table names that yet. -/
theorem TablesApart.change (ha : e.TablesApart) (we : e.WellFormed) (h : Change e e')
    (hn : e.NumbersLeft) : e'.TablesApart := by
  intro c c' pair pair' k hk hk'
  refine h.eq_connection (P := fun c k => ∃ pair, e.tabled? c pair = some k)
    (Q := fun c k => ∃ pair, e'.tabled? c pair = some k) ?_ ?_ ?_ ?_ ⟨pair, hk⟩ ⟨pair', hk'⟩
  · rintro c k hsame ⟨pair, hk⟩
    exact ⟨pair, (tabled?_congr hsame pair).symm.trans hk⟩
  · rintro c k ⟨pair, hk⟩
    rcases h.tabled_origin hk with hold | hnew
    · exact Or.inl ⟨pair, hold⟩
    · exact Or.inr hnew.number
  · rintro c k ⟨pair, hk⟩ rfl
    exact hn.nextObject_not_lt (we.tabled hk).1
  · rintro c c' k ⟨pair, hk⟩ ⟨pair', hk'⟩
    exact ha _ _ _ _ _ hk hk'

theorem tablesApart_of_reachable (he : e.Reachable) (hn : e.NumbersLeft) : e.TablesApart := by
  obtain ⟨catalog, ops, rfl⟩ := he
  have hempty : (ofCatalog catalog).TablesApart := fun _ _ _ _ _ hk _ => by cases hk
  exact (changes_run _ ops).keeps_of_wellFormed (fun _ _ we hn h ha => ha.change we h hn)
    (wellFormed_ofCatalog catalog) hn hempty

/-! ## Pairs and what draws them -/

/-- The two objects are there, on one connection. -/
structure Together (e : Engine) (source view : Handle) : Prop where
  connection : source.connection = view.connection
  source : e.isLive source = true
  view : e.isLive view = true

/-- The table has the representation for the pair, and it is there under its handle. -/
structure Draws (e : Engine) (source view r : Handle) : Prop where
  tabled : e.tabled? source.connection (source.id, view.id) = some r.id
  carried : ∃ rec, e.object? source.connection r.id = some rec ∧ rec.handle = r

/-- The representation is visible, or it is not. -/
def Visible (e : Engine) (r : Handle) (visible : Bool) : Prop :=
  ∃ ps, e.properties r = .ok ps ∧ ps.find? "Visibility" = some (.bool visible)

theorem Draws.connection (h : e.Draws source view r) (he : e.Keyed) :
    r.connection = source.connection := by
  obtain ⟨rec, hrec, rfl⟩ := h.carried
  exact (he _ _ rec hrec).2

theorem Draws.isLive (h : e.Draws source view r) (he : e.Keyed) : e.isLive r = true := by
  obtain ⟨rec, hrec, -⟩ := h.carried
  rw [← h.connection he] at hrec
  exact isLive_of_object? hrec

/-- The question for the representation of a pair answers with what draws it. -/
theorem representation_eq_some_iff (he : e.Keyed) (hp : e.Together source view) :
    e.representation source view = .ok (some r) ↔ e.Draws source view r := by
  obtain ⟨rs, hs⟩ := isLive_iff.mp hp.source
  obtain ⟨rv, hv⟩ := isLive_iff.mp hp.view
  rw [representation_eq hs hv]
  constructor
  · intro h
    obtain ⟨rec, hfound, rfl⟩ := Option.map_eq_some_iff.mp (Except.ok.inj h)
    obtain ⟨k, hk, hrec⟩ := Option.bind_eq_some_iff.mp hfound
    obtain ⟨rfl, -⟩ := he _ _ rec hrec
    exact ⟨hk, rec, hrec, rfl⟩
  · rintro ⟨hk, rec, hrec, rfl⟩
    rw [hk, Option.bind_some, hrec, Option.map_some]

/-! ## The objects of an engine -/

/-- The same objects are there, under the same handles, and none was made in between. -/
structure SameObjects (e e' : Engine) : Prop where
  next : e'.nextObject = e.nextObject
  handles : ∀ c id, (e'.object? c id).map Record.handle = (e.object? c id).map Record.handle

theorem SameObjects.refl (e : Engine) : SameObjects e e := ⟨rfl, fun _ _ => rfl⟩

theorem SameObjects.trans {e'' : Engine} (h : SameObjects e e') (h' : SameObjects e' e'') :
    SameObjects e e'' :=
  ⟨h'.next.trans h.next, fun c id => (h'.handles c id).trans (h.handles c id)⟩

theorem SameObjects.isSome (h : SameObjects e e') (c : ConnectionId) (id : UInt64) :
    (e'.object? c id).isSome = (e.object? c id).isSome := by
  rw [← Option.isSome_map (f := Record.handle), h.handles, Option.isSome_map]

theorem SameObjects.isLive (h : SameObjects e e') (x : Handle) : e'.isLive x = e.isLive x := by
  rw [Bool.eq_iff_iff, isLive_iff, isLive_iff, ← Option.isSome_iff_exists,
    ← Option.isSome_iff_exists, h.isSome]

theorem SameObjects.keyed (h : SameObjects e e') (he : e.Keyed) : e'.Keyed := by
  intro c id r' hr'
  have hsame := h.handles c id
  rw [hr', Option.map_some] at hsame
  obtain ⟨r, hr, hhandle⟩ := Option.map_eq_some_iff.mp hsame.symm
  exact hhandle ▸ he c id r hr

theorem SameObjects.together (h : SameObjects e e') (hp : e.Together source view) :
    e'.Together source view :=
  ⟨hp.connection, (h.isLive source).trans hp.source, (h.isLive view).trans hp.view⟩

/-- Nothing is new between engines with the same objects. -/
theorem SameObjects.mem_newObjects_iff {e₀ : Engine} (h : SameObjects e e')
    (p : ConnectionId × UInt64) : p ∈ newObjects e₀ e' ↔ p ∈ newObjects e₀ e := by
  obtain ⟨c, id⟩ := p
  rw [mem_newObjects, mem_newObjects, ← Option.isSome_iff_exists, ← Option.isSome_iff_exists,
    h.isSome]

theorem SameObjects.newObjects_eq_nil (h : SameObjects e e') : newObjects e e' = [] := by
  refine List.eq_nil_iff_forall_not_mem.mpr fun ⟨c, id⟩ hmem => ?_
  obtain ⟨hnone, hsome⟩ := mem_newObjects.mp ((h.mem_newObjects_iff _).mp hmem)
  simp [hnone] at hsome

/-! ## Showing and hiding -/

@[simp] theorem tabled?_display (c : ConnectionId) (k : UInt64) (visible : Bool)
    (c' : ConnectionId) (pair : UInt64 × UInt64) :
    (e.display c k visible).tabled? c' pair = e.tabled? c' pair :=
  tabled?_updateStore_of_eq e c c' (fun s => s.representations_write ..) pair

theorem sameObjects_display (e : Engine) (c : ConnectionId) (k : UInt64) (visible : Bool) :
    SameObjects e (e.display c k visible) where
  next := rfl
  handles c' id := by
    rw [display, object?_write]
    split
    · rw [Option.map_map]
      rfl
    · rfl

/-- A representation that is shown or hidden still draws its pair, and it is visible or not. -/
theorem Draws.display (h : e.Draws source view r) (he : e.Keyed) (visible : Bool) :
    (e.display source.connection r.id visible).Draws source view r ∧
      (e.display source.connection r.id visible).Visible r visible := by
  obtain ⟨rec, hrec, hhandle⟩ := h.carried
  have hafter : (e.display source.connection r.id visible).object? source.connection r.id =
      some { rec with
        properties := rec.properties.insertMany
          (OrderedMap.ofList [("Visibility", .bool visible)]).entries } := by
    rw [Engine.display, object?_write, if_pos ⟨rfl, rfl⟩, hrec]
    rfl
  refine ⟨⟨?_, _, hafter, hhandle⟩, ?_⟩
  · rw [tabled?_display, h.tabled]
  · rw [← h.connection he] at hafter ⊢
    refine ⟨_, congrArg (Except.map Record.properties) (record_eq_ok_iff.mpr hafter), ?_⟩
    exact (OrderedMap.find?_insert ..).trans (if_pos rfl)

theorem Draws.setVisibility (h : e.Draws source view r) (hp : e.Together source view)
    (visible : Bool) : setVisibility source view visible e =
      (.ok r, e.display source.connection r.id visible) := by
  obtain ⟨rs, hs⟩ := isLive_iff.mp hp.source
  obtain ⟨rv, hv⟩ := isLive_iff.mp hp.view
  obtain ⟨rec, hrec, hhandle⟩ := h.carried
  rw [setVisibility_eq hp.connection hs hv, h.tabled]
  simp only [hrec, hhandle]

/-- A pair that the table does not have gets a new representation. -/
theorem setVisibility_of_untabled {d : Definition} (hp : e.Together source view)
    (hd : e.definition? .representations "GeometryRepresentation" = some d)
    (hk : e.tabled? source.connection (source.id, view.id) = none) (visible : Bool) :
    setVisibility source view visible e =
      (.ok (e.nextHandle source.connection d),
        (e.addRepresentation source view d).display source.connection
          (e.nextHandle source.connection d).id visible) := by
  obtain ⟨rs, hs⟩ := isLive_iff.mp hp.source
  obtain ⟨rv, hv⟩ := isLive_iff.mp hp.view
  rw [setVisibility_eq hp.connection hs hv, hk]
  simp only [definition_eq_ok_iff.mpr hd]

theorem Together.addRepresentation (hp : e.Together source view) (d : Definition) :
    (e.addRepresentation source view d).Together source view := by
  obtain ⟨rs, hs⟩ := isLive_iff.mp hp.source
  have hlive : ∀ {h : Handle}, e.isLive h = true →
      (e.addRepresentation source view d).isLive h = true := by
    intro h hh
    obtain ⟨r, hr⟩ := isLive_iff.mp hh
    rw [isLive_iff, object?_addRepresentation e d view (isAlive_of_object? hs)]
    split
    · exact ⟨_, rfl⟩
    · exact ⟨r, hr⟩
  exact ⟨hp.connection, hlive hp.source, hlive hp.view⟩

theorem draws_addRepresentation (hc : e.isAlive source.connection = true) (view : Handle)
    (d : Definition) :
    (e.addRepresentation source view d).Draws source view (e.nextHandle source.connection d) where
  tabled := (tabled?_addRepresentation e d view hc ..).trans (if_pos ⟨rfl, rfl⟩)
  carried := ⟨_, object?_addRepresentation_self e d view hc, rfl⟩

/-- The new representation is the one new object. -/
theorem newObjects_of_addRepresentation (we : e.WellFormed) (hn : e.NumbersLeft)
    (hp : e.Together source view) (d : Definition)
    (h : (e.addRepresentation source view d).SameObjects e') :
    newObjects e e' = [(source.connection, .ofNat e.nextObject)] := by
  obtain ⟨rs, hs⟩ := isLive_iff.mp hp.source
  have hmem : ∀ p, p ∈ newObjects e e' ↔ p = (source.connection, .ofNat e.nextObject) := by
    rintro ⟨c, id⟩
    rw [h.mem_newObjects_iff, mem_newObjects,
      object?_addRepresentation e d view (isAlive_of_object? hs)]
    constructor
    · rintro ⟨hnone, r, hr⟩
      split at hr
      · rename_i hnew
        rw [hnew.1, hnew.2]
      · rw [hnone] at hr
        cases hr
    · intro hnew
      obtain ⟨rfl, rfl⟩ := Prod.mk.inj hnew
      rw [if_pos ⟨rfl, rfl⟩]
      exact ⟨we.object?_next hn _, _, rfl⟩
  refine List.perm_singleton.mp ((List.perm_ext_iff_of_nodup (nodup_newObjects e e')
    (List.nodup_singleton _)).mpr fun p => ?_)
  rw [hmem, List.mem_singleton]

/-- Whatever showing and hiding answer, the pair is drawn by it afterwards, and it is visible
or not. -/
theorem draws_of_setVisibility (he : e.Keyed) {visible : Bool}
    (hmade : setVisibility source view visible e = (.ok r, e')) :
    e'.Together source view ∧ e'.Draws source view r ∧ e'.Visible r visible := by
  rcases setVisibility_cases source view visible e with ⟨fault, heq⟩ |
    ⟨rs, rv, hc, hs, hv, ⟨k, rec, hk, hrec, heq⟩ | ⟨d, hk, hd, heq⟩⟩
  · rw [heq] at hmade
    cases hmade
  · rw [heq] at hmade
    cases hmade
    obtain ⟨rfl, -⟩ := he _ _ rec hrec
    have hp : e.Together source view := ⟨hc, isLive_of_object? hs, isLive_of_object? hv⟩
    have hdraws : e.Draws source view rec.handle := ⟨hk, rec, hrec, rfl⟩
    exact ⟨(sameObjects_display ..).together hp, hdraws.display he visible⟩
  · rw [heq] at hmade
    cases hmade
    have hp : e.Together source view := ⟨hc, isLive_of_object? hs, isLive_of_object? hv⟩
    have hdraws := draws_addRepresentation (isAlive_of_object? hs) view d
    exact ⟨(sameObjects_display ..).together (hp.addRepresentation d),
      hdraws.display (he.change (.edit (.represent hc hs hv hd hk))) visible⟩

/-! ## What lasts -/

/-- What draws a pair draws it as long as the two objects and the representation are there. -/
theorem Draws.changes (h : e.Draws source view r) (we : e.WellFormed) (hc : Changes e e')
    (hn : e'.NumbersLeft) (hp : e'.Together source view) (hr : e'.isLive r = true) :
    e'.Draws source view r := by
  obtain ⟨rs, hs⟩ := isLive_iff.mp hp.source
  obtain ⟨rv, hv⟩ := isLive_iff.mp hp.view
  obtain ⟨rec', hrec'⟩ := isLive_iff.mp hr
  rw [← hp.connection] at hv
  rw [h.connection we.keyed] at hrec'
  obtain ⟨rec, hrec, hhandle⟩ := h.carried
  obtain ⟨rec₀, hrec₀, hsame⟩ := hc.kept hn (we.object_lt hrec) hrec'
  obtain rfl := Option.some.inj (hrec.symm.trans hrec₀)
  exact ⟨hc.tabled_kept hn we h.tabled hs hv, rec', hrec', hsame.trans hhandle⟩

/-- All ways from a pair to its representation lead to the same one. -/
structure SharesOne (e : Engine) (source view : Handle) : Prop where
  /-- What the question for the representation finds is there; showing and hiding answer with
  it and make no object. -/
  found : ∀ {r}, e.representation source view = .ok (some r) → e.isLive r = true ∧
    ∀ visible, ∃ e', setVisibility source view visible e = (.ok r, e') ∧
      newObjects e e' = [] ∧ e'.nextObject = e.nextObject
  /-- What showing and hiding answer is found afterwards, and it is visible or not. -/
  shown : ∀ {visible r e'}, setVisibility source view visible e = (.ok r, e') →
    e'.representation source view = .ok (some r) ∧ e'.Visible r visible
  /-- What is found stays the answer as long as the two objects and the representation are
  there. -/
  lasts : ∀ {r ops}, e.representation source view = .ok (some r) → (e.run ops).NumbersLeft →
    (e.run ops).Together source view → (e.run ops).isLive r = true →
      (e.run ops).representation source view = .ok (some r) ∧
        ∀ visible, (setVisibility source view visible (e.run ops)).1 = .ok r

/-- The table decides what all ways lead to (`Draws`), and it forgets a pair only when one of the
three is gone. -/
theorem sharesOne_of_reachable (he : e.Reachable) (hp : e.Together source view) :
    e.SharesOne source view where
  found hfound := by
    have hkeyed := keyed_of_reachable he
    have hdraws := (representation_eq_some_iff hkeyed hp).mp hfound
    exact ⟨hdraws.isLive hkeyed, fun visible =>
      ⟨_, hdraws.setVisibility hp visible, (sameObjects_display ..).newObjects_eq_nil, rfl⟩⟩
  shown {visible r e'} hmade := by
    have hkeyed := keyed_of_reachable he
    obtain ⟨hp', hdraws, hvisible⟩ := draws_of_setVisibility hkeyed hmade
    have hchanges := (edits_setVisibility source view visible e).changes
    rw [hmade] at hchanges
    have hkeyed' : e'.Keyed := hchanges.keeps (fun _ _ h he => he.change h) hkeyed
    exact ⟨(representation_eq_some_iff hkeyed' hp').mpr hdraws, hvisible⟩
  lasts {r ops} hfound hn hp' hr := by
    have hchanges := changes_run e ops
    have we := wellFormed_of_reachable he (hn.of_changes hchanges)
    have hbefore := (representation_eq_some_iff we.keyed hp).mp hfound
    have hdraws := hbefore.changes we hchanges hn hp' hr
    exact ⟨(representation_eq_some_iff (we.changes hchanges hn).keyed hp').mpr hdraws,
      fun visible => congrArg Prod.fst (hdraws.setVisibility hp' visible)⟩

end Engine

/-! ## The session -/

namespace Session

variable {s : Session} {source view r : Handle}

/-- A call that names a pair. -/
inductive PairCall where
  | shows
  | hides
  | asks

/-- The method that is called. -/
def PairCall.op (source view : Handle) : PairCall → Op
  | shows => .showSource (some source) (some view)
  | hides => .hideSource (some source) (some view)
  | asks => .getRepresentation (some source) (some view)

/-- Whether the representation is to be visible, if the call says so. -/
def PairCall.visibility? : PairCall → Option Bool
  | shows => some true
  | hides => some false
  | asks => none

/-- What the last call that said so wanted, after it was `visible` before the calls. -/
def lastVisibility (visible : Bool) (calls : List PairCall) : Bool :=
  calls.foldl (fun visible call => call.visibility?.getD visible) visible

/-- A pair that has a representation : every call answers with it, and shows or hides it if it
says so. -/
theorem perform_op_of_draws (he : s.engine.Keyed) (hp : s.engine.Together source view)
    (h : s.engine.Draws source view r) (call : PairCall) :
    perform (call.op source view) s = (.ok (.handle r),
      call.visibility?.elim s fun visible =>
        { s with engine := s.engine.display source.connection r.id visible }) := by
  cases call with
  | shows =>
    have hshow : showSource (some source) (some view) s = _ :=
      onEngine_ok (h.setVisibility hp true)
    exact Step.bind_ok hshow
  | hides =>
    have hhide : hideSource (some source) (some view) s = _ :=
      onEngine_ok (h.setVisibility hp false)
    exact Step.bind_ok hhide
  | asks =>
    have hask := getRepresentation_eq ((Engine.representation_eq_some_iff he hp).mpr h)
    exact Step.bind_ok hask

/-- A pair that the table does not have : every call makes the representation. -/
theorem perform_op_of_untabled {d : Definition} (hp : s.engine.Together source view)
    (hd : s.engine.definition? .representations "GeometryRepresentation" = some d)
    (hk : s.engine.tabled? source.connection (source.id, view.id) = none) (call : PairCall) :
    perform (call.op source view) s =
      (.ok (.handle (s.engine.nextHandle source.connection d)),
        { s with
          engine := (s.engine.addRepresentation source view d).display source.connection
            (s.engine.nextHandle source.connection d).id (call.visibility?.getD false) }) := by
  have hmade := Engine.setVisibility_of_untabled hp hd hk
  cases call with
  | shows =>
    have hshow : showSource (some source) (some view) s = _ := onEngine_ok (hmade true)
    exact Step.bind_ok hshow
  | hides =>
    have hhide : hideSource (some source) (some view) s = _ := onEngine_ok (hmade false)
    exact Step.bind_ok hhide
  | asks =>
    obtain ⟨rs, hs⟩ := Engine.isLive_iff.mp hp.source
    obtain ⟨rv, hv⟩ := Engine.isLive_iff.mp hp.view
    have hfound : s.engine.representation source view = .ok none := by
      rw [Engine.representation_eq hs hv, hk]
      rfl
    have hask : getRepresentation (some source) (some view) s = _ :=
      (getRepresentation_eq hfound).trans (onEngine_ok (hmade false))
    exact Step.bind_ok hask

/-- Calls that come upon a representation make no object, and whether it is visible at the end
is what was asked last. -/
theorem run_of_draws (he : s.engine.Keyed) (hp : s.engine.Together source view)
    (h : s.engine.Draws source view r) {visible : Bool} (hv : s.engine.Visible r visible)
    (calls : List PairCall) :
    let e := (s.run (calls.map (PairCall.op source view))).engine
    e.Draws source view r ∧ e.Visible r (lastVisibility visible calls) ∧
      s.engine.SameObjects e := by
  induction calls generalizing s visible with
  | nil => exact ⟨h, hv, .refl _⟩
  | cons call calls ih =>
    have hstep := congrArg Prod.snd (perform_op_of_draws he hp h call)
    have hrun : s.run ((call :: calls).map (PairCall.op source view)) =
        (perform (call.op source view) s).2.run (calls.map (PairCall.op source view)) := rfl
    rw [hrun, hstep]
    cases hcall : call.visibility? with
    | none =>
      have hlast : lastVisibility visible (call :: calls) = lastVisibility visible calls := by
        rw [lastVisibility, List.foldl_cons, hcall]
        rfl
      rw [hlast]
      exact ih he hp h hv
    | some wanted =>
      have hlast : lastVisibility visible (call :: calls) = lastVisibility wanted calls := by
        rw [lastVisibility, List.foldl_cons, hcall]
        rfl
      rw [hlast]
      have hsame := Engine.sameObjects_display s.engine source.connection r.id wanted
      obtain ⟨hdraws, hvisible⟩ := h.display he wanted
      obtain ⟨h', hv', hsame'⟩ := ih (s := { s with
        engine := s.engine.display source.connection r.id wanted })
        (hsame.keyed he) (hsame.together hp) hdraws hvisible
      exact ⟨h', hv', hsame.trans hsame'⟩

/-- The calls come to one representation, which the first of them makes. -/
structure MakesOne (s : Session) (source view : Handle) (calls : List PairCall) (r : Handle) :
    Prop where
  /-- All calls succeed, and they answer with it. -/
  answers : ∀ {pre call post}, calls = pre ++ call :: post →
    (perform (call.op source view) (s.run (pre.map (PairCall.op source view)))).1 =
      .ok (.handle r)
  /-- It is a representation. -/
  group : r.group = .representations
  /-- It is the one object that is new. -/
  objects : Engine.newObjects s.engine (s.run (calls.map (PairCall.op source view))).engine =
    [(r.connection, r.id)]
  /-- No other object was made on the way. -/
  next : (s.run (calls.map (PairCall.op source view))).engine.nextObject = s.engine.nextObject + 1
  /-- It is visible as was asked last, and hidden if nothing was asked. -/
  visible : (s.run (calls.map (PairCall.op source view))).engine.Visible r
    (lastVisibility false calls)

/-- After the first call the pair is drawn by a new representation, which is the one new
object. -/
theorem draws_of_first_call {d : Definition} (he : s.engine.Keyed)
    (hp : s.engine.Together source view)
    (hd : s.engine.definition? .representations "GeometryRepresentation" = some d)
    (hk : s.engine.tabled? source.connection (source.id, view.id) = none) (call : PairCall) :
    let e := (perform (call.op source view) s).2.engine
    let r := s.engine.nextHandle source.connection d
    e.Keyed ∧ e.Together source view ∧ e.Draws source view r ∧
      e.Visible r (call.visibility?.getD false) ∧
      (s.engine.addRepresentation source view d).SameObjects e := by
  intro e r
  obtain ⟨rs, hs⟩ := Engine.isLive_iff.mp hp.source
  obtain ⟨rv, hv⟩ := Engine.isLive_iff.mp hp.view
  have hmade : e = (s.engine.addRepresentation source view d).display source.connection r.id
      (call.visibility?.getD false) :=
    congrArg (fun result => result.2.engine) (perform_op_of_untabled hp hd hk call)
  have hkeyed := he.change (.edit (.represent hp.connection hs hv hd hk))
  have hsame : (s.engine.addRepresentation source view d).SameObjects e :=
    hmade ▸ Engine.sameObjects_display ..
  have hdraws := (Engine.draws_addRepresentation (Engine.isAlive_of_object? hs) view d).display
    hkeyed (call.visibility?.getD false)
  exact ⟨hsame.keyed hkeyed, hsame.together (hp.addRepresentation d), hmade ▸ hdraws.1,
    hmade ▸ hdraws.2, hsame⟩

/-- The first call makes the representation, which is the next object of the engine; from then on
the pair is drawn, and every later call comes upon it. -/
theorem makesOne_of_untabled (we : s.engine.WellFormed) (hn : s.engine.NumbersLeft)
    {d : Definition} (hp : s.engine.Together source view)
    (hd : s.engine.definition? .representations "GeometryRepresentation" = some d)
    (hk : s.engine.tabled? source.connection (source.id, view.id) = none)
    {calls : List PairCall} (hcalls : calls ≠ []) :
    s.MakesOne source view calls (s.engine.nextHandle source.connection d) := by
  -- the first call makes the representation, and the others come upon it
  obtain ⟨first, rest, rfl⟩ := List.exists_cons_of_ne_nil hcalls
  obtain ⟨he, hp', hdraws, hvisible, hsame⟩ := draws_of_first_call we.keyed hp hd hk first
  have hlater := run_of_draws (s := (perform (first.op source view) s).2) he hp' hdraws hvisible
  obtain ⟨-, hlast, hsame'⟩ := hlater rest
  have hobjects := hsame.trans hsame'
  refine ⟨?_, (Engine.group_name_of_definition? hd).1, ?_, hobjects.next, hlast⟩
  · intro pre call post hsplit
    cases pre with
    | nil =>
      obtain ⟨rfl, -⟩ := List.cons.inj hsplit
      exact congrArg Prod.fst (perform_op_of_untabled hp hd hk first)
    | cons first' pre =>
      obtain ⟨rfl, -⟩ := List.cons.inj hsplit
      obtain ⟨h, -, hs⟩ := hlater pre
      exact congrArg Prod.fst (perform_op_of_draws (hs.keyed he) (hs.together hp') h call)
  · have hnew := Engine.newObjects_of_addRepresentation we hn hp d hobjects
    exact hnew

end Session

/-- In every reachable engine that has numbers left no two pairs have the same representation
in the table, on whatever connections. In every reachable engine all ways from a pair of live
objects on one connection to its representation lead to the same one, and it lasts as long as
the objects do. In a session over an engine with the built-in catalog, the calls that name a
live pair without a representation all come to the one that the first of them makes; asking
for a representation that is there changes nothing. -/
theorem one_representation_per_pair :
    (∀ e : Engine, e.Reachable →
      (e.NumbersLeft → ∀ c c' pair pair' k, e.tabled? c pair = some k →
        e.tabled? c' pair' = some k → c = c' ∧ pair = pair') ∧
      ∀ source view, e.Together source view → e.SharesOne source view) ∧
    (∀ (before : List Engine.Op) (start : Session) (ops : List Session.Op) (source view : Handle)
      (calls : List Session.PairCall), Session.Starts (Engine.new.run before) start →
      let s := start.run ops
      s.engine.NumbersLeft → s.engine.Together source view →
        s.engine.tabled? source.connection (source.id, view.id) = none → calls ≠ [] →
          ∃ r, s.MakesOne source view calls r) ∧
    ∀ (s : Session) source view r, s.engine.representation source view = .ok (some r) →
      Session.getRepresentation (some source) (some view) s = (.ok r, s) := by
  refine ⟨fun e he => ⟨fun hn c c' pair pair' k hk hk' => ?_, fun source view hp => ?_⟩, ?_,
    fun s source view r h => Session.getRepresentation_eq h⟩
  · obtain rfl := Engine.tablesApart_of_reachable he hn c c' pair pair' k hk hk'
    exact ⟨rfl, (Engine.wellFormed_of_reachable he hn).pair_unique hk hk'⟩
  · exact Engine.sharesOne_of_reachable he hp
  · intro before start ops source view calls hstart s hn hp hk hcalls
    have hchanges : Engine.Changes (Engine.new.run before) s.engine :=
      Session.engine_of_starts hstart ▸ Session.changes_run start ops
    have we : s.engine.WellFormed :=
      (Engine.wellFormed_of_reachable ⟨builtinCatalog, before, rfl⟩
        (hn.of_changes hchanges)).changes hchanges hn
    obtain ⟨d, hd⟩ := Engine.definition?_run_new before
    exact ⟨_, Session.makesOne_of_untabled we hn hp (hchanges.definition? hd) hk hcalls⟩

/-- A sphere and a view : shown in the engine, the sphere has the representation `4`, which is
that of no other pair. In a session that asks for it, shows it and asks again, one
representation is made. -/
theorem one_representation_of_sphere :
    let source : Handle := ⟨1, ⟨1⟩, .sources, "SphereSource"⟩
    let view : Handle := ⟨2, ⟨1⟩, .views, "RenderView"⟩
    let r : Handle := ⟨4, ⟨1⟩, .representations, "GeometryRepresentation"⟩
    let before : List Engine.Op :=
      [.establish "builtin:", .create ⟨1⟩ .sources "SphereSource" ∅,
        .create ⟨1⟩ .views "RenderView" ∅]
    let e := Engine.new.run before
    let shown := (Engine.setVisibility source view true e).2
    let start := Session.new "" "" e .default
    e.Reachable ∧ e.Together source view ∧ e.SharesOne source view ∧
      (∀ c pair, shown.tabled? c pair = some 4 → c = ⟨1⟩ ∧ pair = (1, 2)) ∧
      Session.Starts e start ∧ (start.run []).engine.NumbersLeft ∧
      (∃ r, (start.run []).MakesOne source view [.asks, .shows, .asks] r) ∧
      Session.getRepresentation (some source) (some view) (.new "" "" shown .default) =
        (.ok r, .new "" "" shown .default) := by
  intro source view r before e shown start
  have he : e.Reachable := ⟨builtinCatalog, before, rfl⟩
  have hp : e.Together source view := ⟨rfl, rfl, rfl⟩
  have hs : Session.Starts e start := ⟨"", "", .default, Or.inl rfl⟩
  have hn : (start.run []).engine.NumbersLeft := ⟨by decide, by decide⟩
  have hshown : shown.Reachable := ⟨builtinCatalog, before ++ [.setVisibility source view true], rfl⟩
  have hn' : shown.NumbersLeft := ⟨by decide, by decide⟩
  have hk : shown.tabled? ⟨1⟩ (1, 2) = some 4 := rfl
  have hfound : shown.representation source view = .ok (some r) := rfl
  refine ⟨he, hp, (one_representation_per_pair.1 e he).2 source view hp, fun c pair hpair => ?_,
    hs, hn, ?_, one_representation_per_pair.2.2 (.new "" "" shown .default) _ _ _ hfound⟩
  · exact (one_representation_per_pair.1 shown hshown).1 hn' _ _ _ _ 4 hpair hk
  · exact one_representation_per_pair.2.1 before start [] source view _ hs hn hp rfl nofun

end VizSession
