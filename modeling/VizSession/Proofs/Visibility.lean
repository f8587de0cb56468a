import VizSession.Proofs.Survival
import VizSession.Session.Run
import Mathlib.Data.List.Induction

/-!
# Showing a source in a view

A source is shown in a view by the representation that the table of their connection names
for the pair. The table is trusted : it is filled when the pair is first shown, and a
removal takes out the pairs that the object is part of, but not the pair that the object
represents.

So showing a live pair works as long as the table names nothing for it, or a representation
that is there (`Showable`, `represents_iff_showable`). This lasts until a representation is
deleted by its own handle (`Showable.run`) : the deletion leaves the pair behind, and the
pair cannot be shown or hidden again while its objects are there
(`LosesRepresentation.not_showable`).
-/

namespace VizSession

namespace Engine

/-- The table has nothing for the pair, or it names a representation that is there. -/
def Showable (e : Engine) (source view : Handle) : Prop :=
  ∀ k, e.tabled? source.connection (source.id, view.id) = some k →
    ∃ r, e.object? source.connection k = some r ∧ r.handle.group = .representations

/-- The answer is a representation that is there. -/
def Represents {ε : Type} (answer : Except ε Handle) (e : Engine) : Prop :=
  ∃ h, answer = .ok h ∧ h.group = .representations ∧ e.isLive h = true

/-! ## The catalog -/

/-- A definition that is found once is found ever after. -/
theorem Change.definition? {e e' : Engine} (h : Change e e') {g : Group} {name : String}
    {d : Definition} (hd : e.definition? g name = some d) : e'.definition? g name = some d := by
  cases h with
  | edit h =>
    cases h with
    | define d' =>
      unfold Engine.definition? addDefinition at *
      rw [List.find?_append, hd]
      rfl
    | count | refuse | make | equip | represent | rename | write | display => exact hd
  | connect | disconnect | remove => exact hd

theorem Changes.definition? {e e' : Engine} (h : Changes e e') {g : Group} {name : String}
    {d : Definition} (hd : e.definition? g name = some d) : e'.definition? g name = some d :=
  h.keeps (P := fun e => e.definition? g name = some d) (fun _ _ h hd => h.definition? hd) hd

theorem definition?_run_new (ops : List Op) :
    ∃ d, (new.run ops).definition? .representations "GeometryRepresentation" = some d :=
  ⟨_, (changes_run new ops).definition? rfl⟩

/-! ## Showing and the table -/

theorem isLive_of_object? {e : Engine} {h : Handle} {r : Record}
    (hr : e.object? h.connection h.id = some r) : e.isLive h = true :=
  isLive_iff.mpr ⟨r, hr⟩

/-- Displaying a representation keeps it. -/
theorem object?_display {e : Engine} {c : ConnectionId} {k : UInt64} {r : Record}
    (hr : e.object? c k = some r) (visible : Bool) :
    ∃ r', (e.display c k visible).object? c k = some r' := by
  rw [display, object?_write, if_pos ⟨rfl, rfl⟩, hr]
  exact ⟨_, rfl⟩

/-- Showing and hiding answer with a representation that is there, unless what the table names is
gone. If it names nothing, a representation is made. -/
theorem represents_iff_showable {e : Engine} {source view : Handle} {d : Definition}
    (he : e.Keyed) (hd : e.definition? .representations "GeometryRepresentation" = some d)
    (hc : source.connection = view.connection) (hs : e.isLive source = true)
    (hv : e.isLive view = true) (visible : Bool) :
    Represents (setVisibility source view visible e).1 (setVisibility source view visible e).2 ↔
      e.Showable source view := by
  obtain ⟨r, hr⟩ := isLive_iff.mp hs
  obtain ⟨r', hr'⟩ := isLive_iff.mp hv
  rw [setVisibility_eq hc hr hr']
  cases hk : e.tabled? source.connection (source.id, view.id) with
  | some k =>
    cases hrep : e.object? source.connection k with
    | none =>
      constructor
      · rintro ⟨h, hok, -⟩
        simp [hrep] at hok
      · intro hshow
        obtain ⟨rep, hrep', -⟩ := hshow k hk
        rw [hrep] at hrep'
        cases hrep'
    | some rep =>
      simp only [hrep]
      constructor
      · rintro ⟨h, hok, hgroup, -⟩ k' hk'
        obtain rfl := Except.ok.inj hok
        obtain rfl := Option.some.inj (hk.symm.trans hk')
        exact ⟨rep, hrep, hgroup⟩
      · intro hshow
        obtain ⟨rep', hrep', hgroup⟩ := hshow k hk
        obtain rfl := Option.some.inj (hrep.symm.trans hrep')
        obtain ⟨hid, hconn⟩ := he _ _ _ hrep
        obtain ⟨r'', hr''⟩ := object?_display hrep visible
        exact ⟨rep.handle, rfl, hgroup, isLive_iff.mpr ⟨r'', by rw [hid, hconn]; exact hr''⟩⟩
  | none =>
    simp only [definition_eq_ok_iff.mpr hd]
    obtain ⟨r'', hr''⟩ := object?_display
      (object?_addRepresentation_self e d view (isAlive_of_object? hr)) visible
    constructor
    · intro _ k hk'
      rw [hk] at hk'
      cases hk'
    · intro _
      exact ⟨_, rfl, (group_name_of_definition? hd).1, isLive_iff.mpr ⟨r'', hr''⟩⟩

/-- When the table names what is gone, showing and hiding fails by its number. -/
theorem setVisibility_of_gone {e : Engine} {source view : Handle} {k : UInt64}
    (hc : source.connection = view.connection) (hs : e.isLive source = true)
    (hv : e.isLive view = true)
    (hk : e.tabled? source.connection (source.id, view.id) = some k)
    (hgone : e.object? source.connection k = none) (visible : Bool) :
    setVisibility source view visible e = (.error (.proxyNotFound k), e) := by
  obtain ⟨r, hr⟩ := isLive_iff.mp hs
  obtain ⟨r', hr'⟩ := isLive_iff.mp hv
  rw [setVisibility_eq hc hr hr', hk]
  simp only [hgone]

/-- Asking for the representation of a live pair reads the table, and does not find what was
deleted. -/
theorem representation_eq {e : Engine} {source view : Handle} {r r' : Record}
    (hr : e.object? source.connection source.id = some r)
    (hr' : e.object? view.connection view.id = some r') :
    e.representation source view = .ok (((e.tabled? source.connection (source.id, view.id)).bind
      fun k => e.object? source.connection k).map Record.handle) := by
  obtain ⟨s, hs, -⟩ := Option.bind_eq_some_iff.mp hr
  simp only [representation, record_eq_ok_iff.mpr hr, record_eq_ok_iff.mpr hr',
    store_eq_ok_iff.mpr hs, tabled?, object?, hs]
  rfl

/-! ## Lost representations -/

/-- In the course of the operations the representation that the table has for the pair is
deleted by its own handle. -/
def LosesRepresentation (e : Engine) (ops : List Op) (source view : Handle) : Prop :=
  ∃ pre h post, ops = pre ++ Op.delete h :: post ∧ h.connection = source.connection ∧
    (e.run pre).tabled? source.connection (source.id, view.id) = some h.id ∧
    (e.run pre).isLive h = true

variable {e e' : Engine} {source view : Handle}

/-- An edit loses no representation, and the table gets only pairs whose representation was made
with them. -/
theorem Showable.edits (hs : e.Showable source view) (we : e.WellFormed) (h : Edits e e')
    (hn : e'.NumbersLeft) : e'.Showable source view := by
  induction h with
  | refl => exact hs
  | tail hedits hstep ih =>
    have hn' := hn.of_change (.edit hstep)
    have we' := we.changes (Edits.changes hedits) hn'
    intro k hk
    rcases (Change.edit hstep).tabled_origin hk with hold | hnew
    · obtain ⟨r, hr, hgroup⟩ := ih hn' k hold
      obtain ⟨r', hr', hhandle⟩ := (hstep.retains we' hn').object hr
      exact ⟨r', hr', by rw [hhandle, hgroup]⟩
    · exact hnew.object

/-- A removal takes a representation without its pair only if it is the representation that
is removed. -/
theorem Showable.remove (hs : e.Showable source view) (we : e.WellFormed) {c : ConnectionId}
    {id : UInt64} (hid : c = source.connection →
      e.tabled? source.connection (source.id, view.id) ≠ some id) :
    (e.updateStore c fun s => s.remove id).Showable source view := by
  intro k hk
  obtain ⟨hold, hpair⟩ := (tabled?_remove ..).mp hk
  obtain ⟨r, hr, hgroup⟩ := hs k hold
  refine ⟨r, (object?_remove ..).mpr ⟨hr, ?_⟩, hgroup⟩
  rintro ⟨rfl, rfl | ⟨r', hr', hcamera⟩ | ⟨pair, hk', hinvolves⟩⟩
  · exact hid rfl hold
  · have hcameras := (we.camera hr' hcamera).2 r hr
    rw [hgroup] at hcameras
    cases hcameras
  · rw [we.pair_unique hk' hold] at hinvolves
    exact hpair ⟨rfl, hinvolves⟩

/-- A connection has its objects and its table, or it has neither. -/
theorem Showable.withConnection (hs : e.Showable source view) :
    e.withConnection.Showable source view := by
  intro k hk
  rw [tabled?_withConnection] at hk
  rw [object?_withConnection]
  split at hk
  · cases hk
  · rename_i hc
    rw [if_neg hc]
    exact hs k hk

theorem Showable.without (hs : e.Showable source view) (c : ConnectionId) :
    (e.without c).Showable source view := by
  intro k hk
  rw [tabled?_without] at hk
  rw [object?_without]
  split at hk
  · cases hk
  · rename_i hc
    rw [if_neg hc]
    exact hs k hk

/-- A pair stays showable unless its representation is deleted by itself : nothing else takes a
representation and leaves the pair in the table. -/
theorem Showable.perform (hs : e.Showable source view) (we : e.WellFormed) {op : Op}
    (hn : (perform op e).2.NumbersLeft) (hop : ∀ h, op = .delete h →
      h.connection = source.connection → e.isLive h = true →
      e.tabled? source.connection (source.id, view.id) ≠ some h.id) :
    (perform op e).2.Showable source view := by
  rcases perform_cases op e with h | ⟨url, stats, -, h⟩ | ⟨c, stats, -, hc, h⟩ |
    ⟨h, r, hdelete, hr, hremove⟩
  · exact hs.edits we h hn
  · rw [h]
    exact Showable.withConnection hs
  · rw [h]
    exact Showable.without hs c
  · rw [hremove]
    exact hs.remove we fun hc => hop h hdelete hc (isLive_iff.mpr ⟨r, hr⟩)

theorem LosesRepresentation.append {ops : List Op} (h : e.LosesRepresentation ops source view)
    (rest : List Op) : e.LosesRepresentation (ops ++ rest) source view := by
  obtain ⟨pre, h, post, rfl, hdeleted⟩ := h
  exact ⟨pre, h, post ++ rest, by simp, hdeleted⟩

/-- A pair is showable as long as its representation is not deleted by its own handle. -/
theorem Showable.run (hs : e.Showable source view) (we : e.WellFormed) {ops : List Op}
    (hn : (e.run ops).NumbersLeft) (hkeeps : ¬e.LosesRepresentation ops source view) :
    (e.run ops).Showable source view := by
  induction ops using List.reverseRecOn with
  | nil => exact hs
  | append_singleton ops op ih =>
    have hrun : e.run (ops ++ [op]) = (Engine.perform op (e.run ops)).2 := List.foldl_append
    rw [hrun] at hn ⊢
    have hn' := hn.of_changes (changes_perform op _)
    have hshow := ih hn' fun h => hkeeps (h.append [op])
    refine hshow.perform (we.changes (changes_run e ops) hn') hn fun h hop hc hlive hk => hkeeps ?_
    exact ⟨ops, h, [], by rw [hop], hc, hk, hlive⟩

/-- Once the representation of a pair was deleted by its own handle, the pair is never
showable again while its objects are there. -/
theorem LosesRepresentation.not_showable (we : e.WellFormed) {ops : List Op}
    (hn : (e.run ops).NumbersLeft) (hc : source.connection = view.connection)
    (hs : (e.run ops).isLive source = true) (hv : (e.run ops).isLive view = true)
    (h : e.LosesRepresentation ops source view) : ¬(e.run ops).Showable source view := by
  obtain ⟨pre, h, post, rfl, hconn, hk, hlive⟩ := h
  obtain ⟨r, hr⟩ := isLive_iff.mp hs
  obtain ⟨r', hr'⟩ := isLive_iff.mp hv
  obtain ⟨rep, hrep⟩ := isLive_iff.mp hlive
  rw [← hc] at hr'
  have hsplit : e.run (pre ++ .delete h :: post) = (perform (.delete h) (e.run pre)).2.run post :=
    List.foldl_append
  have hdelete : (perform (.delete h) (e.run pre)).2 =
      (e.run pre).updateStore h.connection fun s => s.remove h.id :=
    (Step.snd_bind_pure ..).trans (congrArg Prod.snd (delete_eq hrep))
  rw [hsplit, hdelete] at hn hr hr' ⊢
  have hremove : Change (e.run pre) ((e.run pre).updateStore h.connection fun s => s.remove h.id) :=
    .remove hrep
  have hpost := changes_run ((e.run pre).updateStore h.connection fun s => s.remove h.id) post
  have we₀ : (e.run pre).WellFormed :=
    we.changes (changes_run e pre) ((hn.of_changes hpost).of_change hremove)
  -- the pair is in the table at the end, since its objects are there, but what it names is gone
  have hk' := Changes.tabled_kept (.head hremove hpost) hn we₀ hk hr hr'
  intro hshow
  obtain ⟨last, hlast, -⟩ := hshow _ hk'
  obtain ⟨first, hfirst, -⟩ := hpost.kept hn
    (Nat.lt_of_lt_of_le (we₀.tabled hk).1 hremove.counters.1) hlast
  exact ((object?_remove ..).mp hfirst).2 ⟨hconn, Or.inl rfl⟩

theorem showable_run_iff (we : e.WellFormed) (hshow : e.Showable source view) {ops : List Op}
    (hn : (e.run ops).NumbersLeft) (hc : source.connection = view.connection)
    (hs : (e.run ops).isLive source = true) (hv : (e.run ops).isLive view = true) :
    (e.run ops).Showable source view ↔ ¬e.LosesRepresentation ops source view := by
  constructor
  · intro hlast hloses
    exact hloses.not_showable we hn hc hs hv hlast
  · intro hkeeps
    exact hshow.run we hn hkeeps

end Engine

/-! ## The session -/

namespace Session

theorem represents_mapError {ε ε' : Type} {answer : Except ε Handle} {f : ε → ε'} {e : Engine} :
    Engine.Represents (answer.mapError f) e ↔ Engine.Represents answer e := by
  cases answer with
  | error fault =>
    constructor
    · rintro ⟨h, hok, -⟩
      cases hok
    · rintro ⟨h, hok, -⟩
      cases hok
  | ok h =>
    constructor
    · rintro ⟨h', hok, hrep⟩
      exact ⟨h', by cases hok; rfl, hrep⟩
    · rintro ⟨h', hok, hrep⟩
      exact ⟨h', by cases hok; rfl, hrep⟩

theorem getRepresentation_eq {source view : Handle} {s : Session} {found : Option Handle}
    (h : s.engine.representation source view = .ok found) :
    getRepresentation (some source) (some view) s =
      found.elim (onEngine (Engine.setVisibility source view false) s)
        fun representation => (.ok representation, s) := by
  have hask : askEngine (fun e => e.representation source view) s = (.ok found, s) :=
    onEngine_ok (Prod.ext h rfl)
  show (askEngine (fun e => e.representation source view) >>= _) s = _
  rw [Step.bind_ok hask]
  cases found <;> rfl

variable {s : Session} {source view : Handle} {d : Definition}

/-- The question for the representation answers with one in the same cases. It looks for one first,
and hides the source if there is none. -/
theorem represents_getRepresentation_iff (he : s.engine.Keyed)
    (hd : s.engine.definition? .representations "GeometryRepresentation" = some d)
    (hc : source.connection = view.connection) (hs : s.engine.isLive source = true)
    (hv : s.engine.isLive view = true) :
    Engine.Represents (getRepresentation (some source) (some view) s).1
        (getRepresentation (some source) (some view) s).2.engine ↔
      s.engine.Showable source view := by
  obtain ⟨r, hr⟩ := Engine.isLive_iff.mp hs
  obtain ⟨r', hr'⟩ := Engine.isLive_iff.mp hv
  rw [getRepresentation_eq (Engine.representation_eq hr hr')]
  cases hk : (s.engine.tabled? source.connection (source.id, view.id)).bind
      fun k => s.engine.object? source.connection k with
  | none =>
    exact represents_mapError.trans (Engine.represents_iff_showable he hd hc hs hv false)
  | some rep =>
    obtain ⟨k, hk, hrep⟩ := Option.bind_eq_some_iff.mp hk
    obtain ⟨hid, hconn⟩ := he _ _ _ hrep
    constructor
    · rintro ⟨h, hok, hgroup, -⟩ k' hk'
      obtain rfl := Except.ok.inj hok
      obtain rfl := Option.some.inj (hk.symm.trans hk')
      exact ⟨rep, hrep, hgroup⟩
    · intro hshow
      obtain ⟨rep', hrep', hgroup⟩ := hshow k hk
      obtain rfl := Option.some.inj (hrep.symm.trans hrep')
      exact ⟨rep.handle, rfl, hgroup, Engine.isLive_of_object? (by rw [hid, hconn]; exact hrep)⟩

end Session

/-! ## Live pairs of a reachable engine -/

/-- Over the built-in catalog and whatever was added to it, showing or hiding a live pair of
one connection, or asking for its representation, gives a representation that is there
exactly when the table names nothing for the pair, or a representation that is there. That
is the case exactly when the representation of the pair was never deleted by its own handle,
as long as the engine has numbers left for what it makes. When the table names what is gone,
the pair can be neither shown nor hidden. -/
theorem represents_run_new_iff (ops : List Engine.Op) {source view : Handle}
    (hc : source.connection = view.connection)
    (hs : (Engine.new.run ops).isLive source = true)
    (hv : (Engine.new.run ops).isLive view = true) :
    let e := Engine.new.run ops
    (∀ visible,
        (Engine.Represents (Engine.setVisibility source view visible e).1
            (Engine.setVisibility source view visible e).2 ↔ e.Showable source view)) ∧
      (∀ s : Session, s.engine = e →
        (Engine.Represents (Session.showSource (some source) (some view) s).1
            (Session.showSource (some source) (some view) s).2.engine ↔
          e.Showable source view) ∧
        (Engine.Represents (Session.hideSource (some source) (some view) s).1
            (Session.hideSource (some source) (some view) s).2.engine ↔
          e.Showable source view) ∧
        (Engine.Represents (Session.getRepresentation (some source) (some view) s).1
            (Session.getRepresentation (some source) (some view) s).2.engine ↔
          e.Showable source view)) ∧
      (e.NumbersLeft →
        (e.Showable source view ↔ ¬Engine.new.LosesRepresentation ops source view)) ∧
      ∀ visible k, e.tabled? source.connection (source.id, view.id) = some k →
        e.object? source.connection k = none →
        Engine.setVisibility source view visible e = (.error (.proxyNotFound k), e) := by
  intro e
  have he : e.Keyed := Engine.keyed_of_reachable ⟨builtinCatalog, ops, rfl⟩
  obtain ⟨d, hd⟩ : ∃ d, e.definition? .representations "GeometryRepresentation" = some d :=
    Engine.definition?_run_new ops
  replace hs : e.isLive source = true := hs
  replace hv : e.isLive view = true := hv
  refine ⟨fun visible => Engine.represents_iff_showable he hd hc hs hv visible, ?_, ?_, ?_⟩
  · intro s hse
    rw [← hse] at he hd hs hv ⊢
    refine ⟨?_, ?_, Session.represents_getRepresentation_iff he hd hc hs hv⟩
    · exact Session.represents_mapError.trans
        (Engine.represents_iff_showable he hd hc hs hv true)
    · exact Session.represents_mapError.trans
        (Engine.represents_iff_showable he hd hc hs hv false)
  · intro hn
    exact Engine.showable_run_iff (Engine.wellFormed_ofCatalog builtinCatalog)
      (fun k hk => by cases hk) hn hc hs hv
  · intro visible k hk hgone
    exact Engine.setVisibility_of_gone hc hs hv hk hgone visible

/-- A sphere and a view that were never shown together : the pair is showable, so showing
the sphere gives its representation. -/
theorem represents_sphere_never_shown :
    let source : Handle := ⟨1, ⟨1⟩, .sources, "SphereSource"⟩
    let view : Handle := ⟨2, ⟨1⟩, .views, "RenderView"⟩
    let e := Engine.new.run
      [.establish "builtin:", .create ⟨1⟩ .sources "SphereSource" ∅,
        .create ⟨1⟩ .views "RenderView" ∅]
    source.connection = view.connection ∧ e.isLive source = true ∧ e.isLive view = true ∧
      e.Showable source view ∧
      Engine.Represents (Engine.setVisibility source view true e).1
        (Engine.setVisibility source view true e).2 := by
  intro source view e
  have hshow : e.Showable source view := by
    intro k hk
    cases hk
  have hc : source.connection = view.connection := rfl
  have hs : e.isLive source = true := rfl
  have hv : e.isLive view = true := rfl
  exact ⟨hc, hs, hv, hshow, ((represents_run_new_iff _ hc hs hv).1 true).mpr hshow⟩

/-- A sphere is shown in a view, and its representation is deleted by its own handle. The
sphere and the view are there under the handles they were given, and showing the pair fails
from now on, as does asking a session for its representation. -/
theorem deleted_representation_blocks_pair :
    let source : Handle := ⟨1, ⟨1⟩, .sources, "SphereSource"⟩
    let view : Handle := ⟨2, ⟨1⟩, .views, "RenderView"⟩
    let e := Engine.new.run
      [.establish "builtin:", .create ⟨1⟩ .sources "SphereSource" ∅,
        .create ⟨1⟩ .views "RenderView" ∅, .setVisibility source view true,
        .delete ⟨4, ⟨1⟩, .representations, "GeometryRepresentation"⟩]
    (e.record source).toOption.map Record.handle = some source ∧
      (e.record view).toOption.map Record.handle = some view ∧
      (∀ visible, Engine.setVisibility source view visible e = (.error (.proxyNotFound 4), e)) ∧
      (Session.getRepresentation (some source) (some view) (.new "" "" e .default)).1 =
        .error (.engine (.proxyNotFound 4)) := by
  refine ⟨rfl, rfl, fun visible => ?_, rfl⟩
  cases visible <;> rfl

end VizSession
