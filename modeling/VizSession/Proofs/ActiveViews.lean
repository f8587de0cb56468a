import VizSession.Proofs.DefaultViews

/-!
# The active view is made at most once

A call for the active view that may make it has three endings (`activeViewOrCreate_endings`): it
fails and leaves everything as it was, it finds the view that is active, or it makes the default
view, with its camera and nothing besides (`Session.MadeView`).

The view that was made is on the active connection and has just been stored, so it passes the
check that the next reading of the slot makes (`Committed.views`). From then on there is an active
view that can be read (`Session.Views`). A call changes nothing exactly if there is one
(`activeViewOrCreate_eq_self_iff`), so no repetition of it makes another (`Views.run_replicate`).
-/

namespace VizSession

theorem Step.eq_of_fst {σ ε α : Type} {x : Step σ ε α} {s : σ} {answer : Except ε α}
    (h : (x s).1 = answer) : x s = (answer, (x s).2) :=
  Prod.ext h rfl

namespace Session

variable {s s' : Session} {view : Handle}

/-! ## A view that is active -/

/-- The view is active, and it is still there. -/
structure Views (s : Session) (view : Handle) : Prop where
  slot : s.slots.view = some view
  live : s.engine.isLive view = true

theorem activeProxy_view_iff :
    activeProxy .view s = (.ok (some view), s) ↔ s.Views view := by
  have hpeek : s.slots.peek .view = some (.proxy view) ↔ s.slots.view = some view := by
    simp [Slots.peek]
  rw [activeProxy_eq_ok_some_iff, hpeek]
  exact ⟨fun h => ⟨h.1, h.2⟩, fun h => ⟨h.slot, h.live⟩⟩

theorem Views.again (hs : s.Views view) : activeViewOrCreate s = (.ok view, s) :=
  Step.bind_ok (activeProxy_view_iff.mpr hs)

theorem Views.run_replicate (hs : s.Views view) (n : Nat) :
    s.run (List.replicate n .activeViewOrCreate) = s := by
  have hstep : perform .activeViewOrCreate s = (.ok (.handle view), s) := Step.bind_ok hs.again
  induction n with
  | zero => rfl
  | succ n ih =>
    show (perform .activeViewOrCreate s).2.run (List.replicate n .activeViewOrCreate) = s
    rw [hstep, ih]

/-- What is answered without a change was active before: a view that is made is new. -/
theorem activeViewOrCreate_eq_self_iff (we : s.engine.WellFormed) (hn : s.engine.NumbersLeft) :
    activeViewOrCreate s = (.ok view, s) ↔ s.Views view := by
  refine ⟨fun hfound => ?_, Views.again⟩
  cases hview : s.slots.view with
  | some active =>
    rcases activeProxy_of_present (k := .view) (congrArg (Option.map Occupant.proxy) hview) with
      ⟨fault, hfails⟩ | hactive
    · have hfails : activeViewOrCreate s = (.error fault, s) := Step.bind_error hfails
      rw [hfails] at hfound
      cases hfound
    · have hs := activeProxy_view_iff.mp hactive
      rw [hs.again] at hfound
      cases hfound
      exact hs
  | none =>
    rw [activeViewOrCreate_of_absent hview] at hfound
    split at hfound
    · obtain ⟨d, r, cameras, hcommitted⟩ := committed_of_create we hfound hn
      exact absurd rfl hcommitted.ne
    · cases hfound

/-! ## A view that is made -/

section Committed

variable {name : String} {ps : Properties} {d : Definition} {r : Record} {cameras : List Record}

theorem Committed.views (hcommitted : Committed s s' .views name ps view d r cameras) :
    s'.Views view := by
  refine ⟨?_, hcommitted.isLive⟩
  have hslot : s'.slots.view.map Occupant.proxy = some (.proxy view) := hcommitted.slots .view
  obtain ⟨active, hview, heq⟩ := Option.map_eq_some_iff.mp hslot
  cases heq
  exact hview

/-- One camera came with the view, and the view owns it. -/
theorem Committed.exists_camera (hcommitted : Committed s s' .views name ps view d r cameras)
    (hk : s'.engine.Keyed) : ∃ camera, cameras = [camera] ∧
      camera.handle.definition = "Camera" ∧ s'.engine.cameraOf view = .ok camera.handle := by
  cases hcommitted.brings with
  | nothing hg => exact absurd rfl hg
  | @camera camera _ hr hgroup hname =>
    have hmem : camera ∈ s'.engine.records view.connection := by
      rw [hcommitted.gains.here]
      exact List.mem_append_right _ (List.mem_cons_of_mem _ List.mem_cons_self)
    refine ⟨camera, rfl, hname, Engine.cameraOf_eq_ok_iff.mpr ⟨hcommitted.kind.1, ?_⟩⟩
    exact ⟨r, _, camera, Engine.record_eq_ok_iff.mp hcommitted.record, hr,
      hk.mem_records.mp hmem, rfl⟩

end Committed

/-- From the first session to the second the default view was made, with its camera, and nothing
else. The first had no active view, and its configuration allows that one is made. -/
def MadeView (s s' : Session) (view : Handle) : Prop :=
  MakesView s ∧ ∃ d r camera,
    Committed s s' .views s.config.defaultView ∅ view d r [camera] ∧
      camera.handle.definition = "Camera" ∧ s'.engine.cameraOf view = .ok camera.handle

theorem MadeView.views (h : MadeView s s' view) : s'.Views view := by
  obtain ⟨-, d, r, camera, hcommitted, -, -⟩ := h
  exact hcommitted.views

/-! ## Asking for the active view -/

/-- The call fails without a trace, or finds the active view, or makes the default view. -/
theorem activeViewOrCreate_endings (we : s.engine.WellFormed) {camera : Definition}
    (hcamera : s.engine.definition? .cameras "Camera" = some camera)
    (hn : (activeViewOrCreate s).2.engine.NumbersLeft) :
    (∃ fault, activeViewOrCreate s = (.error fault, s) ∧ ¬MakesView s) ∨
    (∃ view, activeViewOrCreate s = (.ok view, s) ∧ s.Views view) ∨
    ∃ view s', activeViewOrCreate s = (.ok view, s') ∧ MadeView s s' view := by
  have hchanges : Engine.Changes s.engine (activeViewOrCreate s).2.engine :=
    changes_orActiveView none s
  rcases orActiveView_endings we hcamera none hn with ⟨hnot, hsame⟩ |
    ⟨⟨-, hmakes⟩, view, s', d, r, cameras, hmade, hcommitted⟩
  · replace hsame : (activeViewOrCreate s).2 = s := hsame
    cases hanswer : (activeViewOrCreate s).1 with
    | error fault =>
      exact Or.inl ⟨fault, Prod.ext hanswer hsame, fun hmakes => hnot ⟨rfl, hmakes⟩⟩
    | ok view =>
      have hfound : activeViewOrCreate s = (.ok view, s) := Prod.ext hanswer hsame
      exact Or.inr (Or.inl ⟨view, hfound,
        (activeViewOrCreate_eq_self_iff we (hn.of_changes hchanges)).mp hfound⟩)
  · replace hmade : activeViewOrCreate s = (.ok view, s') := hmade
    rw [hmade] at hchanges
    have hk : s'.engine.Keyed := hchanges.keeps (fun _ _ h he => he.change h) we.keyed
    obtain ⟨camera, rfl, hcamera⟩ := hcommitted.exists_camera hk
    exact Or.inr (Or.inr ⟨view, s', hmade, hmakes, d, r, camera, hcommitted, hcamera⟩)

/-- The active view is made at most once. -/
structure ViewOnce (s : Session) : Prop where
  /-- There is an answer exactly if a view is active or one can be made. -/
  answers_iff : (∃ view, (activeViewOrCreate s).1 = .ok view) ↔
    (∃ view, s.Views view) ∨ MakesView s
  /-- Either nothing was added, or the default view with its camera. -/
  adds : ∀ view s', activeViewOrCreate s = (.ok view, s') →
    (s' = s ∧ s.Views view) ∨ MadeView s s' view
  /-- The answer is active. -/
  active : ∀ view s', activeViewOrCreate s = (.ok view, s') →
    activeProxy .view s' = (.ok (some view), s')
  /-- A second call has the same answer, and neither it nor any that follow change anything. -/
  again : ∀ view s', activeViewOrCreate s = (.ok view, s') →
    activeViewOrCreate s' = (.ok view, s') ∧
      ∀ n, s'.run (List.replicate n .activeViewOrCreate) = s'
  fails : ∀ fault s', activeViewOrCreate s = (.error fault, s') → s' = s

/-- Two facts carry the rest: when the call is answered, and what it leaves when it is. -/
theorem viewOnce_of_wellFormed (we : s.engine.WellFormed) {camera : Definition}
    (hcamera : s.engine.definition? .cameras "Camera" = some camera)
    (hn : (activeViewOrCreate s).2.engine.NumbersLeft) : ViewOnce s := by
  have hendings := activeViewOrCreate_endings we hcamera hn
  have hadds : ∀ view s', activeViewOrCreate s = (.ok view, s') →
      (s' = s ∧ s.Views view) ∨ MadeView s s' view := by
    intro view s' hcall
    rcases hendings with ⟨fault, h, -⟩ | ⟨view', h, hs⟩ | ⟨view', s'', h, hmade⟩
    all_goals
      rw [h] at hcall
      cases hcall
    · exact Or.inl ⟨rfl, hs⟩
    · exact Or.inr hmade
  have hviews : ∀ view s', activeViewOrCreate s = (.ok view, s') → s'.Views view := by
    intro view s' hcall
    rcases hadds view s' hcall with ⟨rfl, hs⟩ | hmade
    · exact hs
    · exact hmade.views
  refine {
    answers_iff := ?answers
    adds := hadds
    active := fun view s' hcall => activeProxy_view_iff.mpr (hviews view s' hcall)
    again := fun view s' hcall =>
      ⟨(hviews view s' hcall).again, (hviews view s' hcall).run_replicate⟩
    fails := fun fault s' hcall => ?fails }
  case answers =>
    rcases hendings with ⟨fault, h, hnot⟩ | ⟨view, h, hs⟩ | ⟨view, s', h, hmade⟩
    · refine ⟨fun ⟨view, hok⟩ => ?_, fun hgets => ?_⟩
      · rw [h] at hok
        cases hok
      · obtain ⟨view, hs⟩ := hgets.resolve_right hnot
        rw [hs.again] at h
        cases h
    · exact ⟨fun _ => Or.inl ⟨view, hs⟩, fun _ => ⟨view, by rw [h]⟩⟩
    · exact ⟨fun _ => Or.inr hmade.1, fun _ => ⟨view, by rw [h]⟩⟩
  case fails =>
    rcases hendings with ⟨fault', h, -⟩ | ⟨view, h, -⟩ | ⟨view, s'', h, -⟩
    all_goals
      rw [h] at hcall
      cases hcall
    rfl

/-- A session is started over any reachable engine with any configuration, and methods are called
and the host acts on the engine in any order. If the catalog has a definition of cameras by then,
the active view is made at most once. This holds as long as the engine has numbers left for what
it makes. -/
theorem view_made_once {e : Engine} (he : e.Reachable) {start : Session} (hstart : Starts e start)
    (ops : List Op)
    (hcamera : ∃ d, (start.run ops).engine.definition? .cameras "Camera" = some d)
    (hn : (activeViewOrCreate (start.run ops)).2.engine.NumbersLeft) :
    ViewOnce (start.run ops) := by
  obtain ⟨camera, hcamera⟩ := hcamera
  have hn₀ := hn.of_changes (changes_orActiveView none _)
  exact viewOnce_of_wellFormed (wellFormed_run he hstart hn₀) hcamera hn

/-- A connected session makes its view, and finds it from then on. When the host deletes the view,
the slot is stale, and nothing is made in its place. -/
theorem view_made_once_deleted :
    let view : Handle := ⟨1, ⟨1⟩, .views, "RenderView"⟩
    let start := new "" "" .new .default
    let ops : List Op := [.connect]
    let later : List Op := [.connect, .activeViewOrCreate, .engine (.delete view)]
    Engine.new.Reachable ∧ Starts .new start ∧
      (∃ d, (start.run ops).engine.definition? .cameras "Camera" = some d) ∧
      (∃ d, (start.run later).engine.definition? .cameras "Camera" = some d) ∧
      (activeViewOrCreate (start.run ops)).2.engine.NumbersLeft ∧
      (activeViewOrCreate (start.run later)).2.engine.NumbersLeft ∧
      (∃ s, activeViewOrCreate (start.run ops) = (.ok view, s) ∧ MadeView (start.run ops) s view ∧
        activeViewOrCreate s = (.ok view, s)) ∧
      activeViewOrCreate (start.run later) = (.error (.deleted .view view), start.run later) := by
  intro view start ops later
  have he : Engine.new.Reachable := ⟨builtinCatalog, [], rfl⟩
  have hs : Starts .new start := ⟨"", "", .default, Or.inl rfl⟩
  have hcamera : ∃ d, (start.run ops).engine.definition? .cameras "Camera" = some d := ⟨_, rfl⟩
  have hcamera' : ∃ d, (start.run later).engine.definition? .cameras "Camera" = some d :=
    Option.isSome_iff_exists.mp (by decide +kernel)
  have hn : (activeViewOrCreate (start.run ops)).2.engine.NumbersLeft :=
    ⟨by decide +kernel, by decide +kernel⟩
  have hn' : (activeViewOrCreate (start.run later)).2.engine.NumbersLeft :=
    ⟨by decide +kernel, by decide +kernel⟩
  have honce : ViewOnce (start.run ops) := view_made_once he hs ops hcamera hn
  have honce' : ViewOnce (start.run later) := view_made_once he hs later hcamera' hn'
  refine ⟨he, hs, hcamera, hcamera', hn, hn', ?_, ?_⟩
  · have hanswer : (activeViewOrCreate (start.run ops)).1 = .ok view := by decide +kernel
    have hmade := Step.eq_of_fst hanswer
    refine ⟨_, hmade, (honce.adds view _ hmade).resolve_left fun hfound => ?_,
      (honce.again view _ hmade).1⟩
    have habsent : (start.run ops).slots.view = none := by decide +kernel
    have hslot := hfound.2.slot
    rw [habsent] at hslot
    cases hslot
  · have hfault : (activeViewOrCreate (start.run later)).1 = .error (.deleted .view view) := by
      decide +kernel
    have hfails := Step.eq_of_fst hfault
    rwa [honce'.fails _ _ hfails] at hfails

end Session

end VizSession
