import VizSession.Proofs.EngineRuns
import VizSession.Proofs.Startup
import VizSession.Proofs.StoreOrder
import Mathlib.Data.Set.Card

/-!
# Rendering all views

The loop that renders all views runs over what the engine lists. What is listed is stored under
its own handle (`Engine.Keyed.mem_list_iff`), so every iteration meets a view that is there, and
rendering one leaves it there : only a counter moves (`Engine.rendered`). By induction on the list
the loop comes to its end and counts each of its views (`Session.renderEach_eq`), from whatever
number of views before. Nothing is listed twice, so their number is that of the live views
(`Engine.Keyed.length_list`).

An interaction counts a rendering as well, and no operation of the engine sets a counter back, so
there are never more interactions than renderings (`Engine.interactions_le_renders`). A counter that
wraps around would set itself back : what is said here is said of counters that have not overflowed,
and that takes as many calls as they can count (`Engine.renders_run_le`).
-/

namespace VizSession

namespace Engine

variable {e : Engine}

/-! ## Views of a connection -/

/-- The views that are there on a connection, by their handles. -/
def liveViews (e : Engine) (c : ConnectionId) : Set Handle :=
  {h | h.connection = c ∧ h.group = .views ∧ ∃ r, e.record h = .ok r ∧ r.handle = h}

theorem Keyed.mem_liveViews (hk : e.Keyed) {c : ConnectionId} {h : Handle} :
    h ∈ e.liveViews c ↔ h ∈ e.list c .views := by
  rw [hk.mem_list_iff]
  simp only [liveViews, Set.mem_ofPred_eq, record_eq_ok_iff]
  refine ⟨?_, ?_⟩
  · rintro ⟨rfl, hg, hr⟩
    exact ⟨hg, rfl, hr⟩
  · rintro ⟨hg, rfl, hr⟩
    exact ⟨rfl, hg, hr⟩

theorem Keyed.nodup_list (hk : e.Keyed) (c : ConnectionId) (g : Group) : (e.list c g).Nodup := by
  have hsub := (List.filter_sublist (p := fun r : Record => r.handle.group = g)
    (l := e.records c)).map fun r => r.handle.id
  rw [hk.map_id_records c] at hsub
  have hids := (e.nodup_numbers c).sublist hsub
  rw [show (fun r : Record => r.handle.id) = Handle.id ∘ Record.handle from rfl, ← List.map_map,
    ← list_eq] at hids
  exact hids.of_map _

/-- As many views are listed as there are. -/
theorem Keyed.length_list (hk : e.Keyed) (c : ConnectionId) :
    (e.list c .views).length = (e.liveViews c).ncard := by
  have hset : e.liveViews c = ((e.list c .views).toFinset : Set Handle) := by
    ext h
    simp [hk.mem_liveViews]
  rw [hset, Set.ncard_coe_finset, List.toFinset_card_of_nodup (hk.nodup_list c .views)]

theorem Keyed.isLive_of_mem_list (hk : e.Keyed) {c : ConnectionId} {g : Group} {h : Handle}
    (hh : h ∈ e.list c g) : h.group = g ∧ e.isLive h = true := by
  obtain ⟨hg, rfl, r, hr, -⟩ := hk.mem_list_iff.mp hh
  exact ⟨hg, isLive_iff.mpr ⟨r, hr⟩⟩

/-! ## Counting -/

@[simp] theorem rendered_rendered (e : Engine) (m n : Nat) :
    (e.rendered m).rendered n = e.rendered (m + n) := by
  simp [rendered, Nat.add_assoc]

theorem stats_create (c : ConnectionId) (g : Group) (name : String) (ps : Properties)
    (e : Engine) : (create c g name ps e).2.stats = e.stats := by
  rcases create_cases c g name ps e with ⟨fault, h⟩ |
    ⟨d, -, -, -, ⟨-, h⟩ | ⟨-, -, fault, h⟩ | ⟨-, camera, -, h⟩⟩
  · rw [h]
  all_goals
    rw [h]
    rfl

theorem stats_setVisibility (source view : Handle) (visible : Bool) (e : Engine) :
    (setVisibility source view visible e).2.stats = e.stats := by
  rcases setVisibility_cases source view visible e with ⟨fault, h⟩ |
    ⟨r, r', -, -, -, ⟨k, rep, -, -, h⟩ | ⟨d, -, -, h⟩⟩
  · rw [h]
  all_goals
    rw [h]
    rfl

theorem stats_delete (h : Handle) (e : Engine) : (delete h e).2.stats = e.stats := by
  rcases delete_cases h e with ⟨fault, hdel⟩ | ⟨r, -, hdel⟩
  · rw [hdel]
  · rw [hdel]
    rfl

theorem stats_rename (h : Handle) (name : String) (e : Engine) :
    (rename h name e).2.stats = e.stats := by
  rcases rename_cases h name e with ⟨fault, hren⟩ | ⟨r, -, -, hren⟩
  · rw [hren]
  · rw [hren]
    rfl

theorem stats_setProperties (h : Handle) (ps : Properties) (e : Engine) :
    (setProperties h ps e).2.stats = e.stats := by
  rcases setProperties_cases h ps e with ⟨fault, hset⟩ | ⟨r, d, -, -, -, hset⟩
  · rw [hset]
  · rw [hset]
    rfl

/-- An operation counts a rendering and an interaction, or a rendering, or neither. -/
theorem counts_perform (op : Op) (e : Engine) :
    let stats := (perform op e).2.stats
    (stats.interactions = e.stats.interactions + 1 ∧ stats.renders = e.stats.renders + 1) ∨
      stats.interactions = e.stats.interactions ∧
        (stats.renders = e.stats.renders ∨ stats.renders = e.stats.renders + 1) := by
  intro stats
  have hsame : stats = e.stats → stats.interactions = e.stats.interactions ∧
      (stats.renders = e.stats.renders ∨ stats.renders = e.stats.renders + 1) :=
    fun h => by simp [h]
  cases op with
  | establish url =>
    refine Or.inr ?_
    simp only [stats, snd_perform_establish]
    rcases establish_counted url e with ⟨fault, h⟩ | h
    all_goals
      rw [h]
      exact ⟨rfl, Or.inl rfl⟩
  | disconnect c =>
    refine Or.inr ?_
    simp only [stats, snd_perform_disconnect, disconnect]
    split
    all_goals exact ⟨rfl, Or.inl rfl⟩
  | create c g name ps =>
    exact Or.inr (hsame (by rw [← stats_create c g name ps e, ← snd_perform_create]))
  | delete h => exact Or.inr (hsame (by rw [← stats_delete h e, ← snd_perform_delete]))
  | rename h name =>
    exact Or.inr (hsame (by rw [← stats_rename h name e, ← snd_perform_rename]))
  | setProperties h ps =>
    exact Or.inr (hsame (by rw [← stats_setProperties h ps e, ← snd_perform_setProperties]))
  | render view =>
    refine Or.inr ?_
    simp only [stats, snd_perform_render]
    rcases render_cases view e with ⟨fault, h⟩ | h
    · rw [h]
      exact ⟨rfl, Or.inl rfl⟩
    · rw [h]
      exact ⟨rfl, Or.inr rfl⟩
  | interact view =>
    simp only [stats, snd_perform_interact]
    rcases interact_cases view e with ⟨fault, h⟩ | h
    · rw [h]
      exact Or.inr ⟨rfl, Or.inl rfl⟩
    · rw [h]
      exact Or.inl ⟨rfl, rfl⟩
  | setVisibility source view visible =>
    exact Or.inr (hsame (by
      rw [← stats_setVisibility source view visible e, ← snd_perform_setVisibility]))
  | isAlive | isLive | registrationName | find | list | properties | cameraOf | definitions
  | representation | inventory | setRefusal | addDefinition => exact Or.inr (hsame rfl)

/-- There are never more interactions than renderings. -/
theorem interactions_le_renders (he : e.Reachable) : e.stats.interactions ≤ e.stats.renders := by
  obtain ⟨catalog, ops, rfl⟩ := he
  induction ops using List.reverseRecOn with
  | nil => exact Nat.le_refl _
  | append_singleton ops op ih =>
    rw [run_append]
    have hstep := counts_perform op ((ofCatalog catalog).run ops)
    show (perform op ((ofCatalog catalog).run ops)).2.stats.interactions ≤
      (perform op ((ofCatalog catalog).run ops)).2.stats.renders
    omega

/-- A run renders no more often than it calls the engine, so it takes as many calls as a counter can
count to overflow it. -/
theorem renders_run_le (e : Engine) (ops : List Op) :
    (e.run ops).stats.renders ≤ e.stats.renders + ops.length := by
  induction ops generalizing e with
  | nil => exact Nat.le_refl _
  | cons op ops ih =>
    have hstep := counts_perform op e
    have hrest := ih (perform op e).2
    show ((perform op e).2.run ops).stats.renders ≤ e.stats.renders + (ops.length + 1)
    omega

end Engine

namespace Session

variable {s : Session}

/-! ## The loop -/

/-- Views that are there are rendered one after another, and nothing else happens. -/
theorem renderEach_eq {views : List Handle}
    (hviews : ∀ view ∈ views, view.group = .views ∧ s.engine.isLive view = true) :
    renderEach views s = (.ok (), { s with engine := s.engine.rendered views.length }) := by
  induction views generalizing s with
  | nil => rfl
  | cons view views ih =>
    obtain ⟨hg, hlive⟩ := hviews view (List.mem_cons_self ..)
    have hfirst : onEngine (Engine.render view) s =
        (.ok (), { s with engine := s.engine.rendered 1 }) :=
      onEngine_ok (Engine.render_of_isLive hg hlive)
    have hrest := ih (s := { s with engine := s.engine.rendered 1 }) fun view' hview' =>
      hviews view' (List.mem_cons_of_mem _ hview')
    rw [renderEach, Step.bind_ok hfirst, hrest]
    simp [Nat.add_comm]

/-- Rendering all views renders every view on the active connection. -/
structure RendersAll (s : Session) : Prop where
  /-- With an active connection the answer is the number of its live views. So many renderings are
  counted, and nothing else changes. -/
  connected : ∀ c, (activeConnection s).1 = .ok (some c) →
    renderAllViews s = (.ok (s.engine.liveViews c).ncard,
      { s with engine := s.engine.rendered (s.engine.liveViews c).ncard })
  /-- At no view does the loop stop, whatever views it comes after. -/
  each : ∀ before view after s', list .views s = (.ok (before ++ view :: after), s') →
    renderEach before s =
        (.ok (), { s with engine := s.engine.rendered before.length }) ∧
      onEngine (Engine.render view) { s with engine := s.engine.rendered before.length } =
        (.ok (), { s with engine := s.engine.rendered (before.length + 1) })
  /-- Without an active connection the call fails, and nothing changes. -/
  otherwise : (∀ c, (activeConnection s).1 ≠ .ok (some c)) →
    ∃ fault, renderAllViews s = (.error fault, s)

/-- Where objects are stored under their own handles, what is listed can be rendered, and the loop
counts as many views as there are. -/
theorem rendersAll_of_keyed (hk : s.engine.Keyed) : RendersAll s := by
  rcases requireConnection_cases s with ⟨fault, hreq⟩ | ⟨c, -, -, hreq⟩
  · have hlist : list .views s = (.error fault, s) := Step.bind_error hreq
    refine ⟨fun c hc => ?_, fun before view after s' h => ?_,
      fun _ => ⟨fault, Step.bind_error hlist⟩⟩
    · rw [activeConnection_eq_ok_some_iff, hreq] at hc
      cases hc
    · rw [hlist] at h
      cases h
  have hlist : list .views s = (.ok (s.engine.list c .views), s) := Step.bind_ok hreq
  have hviews : ∀ view ∈ s.engine.list c .views,
      view.group = .views ∧ s.engine.isLive view = true := fun _ => hk.isLive_of_mem_list
  refine ⟨fun c' hc' => ?_, fun before view after s' h => ?_,
    fun hnone => absurd (activeConnection_eq_ok_some_iff.mpr hreq) (hnone c)⟩
  · obtain rfl : c = c' := Step.answer_unique hreq (activeConnection_eq_ok_some_iff.mp hc')
    rw [renderAllViews, Step.bind_ok hlist, Step.bind_ok (renderEach_eq hviews), hk.length_list]
    rfl
  · have hsplit : s.engine.list c .views = before ++ view :: after := Step.answer_unique hlist h
    rw [hsplit] at hviews
    refine ⟨renderEach_eq fun view' hview' => hviews view' (List.mem_append_left _ hview'), ?_⟩
    obtain ⟨hg, hlive⟩ := hviews view (by simp)
    have hrender := Engine.render_of_isLive (e := s.engine.rendered before.length) hg hlive
    rw [Engine.rendered_rendered] at hrender
    exact onEngine_ok hrender

/-- A session is started over any reachable engine, and methods are called and the host acts on
the engine in any order, renderings and interactions included. Then rendering all views renders
every one of them; and there were never more interactions than renderings. Both are said of counts
without a bound, so of the counters of a machine as long as no rendering has overflowed one. -/
theorem all_views_rendered {e : Engine} (he : e.Reachable) {start : Session}
    (hstart : Starts e start) (ops : List Op) :
    e.stats.interactions ≤ e.stats.renders ∧ (start.run ops).RendersAll :=
  ⟨Engine.interactions_le_renders he,
    rendersAll_of_keyed (Engine.keyed_of_reachable (reachable_run he hstart ops))⟩

/-- A host renders and interacts before a session is started on its connection. In the session two
more views are made and the first is deleted : two are left to be rendered. When the host ends the
connection, nothing is rendered. -/
theorem all_views_rendered_two_left :
    let first : Handle := ⟨1, ⟨1⟩, .views, "RenderView"⟩
    let e := Engine.new.run [.establish "builtin:", .create ⟨1⟩ .views "RenderView" ∅,
      .render first, .interact first]
    let start := (new "" "" e .default).run [.setActive .connection (.connection ⟨1⟩)]
    let ops : List Op := [.create .views "RenderView" ∅, .create .views "XYChartView" ∅,
      .delete first]
    let s := start.run ops
    let later := start.run [.engine (.disconnect ⟨1⟩)]
    e.Reachable ∧ Starts e start ∧ e.stats.interactions ≤ e.stats.renders ∧
      e.stats.interactions = 1 ∧ e.stats.renders = 2 ∧
      renderAllViews s = (.ok 2, { s with engine := s.engine.rendered 2 }) ∧
      renderAllViews later = (.error (.staleReference .connection ⟨1⟩), later) := by
  intro first e start ops s later
  have he : e.Reachable := ⟨builtinCatalog, _, rfl⟩
  have hstart : Starts e start := ⟨"", "", .default, Or.inr ⟨⟨1⟩, rfl⟩⟩
  obtain ⟨hcounts, hrenders⟩ := all_views_rendered he hstart ops
  have hlater := (all_views_rendered he hstart [.engine (.disconnect ⟨1⟩)]).2
  have hactive : (activeConnection s).1 = .ok (some ⟨1⟩) := by decide +kernel
  have hall := hrenders.connected ⟨1⟩ hactive
  have htwo : (renderAllViews s).1 = .ok 2 := by decide +kernel
  have hnumber : (s.engine.liveViews ⟨1⟩).ncard = 2 := by
    rw [hall] at htwo
    exact Except.ok.inj htwo
  rw [hnumber] at hall
  refine ⟨he, hstart, hcounts, by decide +kernel, by decide +kernel, hall, ?_⟩
  have hstale : (activeConnection later).1 = .error (.staleReference .connection ⟨1⟩) := by
    decide +kernel
  obtain ⟨fault, hfails⟩ := hlater.otherwise fun c hc => by
    rw [hstale] at hc
    cases hc
  have hfault : (renderAllViews later).1 = .error (.staleReference .connection ⟨1⟩) := by
    decide +kernel
  rw [hfails] at hfault
  rw [hfails, Except.error.inj hfault]

end Session

end VizSession
