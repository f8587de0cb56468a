import VizSession.Proofs.ActiveViews
import VizSession.Proofs.EngineRuns
import VizSession.Proofs.Startup

/-!
# Views by name

A call that finds a view by its name or makes it asks the engine first. Of several views of the
name the engine finds the one that comes first on its list, which is the oldest since numbers
increase along a list (`Session.NamedView.le_of_find?`). Only if there is none a view is made, and
it is made under the name : the keyword is what the object is registered under
(`Committed.named`). Nothing else of the group is added, so the search after it finds the new view
(`Session.MadeNamed.find?`), whatever definition is given then.
-/

namespace VizSession

namespace Session

variable {s s' : Session} {view x : Handle} {name definition : String}

/-- The view is there, on the active connection, and registered under the name. -/
structure NamedView (s : Session) (name : String) (view : Handle) : Prop where
  connection : (activeConnection s).1 = .ok (some view.connection)
  listed : view ∈ s.engine.list view.connection .views
  live : s.engine.isLive view = true
  registered : s.engine.registrationName view = .ok name

/-- The keywords that name a new object. -/
def naming (name : String) : Properties := OrderedMap.ofList [(nameKeyword, .text name)]

/-! ## Searches -/

theorem findViewOrCreate_of_find? {c : ConnectionId} (hreq : requireConnection s = (.ok c, s))
    (hfound : s.engine.find? c .views name = some view) (definition : String) :
    findViewOrCreate name definition s = (.ok view, s) := by
  have hfind : find .views name s = (.ok (some view), s) := by
    rw [find, Step.bind_ok hreq, Step.read_apply, hfound]
  exact Step.bind_ok hfind

theorem findViewOrCreate_of_absent {c : ConnectionId} (hreq : requireConnection s = (.ok c, s))
    (habsent : s.engine.find? c .views name = none) (definition : String) :
    findViewOrCreate name definition s = create .views definition (naming name) s := by
  have hfind : find .views name s = (.ok none, s) := by
    rw [find, Step.bind_ok hreq, Step.read_apply, habsent]
  exact Step.bind_ok hfind

/-- The call finds a view or makes one, if there is an active connection. -/
theorem findViewOrCreate_cases (name definition : String) (s : Session) :
    (∃ fault, findViewOrCreate name definition s = (.error fault, s) ∧
      ∀ c, (activeConnection s).1 ≠ .ok (some c)) ∨
    ∃ c, requireConnection s = (.ok c, s) ∧
      ((∃ view, s.engine.find? c .views name = some view ∧
          findViewOrCreate name definition s = (.ok view, s)) ∨
        s.engine.find? c .views name = none ∧
          findViewOrCreate name definition s = create .views definition (naming name) s) := by
  rcases requireConnection_cases s with ⟨fault, hreq⟩ | ⟨c, -, -, hreq⟩
  · refine Or.inl ⟨fault, Step.bind_error (Step.bind_error hreq), fun c hc => ?_⟩
    rw [activeConnection_eq_ok_some_iff, hreq] at hc
    cases hc
  · refine Or.inr ⟨c, hreq, ?_⟩
    cases hfound : s.engine.find? c .views name with
    | some view => exact Or.inl ⟨view, rfl, findViewOrCreate_of_find? hreq hfound definition⟩
    | none => exact Or.inr ⟨rfl, findViewOrCreate_of_absent hreq hfound definition⟩

theorem namedView_of_find? (hs : s.engine.Sound) {c : ConnectionId}
    (hreq : requireConnection s = (.ok c, s))
    (hfound : s.engine.find? c .views name = some view) : s.NamedView name view := by
  have hlists := hs.lists c
  obtain ⟨hname, before, after, hsplit, -⟩ := hlists.find?_eq_some_iff.mp hfound
  have hmem : view ∈ s.engine.list c .views := by simp [hsplit]
  obtain ⟨-, rfl, -⟩ := hlists.mem_list_iff.mp hmem
  exact ⟨activeConnection_eq_ok_some_iff.mpr hreq, hmem, hlists.isLive hmem, hname⟩

theorem NamedView.requireConnection (h : s.NamedView name view) :
    requireConnection s = (.ok view.connection, s) :=
  activeConnection_eq_ok_some_iff.mp h.connection

theorem NamedView.connection_eq (h : s.NamedView name view) {c : ConnectionId}
    (hreq : Session.requireConnection s = (.ok c, s)) : view.connection = c :=
  Step.answer_unique h.requireConnection hreq

/-- A view of the name is found, and if there are several, the oldest. -/
theorem NamedView.exists_find? (h : s.NamedView name view) (hs : s.engine.Sound) :
    ∃ found, s.engine.find? view.connection .views name = some found := by
  refine Option.ne_none_iff_exists'.mp fun hnone => ?_
  exact (hs.lists _).find?_eq_none_iff.mp hnone view h.listed h.registered

theorem NamedView.le_of_find? (h : s.NamedView name x) (hs : s.engine.Sound)
    (hfound : s.engine.find? x.connection .views name = some view) : view.id ≤ x.id := by
  have hlists := hs.lists x.connection
  obtain ⟨-, before, after, hsplit, hbefore⟩ := hlists.find?_eq_some_iff.mp hfound
  have hincreasing := hlists.increasing .views
  have hx := h.listed
  rw [hsplit] at hx hincreasing
  rcases List.mem_append.mp hx with hearly | hx
  · exact absurd h.registered (hbefore x hearly)
  rcases List.mem_cons.mp hx with rfl | hlate
  · exact UInt64.le_refl _
  · rw [List.map_append, List.map_cons, List.pairwise_append, List.pairwise_cons] at hincreasing
    exact UInt64.le_of_lt (hincreasing.2.1.1 _ (List.mem_map_of_mem hlate))

/-! ## Finding or making -/

theorem requireConnection_of_committed {g : Group} {ps : Properties} {d : Definition} {r : Record}
    {cameras : List Record} (hcommitted : Committed s s' g definition ps view d r cameras) :
    requireConnection s' = (.ok view.connection, s') := by
  have hpeek : s'.slots.peek .connection = s.slots.peek .connection := by
    rw [hcommitted.slots, if_neg]
    cases g <;> decide
  have hc : s'.slots.connection = some view.connection := by
    simpa [Slots.peek, hcommitted.connection] using hpeek
  exact requireConnection_of_isAlive hc
    (Engine.isAlive_of_object? (Engine.record_eq_ok_iff.mp hcommitted.record))

/-- From the first session to the second a view was made under a name that no view had. It is
the last one on the list of its connection, and on other connections the lists are as before. -/
structure MadeNamed (s s' : Session) (name definition : String) (view : Handle) : Prop where
  absent : ∀ x, ¬s.NamedView name x
  committed : ∃ d r cameras, Committed s s' .views definition (naming name) view d r cameras
  list : s'.engine.list view.connection .views = s.engine.list view.connection .views ++ [view]
  elsewhere : ∀ c, c ≠ view.connection → s'.engine.list c = s.engine.list c

/-- What is found after a view was made under a name that no view had, is the view. -/
theorem MadeNamed.find? (h : MadeNamed s s' name definition view)
    (habsent : s.engine.find? view.connection .views name = none) :
    s'.engine.find? view.connection .views name = some view := by
  obtain ⟨d, r, cameras, hcommitted⟩ := h.committed
  have hgroup : r.handle.group = .views := by rw [hcommitted.handle, hcommitted.kind.1]
  have hname : r.name = name := hcommitted.named name rfl
  rw [hcommitted.gains.find? hcommitted.brings hgroup, habsent, if_pos hname, hcommitted.handle]
  rfl

theorem madeNamed_of_committed (hs : s.engine.Sound) {d : Definition} {r : Record}
    {cameras : List Record}
    (hcommitted : Committed s s' .views definition (naming name) view d r cameras)
    (hreq : requireConnection s = (.ok view.connection, s))
    (habsent : s.engine.find? view.connection .views name = none) :
    MadeNamed s s' name definition view := by
  have hgroup : r.handle.group = .views := by rw [hcommitted.handle, hcommitted.kind.1]
  refine ⟨fun x hx => ?_, ⟨d, r, cameras, hcommitted⟩, ?_, fun c hc => ?_⟩
  · obtain ⟨found, hfound⟩ := hx.exists_find? hs
    rw [hx.connection_eq hreq, habsent] at hfound
    cases hfound
  · rw [hcommitted.gains.list hcommitted.brings hgroup, hcommitted.handle]
  · funext g
    rw [Engine.list_eq, Engine.list_eq, hcommitted.gains.elsewhere hc]

/-- A call that is answered has found a view and changed nothing, or it has made one, under a name
that no view had. Either way a search for the name finds the answer afterwards. -/
theorem findViewOrCreate_ok (we : s.engine.WellFormed) (hs : s.engine.Sound)
    (hcall : findViewOrCreate name definition s = (.ok view, s')) (hn : s'.engine.NumbersLeft) :
    (s' = s ∨ MadeNamed s s' name definition view) ∧ ∃ c,
      requireConnection s' = (.ok c, s') ∧ s'.engine.find? c .views name = some view := by
  rcases findViewOrCreate_cases name definition s with ⟨fault, hfails, -⟩ |
    ⟨c, hreq, ⟨found, hfound, hfinds⟩ | ⟨habsent, hmakes⟩⟩
  · rw [hfails] at hcall
    cases hcall
  · rw [hfinds] at hcall
    cases hcall
    exact ⟨Or.inl rfl, c, hreq, hfound⟩
  · rw [hmakes] at hcall
    obtain ⟨d, r, cameras, hcommitted⟩ := committed_of_create we hcall hn
    have hconnection := requireConnection_of_committed hcommitted
    obtain rfl : view.connection = c := Option.some.inj
      (hcommitted.connection.symm.trans (requireConnection_eq_ok_iff.mp hreq).1)
    have hmade := madeNamed_of_committed hs hcommitted hreq habsent
    exact ⟨Or.inr hmade, _, hconnection, hmade.find? habsent⟩

/-- The view of a name is found, or it is made and found from then on. -/
structure FindsOrMakes (s : Session) (name definition : String) : Prop where
  /-- The answer is a view of that name. -/
  named : ∀ view s', findViewOrCreate name definition s = (.ok view, s') →
    s'.NamedView name view
  /-- Nothing has changed, or there was no view of that name and one was made. -/
  adds : ∀ view s', findViewOrCreate name definition s = (.ok view, s') →
    s' = s ∨ MadeNamed s s' name definition view
  /-- If there are views of that name, the answer is the oldest, and nothing changes. -/
  finds : (∃ x, s.NamedView name x) →
    ∃ view, findViewOrCreate name definition s = (.ok view, s) ∧
      ∀ x, s.NamedView name x → view.id ≤ x.id
  /-- Another call for the name has the same answer and changes nothing. -/
  again : ∀ view s', findViewOrCreate name definition s = (.ok view, s') →
    ∀ definition', findViewOrCreate name definition' s' = (.ok view, s')

/-- All parts follow from `findViewOrCreate_ok` : the answer is found under the name afterwards, so
the next call finds it as well. -/
theorem findsOrMakes_of_reachable (he : s.engine.Reachable)
    (hn : (findViewOrCreate name definition s).2.engine.NumbersLeft) :
    FindsOrMakes s name definition := by
  have hperform : (perform (.findViewOrCreate name definition) s).2 =
      (findViewOrCreate name definition s).2 := Step.snd_bind_pure ..
  obtain ⟨ops, hops⟩ := operates_perform (.findViewOrCreate name definition) s
  rw [hperform] at hops
  have hn₀ : s.engine.NumbersLeft := by
    rw [hops] at hn
    exact hn.of_changes (Engine.changes_run _ ops)
  have hs : s.engine.Sound := Engine.sound_of_reachable he hn₀
  have hok : ∀ view s', findViewOrCreate name definition s = (.ok view, s') →
      (s' = s ∨ MadeNamed s s' name definition view) ∧ ∃ c,
        requireConnection s' = (.ok c, s') ∧ s'.engine.find? c .views name = some view := by
    intro view s' hcall
    rw [hcall] at hn
    exact findViewOrCreate_ok (Engine.wellFormed_of_reachable he hn₀) hs hcall hn
  refine ⟨fun view s' hcall => ?_, fun view s' hcall => (hok view s' hcall).1, ?_,
    fun view s' hcall definition' => ?_⟩
  · obtain ⟨-, c, hreq, hfound⟩ := hok view s' hcall
    rw [hcall] at hn hops
    have hs' : s'.engine.Sound := Engine.sound_of_reachable (hops ▸ he.run ops) hn
    exact namedView_of_find? hs' hreq hfound
  · rintro ⟨x, hx⟩
    obtain ⟨view, hfound⟩ := hx.exists_find? hs
    refine ⟨view, findViewOrCreate_of_find? hx.requireConnection hfound definition,
      fun y hy => hy.le_of_find? hs ?_⟩
    rwa [hy.connection_eq hx.requireConnection]
  · obtain ⟨-, c, hreq, hfound⟩ := hok view s' hcall
    exact findViewOrCreate_of_find? hreq hfound definition'

/-- A session is started over any reachable engine, and methods are called and the host acts on
the engine in any order. Then the view of a name is found, or it is made and found from then on,
whatever name and definition are given. This holds as long as the engine has numbers left for what
it makes. -/
theorem view_found_or_made {e : Engine} (he : e.Reachable) {start : Session}
    (hstart : Starts e start) (ops : List Op) (name definition : String)
    (hn : (findViewOrCreate name definition (start.run ops)).2.engine.NumbersLeft) :
    FindsOrMakes (start.run ops) name definition :=
  findsOrMakes_of_reachable (reachable_run he hstart ops) hn

/-- A source has the name already, and the view is made under it all the same. Where two views were
renamed to the name, the older one is found, though it got the name last. -/
theorem view_found_or_made_shared_name :
    let view : Handle := ⟨2, ⟨1⟩, .views, "RenderView"⟩
    let other : Handle := ⟨4, ⟨1⟩, .views, "XYChartView"⟩
    let start := new "" "" .new .default
    let ops : List Op := [.connect, .create .sources "SphereSource" (naming "Main")]
    let later : List Op := ops ++ [.create .views "RenderView" ∅, .create .views "XYChartView" ∅,
      .engine (.rename other "Main"), .rename view "Main"]
    Engine.new.Reachable ∧ Starts .new start ∧
      (findViewOrCreate "Main" "RenderView" (start.run ops)).2.engine.NumbersLeft ∧
      (findViewOrCreate "Main" "" (start.run later)).2.engine.NumbersLeft ∧
      (∃ s, findViewOrCreate "Main" "RenderView" (start.run ops) = (.ok view, s) ∧
        MadeNamed (start.run ops) s "Main" "RenderView" view ∧
        findViewOrCreate "Main" "" s = (.ok view, s)) ∧
      (start.run later).NamedView "Main" other ∧
      findViewOrCreate "Main" "" (start.run later) = (.ok view, start.run later) := by
  intro view other start ops later
  have he : Engine.new.Reachable := ⟨builtinCatalog, [], rfl⟩
  have hs : Starts .new start := ⟨"", "", .default, Or.inl rfl⟩
  have hn : (findViewOrCreate "Main" "RenderView" (start.run ops)).2.engine.NumbersLeft :=
    ⟨by decide +kernel, by decide +kernel⟩
  have hn' : (findViewOrCreate "Main" "" (start.run later)).2.engine.NumbersLeft :=
    ⟨by decide +kernel, by decide +kernel⟩
  have hmakes := view_found_or_made he hs ops "Main" "RenderView" hn
  have hfinds := view_found_or_made he hs later "Main" "" hn'
  have hother : (start.run later).NamedView "Main" other :=
    ⟨by decide +kernel, by decide +kernel, by decide +kernel, by decide +kernel⟩
  refine ⟨he, hs, hn, hn', ?_, hother, ?_⟩
  · have hanswer : (findViewOrCreate "Main" "RenderView" (start.run ops)).1 = .ok view := by
      decide +kernel
    have hcall := Step.eq_of_fst hanswer
    refine ⟨_, hcall, (hmakes.adds view _ hcall).resolve_left fun hsame => ?_,
      hmakes.again view _ hcall ""⟩
    have hcount : (findViewOrCreate "Main" "RenderView" (start.run ops)).2.engine.nextObject ≠
        (start.run ops).engine.nextObject := by decide +kernel
    exact hcount (by rw [hsame])
  · obtain ⟨found, hcall, -⟩ := hfinds.finds ⟨other, hother⟩
    have hanswer : (findViewOrCreate "Main" "" (start.run later)).1 = .ok view := by
      decide +kernel
    rw [hcall] at hanswer
    rw [hcall, Except.ok.inj hanswer]

end Session

end VizSession
