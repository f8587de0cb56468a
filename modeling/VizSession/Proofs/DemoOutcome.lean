import VizSession.Demo
import VizSession.Proofs.ActiveViews
import VizSession.Proofs.GeneratedNames
import VizSession.Proofs.RepeatedExtensions
import VizSession.Proofs.Startup

/-!
# What the demonstration comes to

The outcome of the demonstration is decided by the configuration (`Demo.Decides`). Its stages are
run one after another, each from what the one before left behind.

A session that cannot start ends there. Extending the session and loading the plugin cannot fail,
and leave the engine and the slots alone (`alongside_extended`), so that the sphere is made exactly
if the start has connected (`draw_of_unconnected`, `Connected.create`). To show it, a view has to
be made from the configured definition : the configuration may forbid that, or the catalog may lack
the definition, and that is all that can go wrong (`renderSphere_cases`). With a definition of the
catalog every later step is taken on an engine that is known (`Demo.Shows`).

The names are settled before anything is drawn, and they do not depend on the configuration
(`sameNames_extended`). So what is exported in the end, and what the function of the plugin
answers, can be computed for the default configuration.
-/

namespace VizSession.Demo

/-! ## What is to be shown -/

/-- The configuration has all that the demonstration needs. -/
structure Usable (config : Config) : Prop where
  satellite : config.satellite = false
  url : config.url = "builtin:"
  autoCreateView : config.autoCreateView = true
  view : ∃ d ∈ builtinCatalog, d.group = .views ∧ d.name = config.defaultView

/-- The first thing that the configuration lacks, and the failure that comes of it. -/
inductive Stops (config : Config) : SessionError → Prop where
  | satellite (hs : config.satellite = true) : Stops config .noActiveConnection
  | url (hs : config.satellite = false) (hu : config.url ≠ "builtin:") :
      Stops config (.engine (.connectionFailed config.url (.unserved "builtin:")))
  | autoCreateView (hs : config.satellite = false) (hu : config.url = "builtin:")
      (ha : config.autoCreateView = false) : Stops config (.noActive .view)
  | view (hs : config.satellite = false) (hu : config.url = "builtin:")
      (ha : config.autoCreateView = true)
      (hv : ∀ d ∈ builtinCatalog, d.group = .views → d.name ≠ config.defaultView) :
      Stops config (.engine (.unknownDefinition .views config.defaultView))

/-- The names of the constructors of built-in sources and views : labels that cannot be made into
an identifier have none. -/
def constructorNames : List String :=
  (builtinCatalog.filter fun d => d.group = .sources ∨ d.group = .views).filterMap fun d =>
    ExportName.ofLabel? d.label

/-- All names that are exported in the end. -/
def exportedNames : List String := Builtin.names ++ constructorNames ++ ["Scale"]

/-- The line about an exported name. Only the function of the plugin has a description. -/
def nameLine (name : String) : String :=
  if name = "Scale" then "  Scale - Multiply a value by a factor" else s!"  {name}"

/-- What is printed when the sphere was rendered in a view of the definition. -/
def printed (d : Definition) : List String :=
  s!"Rendered {Text.generated d.label 1}" :: "Scale(21.0) = Float(42.0)" :: "Exported names:" ::
    exportedNames.map nameLine

/-- The outcome is the one that the configuration decides. -/
structure Decides (config : Config) (outcome : Outcome) : Prop where
  /-- The demonstration succeeds exactly if the configuration has all it needs. -/
  succeeds_iff : outcome.fault = none ↔ Usable config
  /-- Then everything is printed. -/
  prints : outcome.fault = none → ∃ d ∈ builtinCatalog, d.group = .views ∧
    d.name = config.defaultView ∧ outcome.lines = printed d
  /-- Otherwise it fails before anything is printed, with what the configuration lacks first. -/
  stops : ∀ cause, outcome.fault = some cause →
    outcome.lines = [] ∧ ∃ fault, cause = .session fault ∧ Stops config fault

variable {config : Config} {fault : SessionError} {d : Definition}

theorem Stops.not_usable (h : Stops config fault) : ¬Usable config := by
  intro hu
  cases h with
  | satellite hs => exact Bool.noConfusion (hs.symm.trans hu.satellite)
  | url _ hne => exact hne hu.url
  | autoCreateView _ _ ha => exact Bool.noConfusion (ha.symm.trans hu.autoCreateView)
  | view _ _ _ hv =>
    obtain ⟨d, hd, hg, hname⟩ := hu.view
    exact hv d hd hg hname

/-! ## The engine -/

/-- The engine after it made its first connection. -/
def served : Engine := (Engine.establish "builtin:" .new).2

def sphere : Handle := ⟨1, ⟨1⟩, .sources, "SphereSource"⟩

/-- The properties that the sphere is made with. -/
def radius : Properties := OrderedMap.ofList [("Radius", .float 2.0)]

/-- The engine after it made the sphere. -/
def withSphere : Engine := (Engine.create ⟨1⟩ .sources "SphereSource" radius served).2

/-- The view that is made from a definition. -/
def viewOf (d : Definition) : Handle := ⟨2, ⟨1⟩, .views, d.name⟩

/-- The engine after it made the view. -/
def withView (d : Definition) : Engine := (Engine.create ⟨1⟩ .views d.name ∅ withSphere).2

/-- The engine after it showed the sphere in the view. -/
def shown (d : Definition) : Engine :=
  (Engine.setVisibility sphere (viewOf d) true (withView d)).2

theorem create_sphere :
    Engine.create ⟨1⟩ .sources "SphereSource" radius served = (.ok sphere, withSphere) :=
  Prod.ext (by decide +kernel) rfl

/-- From the definition a view can be made, in which the sphere can be shown and rendered. -/
structure Shows (d : Definition) : Prop where
  made : Engine.create ⟨1⟩ .views d.name ∅ withSphere = (.ok (viewOf d), withView d)
  live : (withView d).isLive (viewOf d) = true
  shows : ∃ h, Engine.setVisibility sphere (viewOf d) true (withView d) = (.ok h, shown d)
  kept : (shown d).isLive (viewOf d) = true
  named : ((shown d).rendered 1).registrationName (viewOf d) = .ok (Text.generated d.label 1)

theorem shows_of_mem (hd : d ∈ builtinCatalog) (hg : d.group = .views) : Shows d := by
  have hall : ∀ d ∈ builtinCatalog, d.group = .views →
      (Engine.create ⟨1⟩ .views d.name ∅ withSphere).1 = .ok (viewOf d) ∧
        (withView d).isLive (viewOf d) = true ∧
        (Engine.setVisibility sphere (viewOf d) true (withView d)).1 =
          .ok ⟨4, ⟨1⟩, .representations, "GeometryRepresentation"⟩ ∧
        (shown d).isLive (viewOf d) = true ∧
        ((shown d).rendered 1).registrationName (viewOf d) =
          .ok (Text.generated d.label 1) := by decide +kernel
  obtain ⟨hmade, hlive, hshows, hkept, hnamed⟩ := hall d hd hg
  exact ⟨Prod.ext hmade rfl, hlive, ⟨_, Prod.ext hshows rfl⟩, hkept, hnamed⟩

/-- The engine refuses a view without a definition. -/
theorem create_unknown {name : String}
    (hname : ∀ d ∈ builtinCatalog, d.group = .views → d.name ≠ name) :
    Engine.create ⟨1⟩ .views name ∅ withSphere =
      (.error (.unknownDefinition .views name), withSphere) := by
  have hcatalog : withSphere.catalog = builtinCatalog := by rfl
  have hstore : ∃ store, withSphere.store ⟨1⟩ = .ok store := ⟨_, rfl⟩
  obtain ⟨store, hstore⟩ := hstore
  have hnone : withSphere.definition? .views name = none := by
    rw [Engine.definition?, hcatalog, List.find?_eq_none]
    exact fun d hd h => hname d hd (of_decide_eq_true h).1 (of_decide_eq_true h).2
  simp [Engine.create, Engine.blueprint, hstore, Engine.definition, hnone, bind, Except.bind]

/-! ## Extending the session -/

/-- A session that was extended and has loaded the plugin of the demonstration. -/
def extended (s : Session) : Session := (Session.loadPlugin plugin (s.extendNamespace []).2).2

/-- The session has the same engine and the same slots. -/
theorem alongside_extended (s : Session) : Session.Alongside s (extended s) := by
  have hextend := Session.alongside_extendNamespace [] s
  have hload := Session.alongside_loadPlugin plugin (s.extendNamespace []).2
  unfold extended
  exact ⟨hload.1.trans hextend.1, hload.2.trans hextend.2⟩

theorem config_extended (s : Session) : (extended s).config = s.config := by
  have hextend : (s.extendNamespace []).2.config = s.config := by
    rw [Session.extendNamespace_eq]
  rcases Session.loadPlugin_cases plugin (s.extendNamespace []).2 with
    ⟨fault, h⟩ | ⟨registration, registry, -, h⟩
  all_goals
    rw [extended, h]
    exact hextend

theorem exists_loadPlugin_eq (s : Session) :
    ∃ report, Session.loadPlugin plugin s = (.ok report, (Session.loadPlugin plugin s).2) := by
  obtain ⟨registration, registry, hok⟩ : ∃ registration registry,
      Registry.register plugin s.registry = (.ok registration, registry) := ⟨_, _, rfl⟩
  obtain ⟨report, hreport, -⟩ := Session.reported_loadPlugin hok
  exact ⟨report, Prod.ext hreport rfl⟩

/-! ## Drawing -/

/-- What the demonstration draws : a sphere, in the view that is made for it. The answer is the
name of the view. -/
def draw : SessionStep String := do
  let _ ← Session.create .sources "SphereSource" radius
  let _ ← Session.showSource none none
  let view ← Session.render none
  Session.registrationName view

section Draw

variable {s s' : Session}

/-- When the session has started, it is extended, which cannot fail, and draws. -/
theorem renderSphere_of_start {outcome : Startup} (h : Session.start s = (.ok outcome, s')) :
    renderSphere s = draw (extended s') := by
  obtain ⟨report, hload⟩ := exists_loadPlugin_eq (s'.extendNamespace []).2
  rw [renderSphere, Step.bind_ok h, Step.bind_ok (Step.update_apply ..), Step.bind_ok hload,
    draw, extended, radius]

/-- Without a connection there is no sphere. -/
theorem draw_of_unconnected (h : s.slots.connection = none) :
    draw s = (.error .noActiveConnection, s) := by
  have hreq : Session.requireConnection s = (.error .noActiveConnection, s) := by
    simp [Session.requireConnection, Session.activeConnection_eq, Step.bind_apply, h]
  exact Step.bind_error (Step.bind_error hreq)

/-- The session has connected, and nothing was made yet. -/
structure Connected (s : Session) : Prop where
  engine : s.engine = served
  slots : s.slots = { Slots.empty with connection := some ⟨1⟩ }

/-- The session after it made the sphere. -/
def sourced (s : Session) : Session :=
  { s with engine := withSphere, slots := ⟨some ⟨1⟩, none, some sphere, none⟩ }

/-- The session after it made the view and showed the sphere in it. -/
def displayed (s : Session) (d : Definition) : Session :=
  { s with engine := shown d, slots := ⟨some ⟨1⟩, some (viewOf d), some sphere, none⟩ }

theorem Connected.create (h : Connected s) :
    Session.create .sources "SphereSource" radius s = (.ok sphere, sourced s) := by
  have hreq : Session.requireConnection s = (.ok ⟨1⟩, s) :=
    Session.requireConnection_of_isAlive (by rw [h.slots]) (by rw [h.engine]; decide +kernel)
  have hmade : Engine.create ⟨1⟩ .sources "SphereSource" (radius.erase Session.nameKeyword)
      s.engine = (.ok sphere, withSphere) := by
    rw [h.engine]
    exact create_sphere
  have hcreate := Session.create_unnamed (h := sphere) (k := .source) rfl hreq rfl hmade
    (by decide +kernel)
  rw [h.slots] at hcreate
  exact hcreate

/-- The sphere is shown in the active view, and none is active yet. -/
theorem showSource_sourced (s : Session) : Session.showSource none none (sourced s) =
    (Session.activeViewOrCreate >>= fun view =>
      Session.onEngine (Engine.setVisibility sphere view true)) (sourced s) := by
  have hlive : (sourced s).engine.isLive sphere = true := by
    show withSphere.isLive sphere = true
    decide +kernel
  have hsource : Session.orActive .source none (sourced s) = (.ok sphere, sourced s) :=
    Step.bind_ok (Session.activeProxy_eq_ok_some_iff.mpr ⟨rfl, hlive⟩)
  exact Step.bind_ok hsource

theorem showSource_of_forbidden (ha : s.config.autoCreateView = false) :
    Session.showSource none none (sourced s) = (.error (.noActive .view), sourced s) := by
  have hview : Session.activeViewOrCreate (sourced s) = (.error (.noActive .view), sourced s) := by
    rw [Session.activeViewOrCreate_of_absent rfl]
    exact if_neg (by simp [sourced, ha])
  rw [showSource_sourced, Step.bind_error hview]

theorem activeViewOrCreate_sourced (ha : s.config.autoCreateView = true) :
    Session.activeViewOrCreate (sourced s) =
      Session.create .views s.config.defaultView ∅ (sourced s) := by
  rw [Session.activeViewOrCreate_of_absent rfl]
  exact if_pos ha

theorem requireConnection_sourced (s : Session) :
    Session.requireConnection (sourced s) = (.ok ⟨1⟩, sourced s) := by
  have halive : (sourced s).engine.isAlive ⟨1⟩ = true := by
    show withSphere.isAlive ⟨1⟩ = true
    decide +kernel
  exact Session.requireConnection_of_isAlive rfl halive

theorem showSource_of_unknown (ha : s.config.autoCreateView = true)
    (hv : ∀ d ∈ builtinCatalog, d.group = .views → d.name ≠ s.config.defaultView) :
    Session.showSource none none (sourced s) =
      (.error (.engine (.unknownDefinition .views s.config.defaultView)), sourced s) := by
  have hview : Session.activeViewOrCreate (sourced s) =
      (.error (.engine (.unknownDefinition .views s.config.defaultView)), sourced s) := by
    have hunnamed : Step.ofExcept (Session.requestedName ∅) (sourced s) =
        (.ok none, sourced s) := rfl
    rw [activeViewOrCreate_sourced ha, Session.create,
      Step.bind_ok (requireConnection_sourced s), Step.bind_ok hunnamed]
    exact Step.bind_error (Session.onEngine_error (create_unknown hv))
  rw [showSource_sourced, Step.bind_error hview]

theorem showSource_of_shows (ha : s.config.autoCreateView = true) (hd : Shows d)
    (hname : d.name = s.config.defaultView) :
    ∃ h, Session.showSource none none (sourced s) = (.ok h, displayed s d) := by
  have hview : Session.activeViewOrCreate (sourced s) = (.ok (viewOf d),
      { sourced s with
        engine := withView d, slots := ⟨some ⟨1⟩, some (viewOf d), some sphere, none⟩ }) := by
    rw [activeViewOrCreate_sourced ha, ← hname]
    exact Session.create_unnamed (h := viewOf d) (k := .view) rfl (requireConnection_sourced s)
      rfl hd.made hd.live
  obtain ⟨h, hshown⟩ := hd.shows
  refine ⟨h, ?_⟩
  rw [showSource_sourced, Step.bind_ok hview]
  exact Session.onEngine_ok hshown

/-- The active view is rendered, and its name is the answer. -/
theorem render_displayed (hd : Shows d) :
    (Session.render none >>= Session.registrationName) (displayed s d) =
      (.ok (Text.generated d.label 1),
        { displayed s d with engine := (shown d).rendered 1 }) := by
  have hview : (displayed s d).Views (viewOf d) := ⟨rfl, hd.kept⟩
  have hcounted : Session.onEngine (Engine.render (viewOf d)) (displayed s d) =
      (.ok (), { displayed s d with engine := (shown d).rendered 1 }) :=
    Session.onEngine_ok (Engine.render_of_isLive rfl hd.kept)
  have hrender : Session.render none (displayed s d) =
      (.ok (viewOf d), { displayed s d with engine := (shown d).rendered 1 }) :=
    (Step.bind_ok hview.again).trans (Step.bind_ok hcounted)
  rw [Step.bind_ok hrender]
  exact Session.onEngine_ok (Prod.ext hd.named rfl)

theorem Connected.draw (h : Connected s) : draw s =
    (Session.showSource none none >>= fun _ =>
      Session.render none >>= Session.registrationName) (sourced s) :=
  Step.bind_ok h.create

end Draw

/-! ## Names -/

/-- The session of the demonstration with the default configuration, once it has started. -/
def model : Session := (Session.new "" "" .new .default).joined served ⟨1⟩

/-- The names of the session are those with the default configuration. -/
theorem sameNames_extended (id createdAt : String) (config : Config) :
    Session.SameNames (extended model)
      (extended ((Session.new id createdAt .new config).joined served ⟨1⟩)) := by
  have hnames : Session.SameNames model
      ((Session.new id createdAt .new config).joined served ⟨1⟩) := ⟨rfl, rfl, rfl⟩
  exact (hnames.extendNamespace ⟨rfl, rfl⟩ []).loadPlugin plugin

theorem exports_model : (extended model).exports.names = exportedNames := by decide +kernel

theorem nodup_exportedNames : exportedNames.Nodup :=
  exports_model ▸ (extended model).exports.nodup

theorem exportLine_model :
    exportedNames.map (exportLine (extended model)) = exportedNames.map nameLine := by
  decide +kernel

section Names

variable {s s' : Session} (h : Session.SameNames (extended model) s)

include h

theorem map_exportLine : s.exports.names.map (exportLine s) = exportedNames.map nameLine := by
  have hline : exportLine s = exportLine (extended model) := by
    funext name
    rw [exportLine, exportLine, h.registry]
  rw [h.exports, exports_model, hline, exportLine_model]

/-- The function of the plugin doubles what it is given. -/
theorem invoke_scale :
    Session.invoke "Scale" ⟨[.float 21.0], ∅⟩ s = (.ok (.float (21.0 * 2.0)), s) := by
  have hexported : s.exports.contains "Scale" = true := by
    rw [h.exports]
    decide +kernel
  have hconstructor : s.constructors.find? "Scale" = none := by
    rw [h.constructors]
    rfl
  have hcallable : s.registry.callable? "Scale" = some scale := by
    rw [h.registry]
    rfl
  have hrun : scale.run ⟨[.float 21.0], ∅⟩ = .ok (.float (21.0 * 2.0)) := rfl
  simp [Session.invoke, Session.provide, hexported, hconstructor, hcallable, hrun,
    Except.mapError]

end Names

/-! ## The outcome -/

section Outcome

variable (id createdAt : String) {s s' : Session}

theorem perform_of_drawn (hdraw : renderSphere s = (.ok (Text.generated d.label 1), s'))
    (hnames : Session.SameNames (extended model) s') : perform s = ⟨printed d, none⟩ := by
  have hscaled : scaledLine (.float (21.0 * 2.0)) = "Scale(21.0) = Float(42.0)" := by
    decide +kernel
  simp only [perform, hdraw, invoke_scale hnames, hscaled, map_exportLine hnames, printed]

theorem perform_of_error (hdraw : renderSphere s = (.error fault, s')) :
    perform s = ⟨[], some (.session fault)⟩ := by
  simp only [perform, hdraw]

theorem renderSphere_of_satellite (hs : config.satellite = true) :
    ∃ s', renderSphere (Session.new id createdAt .new config) =
      (.error .noActiveConnection, s') := by
  have hstart : Session.start (Session.new id createdAt .new config) =
      (.ok .satellite, Session.new id createdAt .new config) := by
    rw [Session.start_eq]
    exact if_pos hs
  have hslots := (alongside_extended (Session.new id createdAt .new config)).2
  exact ⟨_, (renderSphere_of_start hstart).trans (draw_of_unconnected (by rw [hslots]; rfl))⟩

theorem renderSphere_of_unserved (hs : config.satellite = false) (hu : config.url ≠ "builtin:") :
    ∃ s', renderSphere (Session.new id createdAt .new config) =
      (.error (.engine (.connectionFailed config.url (.unserved "builtin:"))), s') := by
  have hrefused : Engine.establish config.url .new =
      (.error (.connectionFailed config.url (.unserved "builtin:")),
        Engine.new.countEstablish) := by
    simp [Engine.establish, Engine.new, Engine.ofCatalog, Engine.servedUrl, hu,
      Engine.countEstablish]
  have hstart := Session.start_of_unconnected (s := Session.new id createdAt .new config) hs rfl
  simp only [Session.new, hrefused] at hstart
  exact ⟨_, Step.bind_error hstart⟩

theorem start_of_served (hs : config.satellite = false) (hu : config.url = "builtin:") :
    Session.start (Session.new id createdAt .new config) =
      (.ok (.connected ⟨1⟩), (Session.new id createdAt .new config).joined served ⟨1⟩) := by
  have hserved : Engine.establish config.url .new = (.ok ⟨1⟩, served) := by
    rw [hu]
    rfl
  have hstart := Session.start_of_unconnected (s := Session.new id createdAt .new config) hs rfl
  simp only [Session.new, hserved] at hstart
  exact hstart

/-- With a connection, what is drawn depends on the view. -/
theorem renderSphere_of_served (hs : config.satellite = false) (hu : config.url = "builtin:") :
    ∃ s, s.config = config ∧ Session.SameNames (extended model) s ∧
      renderSphere (Session.new id createdAt .new config) = draw s ∧
      draw s = (Session.showSource none none >>= fun _ =>
        Session.render none >>= Session.registrationName) (sourced s) := by
  let started := (Session.new id createdAt .new config).joined served ⟨1⟩
  have halongside := alongside_extended started
  have hconnected : Connected (extended started) :=
    ⟨halongside.1.trans rfl, halongside.2.trans rfl⟩
  exact ⟨extended started, config_extended started, sameNames_extended id createdAt config,
    renderSphere_of_start (start_of_served id createdAt hs hu), hconnected.draw⟩

/-- The sphere cannot be rendered for want of what the configuration lacks, or it is rendered in
a view of the configured definition. -/
theorem renderSphere_cases (config : Config) :
    (∃ fault s', renderSphere (Session.new id createdAt .new config) = (.error fault, s') ∧
      Stops config fault) ∨
    Usable config ∧ ∃ d ∈ builtinCatalog, d.group = .views ∧ d.name = config.defaultView ∧
      ∃ s', renderSphere (Session.new id createdAt .new config) =
        (.ok (Text.generated d.label 1), s') ∧ Session.SameNames (extended model) s' := by
  cases hs : config.satellite with
  | true =>
    obtain ⟨s', h⟩ := renderSphere_of_satellite id createdAt hs
    exact Or.inl ⟨_, s', h, .satellite hs⟩
  | false =>
    by_cases hu : config.url = "builtin:"
    · obtain ⟨s, rfl, hnames, hrender, hdraw⟩ :=
        renderSphere_of_served id createdAt hs hu
      rw [hdraw] at hrender
      cases ha : s.config.autoCreateView with
      | false =>
        rw [Step.bind_error (showSource_of_forbidden ha)] at hrender
        exact Or.inl ⟨_, _, hrender, .autoCreateView hs hu ha⟩
      | true =>
        by_cases hv : ∃ d ∈ builtinCatalog, d.group = .views ∧ d.name = s.config.defaultView
        · obtain ⟨d, hd, hg, hname⟩ := hv
          have hshows := shows_of_mem hd hg
          obtain ⟨h, hshown⟩ := showSource_of_shows ha hshows hname
          rw [Step.bind_ok hshown, render_displayed hshows] at hrender
          refine Or.inr ⟨⟨hs, hu, ha, d, hd, hg, hname⟩, d, hd, hg, hname, _, hrender, ?_⟩
          exact ⟨hnames.exports, hnames.registry, hnames.constructors⟩
        · have hnone : ∀ d ∈ builtinCatalog, d.group = .views → d.name ≠ s.config.defaultView :=
            fun d hd hg hname => hv ⟨d, hd, hg, hname⟩
          rw [Step.bind_error (showSource_of_unknown ha hnone)] at hrender
          exact Or.inl ⟨_, _, hrender, .view hs hu ha hnone⟩
    · obtain ⟨s', h⟩ := renderSphere_of_unserved id createdAt hs hu
      exact Or.inl ⟨_, s', h, .url hs hu⟩

/-- In a new session over a new engine the configuration decides. -/
theorem decides_perform (config : Config) :
    Decides config (perform (Session.new id createdAt .new config)) := by
  rcases renderSphere_cases id createdAt config with ⟨fault, s', hrender, hstops⟩ |
    ⟨husable, d, hd, hg, hname, s', hrender, hnames⟩
  · rw [perform_of_error hrender]
    refine ⟨⟨nofun, fun husable => absurd husable hstops.not_usable⟩, nofun, fun cause h => ?_⟩
    exact ⟨rfl, fault, (Option.some.inj h).symm, hstops⟩
  · rw [perform_of_drawn hrender hnames]
    exact ⟨⟨fun _ => husable, fun _ => rfl⟩, fun _ => ⟨d, hd, hg, hname, rfl⟩, nofun⟩

/-- Whatever is found at the standard place, a configuration that does not load ends the
demonstration with its own error, and one that loads decides what comes of it. No name is printed
twice. -/
theorem demo_decided_by_config (file : File) :
    exportedNames.Nodup ∧
      match Config.loadStandard file with
      | .error cause => run id createdAt file = ⟨[], some (.config cause)⟩
      | .ok config => Decides config (run id createdAt file) := by
  refine ⟨nodup_exportedNames, ?_⟩
  unfold run
  cases Config.loadStandard file with
  | error cause => rfl
  | ok config => exact decides_perform id createdAt config

example : (run "" "" .absent).lines.head? = some "Rendered RenderView1" := by decide +kernel

end Outcome

end VizSession.Demo
