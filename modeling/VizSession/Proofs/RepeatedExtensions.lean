import VizSession.Proofs.ExportLog
import VizSession.Proofs.ExtensionPasses
import VizSession.Proofs.Registrations

/-!
# Extending twice

An extension reserves the names of constructors, scans plugins and exports what it finds. Made a
second time with the same plugins it goes through other states than the first time : functions that
were dropped are contributed again, and names are rebound back and forth between plugins. All the
same it ends where it began (`Session.Extended.same`).

What a sweep does to a registry is to write a list of entries into it, which depends on the plugins
and on the reserved names only (`Registry.entries_registerAll`), and writing a list a second time
changes nothing, colliding names included. The names of constructors are reserved already, and no
function stands under them (`Registry.withhold_of_withheld`).
-/

namespace VizSession

/-- What was added to a list is not added again. -/
theorem foldl_append_new_twice {α : Type} [BEq α] [LawfulBEq α] (l new : List α) :
    new.foldl (fun l a => if a ∈ l then l else l ++ [a])
        (new.foldl (fun l a => if a ∈ l then l else l ++ [a]) l) =
      new.foldl (fun l a => if a ∈ l then l else l ++ [a]) l := by
  have hthere : ∀ a ∈ new, a ∈ l ++ new.eraseDups.filter fun a => a ∉ l := by
    intro a ha
    by_cases hold : a ∈ l
    · exact List.mem_append_left _ hold
    · exact List.mem_append_right _
        (List.mem_filter.mpr ⟨List.mem_eraseDups.mpr ha, decide_eq_true hold⟩)
  have hnone : (new.eraseDups.filter fun a => a ∉ l ++ new.eraseDups.filter fun a => a ∉ l) =
      [] := List.filter_eq_nil_iff.mpr fun a ha => by
    simpa only [decide_eq_true_eq, not_not] using hthere a (List.mem_eraseDups.mp ha)
  rw [foldl_append_new l new, foldl_append_new, hnone, List.append_nil]

/-! ## Scanning plugins a second time -/

namespace Registry

variable {r r' : Registry}

/-- The entries that are written for contributed functions when names are reserved. -/
def written (reserved : List String) (entries : List Entry) : List (String × Entry) :=
  (entries.filter fun entry => Open reserved entry.callable.name).map fun entry =>
    (entry.callable.name, entry)

theorem written_append (reserved : List String) (entries entries' : List Entry) :
    written reserved (entries ++ entries') =
      written reserved entries ++ written reserved entries' := by
  simp [written]

theorem reserved_register (p : Plugin) (r : Registry) :
    (register p r).2.reserved = r.reserved :=
  (enrolled_register p r).reserved

theorem entries_register (p : Plugin) (r : Registry) : (register p r).2.entries =
    r.entries.insertMany (written r.reserved.keys (contributed p)) := by
  unfold register contributed
  cases p.contributions with
  | error cause => rfl
  | ok cs =>
    dsimp only
    rw [(entries_markScanned ..).1, (tallied_foldl r p.name cs).registry]
    simp [written, takes, List.filter_map, Function.comp_def]

theorem plugins_register (p : Plugin) (r : Registry) : (register p r).2.plugins =
    (scanned p).foldl (fun l a => if a ∈ l then l else l ++ [a]) r.plugins := by
  cases hp : p.contributions with
  | error cause => simp [register_error hp, scanned, hp]
  | ok cs =>
    obtain ⟨report, r', hregister, htells⟩ := register_tells hp r
    simp [hregister, htells.plugins, scanned, hp]

/-- A sweep writes a list of entries that depends on the plugins and the reserved names only. -/
theorem entries_registerAll (ps : List Plugin) (r : Registry) : (r.registerAll ps).2.entries =
    r.entries.insertMany (written r.reserved.keys (ps.flatMap contributed)) := by
  induction ps generalizing r with
  | nil => rfl
  | cons p ps ih =>
    rw [registerAll, List.flatMap_cons, written_append]
    dsimp only
    rw [ih, entries_register, reserved_register]
    exact (List.foldl_append ..).symm

theorem plugins_registerAll (ps : List Plugin) (r : Registry) : (r.registerAll ps).2.plugins =
    (ps.flatMap scanned).foldl (fun l a => if a ∈ l then l else l ++ [a]) r.plugins := by
  induction ps generalizing r with
  | nil => rfl
  | cons p ps ih =>
    rw [registerAll, List.flatMap_cons, List.foldl_append, ← plugins_register]
    exact ih (register p r).2

theorem ext_fields (hentries : r.entries = r'.entries) (hplugins : r.plugins = r'.plugins)
    (hreserved : r.reserved = r'.reserved) : r = r' := by
  cases r
  cases r'
  cases hentries
  cases hplugins
  cases hreserved
  rfl

/-- A sweep over plugins that were swept before changes nothing. -/
theorem registerAll_registerAll (ps : List Plugin) (r : Registry) :
    ((r.registerAll ps).2.registerAll ps).2 = (r.registerAll ps).2 := by
  have hreserved : ∀ r : Registry, (r.registerAll ps).2.reserved = r.reserved :=
    fun r => (enrolled_registerAll ps r).reserved
  refine ext_fields ?_ ?_ (hreserved _)
  · rw [entries_registerAll ps (r.registerAll ps).2, hreserved, entries_registerAll,
      OrderedMap.insertMany_insertMany]
  · rw [plugins_registerAll ps (r.registerAll ps).2, plugins_registerAll, foldl_append_new_twice]

theorem names_register_congr (h : r'.reserved = r.reserved) (p : Plugin) :
    namesOf (register p r').1 = namesOf (register p r).1 := by
  cases hp : p.contributions with
  | error cause => rw [register_error hp, register_error hp]
  | ok cs =>
    obtain ⟨report, s, hregister, htells⟩ := register_tells hp r
    obtain ⟨report', s', hregister', htells'⟩ := register_tells hp r'
    rw [hregister, hregister']
    show report'.names = report.names
    rw [htells.names, htells'.names, h]

theorem names_registerAll_cons (p : Plugin) (ps : List Plugin) (r : Registry) :
    (r.registerAll (p :: ps)).1.names =
      namesOf (register p r).1 ++ ((register p r).2.registerAll ps).1.names := by
  rw [registerAll]
  cases register p r with
  | mk result r' => cases result <;> rfl

/-- The names that a sweep takes depend on the plugins and the reserved names only. -/
theorem names_registerAll_congr (h : r'.reserved = r.reserved) (ps : List Plugin) :
    (r'.registerAll ps).1.names = (r.registerAll ps).1.names := by
  induction ps generalizing r r' with
  | nil => rfl
  | cons p ps ih =>
    have hreserved : (register p r').2.reserved = (register p r).2.reserved := by
      rw [reserved_register, reserved_register, h]
    rw [names_registerAll_cons, names_registerAll_cons, names_register_congr h p, ih hreserved]

theorem failed_registerAll (ps : List Plugin) (r : Registry) :
    (r.registerAll ps).1.failed = ps.filterMap failure? := by
  rw [registerAll_eq]

/-- To reserve what is reserved changes nothing when no function stands under it. -/
theorem withhold_of_withheld {owners : List (String × String)}
    (hreserved : r.reserved.insertMany owners = r.reserved)
    (hnames : ∀ n ∈ r.names, n ∉ owners.map Prod.fst) : r.withhold owners = r := by
  have hentries : r.entries.filter (fun n _ => n ∉ owners.map Prod.fst) = r.entries := by
    refine OrderedMap.ext (List.filter_eq_self.mpr fun entry hentry => ?_)
    exact decide_eq_true (hnames entry.1 (List.mem_map_of_mem hentry))
  unfold withhold
  rw [hentries, hreserved]

/-- The names that were reserved before a sweep are so after it. -/
theorem withhold_registerAll (ps : List Plugin) (owners : List (String × String)) (r : Registry) :
    ((r.withhold owners).registerAll ps).2.withhold owners =
      ((r.withhold owners).registerAll ps).2 := by
  have henrolled := enrolled_registerAll ps (r.withhold owners)
  refine withhold_of_withheld ?_ fun n hn howner => ?_
  · rw [henrolled.reserved]
    exact OrderedMap.insertMany_insertMany ..
  · rcases henrolled.free n hn with hold | hfree
    · exact (mem_names_withhold_iff.mp hold).2 howner
    · exact hfree (OrderedMap.mem_keys_insertMany.mpr (Or.inr howner))

end Registry

/-! ## Extending a second time -/

namespace Session

variable {s again : Session} {ps : List Plugin}

theorem names_sweep_extendNamespace (ps : List Plugin) (s : Session) :
    (s.extendNamespace ps).1.sweep.names =
        ((s.registry.withhold (owners s.upcoming)).registerAll ps).1.names ∧
      (s.extendNamespace ps).1.sweep.failed = ps.filterMap Registry.failure? := by
  obtain ⟨lost, hsweep⟩ := sweep_extendNamespace ps s
  rw [hsweep]
  exact ⟨rfl, Registry.failed_registerAll ps _⟩

/-- The exports grow by what the report says. -/
theorem names_extendNamespace (ps : List Plugin) (s : Session) :
    (s.extendNamespace ps).2.exports.names =
      s.exports.names ++ (s.extendNamespace ps).1.exports.added := by
  have hs : (s.addConstructors s.constructible).2.exports = s.exports :=
    congrArg (fun s => s.exports) (addConstructors_eq s.constructible s).2
  simp only [extendNamespace, extendExports, ExportList.names_merge, MergeReport.added_append, hs,
    List.append_assoc]

/-- An extension changes the exports, the registry and the constructors, and nothing else. -/
theorem extendNamespace_eq (ps : List Plugin) (s : Session) : (s.extendNamespace ps).2 =
    { s with
      exports := (s.extendNamespace ps).2.exports
      registry := (s.extendNamespace ps).2.registry
      constructors := (s.extendNamespace ps).2.constructors } := by
  have hrest : (s.extendNamespace ps).2 =
      { (s.addConstructors s.constructible).2 with
        exports := (s.extendNamespace ps).2.exports
        registry := (s.extendNamespace ps).2.registry } := rfl
  rw [hrest, (addConstructors_eq s.constructible s).2]

/-- What an extension makes of the names depends on the names, the engine and the slots only. -/
theorem SameNames.extendNamespace (h : SameNames s again) (ha : Alongside s again)
    (ps : List Plugin) : SameNames (s.extendNamespace ps).2 (again.extendNamespace ps).2 where
  exports := by
    have hexports : ∀ s : Session, (s.extendNamespace ps).2.exports =
        (((s.exports.merge (s.upcoming.map Prod.fst)).2.merge
          (s.registry.withhold (owners s.upcoming)).names).2.merge
            ((s.registry.withhold (owners s.upcoming)).registerAll ps).1.names).2 := by
      intro s
      obtain ⟨hnames, hs⟩ := addConstructors_eq s.constructible s
      show (((((s.addConstructors s.constructible).2.exports.merge
        (s.addConstructors s.constructible).1.1).2.merge
          (s.addConstructors s.constructible).2.registry.names).2).merge
            ((s.addConstructors s.constructible).2.registry.registerAll ps).1.names).2 = _
      rw [hs, hnames]
      rfl
    rw [hexports, hexports, h.exports, h.registry, ha.upcoming]
  registry := by
    rw [registry_extendNamespace, registry_extendNamespace, h.registry, ha.upcoming]
  constructors := by
    rw [constructors_extendNamespace, constructors_extendNamespace, h.constructors, ha.upcoming]

/-- What a load makes of the names depends on the names only. -/
theorem SameNames.loadPlugin (h : SameNames s again) (p : Plugin) :
    SameNames (loadPlugin p s).2 (loadPlugin p again).2 where
  exports := by
    cases hregister : Registry.register p s.registry with
    | mk answer registry =>
      have hagain := hregister
      rw [← h.registry] at hagain
      cases answer with
      | error cause =>
        have hload : Session.loadPlugin p s = _ := Step.bind_error (Step.within_error hregister)
        have hload' : Session.loadPlugin p again = _ := Step.bind_error (Step.within_error hagain)
        rw [hload, hload']
        exact h.exports
      | ok registration =>
        have hload : Session.loadPlugin p s = _ := Step.bind_ok (Step.within_ok hregister)
        have hload' : Session.loadPlugin p again = _ := Step.bind_ok (Step.within_ok hagain)
        rw [hload, hload']
        show (again.exports.merge registration.names).2 = (s.exports.merge registration.names).2
        rw [h.exports]
  registry := by rw [registry_loadPlugin, registry_loadPlugin, h.registry]
  constructors := by rw [constructors_loadPlugin, constructors_loadPlugin, h.constructors]

/-- The session has the names that an extension with these plugins left behind. -/
structure Extended (ps : List Plugin) (s again : Session) : Prop where
  alongside : Alongside (s.extendNamespace ps).2 again
  names : SameNames (s.extendNamespace ps).2 again

section Again

variable (h : Extended ps s again)

include h

theorem Extended.upcoming : again.upcoming = s.upcoming :=
  h.alongside.upcoming.trans (alongside_extendNamespace ps s).upcoming

/-- The second extension has nothing to reserve. -/
theorem Extended.withhold : again.registry.withhold (owners again.upcoming) = again.registry := by
  rw [h.upcoming, h.names.registry, registry_extendNamespace, Registry.withhold_registerAll]

theorem Extended.registry : (again.extendNamespace ps).2.registry = again.registry := by
  rw [registry_extendNamespace, h.withhold, h.names.registry, registry_extendNamespace,
    Registry.registerAll_registerAll]

theorem Extended.constructors :
    (again.extendNamespace ps).2.constructors = again.constructors := by
  rw [constructors_extendNamespace, h.upcoming, h.names.constructors, constructors_extendNamespace,
    OrderedMap.insertMany_insertMany]

theorem Extended.sweepNames :
    (again.extendNamespace ps).1.sweep.names = (s.extendNamespace ps).1.sweep.names := by
  have hreserved : again.registry.reserved =
      (s.registry.withhold (owners s.upcoming)).reserved := by
    rw [h.names.registry, registry_extendNamespace]
    exact (Registry.enrolled_registerAll ps _).reserved
  rw [(names_sweep_extendNamespace ps again).1, (names_sweep_extendNamespace ps s).1, h.withhold,
    Registry.names_registerAll_congr hreserved]

/-- All that the second extension could export is exported. -/
theorem Extended.mem_exports {n : String} (hn : n ∈ (again.extendNamespace ps).2.exports.names) :
    n ∈ again.exports.names := by
  rw [mem_exports_extendNamespace, h.withhold, h.sweepNames, h.upcoming] at hn
  rw [h.names.exports]
  rcases hn with hold | ⟨hmade | hregistered | htaken, hvalid⟩
  · rwa [h.names.exports] at hold
  · exact mem_exports_extendNamespace.mpr (Or.inr ⟨Or.inl hmade, hvalid⟩)
  · rw [h.names.registry, registry_extendNamespace] at hregistered
    have hnew := (Registry.enrolled_registerAll ps _).new n hregistered
    rw [← (names_sweep_extendNamespace ps s).1] at hnew
    exact mem_exports_extendNamespace.mpr (Or.inr ⟨Or.inr hnew, hvalid⟩)
  · exact mem_exports_extendNamespace.mpr (Or.inr ⟨Or.inr (Or.inr htaken), hvalid⟩)

theorem Extended.added : (again.extendNamespace ps).1.exports.added = [] := by
  have hgrown := names_extendNamespace ps again
  have hnodup := (again.extendNamespace ps).2.exports.nodup
  rw [hgrown, List.nodup_append] at hnodup
  refine List.eq_nil_iff_forall_not_mem.mpr fun n hn => ?_
  have hthere := h.mem_exports (hgrown ▸ List.mem_append_right _ hn)
  exact hnodup.2.2 n hthere n hn rfl

/-- The second extension changes nothing. -/
theorem Extended.same : (again.extendNamespace ps).2 = again := by
  have hexports : (again.extendNamespace ps).2.exports = again.exports := by
    refine ExportList.ext ?_
    rw [names_extendNamespace, h.added, List.append_nil]
  rw [extendNamespace_eq, hexports, h.registry, h.constructors]

end Again

theorem extended_extendNamespace (ps : List Plugin) (s : Session) :
    Extended ps s (s.extendNamespace ps).2 :=
  ⟨⟨rfl, rfl⟩, rfl, rfl, rfl⟩

/-- The configuration may have been exchanged in between. -/
theorem Extended.withConfig (h : Extended ps s again) (config : Config) :
    Extended ps s { again with config := config } :=
  ⟨h.alongside, h.names.exports, h.names.registry, h.names.constructors⟩

/-- What a second extension finds to do : nothing. -/
structure Repeats (ps : List Plugin) (s again : Session) : Prop where
  /-- It leaves the session as it is, -/
  same : (again.extendNamespace ps).2 = again
  /-- and the exports, the constructors and the registry, in all their orders, as the first
  extension left them. -/
  names : SameNames (s.extendNamespace ps).2 (again.extendNamespace ps).2
  /-- It exports nothing new, and no name is refused. -/
  added : (again.extendNamespace ps).1.exports.added = []
  failed : (again.extendNamespace ps).1.exports.failed = []
  /-- The sweep takes the same names, and the same plugins cannot be scanned. -/
  sweepNames : (again.extendNamespace ps).1.sweep.names = (s.extendNamespace ps).1.sweep.names
  sweepFailed : (again.extendNamespace ps).1.sweep.failed = (s.extendNamespace ps).1.sweep.failed

/-- All names that a second extension offers are valid, as those of a clean session are. -/
theorem Clean.repeats (hs : s.Clean) (h : Extended ps s again) : Repeats ps s again := by
  have hclean := hs.lengthens (lengthens_extendNamespace ps s)
  have hagain : again.Clean := by
    constructor
    case builtin => exact h.names.exports ▸ hclean.builtin
    case exported => exact h.names.exports ▸ hclean.exported
    case registered => exact h.names.registry ▸ hclean.registered
  constructor
  case same => exact h.same
  case names => exact h.same.symm ▸ h.names
  case added => exact h.added
  case failed => exact (hagain.reported_extendNamespace ps).failed
  case sweepNames => exact h.sweepNames
  case sweepFailed =>
    rw [(names_sweep_extendNamespace ps again).2, (names_sweep_extendNamespace ps s).2]

end Session

/-- An extension that is made again with the same plugins, on the same engine, changes nothing and
exports nothing new, and its sweep takes the same names. The plugins may fail, come twice, take
names from each other and contribute the names of constructors. -/
theorem extension_repeats {e : Engine} {start : Session} (hstart : Session.Starts e start)
    (ops : List Session.Op) (ps : List Plugin) {again : Session}
    (h : Session.Extended ps (start.run ops) again) :
    Session.Repeats ps (start.run ops) again := by
  obtain ⟨id, createdAt, config, hnew⟩ := Session.sameNames_of_starts hstart
  have hclean : start.Clean := (Session.clean_new id createdAt e config).lengthens hnew.lengthens
  exact (hclean.run ops).repeats h

/-- Two plugins take a name from each other, the first of them twice; one of its functions has the
name of a constructor. A third plugin cannot be scanned. Another configuration does not matter. -/
theorem extension_repeats_rebinding :
    let first : Plugin := ⟨"first", .ok [.arity "half", .arity "Sphere", .arity "_hidden"]⟩
    let broken : Plugin := ⟨"broken", .error (.failed "no such file")⟩
    let second : Plugin := ⟨"second", .ok [.echo "half" "", .arity "count"]⟩
    let ps := [first, broken, second, first]
    let s := Session.new "" "" .new .default
    let ops : List Session.Op := [.connect, .loadPlugin second]
    let once := ((s.run ops).extendNamespace ps).2
    let again := { once with config := { once.config with satellite := true } }
    Session.Starts .new s ∧ Session.Extended ps (s.run ops) again ∧
      Session.Repeats ps (s.run ops) again ∧
      (again.extendNamespace ps).1.sweep.names = ["half", "half", "count", "half"] ∧
      (again.extendNamespace ps).1.sweep.failed = [("broken", .failed "no such file")] ∧
      (again.extendNamespace ps).2.registry.names = ["half", "count"] ∧
      (again.extendNamespace ps).2.registry.origin? "half" = some "first" := by
  intro first broken second ps s ops once again
  have hstart : Session.Starts .new s := ⟨"", "", .default, Or.inl rfl⟩
  have hextended : Session.Extended ps (s.run ops) again :=
    (Session.extended_extendNamespace ps (s.run ops)).withConfig _
  have hrepeats := extension_repeats hstart ops ps hextended
  refine ⟨hstart, hextended, hrepeats, ?_, ?_, ?_, ?_⟩
  · rw [hrepeats.sweepNames]
    decide +kernel
  · rw [hrepeats.sweepFailed]
    decide +kernel
  · rw [hrepeats.same]
    decide +kernel
  · rw [hrepeats.same]
    decide +kernel

end VizSession
