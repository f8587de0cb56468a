import VizSession.Proofs.Names

/-!
# When extension passes are made

An extension pass without plugins (`extendNamespace []`) makes the constructors of the active
connection, which reserves their names, and exports the constructors and what the registry
has. A function of a plugin under the name of a constructor is dropped when the pass comes
after the plugin, and refused when it comes before. Either way the outcome is the same : the
next pass brings two sessions to the same names (`Session.Converge`) no matter whether one of
them has made a pass before (`converge_pass`), and this stays so when both load a plugin
(`Converge.load`).

For the registry this comes down to one law : names that are reserved in the end can be
reserved before as well (`Registry.withhold_register`).
-/

namespace VizSession

/-! ## Reserving many names -/

namespace Registry

/-- Reserves names for their owners, one after another. -/
def withhold (r : Registry) (owners : List (String × String)) : Registry where
  entries := r.entries.filter fun n _ => n ∉ owners.map Prod.fst
  plugins := r.plugins
  reserved := r.reserved.insertMany owners

theorem withhold_nil (r : Registry) : r.withhold [] = r := by
  have hentries : r.entries.filter (fun _ _ => true) = r.entries := by
    refine OrderedMap.ext ?_
    simp [OrderedMap.filter]
  unfold withhold
  simp only [List.map_nil, List.not_mem_nil, not_false_eq_true, decide_true, hentries]
  rfl

theorem withhold_cons (r : Registry) (name owner : String) (owners : List (String × String)) :
    r.withhold ((name, owner) :: owners) = (r.reserve name owner).2.withhold owners := by
  have hentries : (r.entries.filter fun n _ => n ∉ name :: owners.map Prod.fst) =
      (r.entries.erase name).filter fun n _ => n ∉ owners.map Prod.fst := by
    refine OrderedMap.ext ((List.filter_congr fun e _ => ?_).trans (List.filter_filter ..).symm)
    rw [Bool.eq_iff_iff]
    simp [and_comm]
  unfold withhold reserve
  rw [List.map_cons, hentries]
  rfl

section Withhold

variable {r : Registry} {owners : List (String × String)}

/-- No function is left under a name that is reserved. -/
theorem filter_withhold :
    (r.withhold owners).entries.filter (fun n _ => n ∉ owners.map Prod.fst) =
      (r.withhold owners).entries := by
  refine OrderedMap.ext ?_
  simp [withhold, OrderedMap.filter, List.filter_filter]

/-- What is reserved is reserved. -/
theorem withhold_withhold : (r.withhold owners).withhold owners = r.withhold owners := by
  rw [withhold, filter_withhold]
  exact congrArg (Registry.mk _ _) (OrderedMap.insertMany_insertMany ..)

theorem mem_names_withhold_iff {n : String} :
    n ∈ (r.withhold owners).names ↔ n ∈ r.names ∧ n ∉ owners.map Prod.fst := by
  have hnames : (r.withhold owners).names = r.names.filter fun n => n ∉ owners.map Prod.fst :=
    OrderedMap.keys_filter ..
  rw [hnames, List.mem_filter, decide_eq_true_eq]

/-- The registry after a function was registered or refused. -/
def enter (plugin : String) (r : Registry) (c : Callable) : Registry :=
  if ExportName.isPublic c.name ∧ r.owner? c.name = none then
    { r with entries := r.entries.insert c.name ⟨plugin, c⟩ }
  else r

theorem snd_enroll (plugin : String) (state : Registration × Registry) (c : Callable) :
    (enroll plugin state c).2 = state.2.enter plugin c := by
  obtain ⟨report, r⟩ := state
  unfold enroll enter
  dsimp only
  cases hpublic : ExportName.isPublic c.name with
  | false => simp
  | true => cases howner : r.owner? c.name <;> simp

theorem snd_foldl_enroll (plugin : String) (cs : List Callable)
    (state : Registration × Registry) :
    (cs.foldl (enroll plugin) state).2 = cs.foldl (enter plugin) state.2 := by
  induction cs generalizing state with
  | nil => rfl
  | cons c cs ih => rw [List.foldl_cons, List.foldl_cons, ih, snd_enroll]

theorem owner?_withhold (n : String) (hn : n ∉ owners.map Prod.fst) :
    (r.withhold owners).owner? n = r.owner? n :=
  OrderedMap.find?_insertMany_of_not_mem hn

theorem owner?_withhold_of_mem {n : String} (hn : n ∈ owners.map Prod.fst) :
    (r.withhold owners).owner? n ≠ none := by
  have hmem : n ∈ (r.withhold owners).reserved.keys :=
    OrderedMap.mem_keys_insertMany.mpr (Or.inr hn)
  exact Option.isSome_iff_ne_none.mp (OrderedMap.mem_keys_iff.mp hmem)

/-- A function under a name that is reserved in the end is refused or dropped. -/
theorem withhold_enter (plugin : String) (c : Callable) :
    ((r.withhold owners).enter plugin c).withhold owners =
      (r.enter plugin c).withhold owners := by
  by_cases hc : c.name ∈ owners.map Prod.fst
  · have hrefused : (r.withhold owners).enter plugin c = r.withhold owners :=
      if_neg fun h => owner?_withhold_of_mem hc h.2
    rw [hrefused, withhold_withhold]
    unfold enter
    split
    · have hdropped := r.entries.filter_insert_neg (q := fun n => n ∉ owners.map Prod.fst)
        (decide_eq_false (not_not_intro hc)) ⟨plugin, c⟩
      unfold withhold
      rw [hdropped]
    · rfl
  · unfold enter
    rw [owner?_withhold c.name hc]
    split
    · have hentries : ((r.withhold owners).entries.insert c.name ⟨plugin, c⟩).filter
            (fun n _ => n ∉ owners.map Prod.fst) =
          (r.entries.insert c.name ⟨plugin, c⟩).filter fun n _ => n ∉ owners.map Prod.fst := by
        have hkept : decide (c.name ∉ owners.map Prod.fst) = true := decide_eq_true hc
        rw [OrderedMap.filter_insert_pos (q := fun n => n ∉ owners.map Prod.fst) _ hkept,
          OrderedMap.filter_insert_pos (q := fun n => n ∉ owners.map Prod.fst) _ hkept,
          filter_withhold]
        rfl
      have hreserved : (r.withhold owners).reserved.insertMany owners =
          r.reserved.insertMany owners := OrderedMap.insertMany_insertMany ..
      show Registry.mk _ _ _ = Registry.mk _ _ _
      rw [hentries, hreserved]
      rfl
    · exact withhold_withhold

theorem withhold_foldl_enter (plugin : String) (cs : List Callable) :
    (cs.foldl (enter plugin) (r.withhold owners)).withhold owners =
      (cs.foldl (enter plugin) r).withhold owners := by
  induction cs generalizing r with
  | nil => exact withhold_withhold
  | cons c cs ih => rw [List.foldl_cons, List.foldl_cons, ← ih, withhold_enter, ih]

theorem withhold_markScanned (plugin : String) :
    (r.markScanned plugin).withhold owners = (r.withhold owners).markScanned plugin := by
  unfold markScanned
  split
  · rename_i h
    rw [if_pos (show plugin ∈ (r.withhold owners).plugins from h)]
  · rename_i h
    rw [if_neg (show plugin ∉ (r.withhold owners).plugins from h)]
    rfl

/-- Names that are reserved after a plugin was scanned can be reserved before as well. -/
theorem withhold_register (p : Plugin) :
    (register p (r.withhold owners)).2.withhold owners =
      (register p r).2.withhold owners := by
  unfold register
  cases p.contributions with
  | error cause => exact withhold_withhold
  | ok cs =>
    dsimp only
    rw [withhold_markScanned, withhold_markScanned, snd_foldl_enroll, snd_foldl_enroll,
      withhold_foldl_enter]

end Withhold

end Registry

namespace Session

variable {s s' : Session}

/-! ## Passes -/

/-- The definitions that have constructors, with the names of the constructors. -/
def named (ds : List Definition) : List (String × Definition) :=
  ds.filterMap fun d => (constructorName? d).map fun name => (name, d)

/-- The names of constructors with their owners, for the registry. -/
def owners (constructors : List (String × Definition)) : List (String × String) :=
  constructors.map fun c => (c.1, s!"the constructor for '{c.2.name}'")

theorem map_fst_owners (constructors : List (String × Definition)) :
    (owners constructors).map Prod.fst = constructors.map Prod.fst := by
  simp [owners, Function.comp_def]

/-- What adding constructors one after another comes to : the names are reserved in the registry,
and the constructors are inserted in their order. -/
theorem addConstructors_eq (ds : List Definition) (s : Session) :
    (s.addConstructors ds).1.1 = (named ds).map Prod.fst ∧
      (s.addConstructors ds).2 =
        { s with
          registry := s.registry.withhold (owners (named ds))
          constructors := s.constructors.insertMany (named ds) } := by
  induction ds generalizing s with
  | nil =>
    refine ⟨rfl, ?_⟩
    rw [show owners (named []) = [] from rfl, Registry.withhold_nil]
    rfl
  | cons d ds ih =>
    unfold addConstructors
    cases hname : constructorName? d with
    | none =>
      have hnamed : named (d :: ds) = named ds := List.filterMap_cons_none (by rw [hname]; rfl)
      rw [hnamed]
      exact ih s
    | some name =>
      have hnamed : named (d :: ds) = (name, d) :: named ds :=
        List.filterMap_cons_some (by rw [hname]; rfl)
      obtain ⟨hnames, hs⟩ := ih (s.addConstructor name d)
      dsimp only
      rw [hnamed, hnames, hs]
      refine ⟨rfl, ?_⟩
      rw [show owners ((name, d) :: named ds) = (name, s!"the constructor for '{d.name}'") ::
        owners (named ds) from rfl, Registry.withhold_cons]
      rfl

/-- The constructors that a pass makes. -/
def upcoming (s : Session) : List (String × Definition) := named s.constructible

theorem Alongside.upcoming (h : Alongside s s') : s'.upcoming = s.upcoming := by
  unfold Session.upcoming constructible
  rw [h.1, h.2]

theorem registry_extendNamespace (ps : List Plugin) (s : Session) :
    (s.extendNamespace ps).2.registry =
      ((s.registry.withhold (owners s.upcoming)).registerAll ps).2 := by
  have hregistry : (s.extendNamespace ps).2.registry =
      ((s.addConstructors s.constructible).2.registry.registerAll ps).2 := rfl
  rw [hregistry, (addConstructors_eq s.constructible s).2]
  rfl

/-- The sweep that an extension reports, but for the functions that were dropped before it. -/
theorem sweep_extendNamespace (ps : List Plugin) (s : Session) :
    ∃ lost, (s.extendNamespace ps).1.sweep =
      ⟨[], [], lost, []⟩ ++ ((s.registry.withhold (owners s.upcoming)).registerAll ps).1 := by
  refine ⟨(s.addConstructors s.constructible).1.2, ?_⟩
  have hsweep : (s.extendNamespace ps).1.sweep =
      ⟨[], [], (s.addConstructors s.constructible).1.2, []⟩ ++
        ((s.addConstructors s.constructible).2.registry.registerAll ps).1 := rfl
  rw [hsweep, (addConstructors_eq s.constructible s).2]
  rfl

theorem registry_pass (s : Session) :
    (s.extendNamespace []).2.registry = s.registry.withhold (owners s.upcoming) :=
  registry_extendNamespace [] s

theorem constructors_extendNamespace (ps : List Plugin) (s : Session) :
    (s.extendNamespace ps).2.constructors = s.constructors.insertMany s.upcoming :=
  congrArg Session.constructors (addConstructors_eq s.constructible s).2

/-- An extension exports the names of constructors, of functions that were registered before, and
of those that the plugins took, if they are valid. -/
theorem mem_exports_extendNamespace {n : String} :
    n ∈ (s.extendNamespace ps).2.exports.names ↔ n ∈ s.exports.names ∨
      (n ∈ s.upcoming.map Prod.fst ∨ n ∈ (s.registry.withhold (owners s.upcoming)).names ∨
        n ∈ (s.extendNamespace ps).1.sweep.names) ∧ ExportName.isValid n = true := by
  obtain ⟨hnames, hs⟩ := addConstructors_eq s.constructible s
  have hsweep : (s.extendNamespace ps).1.sweep.names =
      ((s.registry.withhold (owners s.upcoming)).registerAll ps).1.names := by
    obtain ⟨lost, h⟩ := sweep_extendNamespace ps s
    rw [h]
    rfl
  have hexports : n ∈ (s.extendNamespace ps).2.exports.names ↔
      n ∈ (((((s.addConstructors s.constructible).2.exports.merge
        (s.addConstructors s.constructible).1.1).2.merge
          (s.addConstructors s.constructible).2.registry.names).2).merge
            ((s.addConstructors s.constructible).2.registry.registerAll ps).1.names).2.names :=
    Iff.rfl
  rw [hexports, hs, hnames, ExportList.mem_merge_iff, ExportList.mem_merge_iff,
    ExportList.mem_merge_iff, hsweep, or_and_right, or_and_right,
    or_assoc, or_assoc]
  rfl

/-- A pass exports the constructors and the functions of the registry, if their names are
valid. -/
theorem mem_exports_pass {n : String} : n ∈ (s.extendNamespace []).2.exports.names ↔
    n ∈ s.exports.names ∨
      (n ∈ s.upcoming.map Prod.fst ∨ n ∈ (s.extendNamespace []).2.registry.names) ∧
        ExportName.isValid n = true := by
  obtain ⟨lost, hsweep⟩ := sweep_extendNamespace [] s
  have hnone : n ∉ (s.extendNamespace []).1.sweep.names := by
    rw [hsweep]
    exact List.not_mem_nil
  rw [mem_exports_extendNamespace, registry_pass, or_iff_left hnone]

theorem registry_loadPlugin (p : Plugin) (s : Session) :
    (loadPlugin p s).2.registry = (Registry.register p s.registry).2 := by
  cases h : Registry.register p s.registry with
  | mk result registry =>
    cases result with
    | error cause =>
      have hload : loadPlugin p s = _ := Step.bind_error (Step.within_error h)
      rw [hload]
    | ok registration =>
      have hload : loadPlugin p s = _ := Step.bind_ok (Step.within_ok h)
      rw [hload]
      rfl

theorem constructors_loadPlugin (p : Plugin) (s : Session) :
    (loadPlugin p s).2.constructors = s.constructors := by
  obtain ⟨-, -, h, -⟩ := loadPlugin_names p s
  exact h

/-- What a load and the pass after it export is what a pass exports now, and what is in the
registry in the end. -/
theorem mem_exports_load_pass (p : Plugin) {n : String} :
    n ∈ ((loadPlugin p s).2.extendNamespace []).2.exports.names ↔
      n ∈ (s.extendNamespace []).2.exports.names ∨
        n ∈ ((loadPlugin p s).2.extendNamespace []).2.registry.names ∧
          ExportName.isValid n = true := by
  have hupcoming := (alongside_loadPlugin p s).upcoming
  obtain ⟨taken, henrolled, -, hexports⟩ := loadPlugin_names p s
  rw [mem_exports_pass, mem_exports_pass, hexports, hupcoming]
  have hregistry : ∀ n, n ∈ ((loadPlugin p s).2.extendNamespace []).2.registry.names ↔
      n ∈ (loadPlugin p s).2.registry.names ∧ n ∉ s.upcoming.map Prod.fst := by
    intro n
    rw [registry_pass, hupcoming, Registry.mem_names_withhold_iff, map_fst_owners]
  -- a name that a plugin took or that was there before is there afterwards, or is that of a
  -- constructor
  have hstays : n ∈ taken ∨ n ∈ (s.extendNamespace []).2.registry.names →
      n ∈ s.upcoming.map Prod.fst ∨
        n ∈ ((loadPlugin p s).2.extendNamespace []).2.registry.names := by
    intro hn
    rw [hregistry]
    by_cases hmade : n ∈ s.upcoming.map Prod.fst
    · exact Or.inl hmade
    · refine Or.inr ⟨hn.elim (henrolled.taken n) fun hold => henrolled.kept n ?_, hmade⟩
      rw [registry_pass, Registry.mem_names_withhold_iff] at hold
      exact hold.1
  constructor
  · rintro ((hold | ⟨htaken, hvalid⟩) | ⟨hmade | hthere, hvalid⟩)
    · exact Or.inl (Or.inl hold)
    · rcases hstays (Or.inl htaken) with hmade | hthere
      · exact Or.inl (Or.inr ⟨Or.inl hmade, hvalid⟩)
      · exact Or.inr ⟨hthere, hvalid⟩
    · exact Or.inl (Or.inr ⟨Or.inl hmade, hvalid⟩)
    · exact Or.inr ⟨hthere, hvalid⟩
  · rintro ((hold | ⟨hmade | hthere, hvalid⟩) | ⟨hthere, hvalid⟩)
    · exact Or.inl (Or.inl hold)
    · exact Or.inr ⟨Or.inl hmade, hvalid⟩
    · exact Or.inr ⟨hstays (Or.inr hthere), hvalid⟩
    · exact Or.inr ⟨Or.inr hthere, hvalid⟩

/-! ## Sessions that a pass brings together -/

/-- The two sessions have the same names : they export the same, they have the same
constructors, and their registries are the same. -/
structure Agree (s s' : Session) : Prop where
  exports : ∀ n, n ∈ s.exports.names ↔ n ∈ s'.exports.names
  constructors : s.constructors = s'.constructors
  registry : s.registry = s'.registry

/-- A pass now brings the two sessions to the same names. -/
structure Converge (s s' : Session) : Prop where
  alongside : Alongside s' s
  agree : Agree (s.extendNamespace []).2 (s'.extendNamespace []).2

theorem Converge.refl (s : Session) : Converge s s :=
  ⟨⟨rfl, rfl⟩, fun _ => Iff.rfl, rfl, rfl⟩

theorem Converge.trans {s'' : Session} (h : Converge s s') (h' : Converge s' s'') :
    Converge s s'' where
  alongside := ⟨h.alongside.1.trans h'.alongside.1, h.alongside.2.trans h'.alongside.2⟩
  agree := ⟨fun n => (h.agree.exports n).trans (h'.agree.exports n),
    h.agree.constructors.trans h'.agree.constructors, h.agree.registry.trans h'.agree.registry⟩

/-- A pass makes no difference to the next pass. -/
theorem converge_pass (s : Session) : Converge (s.extendNamespace []).2 s := by
  have halongside := alongside_extendNamespace [] s
  have hupcoming := halongside.upcoming
  have hregistry : ((s.extendNamespace []).2.extendNamespace []).2.registry =
      (s.extendNamespace []).2.registry := by
    rw [registry_pass, hupcoming, registry_pass, Registry.withhold_withhold]
  refine ⟨halongside, fun n => ?_, ?_, hregistry⟩
  · rw [mem_exports_pass, hupcoming, hregistry]
    refine ⟨fun h => h.elim (fun hold => hold) fun hnew => ?_, Or.inl⟩
    exact mem_exports_pass.mpr (Or.inr hnew)
  · rw [constructors_extendNamespace, hupcoming, constructors_extendNamespace,
      OrderedMap.insertMany_insertMany]

/-- Loading a plugin keeps what the next pass brings together. -/
theorem Converge.load (h : Converge s s') (p : Plugin) :
    Converge (loadPlugin p s).2 (loadPlugin p s').2 := by
  have hupcoming : s.upcoming = s'.upcoming := h.alongside.upcoming
  have hs := alongside_loadPlugin p s
  have hs' := alongside_loadPlugin p s'
  have hregistry : ((loadPlugin p s).2.extendNamespace []).2.registry =
      ((loadPlugin p s').2.extendNamespace []).2.registry := by
    have hsame := h.agree.registry
    rw [registry_pass, registry_pass, ← hupcoming] at hsame
    rw [registry_pass, registry_pass, hs.upcoming, hs'.upcoming, ← hupcoming,
      registry_loadPlugin, registry_loadPlugin, ← Registry.withhold_register, hsame,
      Registry.withhold_register]
  refine ⟨⟨?_, ?_⟩, fun n => ?_, ?_, hregistry⟩
  · rw [hs.1, hs'.1, h.alongside.1]
  · rw [hs.2, hs'.2, h.alongside.2]
  · rw [mem_exports_load_pass, mem_exports_load_pass, h.agree.exports, hregistry]
  · have hsame := h.agree.constructors
    rw [constructors_extendNamespace, constructors_extendNamespace] at hsame ⊢
    rw [constructors_loadPlugin, constructors_loadPlugin, hs.upcoming, hs'.upcoming, hsame]

/-! ## Loads and passes in any order -/

/-- A call that brings names in. -/
inductive Extension where
  /-- A plugin is loaded. -/
  | load (p : Plugin)
  /-- A pass is made. -/
  | pass

/-- The method that is called. -/
def Extension.op : Extension → Op
  | load p => .loadPlugin p
  | pass => .extendNamespace []

/-- The plugin that is loaded. -/
def Extension.plugin? : Extension → Option Plugin
  | load p => some p
  | pass => none

/-- Passes in between make no difference : the loads alone lead to a session that the next pass
makes agree. -/
theorem converge_run (calls : List Extension) (h : Converge s s') :
    Converge (s.run (calls.map Extension.op))
      (s'.run ((calls.filterMap Extension.plugin?).map Op.loadPlugin)) := by
  induction calls generalizing s s' with
  | nil => exact h
  | cons call calls ih =>
    cases call with
    | load p =>
      have hload : ∀ s : Session, (perform (.loadPlugin p) s).2 = (loadPlugin p s).2 :=
        fun s => Step.snd_bind_pure ..
      have hstep := h.load p
      rw [← hload, ← hload] at hstep
      exact ih hstep
    | pass => exact ih ((converge_pass s).trans h)

end Session

/-- When extension passes are made between loads of plugins does not matter, as long as there
is one in the end : the same names are exported, every constructor has the same definition, and
the registry is the same as without the other passes. -/
theorem passes_any_time (s : Session) (calls : List Session.Extension) :
    Session.Agree (s.run (calls.map Session.Extension.op ++ [.extendNamespace []]))
      (s.run ((calls.filterMap Session.Extension.plugin?).map Session.Op.loadPlugin ++
        [.extendNamespace []])) := by
  have hconverge := Session.converge_run calls (.refl s)
  rw [Session.run_append, Session.run_append]
  exact hconverge.agree

/-- A function under the name of a constructor is there until the next pass, and refused when
the pass was made before. -/
example :
    let plugin : Plugin := ⟨"shapes", .ok [.arity "Sphere"]⟩
    let s := (Session.new "" "" .new .default).run [.connect]
    (s.run [.loadPlugin plugin]).registry.names = ["Sphere"] ∧
      (s.run [.loadPlugin plugin, .extendNamespace []]).registry.names = [] ∧
        (s.run [.extendNamespace [], .loadPlugin plugin]).registry.names = [] := by
  decide +kernel

end VizSession
