import VizSession.Proofs.Providers

/-!
# The export list as a log

The export list of a session begins with the names of the built-in functions, and whatever is
done it only grows at its end, by valid names (`Session.Lengthens`). What is added is what the
report of the extension says (`Session.Logs`), and apart from names that are offered by hand
nothing that is offered can fail : the names of constructors are identifiers, and plugins have
public names in the registry only (`Session.Clean`).

Operations that are no extensions do not touch the list, which follows from the chains of
moves that they are (`turns_perform`).
-/

namespace VizSession

open Relation

theorem ExportName.isValid_of_isPublic {n : String} (h : isPublic n = true) : isValid n = true :=
  (Bool.and_eq_true_iff.mp h).2

namespace Builtin

theorem names_exports : exports.names = names := by decide +kernel

theorem isValid_of_mem_names : ∀ n ∈ names, ExportName.isValid n = true := by decide

end Builtin

/-- Of names that are all valid none fails. -/
theorem ExportList.failed_merge {names : List String}
    (h : ∀ n ∈ names, ExportName.isValid n = true) (l : ExportList) :
    (l.merge names).1.failed = [] := by
  induction names generalizing l with
  | nil => rfl
  | cons name names ih =>
    have hverdict : (l.verdict name).failed = [] := by
      unfold verdict
      rw [Option.isNone_iff_eq_none.mp (h name List.mem_cons_self)]
      dsimp only
      split
      · rfl
      · rfl
    have hrest := ih (fun n hn => h n (List.mem_cons_of_mem _ hn)) (l.offer name)
    rw [merge, MergeReport.failed_append, hverdict, hrest, List.append_nil]

namespace Session

variable {s s' : Session}

/-! ## Growing at the end -/

/-- From the first session to the second names were added at the end of the export list, and
what is new there and in the registry is valid. -/
structure Lengthens (s s' : Session) : Prop where
  names : s.exports.names <+: s'.exports.names
  exported : ∀ n ∈ s'.exports.names, n ∈ s.exports.names ∨ ExportName.isValid n = true
  registered : ∀ n ∈ s'.registry.names, n ∈ s.registry.names ∨ ExportName.isValid n = true

theorem SameNames.lengthens (h : SameNames s s') : Lengthens s s' where
  names := h.exports ▸ List.prefix_rfl
  exported _ hn := Or.inl (h.exports ▸ hn)
  registered _ hn := Or.inl (h.registry ▸ hn)

theorem Lengthens.trans {s'' : Session} (h : Lengthens s s') (h' : Lengthens s' s'') :
    Lengthens s s'' where
  names := h.names.trans h'.names
  exported n hn := (h'.exported n hn).elim (h.exported n) Or.inr
  registered n hn := (h'.registered n hn).elim (h.registered n) Or.inr

theorem lengthens_extendExports (names : List String) (s : Session) :
    Lengthens s (s.extendExports names).2 where
  names := ⟨_, (ExportList.names_merge s.exports names).symm⟩
  exported _ hn := (ExportList.mem_merge_iff.mp hn).imp_right And.right
  registered _ hn := Or.inl hn

/-- Plugins bring valid names only. -/
theorem lengthens_of_enrolled {taken : List String}
    (h : Registry.Enrolled s.registry s'.registry taken) (hexports : s'.exports = s.exports) :
    Lengthens s s' where
  names := hexports ▸ List.prefix_rfl
  exported _ hn := Or.inl (hexports ▸ hn)
  registered n hn :=
    (h.new n hn).imp_right fun ht => ExportName.isValid_of_isPublic (h.isPublic n ht)

theorem lengthens_loadPlugin (p : Plugin) (s : Session) : Lengthens s (loadPlugin p s).2 := by
  rcases loadPlugin_cases p s with ⟨fault, h⟩ | ⟨registration, registry, hok, h⟩
  · rw [h]
    exact SameNames.lengthens ⟨rfl, rfl, rfl⟩
  · have henrolled := Registry.enrolled_register p s.registry
    rw [hok] at henrolled
    have hregistered : Lengthens s { s with registry := registry } :=
      lengthens_of_enrolled henrolled rfl
    rw [h]
    exact hregistered.trans (lengthens_extendExports ..)

theorem lengthens_addConstructors (ds : List Definition) (s : Session) :
    Lengthens s (s.addConstructors ds).2 := by
  have h := constructs_addConstructors ds s
  refine ⟨h.exports ▸ List.prefix_rfl, fun n hn => Or.inl (h.exports ▸ hn), fun n hn => ?_⟩
  exact Or.inl ((h.registered n).mp hn).1

/-- An extension makes constructors, exports three times and scans plugins, and each of these steps
only adds to the list. -/
theorem lengthens_extendNamespace (ps : List Plugin) (s : Session) :
    Lengthens s (s.extendNamespace ps).2 := by
  let s₁ := (s.addConstructors s.constructible).2
  let s₂ := (s₁.extendExports (s.addConstructors s.constructible).1.1).2
  let s₃ := (s₂.extendExports s₂.registry.names).2
  let s₄ : Session := { s₃ with registry := (s₃.registry.registerAll ps).2 }
  have h₁ : Lengthens s s₁ := lengthens_addConstructors ..
  have h₂ : Lengthens s₁ s₂ := lengthens_extendExports ..
  have h₃ : Lengthens s₂ s₃ := lengthens_extendExports ..
  have h₄ : Lengthens s₃ s₄ :=
    lengthens_of_enrolled (Registry.enrolled_registerAll ps s₃.registry) rfl
  exact (((h₁.trans h₂).trans h₃).trans h₄).trans (lengthens_extendExports ..)

theorem Move.lengthens {given : Handle → Prop} (hm : Move given s s') : Lengthens s s' := by
  cases hm with
  | register p =>
    exact lengthens_of_enrolled (Registry.enrolled_register p s.registry) rfl
  | load p => exact lengthens_loadPlugin p s
  | extend ps => exact lengthens_extendNamespace ps s
  | leave => exact (sameNames_leave _ s).lengthens
  | join => exact (sameNames_join s).lengthens
  | occupy k o => exact (sameNames_setActive k o s).lengthens
  | create g name ps => exact (sameNames_create g name ps s).lengthens
  | delete => exact (sameNames_delete _ s).lengthens
  | edit | configure => exact SameNames.lengthens ⟨rfl, rfl, rfl⟩

theorem Moves.lengthens {given : Handle → Prop} (hm : Moves given s s') : Lengthens s s' := by
  induction hm with
  | refl => exact SameNames.lengthens ⟨rfl, rfl, rfl⟩
  | tail _ hstep ih => exact ih.trans hstep.lengthens

theorem lengthens_perform (op : Op) (s : Session) : Lengthens s (perform op s).2 := by
  rcases perform_cases op s with ⟨k, -, h⟩ | ⟨names, -, h⟩ | ⟨o, -, h⟩ | h
  · rw [h]
    exact SameNames.lengthens ⟨rfl, rfl, rfl⟩
  · rw [h]
    exact lengthens_extendExports ..
  · rw [h]
    exact SameNames.lengthens ⟨rfl, rfl, rfl⟩
  · exact Moves.lengthens h

/-! ## Valid names -/

/-- The export list begins with the built-in functions, and exported and registered names are
valid. -/
structure Clean (s : Session) : Prop where
  builtin : Builtin.names <+: s.exports.names
  exported : ∀ n ∈ s.exports.names, ExportName.isValid n = true
  registered : ∀ n ∈ s.registry.names, ExportName.isValid n = true

theorem clean_new (id createdAt : String) (e : Engine) (config : Config) :
    (new id createdAt e config).Clean := by
  have hnames : (new id createdAt e config).exports.names = Builtin.names :=
    Builtin.names_exports
  refine ⟨hnames ▸ List.prefix_rfl, ?_, fun n hn => (List.not_mem_nil (mem_names_foldl hn)).elim⟩
  rw [hnames]
  exact Builtin.isValid_of_mem_names

theorem Clean.lengthens (hs : s.Clean) (h : Lengthens s s') : s'.Clean where
  builtin := hs.builtin.trans h.names
  exported n hn := (h.exported n hn).elim (hs.exported n) fun hvalid => hvalid
  registered n hn := (h.registered n hn).elim (hs.registered n) fun hvalid => hvalid

theorem Clean.run (hs : s.Clean) (ops : List Op) : (s.run ops).Clean := by
  induction ops generalizing s with
  | nil => exact hs
  | cons op ops ih => exact ih (hs.lengthens (lengthens_perform op s))

/-! ## What the reports say -/

/-- The report has the names that were added at the end, and none failed. -/
structure Reported (s s' : Session) (report : MergeReport) : Prop where
  added : s'.exports.names = s.exports.names ++ report.added
  failed : report.failed = []

theorem reported_extendExports {names : List String}
    (h : ∀ n ∈ names, ExportName.isValid n = true) (s : Session) :
    Reported s (s.extendExports names).2 (s.extendExports names).1 where
  added := ExportList.names_merge ..
  failed := ExportList.failed_merge h _

theorem Reported.trans {s'' : Session} {report report' : MergeReport} (h : Reported s s' report)
    (h' : Reported s' s'' report') : Reported s s'' (report ++ report') where
  added := by rw [h'.added, h.added, MergeReport.added_append, List.append_assoc]
  failed := by rw [MergeReport.failed_append, h.failed, h'.failed, List.append_nil]

theorem Reported.of_exports {s₁ s₁' : Session} {report : MergeReport} (h : Reported s s' report)
    (hs : s₁.exports = s.exports) (hs' : s₁'.exports = s'.exports) : Reported s₁ s₁' report :=
  ⟨by rw [hs, hs', h.added], h.failed⟩

/-- A load of a plugin that can be scanned exports the names that the plugin took. -/
theorem reported_loadPlugin {p : Plugin} {registration : Registration} {registry : Registry}
    (hok : Registry.register p s.registry = (.ok registration, registry)) :
    ∃ report, (loadPlugin p s).1 = .ok report ∧
      Reported s (loadPlugin p s).2 report.exports := by
  have hload : loadPlugin p s = _ := Step.bind_ok (Step.within_ok hok)
  have henrolled := Registry.enrolled_register p s.registry
  rw [hok] at henrolled
  have hreported := reported_extendExports (fun n hn =>
    ExportName.isValid_of_isPublic (henrolled.isPublic n hn)) { s with registry := registry }
  rw [hload]
  exact ⟨_, rfl, hreported.of_exports rfl rfl⟩

/-- An extension exports three times : its constructors, the functions that plugins have by then,
and those of the plugins that it scans. All these names are valid, so none fails, and the three
reports together have all that was added. -/
theorem Clean.reported_extendNamespace (hs : s.Clean) (ps : List Plugin) :
    Reported s (s.extendNamespace ps).2 (s.extendNamespace ps).1.exports := by
  have hmade := constructs_addConstructors s.constructible s
  let s₁ := (s.addConstructors s.constructible).2
  let made := (s.addConstructors s.constructible).1.1
  let s₂ := (s₁.extendExports made).2
  let s₃ := (s₂.extendExports s₂.registry.names).2
  have henrolled := Registry.enrolled_registerAll ps s₃.registry
  have h₁ : Reported s₁ s₂ (s₁.extendExports made).1 :=
    reported_extendExports (fun n hn => (hmade.name n hn).1) s₁
  have h₂ : Reported s₂ s₃ (s₂.extendExports s₂.registry.names).1 :=
    reported_extendExports (fun n hn => hs.registered n ((hmade.registered n).mp hn).1) s₂
  have h₃ := reported_extendExports (fun n hn =>
    ExportName.isValid_of_isPublic (henrolled.isPublic n hn))
      { s₃ with registry := (s₃.registry.registerAll ps).2 }
  exact ((h₁.trans h₂).trans (h₃.of_exports rfl rfl)).of_exports hmade.exports.symm rfl

/-- After an extension the functions of plugins are exported. -/
theorem Clean.exported_of_registered (hs : s.Clean) (ps : List Plugin) {n : String}
    (hn : n ∈ (s.extendNamespace ps).2.registry.names) :
    n ∈ (s.extendNamespace ps).2.exports.names := by
  have hvalid := (hs.lengthens (lengthens_extendNamespace ps s)).registered n hn
  obtain ⟨s₁, made, taken, -, htaken, -, hexports⟩ := extendNamespace_names ps s
  exact (hexports n).mpr (Or.inr ⟨Or.inr (htaken.new n hn), hvalid⟩)

/-! ## Operations that export nothing -/

/-- With the answer that it gave, the operation may have exported names : it is an extension,
or it calls one. -/
def Op.MayExport (answer : Except SessionError Reply) : Op → Prop
  | .extendExports _ | .extendNamespace _ => True
  | .loadPlugin _ => ∃ report, answer = .ok (.extended report)
  | .start => ∃ report, answer = .ok (.startup (.extended report))
  | .invoke name args | .dispatch name args => ReachesExtension name args
  | _ => False

theorem snd_perform_start (s : Session) : (perform .start s).2 = (start s).2 :=
  Step.snd_bind_pure ..

theorem snd_perform_loadPlugin (p : Plugin) (s : Session) :
    (perform (.loadPlugin p) s).2 = (loadPlugin p s).2 :=
  Step.snd_bind_pure ..

theorem snd_perform_registerPlugin (p : Plugin) (s : Session) :
    (perform (.registerPlugin p) s).2 = (registerPlugin p s).2 :=
  Step.snd_bind_pure ..

/-- The answer of a method is wrapped up. -/
theorem fst_perform_start {outcome : Startup} (h : (start s).1 = .ok outcome) :
    (perform .start s).1 = .ok (.startup outcome) :=
  congrArg Prod.fst (Step.bind_ok (Prod.ext h rfl))

theorem fst_perform_loadPlugin {p : Plugin} {report : ExtensionReport}
    (h : (loadPlugin p s).1 = .ok report) :
    (perform (.loadPlugin p) s).1 = .ok (.extended report) :=
  congrArg Prod.fst (Step.bind_ok (Prod.ext h rfl))

/-- The operations that may not export leave the list alone : those that take turns, a start that
does not extend, a load that fails, and those that have nothing to do with it. -/
theorem exports_of_not_mayExport {op : Op} (h : ¬op.MayExport (perform op s).1) :
    (perform op s).2.exports = s.exports := by
  by_cases hop : op.Turns
  · exact (sameNames_of_turns (turns_perform hop s)).exports
  cases op with
  | extendExports | extendNamespace => exact absurd trivial h
  | clearActive | setConfig | engine => rfl
  | registerPlugin p =>
    rw [snd_perform_registerPlugin]
    rfl
  | start =>
    rw [snd_perform_start]
    rcases start_cases (fun _ => False) s with hstart | ⟨hturns, -⟩
    · exact absurd ⟨_, fst_perform_start (congrArg Prod.fst hstart)⟩ h
    · exact (sameNames_of_turns hturns).exports
  | loadPlugin p =>
    rw [snd_perform_loadPlugin]
    rcases loadPlugin_cases p s with ⟨fault, hload⟩ | ⟨registration, registry, hok, -⟩
    · rw [hload]
    · obtain ⟨report, hreport, -⟩ := reported_loadPlugin hok
      exact absurd ⟨report, fst_perform_loadPlugin hreport⟩ h
  | invoke | dispatch => exact absurd h hop
  | _ => exact absurd trivial hop

/-! ## Reachable sessions -/

/-- What operations do to the export list is what their reports say. -/
structure Logs (s : Session) : Prop where
  /-- Every operation leaves the list as the beginning of the list after it. -/
  grows : ∀ op, s.exports.names <+: (perform op s).2.exports.names
  /-- Names that are offered are added as the report says. -/
  extendExports : ∀ names, ∃ report,
    (perform (.extendExports names) s).1 = .ok (.merged report) ∧
      (perform (.extendExports names) s).2.exports.names = s.exports.names ++ report.added
  /-- So are the names of a plugin that is loaded, and none of them fails. -/
  loadPlugin : ∀ {p callables}, p.contributions = .ok callables → ∃ report,
    (perform (.loadPlugin p) s).1 = .ok (.extended report) ∧
      Reported s (perform (.loadPlugin p) s).2 report.exports
  /-- An extension does the same. After it the functions of plugins and the constructors are
  exported. -/
  extendNamespace : ∀ plugins, ∃ report,
    (perform (.extendNamespace plugins) s).1 = .ok (.extended report) ∧
      Reported s (perform (.extendNamespace plugins) s).2 report.exports ∧
        ∀ n, n ∈ (perform (.extendNamespace plugins) s).2.registry.names ∨
            n ∈ (perform (.extendNamespace plugins) s).2.constructors.keys →
          n ∈ (perform (.extendNamespace plugins) s).2.exports.names
  /-- Starting that extends the exports does so as well. -/
  start : ∀ {report}, (perform .start s).1 = .ok (.startup (.extended report)) →
    Reported s (perform .start s).2 report.exports
  /-- No other operation changes the list. -/
  unchanged : ∀ {op}, ¬op.MayExport (perform op s).1 → (perform op s).2.exports = s.exports

/-- In a clean session reports tell the truth. That constructors are exported after an extension is
what the tables kept apart are needed for. -/
theorem Clean.logs (hs : s.Clean) (hp : s.Partitioned) : s.Logs where
  grows op := (lengthens_perform op s).names
  extendExports names := ⟨_, rfl, ExportList.names_merge ..⟩
  loadPlugin {p callables} hcallables := by
    obtain ⟨registration, registry, hok⟩ : ∃ registration registry,
        Registry.register p s.registry = (.ok registration, registry) := by
      simp [Registry.register, hcallables]
    obtain ⟨report, hreport, hreported⟩ := reported_loadPlugin hok
    refine ⟨report, fst_perform_loadPlugin hreport, ?_⟩
    rw [snd_perform_loadPlugin]
    exact hreported
  extendNamespace plugins := by
    refine ⟨_, rfl, hs.reported_extendNamespace plugins, fun n hn => ?_⟩
    rcases hn with hregistered | hconstructor
    · exact hs.exported_of_registered plugins hregistered
    · exact ((hp.extendNamespace plugins).constructor n hconstructor).2.1
  start {report} hreport := by
    obtain ⟨outcome, houtcome, hwrapped⟩ := Step.ok_of_bind_pure hreport
    cases hwrapped
    rw [snd_perform_start]
    rcases start_cases (fun _ => False) s with hstart | ⟨-, hnever, -⟩
    · rw [hstart] at houtcome ⊢
      cases houtcome
      exact hs.reported_extendNamespace []
    · exact absurd houtcome (hnever report)
  unchanged := exports_of_not_mayExport

/-- However a session is started, and whatever it and its host do, its export list begins with
the built-in functions, lists no name twice and has valid names only. Every operation leaves it
as the beginning of the list after it, the reports of extensions say what was added, and no
other operation adds to it. -/
theorem export_log_of_run {e : Engine} {start : Session} (hstart : Starts e start)
    (ops : List Op) :
    (Builtin.names <+: (start.run ops).exports.names ∧ (start.run ops).exports.names.Nodup ∧
      ∀ n ∈ (start.run ops).exports.names, ExportName.isValid n = true) ∧
    (start.run ops).Logs := by
  obtain ⟨id, createdAt, config, hnew⟩ := sameNames_of_starts hstart
  have hclean := ((clean_new id createdAt e config).lengthens hnew.lengthens).run ops
  have hpartitioned := ((partitioned_new id createdAt e config).sameNames hnew).run ops
  exact ⟨⟨hclean.builtin, (start.run ops).exports.nodup, hclean.exported⟩,
    hclean.logs hpartitioned⟩

/-- A session connects and loads a plugin, which adds one name. When the namespace is extended
then, the report says what follows it, and the constructor `Sphere` is exported. -/
theorem export_log_of_loaded_plugin :
    let plugin : Plugin := ⟨"shapes", .ok [.arity "volume", .arity "_helper"]⟩
    let start := new "" "" .new .default
    let s := start.run [.connect, .loadPlugin plugin]
    Starts .new start ∧ s.exports.names = Builtin.names ++ ["volume"] ∧
      (∀ n ∈ s.exports.names, ExportName.isValid n = true) ∧
        (∃ report, (perform (.extendNamespace []) s).1 = .ok (.extended report) ∧
          Reported s (perform (.extendNamespace []) s).2 report.exports) ∧
            "Sphere" ∈ (perform (.extendNamespace []) s).2.exports.names := by
  intro plugin start s
  have hstart : Starts .new start := ⟨"", "", .default, Or.inl rfl⟩
  have hnames : s.exports.names = Builtin.names ++ ["volume"] := by decide +kernel
  have hsphere : "Sphere" ∈ (perform (.extendNamespace []) s).2.constructors.keys := by
    decide +kernel
  have hvalid : ∀ n ∈ s.exports.names, ExportName.isValid n = true :=
    (export_log_of_run hstart _).1.2.2
  have hlogs : s.Logs := (export_log_of_run hstart _).2
  obtain ⟨report, hreport, hreported, hexported⟩ := hlogs.extendNamespace []
  exact ⟨hstart, hnames, hvalid, ⟨report, hreport, hreported⟩, hexported _ (Or.inr hsphere)⟩

end Session

end VizSession
