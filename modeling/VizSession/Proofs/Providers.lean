import VizSession.Proofs.Names

/-!
# Every exported name has one provider

A name that scripts can call is provided by a built-in function, a constructor or a function
of a plugin, and by one of them only. The tables are kept apart by the names that the
registry has reserved : those of the built-in functions from the start, and that of every
constructor as soon as it is made (`Partitioned`). So whatever plugins contribute and
whatever definitions the engine gets, a call of a built-in name or of a constructor is what
it says, also when it is forwarded (`SingleProviders`).

As long as names are exported by extensions only, and not offered by hand, every exported
name keeps a provider : a function of a plugin goes only when a constructor takes its name
(`Covered`). Then a call never says of an exported name that it is unknown.
-/

namespace VizSession

open Relation

/-! ## The names of built-in functions -/

namespace Builtin

theorem name_mem_names (b : Builtin) : b.name ∈ names :=
  List.mem_append_left _ (List.mem_map.mpr ⟨b, mem_all b, rfl⟩)

theorem forwarding_mem_names : forwarding ∈ names :=
  List.mem_append_right _ (List.mem_singleton.mpr rfl)

theorem name_ne_forwarding (b : Builtin) : b.name ≠ forwarding := by cases b <;> decide

theorem ofName?_name (b : Builtin) : ofName? b.name = some b := by cases b <;> decide

theorem mem_names_cases {n : String} (h : n ∈ names) : n = forwarding ∨ ∃ b, n = name b := by
  rcases List.mem_append.mp h with h | h
  · obtain ⟨b, -, rfl⟩ := List.mem_map.mp h
    exact Or.inr ⟨b, rfl⟩
  · exact Or.inl (List.mem_singleton.mp h)

end Builtin

namespace Session

/-! ## Tables kept apart -/

/-- The names of built-in functions and constructors are reserved and exported, no
constructor has the name of a built-in function, and no function of a plugin has a reserved
name. -/
structure Partitioned (s : Session) : Prop where
  builtin : ∀ n ∈ Builtin.names, n ∈ s.registry.reserved.keys ∧ n ∈ s.exports.names
  constructor : ∀ n ∈ s.constructors.keys,
    n ∈ s.registry.reserved.keys ∧ n ∈ s.exports.names ∧ n ∉ Builtin.names
  registered : ∀ n ∈ s.registry.names, n ∉ s.registry.reserved.keys

/-- Every exported name has a provider. -/
def Covered (s : Session) : Prop :=
  ∀ n ∈ s.exports.names, n ∈ Builtin.names ∨ n ∈ s.constructors.keys ∨ n ∈ s.registry.names

theorem mem_reserved_foldl {names : List String} {owner n : String} {r : Registry} :
    n ∈ (names.foldl (fun r name => (r.reserve name owner).2) r).reserved.keys ↔
      n ∈ r.reserved.keys ∨ n ∈ names := by
  induction names generalizing r with
  | nil => simp
  | cons name names ih =>
    rw [List.foldl_cons, ih, Registry.mem_reserved_reserve_iff, List.mem_cons, or_assoc]

theorem mem_names_foldl {names : List String} {owner n : String} {r : Registry}
    (h : n ∈ (names.foldl (fun r name => (r.reserve name owner).2) r).names) : n ∈ r.names := by
  induction names generalizing r with
  | nil => exact h
  | cons name names ih => exact (Registry.mem_names_reserve_iff.mp (ih h)).1

theorem partitioned_new (id createdAt : String) (e : Engine) (config : Config) :
    (new id createdAt e config).Partitioned where
  builtin _ hn := ⟨mem_reserved_foldl.mpr (Or.inr hn), ExportList.mem_ofNames_iff.mpr hn⟩
  constructor _ hn := (List.not_mem_nil hn).elim
  registered _ hn := (List.not_mem_nil (mem_names_foldl hn)).elim

theorem covered_new (id createdAt : String) (e : Engine) (config : Config) :
    (new id createdAt e config).Covered :=
  fun _ hn => Or.inl (ExportList.mem_ofNames_iff.mp hn)

variable {s s' : Session}

theorem Partitioned.sameNames (hs : s.Partitioned) (h : SameNames s s') : s'.Partitioned where
  builtin := by
    rw [h.registry, h.exports]
    exact hs.builtin
  constructor := by
    rw [h.registry, h.exports, h.constructors]
    exact hs.constructor
  registered := by
    rw [h.registry]
    exact hs.registered

theorem Covered.sameNames (hs : s.Covered) (h : SameNames s s') : s'.Covered := by
  unfold Covered
  rw [h.registry, h.exports, h.constructors]
  exact hs

/-! ## Extensions -/

/-- Exporting more names and scanning plugins keeps the tables apart. -/
theorem Partitioned.enrolled (hs : s.Partitioned) {taken : List String}
    (h : Registry.Enrolled s.registry s'.registry taken)
    (hconstructors : s'.constructors = s.constructors)
    (hexports : ∀ n ∈ s.exports.names, n ∈ s'.exports.names) : s'.Partitioned where
  builtin n hn := by
    rw [h.reserved]
    exact ⟨(hs.builtin n hn).1, hexports n (hs.builtin n hn).2⟩
  constructor n hn := by
    rw [hconstructors] at hn
    obtain ⟨hreserved, hexported, hname⟩ := hs.constructor n hn
    rw [h.reserved]
    exact ⟨hreserved, hexports n hexported, hname⟩
  registered n hn := by
    rw [h.reserved]
    rcases h.free n hn with hn | hn
    · exact hs.registered n hn
    · exact hn

theorem Covered.enrolled (hs : s.Covered) {taken : List String}
    (h : Registry.Enrolled s.registry s'.registry taken)
    (hconstructors : s'.constructors = s.constructors)
    (hexports : ∀ n ∈ s'.exports.names, n ∈ s.exports.names ∨ n ∈ s'.registry.names) :
    s'.Covered := by
  intro n hn
  rw [hconstructors]
  rcases hexports n hn with hn | hn
  · rcases hs n hn with hn | hn | hn
    · exact Or.inl hn
    · exact Or.inr (Or.inl hn)
    · exact Or.inr (Or.inr (h.kept n hn))
  · exact Or.inr (Or.inr hn)

/-- An extension keeps the tables apart : constructors are made under names that no built-in
function has, and reserving such a name takes it from the plugins. -/
theorem Partitioned.extendNamespace (hs : s.Partitioned) (ps : List Plugin) :
    (s.extendNamespace ps).2.Partitioned := by
  obtain ⟨s₁, made, taken, hmade, htaken, hconstructors, hexports⟩ := extendNamespace_names ps s
  refine ⟨fun n hn => ?_, fun n hn => ?_, fun n hn => ?_⟩
  · rw [htaken.reserved, hmade.reserved, hexports]
    obtain ⟨hreserved, hexported⟩ := hs.builtin n hn
    exact ⟨Or.inl hreserved, Or.inl hexported⟩
  · rw [hconstructors, hmade.constructor] at hn
    rw [htaken.reserved, hmade.reserved, hexports]
    rcases hn with hn | hn
    · obtain ⟨hreserved, hexported, hname⟩ := hs.constructor n hn
      exact ⟨Or.inl hreserved, Or.inl hexported, hname⟩
    · obtain ⟨hvalid, hname⟩ := hmade.name n hn
      exact ⟨Or.inr hn, Or.inr ⟨Or.inl hn, hvalid⟩, hname⟩
  · rw [htaken.reserved]
    rcases htaken.free n hn with hn | hn
    · obtain ⟨hn, hnew⟩ := (hmade.registered n).mp hn
      rw [hmade.reserved, not_or]
      exact ⟨hs.registered n hn, hnew⟩
    · exact hn

/-- After an extension every exported name has a provider still. One that loses its function is the
name of a constructor by then. -/
theorem Covered.extendNamespace (hs : s.Covered) (ps : List Plugin) :
    (s.extendNamespace ps).2.Covered := by
  obtain ⟨s₁, made, taken, hmade, htaken, hconstructors, hexports⟩ := extendNamespace_names ps s
  intro n hn
  rw [hconstructors, hmade.constructor]
  rcases (hexports n).mp hn with hn | ⟨hn | hn | hn, -⟩
  · rcases hs n hn with hn | hn | hn
    · exact Or.inl hn
    · exact Or.inr (Or.inl (Or.inl hn))
    · -- a function of a plugin may have lost its name to a constructor
      by_cases hnew : n ∈ made
      · exact Or.inr (Or.inl (Or.inr hnew))
      · exact Or.inr (Or.inr (htaken.kept n ((hmade.registered n).mpr ⟨hn, hnew⟩)))
  · exact Or.inr (Or.inl (Or.inr hn))
  · exact Or.inr (Or.inr (htaken.kept n hn))
  · exact Or.inr (Or.inr (htaken.taken n hn))

/-! ## Runs -/

/-- Only extensions write constructors, and only plugins that are scanned take names in the
registry. -/
theorem Partitioned.move (hs : s.Partitioned) {given : Handle → Prop} (hm : Move given s s') :
    s'.Partitioned := by
  cases hm with
  | register p => exact hs.enrolled (Registry.enrolled_register p s.registry) rfl fun _ hn => hn
  | load p =>
    obtain ⟨taken, htaken, hconstructors, hexports⟩ := loadPlugin_names p s
    exact hs.enrolled htaken hconstructors fun n hn => (hexports n).mpr (Or.inl hn)
  | extend ps => exact hs.extendNamespace ps
  | leave => exact hs.sameNames (sameNames_leave _ s)
  | join => exact hs.sameNames (sameNames_join s)
  | occupy k o => exact hs.sameNames (sameNames_setActive k o s)
  | create g name ps => exact hs.sameNames (sameNames_create g name ps s)
  | delete => exact hs.sameNames (sameNames_delete _ s)
  | edit | configure => exact hs.sameNames ⟨rfl, rfl, rfl⟩

/-- Every move keeps the exported names covered : what it exports, plugins took or an extension
made. -/
theorem Covered.move (hs : s.Covered) {given : Handle → Prop} (hm : Move given s s') :
    s'.Covered := by
  cases hm with
  | register p =>
    exact hs.enrolled (Registry.enrolled_register p s.registry) rfl fun _ hn => Or.inl hn
  | load p =>
    obtain ⟨taken, htaken, hconstructors, hexports⟩ := loadPlugin_names p s
    exact hs.enrolled htaken hconstructors fun n hn =>
      ((hexports n).mp hn).imp_right fun h => htaken.taken n h.1
  | extend ps => exact hs.extendNamespace ps
  | leave => exact hs.sameNames (sameNames_leave _ s)
  | join => exact hs.sameNames (sameNames_join s)
  | occupy k o => exact hs.sameNames (sameNames_setActive k o s)
  | create g name ps => exact hs.sameNames (sameNames_create g name ps s)
  | delete => exact hs.sameNames (sameNames_delete _ s)
  | edit | configure => exact hs.sameNames ⟨rfl, rfl, rfl⟩

theorem Partitioned.moves (hs : s.Partitioned) {given : Handle → Prop} (hm : Moves given s s') :
    s'.Partitioned := by
  induction hm with
  | refl => exact hs
  | tail _ hstep ih => exact ih.move hstep

theorem Covered.moves (hs : s.Covered) {given : Handle → Prop} (hm : Moves given s s') :
    s'.Covered := by
  induction hm with
  | refl => exact hs
  | tail _ hstep ih => exact ih.move hstep

theorem Partitioned.perform (hs : s.Partitioned) (op : Op) : (perform op s).2.Partitioned := by
  rcases perform_cases op s with ⟨k, -, h⟩ | ⟨names, -, h⟩ | ⟨o, -, h⟩ | h
  · rw [h]
    exact hs.sameNames ⟨rfl, rfl, rfl⟩
  · rw [h]
    exact hs.enrolled (.refl s.registry) rfl fun n hn => ExportList.mem_merge_iff.mpr (Or.inl hn)
  · rw [h]
    exact hs.sameNames ⟨rfl, rfl, rfl⟩
  · exact hs.moves h

theorem Covered.perform (hs : s.Covered) {op : Op} (hop : ∀ names, op ≠ .extendExports names) :
    (perform op s).2.Covered := by
  rcases perform_cases op s with ⟨k, -, h⟩ | ⟨names, hnames, -⟩ | ⟨o, -, h⟩ | h
  · rw [h]
    exact hs.sameNames ⟨rfl, rfl, rfl⟩
  · exact absurd hnames (hop names)
  · rw [h]
    exact hs.sameNames ⟨rfl, rfl, rfl⟩
  · exact hs.moves h

theorem Partitioned.run (hs : s.Partitioned) (ops : List Op) : (s.run ops).Partitioned := by
  induction ops generalizing s with
  | nil => exact hs
  | cons op ops ih => exact ih (hs.perform op)

theorem Covered.run (hs : s.Covered) {ops : List Op}
    (hops : ∀ op ∈ ops, ∀ names, op ≠ .extendExports names) : (s.run ops).Covered := by
  induction ops generalizing s with
  | nil => exact hs
  | cons op ops ih =>
    exact ih (hs.perform (hops op (List.mem_cons_self ..)))
      fun op hop => hops op (List.mem_cons_of_mem _ hop)

/-! ## Calls -/

/-- A call of a built-in name reaches neither a constructor nor a plugin. -/
theorem Partitioned.provide_builtin (hs : s.Partitioned) {n : String} (hn : n ∈ Builtin.names)
    (otherwise : String → Args → SessionStep Value) (args : Args) :
    provide otherwise n args s = otherwise n args s := by
  obtain ⟨hreserved, hexported⟩ := hs.builtin n hn
  have hconstructor : s.constructors.find? n = none := by
    cases hd : s.constructors.find? n with
    | none => rfl
    | some d =>
      have hkey : n ∈ s.constructors.keys := OrderedMap.mem_keys_iff.mpr (by rw [hd]; rfl)
      exact absurd hn (hs.constructor n hkey).2.2
  have hplugin : s.registry.callable? n = none :=
    Registry.callable?_eq_none_iff.mpr fun hmem => hs.registered n hmem hreserved
  have hcontains : s.exports.contains n = true := List.contains_iff_mem.mpr hexported
  simp [provide, hcontains, hconstructor, hplugin]

/-- A call of a constructor makes an object. -/
theorem Partitioned.provide_constructor (hs : s.Partitioned) {n : String} {d : Definition}
    (hd : s.constructors.find? n = some d) (otherwise : String → Args → SessionStep Value)
    (args : Args) : provide otherwise n args s =
      (do return .proxy (← construct d args) : SessionStep Value) s := by
  have hkey : n ∈ s.constructors.keys := OrderedMap.mem_keys_iff.mpr (by rw [hd]; rfl)
  have hcontains : s.exports.contains n = true :=
    List.contains_iff_mem.mpr (hs.constructor n hkey).2.1
  simp [provide, hcontains, hd]

theorem callBuiltin_name (b : Builtin) (args : Args) :
    callBuiltin b.name args = call (b.bind args) := by
  simp [callBuiltin, Builtin.ofName?_name]

theorem Partitioned.invoke_builtin (hs : s.Partitioned) (b : Builtin) (args : Args) :
    invoke b.name args s = call (b.bind args) s := by
  unfold invoke
  rw [hs.provide_builtin b.name_mem_names, dispatch, if_neg b.name_ne_forwarding,
    callBuiltin_name]

theorem Partitioned.invoke_forwarding (hs : s.Partitioned) (args : Args) :
    invoke Builtin.forwarding args s = forward args s := by
  unfold invoke
  rw [hs.provide_builtin Builtin.forwarding_mem_names, dispatch, if_pos rfl]

/-- Forwarding calls the function that is named, with the rest of the arguments. -/
theorem forward_eq {args : Args} {target : String} (h : args.text "name" 0 = .ok target)
    (htarget : target ≠ Builtin.forwarding) :
    forward args = provide callBuiltin target (forwarded args) := by
  unfold forward
  rw [h]
  exact if_neg htarget

/-- No two of the three tables have a name in common, and a call, also a forwarded one,
reaches what its name says : a built-in function or a constructor. -/
structure SingleProviders (s : Session) : Prop where
  builtin : ∀ n ∈ Builtin.names, n ∉ s.constructors.keys ∧ n ∉ s.registry.names
  constructor : ∀ n ∈ s.constructors.keys, n ∉ s.registry.names
  invoke_builtin : ∀ (b : Builtin) args, invoke b.name args s = call (b.bind args) s
  invoke_forwarding : ∀ args, invoke Builtin.forwarding args s = forward args s
  invoke_constructor : ∀ n d args, s.constructors.find? n = some d →
    invoke n args s = (do return .proxy (← construct d args) : SessionStep Value) s
  forward_builtin : ∀ (b : Builtin) args, args.text "name" 0 = .ok b.name →
    forward args s = call (b.bind (forwarded args)) s
  forward_constructor : ∀ n d args, s.constructors.find? n = some d →
    args.text "name" 0 = .ok n →
      forward args s = (do return .proxy (← construct d (forwarded args)) : SessionStep Value) s

/-- As no two tables have a name in common, a call finds the one provider of its name, and a
forwarded call finds the same. -/
theorem Partitioned.singleProviders (hs : s.Partitioned) : s.SingleProviders where
  builtin n hn :=
    ⟨fun hkey => (hs.constructor n hkey).2.2 hn,
      fun hmem => hs.registered n hmem (hs.builtin n hn).1⟩
  constructor n hkey hmem := hs.registered n hmem (hs.constructor n hkey).1
  invoke_builtin := hs.invoke_builtin
  invoke_forwarding := hs.invoke_forwarding
  invoke_constructor _ _ args hd := hs.provide_constructor hd dispatch args
  forward_builtin b args h := by
    rw [forward_eq h b.name_ne_forwarding, hs.provide_builtin b.name_mem_names, callBuiltin_name]
  forward_constructor n d args hd h := by
    have hkey : n ∈ s.constructors.keys := OrderedMap.mem_keys_iff.mpr (by rw [hd]; rfl)
    have hn : n ≠ Builtin.forwarding := by
      rintro rfl
      exact (hs.constructor _ hkey).2.2 Builtin.forwarding_mem_names
    rw [forward_eq h hn, hs.provide_constructor hd]

/-! ## Unknown functions -/

/-- Built-in functions are not said to be unknown. -/
theorem ordinary_of_callBuiltin {n : String} {args : Args} {fault : SessionError}
    (hn : n ∈ Builtin.names) (hforwarding : n ≠ Builtin.forwarding)
    (h : (callBuiltin n args s).1 = .error fault) : Ordinary fault := by
  rcases Builtin.mem_names_cases hn with rfl | ⟨b, rfl⟩
  · exact absurd rfl hforwarding
  · rw [callBuiltin_name] at h
    exact (follows_call (b.bind args) s).2 fault h

/-- When every exported name has a provider, and built-in functions do not say so of an
exported name either, no exported name is said to be unknown. -/
theorem Covered.not_exported_of_provide (hs : s.Covered)
    {otherwise : String → Args → SessionStep Value} {name m : String} {args : Args}
    (hother : name ∈ Builtin.names →
      (otherwise name args s).1 = .error (.unknownFunction m) → m ∉ s.exports.names)
    (h : (provide otherwise name args s).1 = .error (.unknownFunction m)) :
    m ∉ s.exports.names := by
  unfold provide at h
  split at h
  · rename_i hmissing
    cases h
    simpa [ExportList.contains] using hmissing
  · rename_i hexported
    cases hd : s.constructors.find? name with
    | some d =>
      simp only [hd] at h
      have hconstruct : Acts (fun _ => True) (fun _ _ => True)
          (do return .proxy (← construct d args) : SessionStep Value) :=
        (acts_construct d args).bind fun _ => Step.follows_pure _
      exact absurd rfl ((hconstruct s).2 _ h m)
    | none =>
      cases hcallable : s.registry.callable? name with
      | some c =>
        simp only [hd, hcallable] at h
        cases hrun : c.run args with
        | ok v =>
          rw [hrun] at h
          cases h
        | error cause =>
          rw [hrun] at h
          cases h
      | none =>
        simp only [hd, hcallable] at h
        refine hother ?_ h
        have hmem : name ∈ s.exports.names := by simpa [ExportList.contains] using hexported
        rcases hs name hmem with hn | hn | hn
        · exact hn
        · rw [OrderedMap.mem_keys_iff, hd] at hn
          cases hn
        · exact absurd hn (Registry.callable?_eq_none_iff.mp hcallable)

theorem Covered.not_exported_of_forward (hs : s.Covered) {args : Args} {m : String}
    (h : (forward args s).1 = .error (.unknownFunction m)) : m ∉ s.exports.names := by
  cases htext : args.text "name" 0 with
  | error cause =>
    unfold forward at h
    rw [htext] at h
    cases h
  | ok target =>
    by_cases htarget : target = Builtin.forwarding
    · unfold forward at h
      simp [htext, htarget] at h
    · rw [forward_eq htext htarget] at h
      exact hs.not_exported_of_provide
        (fun hn h => absurd rfl (ordinary_of_callBuiltin hn htarget h m)) h

theorem Covered.not_exported_of_invoke (hs : s.Covered) {name m : String} {args : Args}
    (h : (invoke name args s).1 = .error (.unknownFunction m)) : m ∉ s.exports.names := by
  refine hs.not_exported_of_provide (fun hn h => ?_) h
  unfold dispatch at h
  split at h
  · exact hs.not_exported_of_forward h
  · rename_i hname
    exact absurd rfl (ordinary_of_callBuiltin hn hname h m)

/-! ## Reachable sessions -/

theorem sameNames_of_starts {e : Engine} (h : Starts e s) :
    ∃ id createdAt config, SameNames (new id createdAt e config) s := by
  obtain ⟨id, createdAt, config, rfl | ⟨c, hc⟩⟩ := h
  · exact ⟨id, createdAt, config, ⟨rfl, rfl, rfl⟩⟩
  · rw [setActive_of_embedded hc]
    exact ⟨id, createdAt, config, sameNames_setActive ..⟩

theorem partitioned_run_of_starts {e : Engine} {start : Session} (hstart : Starts e start)
    (ops : List Op) : (start.run ops).Partitioned := by
  obtain ⟨id, createdAt, config, hnew⟩ := sameNames_of_starts hstart
  exact ((partitioned_new id createdAt e config).sameNames hnew).run ops

/-- However a session is started, and whatever it and its host do, every name has one
provider at most, and calls go there. As long as no names are offered by hand, every
exported name has a provider, and no call says of an exported name that it is unknown. -/
theorem single_provider_of_run {e : Engine} {start : Session} (hstart : Starts e start)
    (ops : List Op) :
    (start.run ops).SingleProviders ∧
      ((∀ op ∈ ops, ∀ names, op ≠ .extendExports names) →
        (start.run ops).Covered ∧
          ∀ name args m, (invoke name args (start.run ops)).1 = .error (.unknownFunction m) →
            m ∉ (start.run ops).exports.names) := by
  obtain ⟨id, createdAt, config, hnew⟩ := sameNames_of_starts hstart
  have hpartitioned := ((partitioned_new id createdAt e config).sameNames hnew).run ops
  refine ⟨hpartitioned.singleProviders, fun hops => ?_⟩
  have hcovered := ((covered_new id createdAt e config).sameNames hnew).run hops
  exact ⟨hcovered, fun _ _ _ => hcovered.not_exported_of_invoke⟩

/-- A plugin contributes a function `Sphere` before the session connects, and loses the name
to the constructor when the namespace is extended. -/
theorem single_provider_of_evicted_sphere :
    let plugin : Plugin := ⟨"shapes", .ok [.constant "Sphere" "a ball" .unset]⟩
    let start := new "" "" .new .default
    let ops : List Op := [.loadPlugin plugin, .connect, .extendNamespace []]
    Starts .new start ∧ (∀ op ∈ ops, ∀ names, op ≠ .extendExports names) ∧
      "Sphere" ∈ (start.run ops).exports.names ∧ "Sphere" ∉ (start.run ops).registry.names ∧
      (start.run ops).SingleProviders ∧
      ∀ args, (invoke "Sphere" args (start.run ops)).1 ≠ .error (.unknownFunction "Sphere") := by
  intro plugin start ops
  have hstart : Starts .new start := ⟨"", "", .default, Or.inl rfl⟩
  have hops : ∀ op ∈ ops, ∀ names, op ≠ .extendExports names := by
    simp [ops]
  have hexported : "Sphere" ∈ (start.run ops).exports.names := by decide +kernel
  have hevicted : "Sphere" ∉ (start.run ops).registry.names := by decide +kernel
  obtain ⟨hsingle, hcovered⟩ := single_provider_of_run hstart ops
  exact ⟨hstart, hops, hexported, hevicted, hsingle,
    fun args h => (hcovered hops).2 "Sphere" args "Sphere" h hexported⟩

end Session

end VizSession
