import VizSession.Proofs.Methods

/-!
# What scripts can call

A session keeps three tables of names : the constructors, the functions that plugins
contributed, and the names that scripts can call, on top of the names the registry has
reserved. This module says what each extension does to them.

Scanning plugins adds functions under names that are free (`Registry.Enrolled`), offering
names exports those that are valid (`mem_merge_iff`), and making constructors reserves
their names, which takes the functions under them out of the registry (`Constructs`). No
move but an extension touches the tables (`SameNames`).
-/

namespace VizSession

/-! ## The export list -/

namespace ExportList

theorem mem_push_iff {l : ExportList} {name n : String} :
    n ∈ (l.push name).names ↔ n ∈ l.names ∨ n = name := by
  rw [names_push]
  split
  · rename_i h
    constructor
    · exact Or.inl
    · rintro (hn | rfl)
      · exact hn
      · exact h
  · simp

theorem mem_ofNames_iff {names : List String} {n : String} :
    n ∈ (ofNames names).names ↔ n ∈ names := by
  have h : ∀ l : ExportList, n ∈ (names.foldl push l).names ↔ n ∈ l.names ∨ n ∈ names := by
    induction names with
    | nil => simp
    | cons name names ih =>
      intro l
      rw [List.foldl_cons, ih, mem_push_iff, List.mem_cons, or_assoc]
  exact (h empty).trans (by simp [empty])

/-- What is exported after an offer was exported before, or is a valid name that was
offered. -/
theorem mem_merge_iff {l : ExportList} {names : List String} {n : String} :
    n ∈ (l.merge names).2.names ↔
      n ∈ l.names ∨ n ∈ names ∧ ExportName.isValid n = true := by
  induction names generalizing l with
  | nil => simp [merge]
  | cons name names ih =>
    have hoffer : n ∈ (l.offer name).names ↔
        n ∈ l.names ∨ n = name ∧ ExportName.isValid n = true := by
      unfold offer
      split
      · rename_i hvalid
        rw [mem_push_iff]
        constructor
        · rintro (hn | rfl)
          · exact Or.inl hn
          · exact Or.inr ⟨rfl, hvalid⟩
        · rintro (hn | ⟨rfl, -⟩)
          · exact Or.inl hn
          · exact Or.inr rfl
      · rename_i hvalid
        constructor
        · exact Or.inl
        · rintro (hn | ⟨rfl, hn⟩)
          · exact hn
          · exact absurd hn hvalid
    show n ∈ ((l.offer name).merge names).2.names ↔ _
    rw [ih, hoffer, List.mem_cons, or_and_right, or_assoc]

end ExportList

/-! ## The registry -/

namespace Registry

theorem mem_names_iff {r : Registry} {n : String} :
    n ∈ r.names ↔ ∃ entry, r.entries.find? n = some entry := by
  rw [names, OrderedMap.mem_keys_iff, Option.isSome_iff_exists]

theorem callable?_eq_none_iff {r : Registry} {n : String} :
    r.callable? n = none ↔ n ∉ r.names := by
  rw [callable?, Option.map_eq_none_iff, mem_names_iff]
  cases r.entries.find? n <;> simp

theorem mem_reserved_reserve_iff {r : Registry} {name owner n : String} :
    n ∈ (r.reserve name owner).2.reserved.keys ↔ n ∈ r.reserved.keys ∨ n = name :=
  OrderedMap.mem_keys_insert

theorem mem_names_reserve_iff {r : Registry} {name owner n : String} :
    n ∈ (r.reserve name owner).2.names ↔ n ∈ r.names ∧ n ≠ name :=
  OrderedMap.mem_keys_erase

/-- From the first registry to the second, plugins took the names `taken`. -/
structure Enrolled (r r' : Registry) (taken : List String) : Prop where
  /-- Plugins reserve nothing. -/
  reserved : r'.reserved = r.reserved
  /-- No name loses its function. -/
  kept : ∀ n ∈ r.names, n ∈ r'.names
  /-- A new name is not reserved, -/
  free : ∀ n ∈ r'.names, n ∈ r.names ∨ n ∉ r.reserved.keys
  /-- and it was taken. -/
  new : ∀ n ∈ r'.names, n ∈ r.names ∨ n ∈ taken
  /-- The names that were taken are public, -/
  isPublic : ∀ n ∈ taken, ExportName.isPublic n = true
  /-- and they have functions. -/
  taken : ∀ n ∈ taken, n ∈ r'.names

theorem Enrolled.refl (r : Registry) : Enrolled r r [] where
  reserved := rfl
  kept _ hn := hn
  taken _ hn := (List.not_mem_nil hn).elim
  free _ hn := Or.inl hn
  new _ hn := Or.inl hn
  isPublic _ hn := (List.not_mem_nil hn).elim

theorem Enrolled.trans {r r' r'' : Registry} {taken taken' : List String}
    (h : Enrolled r r' taken) (h' : Enrolled r' r'' taken') :
    Enrolled r r'' (taken ++ taken') where
  reserved := h'.reserved.trans h.reserved
  kept n hn := h'.kept n (h.kept n hn)
  taken n hn := by
    rcases List.mem_append.mp hn with hn | hn
    · exact h'.kept n (h.taken n hn)
    · exact h'.taken n hn
  free n hn := by
    rcases h'.free n hn with hn | hn
    · exact h.free n hn
    · rw [h.reserved] at hn
      exact Or.inr hn
  new n hn := by
    rw [List.mem_append, ← or_assoc]
    exact (h'.new n hn).imp_left (h.new n)
  isPublic n hn := (List.mem_append.mp hn).elim (h.isPublic n) (h'.isPublic n)

/-- One more function is enrolled, or refused. -/
theorem Enrolled.enroll {r : Registry} {plugin : String} {state : Registration × Registry}
    (h : Enrolled r state.2 state.1.names) (c : Callable) :
    Enrolled r (enroll plugin state c).2 (enroll plugin state c).1.names := by
  obtain ⟨report, r'⟩ := state
  rcases enroll_cases plugin report r' c with ⟨-, henroll⟩ | ⟨owner, -, -, henroll⟩ |
    ⟨hpublic, howner, henroll⟩
  · rw [henroll]
    exact h
  · rw [henroll]
    exact h
  · have hfree : c.name ∉ r.reserved.keys := by
      rw [← h.reserved, OrderedMap.mem_keys_iff, show r'.reserved.find? c.name = none from howner]
      simp
    have hnames : ∀ n, n ∈ (r'.entries.insert c.name ⟨plugin, c⟩).keys ↔
        n ∈ r'.names ∨ n = c.name := fun _ => OrderedMap.mem_keys_insert
    have htaken : ∀ n, n ∈ (if c.name ∈ report.names then report.names
        else report.names ++ [c.name]) ↔ n ∈ report.names ∨ n = c.name := by
      intro n
      split
      · rename_i hmem
        exact ⟨Or.inl, fun hn => hn.elim (fun hold => hold) fun hnew => hnew ▸ hmem⟩
      · rw [List.mem_append, List.mem_singleton]
    rw [henroll]
    refine ⟨h.reserved, fun n hn => (hnames n).mpr (Or.inl (h.kept n hn)), fun n hn => ?_,
      fun n hn => ?_, fun n hn => ?_, fun n hn => ?_⟩
    · rcases (hnames n).mp hn with hn | rfl
      · exact h.free n hn
      · exact Or.inr hfree
    · rcases (hnames n).mp hn with hn | rfl
      · exact (h.new n hn).imp_right fun hn => (htaken n).mpr (Or.inl hn)
      · exact Or.inr ((htaken _).mpr (Or.inr rfl))
    · rcases (htaken n).mp hn with hn | rfl
      · exact h.isPublic n hn
      · exact hpublic
    · exact (hnames n).mpr (((htaken n).mp hn).imp_left (h.taken n))

theorem enrolled_foldl (plugin : String) (cs : List Callable) {r : Registry}
    {state : Registration × Registry} (h : Enrolled r state.2 state.1.names) :
    Enrolled r (cs.foldl (enroll plugin) state).2 (cs.foldl (enroll plugin) state).1.names := by
  induction cs generalizing state with
  | nil => exact h
  | cons c cs ih => exact ih (h.enroll c)

/-- The names that a plugin got. -/
def namesOf (result : Except CallError Registration) : List String :=
  match result with
  | .ok registration => registration.names
  | .error _ => []

theorem enrolled_register (p : Plugin) (r : Registry) :
    Enrolled r (register p r).2 (namesOf (register p r).1) := by
  unfold register
  cases p.contributions with
  | error e => exact .refl r
  | ok cs =>
    have h : Enrolled r (cs.foldl (enroll p.name) (.empty, r)).2
        (cs.foldl (enroll p.name) (.empty, r)).1.names := enrolled_foldl p.name cs (.refl r)
    dsimp only [namesOf]
    unfold markScanned
    split
    · exact h
    · exact ⟨h.reserved, h.kept, h.free, h.new, h.isPublic, h.taken⟩

theorem enrolled_registerAll (ps : List Plugin) (r : Registry) :
    Enrolled r (r.registerAll ps).2 (r.registerAll ps).1.names := by
  induction ps generalizing r with
  | nil => exact .refl r
  | cons p ps ih =>
    have h := (enrolled_register p r).trans (ih (register p r).2)
    unfold registerAll
    dsimp only
    cases hp : register p r with
    | mk result r' =>
      rw [hp] at h
      cases result with
      | ok registration => exact h
      | error e => exact h

end Registry

namespace Session

/-! ## Constructors -/

/-- A constructor has a valid name that is no name of a built-in function. -/
theorem constructorName?_eq_some {d : Definition} {name : String}
    (h : constructorName? d = some name) :
    ExportName.isValid name = true ∧ name ∉ Builtin.names := by
  obtain ⟨hlabel, hname⟩ := Option.filter_eq_some_iff.mp h
  constructor
  · unfold ExportName.ofLabel? at hlabel
    dsimp only at hlabel
    split at hlabel
    · rename_i hvalid
      obtain rfl := Option.some.inj hlabel
      exact hvalid
    · cases hlabel
  · intro hmem
    rw [List.contains_iff_mem.mpr hmem] at hname
    cases hname

/-- From the first session to the second, constructors were made under the names `made`. -/
structure Constructs (s s' : Session) (made : List String) : Prop where
  exports : s'.exports = s.exports
  name : ∀ n ∈ made, ExportName.isValid n = true ∧ n ∉ Builtin.names
  constructor : ∀ n, n ∈ s'.constructors.keys ↔ n ∈ s.constructors.keys ∨ n ∈ made
  reserved : ∀ n, n ∈ s'.registry.reserved.keys ↔ n ∈ s.registry.reserved.keys ∨ n ∈ made
  registered : ∀ n, n ∈ s'.registry.names ↔ n ∈ s.registry.names ∧ n ∉ made

/-- Constructors are made one after another, each under a valid name, which is reserved and lost to
the plugins. -/
theorem constructs_addConstructors (ds : List Definition) (s : Session) :
    Constructs s (s.addConstructors ds).2 (s.addConstructors ds).1.1 := by
  induction ds generalizing s with
  | nil =>
    refine ⟨rfl, fun n hn => (List.not_mem_nil hn).elim, fun n => ?_, fun n => ?_, fun n => ?_⟩
    · exact (or_iff_left List.not_mem_nil).symm
    · exact (or_iff_left List.not_mem_nil).symm
    · exact (and_iff_left List.not_mem_nil).symm
  | cons d ds ih =>
    unfold addConstructors
    split
    · exact ih s
    · rename_i name hname
      have h := ih (s.addConstructor name d)
      refine ⟨h.exports, ?_, fun n => ?_, fun n => ?_, fun n => ?_⟩
      · intro n hn
        rcases List.mem_cons.mp hn with rfl | hn
        · exact constructorName?_eq_some hname
        · exact h.name n hn
      · have hstep : n ∈ (s.addConstructor name d).constructors.keys ↔
            n ∈ s.constructors.keys ∨ n = name := OrderedMap.mem_keys_insert
        rw [h.constructor, hstep, List.mem_cons, or_assoc]
      · have hstep : n ∈ (s.addConstructor name d).registry.reserved.keys ↔
            n ∈ s.registry.reserved.keys ∨ n = name := Registry.mem_reserved_reserve_iff
        rw [h.reserved, hstep, List.mem_cons, or_assoc]
      · have hstep : n ∈ (s.addConstructor name d).registry.names ↔
            n ∈ s.registry.names ∧ n ≠ name := Registry.mem_names_reserve_iff
        rw [h.registered, hstep, List.mem_cons, not_or, and_assoc]

/-! ## Extending -/

/-- An extension makes constructors, scans plugins, and exports the valid names among those
of the new constructors, of the functions registered before the scan, and of those that the
plugins took. -/
theorem extendNamespace_names (ps : List Plugin) (s : Session) : ∃ s₁ made taken,
    Constructs s s₁ made ∧
      Registry.Enrolled s₁.registry (s.extendNamespace ps).2.registry taken ∧
      (s.extendNamespace ps).2.constructors = s₁.constructors ∧
      ∀ n, n ∈ (s.extendNamespace ps).2.exports.names ↔ n ∈ s.exports.names ∨
        (n ∈ made ∨ n ∈ s₁.registry.names ∨ n ∈ taken) ∧ ExportName.isValid n = true := by
  have h := constructs_addConstructors s.constructible s
  refine ⟨(s.addConstructors s.constructible).2, _, _, h,
    Registry.enrolled_registerAll ps _, rfl, fun n => ?_⟩
  have hexports : n ∈ (s.extendNamespace ps).2.exports.names ↔
      n ∈ (((((s.addConstructors s.constructible).2.exports.merge
        (s.addConstructors s.constructible).1.1).2.merge
          (s.addConstructors s.constructible).2.registry.names).2).merge
            ((s.addConstructors s.constructible).2.registry.registerAll ps).1.names).2.names :=
    Iff.rfl
  rw [hexports, ExportList.mem_merge_iff, ExportList.mem_merge_iff, ExportList.mem_merge_iff,
    h.exports, or_and_right, or_and_right, or_assoc, or_assoc]

/-- A load scans the plugin and exports the valid names among those that the plugin took. -/
theorem loadPlugin_names (p : Plugin) (s : Session) : ∃ taken,
    Registry.Enrolled s.registry (loadPlugin p s).2.registry taken ∧
      (loadPlugin p s).2.constructors = s.constructors ∧
      ∀ n, n ∈ (loadPlugin p s).2.exports.names ↔
        n ∈ s.exports.names ∨ n ∈ taken ∧ ExportName.isValid n = true := by
  rcases loadPlugin_cases p s with ⟨fault, h⟩ | ⟨registration, registry, hok, h⟩
  · rw [h]
    exact ⟨[], .refl s.registry, rfl, fun n => by simp⟩
  · have henrolled := Registry.enrolled_register p s.registry
    rw [hok] at henrolled
    rw [h]
    exact ⟨registration.names, henrolled, rfl, fun n => ExportList.mem_merge_iff⟩

/-! ## What leaves the names alone -/

/-- The two sessions have the same names. -/
structure SameNames (s s' : Session) : Prop where
  exports : s'.exports = s.exports
  registry : s'.registry = s.registry
  constructors : s'.constructors = s.constructors

theorem sameNames_setActive (k : SlotKind) (o : Occupant) (s : Session) :
    SameNames s (setActive k o s).2 :=
  ⟨rfl, rfl, rfl⟩

theorem sameNames_leave (c : ConnectionId) (s : Session) : SameNames s (leave c s).2 := by
  rw [leave_apply]
  exact ⟨rfl, rfl, rfl⟩

theorem sameNames_join (s : Session) : SameNames s (join s).2 := by
  obtain ⟨stats, ⟨fault, h⟩ | h⟩ := join_cases s
  · rw [h]
    exact ⟨rfl, rfl, rfl⟩
  · rw [h]
    exact ⟨rfl, rfl, rfl⟩

theorem sameNames_create (g : Group) (name : String) (ps : Properties) (s : Session) :
    SameNames s (create g name ps s).2 := by
  rcases create_cases g name ps s with ⟨fault, h⟩ | ⟨c, made, -, -, -,
    ⟨fault, h⟩ | ⟨new, -, ⟨fault, h⟩ | ⟨e, -, h⟩⟩⟩
  · rw [h]
    exact ⟨rfl, rfl, rfl⟩
  · rw [h]
    exact ⟨rfl, rfl, rfl⟩
  · rw [h]
    exact ⟨rfl, rfl, rfl⟩
  · rw [h]
    rcases activateNew_cases new g { s with engine := e } with h | ⟨k, h⟩
    · rw [h]
      exact ⟨rfl, rfl, rfl⟩
    · rw [h]
      exact ⟨rfl, rfl, rfl⟩

theorem sameNames_dropLostCamera (s : Session) : SameNames s (dropLostCamera s) := by
  rw [dropLostCamera_eq]
  exact ⟨rfl, rfl, rfl⟩

theorem sameNames_delete (h : Handle) (s : Session) : SameNames s (delete h s).2 := by
  rcases delete_cases h s with ⟨fault, hdel⟩ | ⟨r, -, hdel⟩
  · rw [hdel]
    exact ⟨rfl, rfl, rfl⟩
  · rw [hdel]
    have hdrop := sameNames_dropLostCamera { s with
      engine := s.engine.updateStore h.connection fun store => store.remove h.id
      slots := s.slots.forgetProxy h }
    exact ⟨hdrop.exports, hdrop.registry, hdrop.constructors⟩

theorem Turn.sameNames {given : Handle → Prop} {named : Handle → String → Prop} {s s' : Session}
    (h : Turn given named s s') : SameNames s s' := by
  cases h with
  | leave => exact sameNames_leave _ s
  | join => exact sameNames_join s
  | occupy k o => exact sameNames_setActive k o s
  | create g name ps => exact sameNames_create g name ps s
  | delete => exact sameNames_delete _ s
  | rename | write | display | render | interact => exact ⟨rfl, rfl, rfl⟩

theorem SameNames.trans {s s' s'' : Session} (h : SameNames s s') (h' : SameNames s' s'') :
    SameNames s s'' :=
  ⟨h'.exports.trans h.exports, h'.registry.trans h.registry,
    h'.constructors.trans h.constructors⟩

theorem sameNames_of_turns {given : Handle → Prop} {named : Handle → String → Prop}
    {s s' : Session} (h : Relation.ReflTransGen (Turn given named) s s') : SameNames s s' := by
  induction h with
  | refl => exact ⟨rfl, rfl, rfl⟩
  | tail _ hstep ih => exact ih.trans hstep.sameNames

end Session

end VizSession
