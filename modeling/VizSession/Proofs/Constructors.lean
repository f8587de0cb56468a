import VizSession.Proofs.ExtensionPasses
import VizSession.Proofs.Liveness
import VizSession.Proofs.Providers

/-!
# What constructors build

Two look-ups over one catalog decide what a constructor makes. A pass gives the name of a
constructor to the last definition of that name (`LastNamed`), and by this definition the
constructor wires an input. The engine validates against the first definition of a group and a
name. The two are the same exactly when no different definition of the group and the name
stands before the one of the constructor (`Engine.Shadowed`). When one does, the constructor may
wire an input that the engine refuses as undeclared : this happens exactly when the first
definition takes none (`Session.Builds`).

Behind this is an invariant of runs : the definition of a constructor is in the catalog and has
the name of the constructor (`Session.Sourced`), as catalogs only grow and passes alone make
constructors.
-/

namespace VizSession

/-! ## Definitions of one group and name -/

namespace Engine

variable {e : Engine} {d : Definition}

/-- A different definition of the same group and name stands before the definition in the
catalog. -/
def Shadowed (e : Engine) (d : Definition) : Prop :=
  ∃ before first rest, e.catalog = before ++ first :: rest ∧ d ∉ before ∧ first ≠ d ∧
    first.group = d.group ∧ first.name = d.name

theorem definition?_of_mem (hd : d ∈ e.catalog) :
    ∃ first, e.definition? d.group d.name = some first :=
  Option.isSome_iff_exists.mp (List.find?_isSome.mpr ⟨d, hd, by simp⟩)

/-- The engine goes by a definition of its catalog unless it is shadowed. -/
theorem definition?_eq_some_iff_not_shadowed (hd : d ∈ e.catalog) :
    e.definition? d.group d.name = some d ↔ ¬e.Shadowed d := by
  constructor
  · rintro hfirst ⟨before, first, rest, hcatalog, hbefore, hne, hgroup, hname⟩
    unfold definition? at hfirst
    rw [hcatalog, List.find?_append, Option.or_eq_some_iff] at hfirst
    rcases hfirst with hfirst | ⟨-, hfirst⟩
    · exact hbefore (List.mem_of_find?_eq_some hfirst)
    · rw [List.find?_cons_of_pos (by simp [hgroup, hname])] at hfirst
      exact hne (Option.some.inj hfirst)
  · intro hshadowed
    obtain ⟨first, hfirst⟩ := definition?_of_mem hd
    obtain ⟨hgroup, hname⟩ := group_name_of_definition? hfirst
    obtain ⟨-, before, rest, hcatalog, hbefore⟩ := List.find?_eq_some_iff_append.mp hfirst
    by_cases hsame : first = d
    · rw [hfirst, hsame]
    · refine absurd ⟨before, first, rest, hcatalog, fun hmem => ?_, hsame, hgroup, hname⟩ hshadowed
      have hother := hbefore d hmem
      simp at hother

end Engine

namespace Session

variable {s s' : Session} {n : String} {d : Definition}

/-! ## Names of constructors -/

/-- The definition is the last one whose constructor has the name. -/
def LastNamed (n : String) (d : Definition) (ds : List Definition) : Prop :=
  ∃ before rest, ds = before ++ d :: rest ∧ constructorName? d = some n ∧
    ∀ x ∈ rest, constructorName? x ≠ some n

theorem LastNamed.mem {ds : List Definition} (h : LastNamed n d ds) : d ∈ ds := by
  obtain ⟨before, rest, rfl, -⟩ := h
  exact List.mem_append_right _ (List.mem_cons_self ..)

theorem lastNamed_cons {ds : List Definition} {x : Definition} :
    LastNamed n d (x :: ds) ↔ LastNamed n d ds ∨
      x = d ∧ constructorName? x = some n ∧ ∀ y ∈ ds, constructorName? y ≠ some n := by
  constructor
  · rintro ⟨before, rest, hds, hname, hrest⟩
    cases before with
    | nil =>
      obtain ⟨rfl, rfl⟩ := List.cons.inj hds
      exact Or.inr ⟨rfl, hname, hrest⟩
    | cons y before =>
      obtain ⟨rfl, rfl⟩ := List.cons.inj hds
      exact Or.inl ⟨before, rest, rfl, hname, hrest⟩
  · rintro (⟨before, rest, rfl, hname, hrest⟩ | ⟨rfl, hname, hrest⟩)
    · exact ⟨x :: before, rest, rfl, hname, hrest⟩
    · exact ⟨[], ds, rfl, hname, hrest⟩

/-- Under a name stands the last of the definitions that were entered under it, or what was
there before. -/
theorem find?_insertMany_named {m : OrderedMap String Definition} (ds : List Definition) :
    (m.insertMany (named ds)).find? n = some d ↔
      LastNamed n d ds ∨ (∀ x ∈ ds, constructorName? x ≠ some n) ∧ m.find? n = some d := by
  induction ds generalizing m with
  | nil =>
    have hlast : ¬LastNamed n d [] := fun h => absurd h.mem List.not_mem_nil
    simp [named, OrderedMap.insertMany, hlast]
  | cons x ds ih =>
    rw [lastNamed_cons, List.forall_mem_cons]
    cases hx : constructorName? x with
    | none =>
      rw [show named (x :: ds) = named ds from List.filterMap_cons_none (by rw [hx]; rfl), ih]
      simp
    | some k =>
      have hnamed : named (x :: ds) = (k, x) :: named ds :=
        List.filterMap_cons_some (by rw [hx]; rfl)
      rw [hnamed, show m.insertMany ((k, x) :: named ds) = (m.insert k x).insertMany (named ds)
        from rfl, ih, OrderedMap.find?_insert]
      by_cases hk : k = n
      · rw [if_pos hk]
        simp only [Option.some.injEq, hk, true_and, ne_eq, not_true, false_and, or_false]
        exact or_congr_right and_comm
      · rw [if_neg hk]
        simp [hk]

/-! ## Definitions of constructors -/

/-- Every constructor has a definition of the catalog, of a source or a view, whose constructor
has that name. -/
def Sourced (s : Session) : Prop :=
  ∀ n d, s.constructors.find? n = some d → d ∈ s.engine.catalog ∧
    (d.group = .sources ∨ d.group = .views) ∧ constructorName? d = some n

theorem isAlive_of_liveConnection {slots : Slots} {e : Engine} {c : ConnectionId}
    (hc : slots.liveConnection e = .ok c) : slots.connection = some c ∧ e.isAlive c = true := by
  unfold Slots.liveConnection at hc
  split at hc
  · cases hc
  · rename_i c' hslot
    split at hc
    · rename_i halive
      obtain rfl := Except.ok.inj hc
      exact ⟨hslot, halive⟩
    · cases hc

theorem mem_constructible_iff {c : ConnectionId} (hc : s.slots.liveConnection s.engine = .ok c) :
    d ∈ s.constructible ↔
      d ∈ s.engine.catalog ∧ (d.group = .sources ∨ d.group = .views) := by
  unfold constructible Engine.definitions
  rw [hc]
  dsimp only
  rw [if_pos (isAlive_of_liveConnection hc).2, if_pos (isAlive_of_liveConnection hc).2,
    List.mem_append, List.mem_filter, List.mem_filter, ← and_or_left]
  simp

theorem mem_catalog_of_mem_constructible (hd : d ∈ s.constructible) :
    d ∈ s.engine.catalog ∧ (d.group = .sources ∨ d.group = .views) := by
  cases hc : s.slots.liveConnection s.engine with
  | ok c => exact (mem_constructible_iff hc).mp hd
  | error fault =>
    unfold constructible at hd
    rw [hc] at hd
    cases hd

/-- Sessions with the same constructors, and with a catalog that has only grown, have the
definitions in the catalog. -/
theorem Sourced.keep (hs : s.Sourced) (hconstructors : s'.constructors = s.constructors)
    (he : Engine.Changes s.engine s'.engine) : s'.Sourced := by
  intro n d hd
  rw [hconstructors] at hd
  obtain ⟨hmem, hgroup, hname⟩ := hs n d hd
  exact ⟨he.catalog_subset hmem, hgroup, hname⟩

theorem Sourced.extend (hs : s.Sourced) (ps : List Plugin) : (s.extendNamespace ps).2.Sourced := by
  have hengine : (s.extendNamespace ps).2.engine = s.engine :=
    (alongside_extendNamespace ps s).1
  intro n d hd
  rw [constructors_extendNamespace, upcoming, find?_insertMany_named] at hd
  rw [hengine]
  rcases hd with hlast | ⟨-, hold⟩
  · obtain ⟨hmem, hgroup⟩ := mem_catalog_of_mem_constructible hlast.mem
    obtain ⟨-, -, -, hname, -⟩ := hlast
    exact ⟨hmem, hgroup, hname⟩
  · exact hs n d hold

/-- Only an extension makes constructors, and it makes them from the catalog, which no move takes
anything from. -/
theorem Sourced.move {given : Handle → Prop} (hs : s.Sourced) (hm : Move given s s') :
    s'.Sourced := by
  have he := hm.changes
  cases hm with
  | leave hc => exact hs.keep (sameNames_leave ..).constructors he
  | join => exact hs.keep (sameNames_join s).constructors he
  | occupy k o => exact hs.keep (sameNames_setActive k o s).constructors he
  | create g name ps => exact hs.keep (sameNames_create g name ps s).constructors he
  | delete => exact hs.keep (sameNames_delete ..).constructors he
  | edit | register | configure => exact hs.keep rfl he
  | load p => exact hs.keep (constructors_loadPlugin p s) he
  | extend ps => exact hs.extend ps

theorem Sourced.moves {given : Handle → Prop} (hs : s.Sourced) (hm : Moves given s s') :
    s'.Sourced := by
  induction hm with
  | refl => exact hs
  | tail _ hstep ih => exact ih.move hstep

theorem Sourced.perform (hs : s.Sourced) (op : Op) : (perform op s).2.Sourced := by
  have he := changes_perform op s
  rcases perform_cases op s with ⟨k, -, h⟩ | ⟨names, -, h⟩ | ⟨o, -, h⟩ | hmoves
  · exact hs.keep (by rw [h]) he
  · exact hs.keep (by rw [h]; rfl) he
  · exact hs.keep (by rw [h]) he
  · exact hs.moves hmoves

theorem Sourced.run (hs : s.Sourced) (ops : List Op) : (s.run ops).Sourced := by
  induction ops generalizing s with
  | nil => exact hs
  | cons op ops ih => exact ih (hs.perform op)

theorem sourced_of_starts {e : Engine} (hs : Starts e s) : s.Sourced := by
  obtain ⟨id, createdAt, config, hnew⟩ := sameNames_of_starts hs
  intro n d hd
  rw [hnew.constructors] at hd
  cases hd

/-- With a live connection, a pass makes every constructor anew. -/
theorem Sourced.lastNamed (hs : s.Sourced) {c : ConnectionId}
    (hc : s.slots.liveConnection s.engine = .ok c) {ps : List Plugin}
    (hd : (s.extendNamespace ps).2.constructors.find? n = some d) :
    LastNamed n d s.constructible := by
  rw [constructors_extendNamespace, upcoming, find?_insertMany_named] at hd
  rcases hd with hlast | ⟨hnone, hold⟩
  · exact hlast
  · obtain ⟨hmem, hgroup, hname⟩ := hs n d hold
    exact absurd hname (hnone d ((mem_constructible_iff hc).mpr ⟨hmem, hgroup⟩))

end Session

/-! ## Undeclared properties -/

namespace Engine

variable {e : Engine} {d : Definition} {c : ConnectionId} {g : Group} {name x p : String}
  {ps : Properties} {fault : EngineError}

theorem store_eq_error (h : e.store c = .error fault) : fault = .unknownConnection c := by
  unfold store at h
  split at h
  · cases h
  · exact (Except.error.inj h).symm

theorem record_eq_error {h : Handle} (hr : e.record h = .error fault) :
    fault = .unknownConnection h.connection ∨ fault = .proxyNotFound h.id := by
  unfold record at hr
  cases hs : e.store h.connection with
  | error fault' =>
    rw [hs] at hr
    obtain rfl : fault' = fault := Except.error.inj hr
    exact Or.inl (store_eq_error hs)
  | ok store =>
    simp only [hs, bind, Except.bind] at hr
    split at hr
    · cases hr
    · exact Or.inr (Except.error.inj hr).symm

theorem definition_eq_error (h : e.definition g name = .error fault) :
    fault = .unknownDefinition g name := by
  unfold definition at h
  split at h
  · cases h
  · exact (Except.error.inj h).symm

/-- Why nothing can be made : the connection, the definition, or the properties, in that order. -/
theorem blueprint_eq_error (h : e.blueprint c g name ps = .error fault) :
    fault = .unknownConnection c ∨ fault = .unknownDefinition g name ∨
      ∃ d, e.definition? g name = some d ∧ e.validate c d ps = .error fault := by
  unfold blueprint at h
  cases hs : e.store c with
  | error fault' =>
    rw [hs] at h
    obtain rfl : fault' = fault := Except.error.inj h
    exact Or.inl (store_eq_error hs)
  | ok store =>
    cases hd : e.definition g name with
    | error fault' =>
      rw [hs, hd] at h
      obtain rfl : fault' = fault := Except.error.inj h
      exact Or.inr (Or.inl (definition_eq_error hd))
    | ok d =>
      have hvalidate : e.validate c d ps = .error fault := by
        simp only [hs, hd, bind, Except.bind, pure, Except.pure] at h
        cases hv : e.validate c d ps with
        | error fault' => simpa [hv] using h
        | ok u => simp [hv] at h
      exact Or.inr (Or.inr ⟨d, definition_eq_ok_iff.mp hd, hvalidate⟩)

/-- Only a property that the definition does not declare is refused as undeclared. -/
theorem undeclared_of_propertyFault? {v : Value}
    (h : e.propertyFault? c d name v = some (.unknownProperty x p)) : d.property? p = none := by
  unfold propertyFault? at h
  split at h
  · rename_i hnone
    cases h
    exact hnone
  · split at h
    · cases h
    · split at h
      · split at h <;> cases h
      · cases h

theorem undeclared_of_validate (h : e.validate c d ps = .error (.unknownProperty x p)) :
    d.property? p = none := by
  unfold validate at h
  split at h
  · rename_i fault hfault
    cases h
    obtain ⟨entry, -, hentry⟩ := List.exists_of_findSome?_eq_some hfault
    exact undeclared_of_propertyFault? hentry
  · cases h

/-- Making an object fails for an undeclared property only if the definition that the engine
goes by does not declare it. -/
theorem undeclared_of_create (h : (create c g name ps e).1 = .error (.unknownProperty x p)) :
    ∃ d, e.definition? g name = some d ∧ d.property? p = none := by
  unfold create at h
  cases hb : e.blueprint c g name ps with
  | error fault =>
    rw [hb] at h
    obtain rfl : fault = .unknownProperty x p := Except.error.inj h
    rcases blueprint_eq_error hb with hfault | hfault | ⟨d, hd, hvalidate⟩
    · cases hfault
    · cases hfault
    · exact ⟨d, hd, undeclared_of_validate hvalidate⟩
  | ok d =>
    rw [hb] at h
    dsimp only at h
    split at h
    · cases h
    · split at h
      · rename_i fault hcamera
        obtain rfl : fault = .unknownProperty x p := Except.error.inj h
        cases definition_eq_error hcamera
      · cases h

theorem rename_ne_undeclared {h : Handle} :
    (rename h name e).1 ≠ .error (.unknownProperty x p) := by
  intro hrename
  unfold rename at hrename
  split at hrename
  · cases hrename
  · split at hrename
    · rename_i fault hr
      obtain rfl : fault = .unknownProperty x p := Except.error.inj hrename
      rcases record_eq_error hr with hfault | hfault <;> cases hfault
    · cases hrename

/-- A property that the definition of a group and a name does not declare is refused. -/
theorem create_undeclared (hc : e.isAlive c = true) (hd : e.definition? g name = some d)
    (hp : d.property? p = none) (v : Value) :
    create c g name (OrderedMap.ofList [(p, v)]) e = (.error (.unknownProperty name p), e) := by
  obtain ⟨store, hs⟩ := isAlive_iff.mp hc
  obtain ⟨-, hname⟩ := group_name_of_definition? hd
  have hvalidate : e.validate c d (OrderedMap.ofList [(p, v)]) =
      .error (.unknownProperty name p) := by
    have hfault : e.propertyFault? c d p v = some (.unknownProperty name p) := by
      unfold propertyFault?
      rw [hp, hname]
    have hentries : (OrderedMap.ofList [(p, v)]).entries = [(p, v)] := rfl
    unfold validate
    rw [hentries, List.findSome?_cons, hfault]
  unfold create blueprint
  rw [store_eq_ok_iff.mpr hs, definition_eq_ok_iff.mpr hd]
  simp only [bind, Except.bind, hvalidate]

end Engine

namespace Session

variable {s : Session} {n x p : String} {d : Definition}

theorem Unusable.ne_undeclared {fault : SessionError} (h : Unusable fault) :
    fault ≠ .engine (.unknownProperty x p) := by
  cases h <;> nofun

theorem settle_ne_undeclared {h : Handle} {g : Group} {requested : Option String}
    {fault : SessionError} (hf : (settle h g requested s).1 = .error fault) :
    fault ≠ .engine (.unknownProperty x p) := by
  refine failure_of_settle (Q := fun fault => fault ≠ .engine (.unknownProperty x p)) hf ?_
    Unusable.ne_undeclared
  rintro name s fault hname rfl
  obtain ⟨cause, hrename, hcause⟩ := nameOrDiscard_eq_error hname
  obtain rfl := SessionError.engine.inj hcause
  exact Engine.rename_ne_undeclared hrename

/-- Making an object fails for an undeclared property only if the definition that the engine
goes by does not declare it. -/
theorem undeclared_of_create {g : Group} {name : String} {ps : Properties}
    (h : (create g name ps s).1 = .error (.engine (.unknownProperty x p))) :
    ∃ d, s.engine.definition? g name = some d ∧ d.property? p = none := by
  rcases create_steps g name ps s with ⟨fault, hfails, hreason⟩ | ⟨c, requested, -, -, -, hcase⟩
  · rw [hfails] at h
    obtain rfl := Except.error.inj h
    rcases hreason with hreq | hname
    · have hunusable := (follows_requireConnection (R := fun _ _ => True) s).2 _
        (congrArg Prod.fst hreq)
      exact absurd rfl hunusable.ne_undeclared
    · rcases requestedName_eq_error hname with hfault | hfault <;> cases hfault
  rcases hcase with ⟨fault, e, hmade, hfails⟩ | ⟨new, e, -, hsettles⟩
  · rw [hfails] at h
    obtain rfl := SessionError.engine.inj (Except.error.inj h)
    exact Engine.undeclared_of_create (congrArg Prod.fst hmade)
  · rw [hsettles] at h
    exact absurd rfl (settle_ne_undeclared h)

/-- The active source is read as it stands in its slot, or not at all. -/
theorem activeProxy_source_cases (s : Session) :
    (∃ fault, activeProxy .source s = (.error fault, s)) ∨
      activeProxy .source s = (.ok s.slots.source, s) := by
  have hactive : activeProxy .source s =
      ((s.slots.get .source s.engine).map fun o => o.bind Occupant.proxy?, s) := by
    unfold activeProxy active
    rw [Step.bind_apply, Step.query_apply]
    cases s.slots.get .source s.engine <;> rfl
  rw [hactive]
  unfold Slots.get Slots.peek
  cases s.slots.source with
  | none => exact Or.inr rfl
  | some h =>
    dsimp only [Option.map_some]
    cases Slots.staleness? .source (.proxy h) s.engine with
    | none => exact Or.inr rfl
    | some fault => exact Or.inl ⟨fault, rfl⟩

/-- What is wired as the input of a new object : the keyword, or else the first positional argument
if it is an object, or else the active source. -/
def wiredInput? (s : Session) (args : Args) : Option Value :=
  (args.keywords.find? "Input").or
    (((args.positional.head?.bind Value.asProxy).or s.slots.source).map .proxy)

/-- The properties that a constructor asks for : the keywords, and the input if the definition
takes one. -/
def wired (s : Session) (d : Definition) (args : Args) : Properties :=
  if d.takesInput then
    match s.wiredInput? args with
    | some v => args.keywords.insert "Input" v
    | none => args.keywords
  else args.keywords

theorem construct_of_not_takesInput (hd : d.takesInput = false) (args : Args) :
    construct d args = create d.group d.name args.keywords := by
  unfold construct
  rw [hd]
  rfl

/-- A constructor makes an object, unless it needs the active source and that cannot be read. -/
theorem construct_wired (d : Definition) (args : Args) (s : Session) :
    (∃ fault, construct d args s = (.error fault, s) ∧
      (activeProxy .source s).1 = .error fault) ∨
      construct d args s = create d.group d.name (s.wired d args) s := by
  unfold wired wiredInput?
  cases htakes : d.takesInput with
  | false => exact Or.inr (by rw [construct_of_not_takesInput htakes]; rfl)
  | true =>
    unfold construct
    cases hkey : args.keywords.find? "Input" with
    | some v =>
      have hkept : args.keywords.insert "Input" v = args.keywords :=
        OrderedMap.insert_of_find? hkey
      exact Or.inr (by simp [htakes, OrderedMap.contains, hkey, hkept])
    | none =>
      cases hinput : args.positional.head?.bind Value.asProxy with
      | some input =>
        exact Or.inr (by simp [htakes, OrderedMap.contains, hkey, Step.bind_apply])
      | none =>
        rcases activeProxy_source_cases s with ⟨fault, hactive⟩ | hactive
        · refine Or.inl ⟨fault, ?_, by rw [hactive]⟩
          simp [htakes, OrderedMap.contains, hkey, Step.bind_apply, hactive]
        · refine Or.inr ?_
          cases hsource : s.slots.source <;>
            simp [htakes, OrderedMap.contains, hkey, Step.bind_apply, hactive, hsource]

theorem undeclared_of_construct {args : Args}
    (h : (construct d args s).1 = .error (.engine (.unknownProperty x p))) :
    ∃ first, s.engine.definition? d.group d.name = some first ∧ first.property? p = none := by
  rcases construct_wired d args s with ⟨fault, hfails, hactive⟩ | hmakes
  · have hunusable := (follows_activeProxy (R := fun _ _ => True) .source s).2 fault hactive
    rw [hfails] at h
    exact absurd (Except.error.inj h) hunusable.ne_undeclared
  · rw [hmakes] at h
    exact undeclared_of_create h

/-- An input that the constructor wires is refused if the first definition of the group and the
name takes none. -/
theorem construct_undeclared {c : ConnectionId} (hc : s.slots.liveConnection s.engine = .ok c)
    {first : Definition} (hfirst : s.engine.definition? d.group d.name = some first)
    (htakes : d.takesInput = true) (hnone : first.takesInput = false) (input : Handle) :
    construct d ⟨[.proxy input], ∅⟩ s =
      (.error (.engine (.unknownProperty d.name "Input")), s) := by
  obtain ⟨hslot, halive⟩ := isAlive_of_liveConnection hc
  have hundeclared : first.property? "Input" = none :=
    Option.not_isSome_iff_eq_none.mp (Bool.eq_false_iff.mp hnone)
  have hmade := Engine.create_undeclared halive hfirst hundeclared (.proxy input)
  have hconstruct : construct d ⟨[.proxy input], ∅⟩ s =
      create d.group d.name (OrderedMap.ofList [("Input", .proxy input)]) s := by
    unfold construct
    rw [htakes]
    rfl
  have hasked : create d.group d.name (OrderedMap.ofList [("Input", .proxy input)]) s =
      (onEngine (Engine.create c d.group d.name (OrderedMap.ofList [("Input", .proxy input)])) >>=
        fun h => settle h d.group none) s :=
    Step.bind_ok (requireConnection_of_isAlive hslot halive)
  rw [hconstruct, hasked]
  exact Step.bind_error (onEngine_error hmade)

/-! ## What a pass leaves behind -/

/-- What the constructor of a name goes by, and what the engine goes by when it is called. -/
structure Builds (s : Session) (n : String) (d : Definition) : Prop where
  /-- The constructor has the last definition of its name, sources before views. -/
  last : LastNamed n d s.constructible
  /-- The engine goes by the same definition unless a different one of the group and the name
  stands before it. -/
  agrees : s.engine.definition? d.group d.name = some d ↔ ¬s.engine.Shadowed d
  /-- If the constructor wires inputs, some call of it without the keyword is refused because the
  input is undeclared, exactly if the definition that the engine goes by takes no input. -/
  wiring : d.takesInput = true →
    ((∃ args, args.keywords.contains "Input" = false ∧
        (invoke n args s).1 = .error (.engine (.unknownProperty d.name "Input"))) ↔
      ∃ first, s.engine.definition? d.group d.name = some first ∧ first.takesInput = false)

theorem Partitioned.fst_invoke_eq_error_iff (hs : s.Partitioned)
    (hd : s.constructors.find? n = some d) {args : Args} {fault : SessionError} :
    (invoke n args s).1 = .error fault ↔ (construct d args s).1 = .error fault := by
  rw [hs.singleProviders.invoke_constructor n d args hd, Step.bind_apply]
  cases hmade : construct d args s with
  | mk answer s' =>
    cases answer with
    | ok h => exact ⟨nofun, nofun⟩
    | error cause =>
      dsimp only
      rw [Except.error.injEq, Except.error.injEq]

end Session

/-- However a session is started, and whatever it and its host do, once it has extended its
exports on a live connection its constructors go by the last definition of their name, and the
engine by the first one of the group and the name. These are the same unless a different
definition stands before that of the constructor, and only then can the constructor wire an
input that is refused as undeclared. -/
theorem constructors_build {e : Engine} {start : Session} (hstart : Session.Starts e start)
    (ops : List Session.Op) {c : ConnectionId}
    (hc : (start.run ops).slots.liveConnection (start.run ops).engine = .ok c)
    (plugins : List Plugin) :
    let s := ((start.run ops).extendNamespace plugins).2
    ∀ n d, s.constructors.find? n = some d → s.Builds n d := by
  intro s n d hd
  have hbefore : (start.run ops).Sourced := (Session.sourced_of_starts hstart).run ops
  obtain ⟨hengine, hslots⟩ := Session.alongside_extendNamespace plugins (start.run ops)
  have hlive : s.slots.liveConnection s.engine = .ok c := by
    rw [hengine, hslots]
    exact hc
  have hsame : s.constructible = (start.run ops).constructible := by
    unfold Session.constructible
    rw [hengine, hslots]
  have hpartitioned : s.Partitioned := by
    have hrun := Session.partitioned_run_of_starts hstart (ops ++ [.extendNamespace plugins])
    rw [Session.run_append] at hrun
    exact hrun
  have hmem : d ∈ s.engine.catalog := (hbefore.extend plugins n d hd).1
  refine ⟨?_, Engine.definition?_eq_some_iff_not_shadowed hmem, fun htakes => ⟨?_, ?_⟩⟩
  · rw [hsame]
    exact hbefore.lastNamed hc hd
  · rintro ⟨args, -, hrefused⟩
    obtain ⟨first, hfirst, hundeclared⟩ := Session.undeclared_of_construct
      ((hpartitioned.fst_invoke_eq_error_iff hd).mp hrefused)
    refine ⟨first, hfirst, ?_⟩
    unfold Definition.takesInput
    rw [hundeclared]
    rfl
  · rintro ⟨first, hfirst, hnone⟩
    refine ⟨⟨[.proxy ⟨0, c, .sources, ""⟩], ∅⟩, rfl,
      (hpartitioned.fst_invoke_eq_error_iff hd).mpr ?_⟩
    rw [Session.construct_undeclared hlive hfirst htakes hnone]

/-- A second definition of spheres comes to the catalog, with an input. The constructor goes by
it, as it is the last one of its name. -/
theorem constructors_build_redefined_sphere :
    let redefined : Definition := ⟨.sources, "SphereSource", "Sphere", [.reference "Input"]⟩
    let start := Session.new "" "" .new .default
    let ops : List Session.Op := [.connect, .engine (.addDefinition redefined)]
    let s := ((start.run ops).extendNamespace []).2
    Session.Starts .new start ∧
      (start.run ops).slots.liveConnection (start.run ops).engine = .ok ⟨1⟩ ∧
      ∃ sphere, s.constructors.find? "Sphere" = some sphere ∧ sphere.takesInput = true ∧
        s.Builds "Sphere" sphere := by
  intro redefined start ops s
  have hstart : Session.Starts .new start := ⟨"", "", .default, Or.inl rfl⟩
  have hc : (start.run ops).slots.liveConnection (start.run ops).engine = .ok ⟨1⟩ := rfl
  have hfound : (s.constructors.find? "Sphere").map Definition.takesInput = some true := by
    decide +kernel
  obtain ⟨sphere, hsphere, htakes⟩ := Option.map_eq_some_iff.mp hfound
  exact ⟨hstart, hc, sphere, hsphere, htakes,
    constructors_build hstart ops hc [] "Sphere" sphere hsphere⟩

/-- A second definition of spheres comes to the catalog, with an input. The constructor goes by
it and the engine by the first one, so no sphere can be made with an input by position. -/
theorem redefined_sphere_refuses_input :
    let redefined : Definition := ⟨.sources, "SphereSource", "Sphere", [.reference "Input"]⟩
    let s := (Session.new "" "" .new .default).run
      [.connect, .engine (.addDefinition redefined), .extendNamespace []]
    ∃ sphere, s.constructors.find? "Sphere" = some sphere ∧ sphere.takesInput = true ∧
      s.engine.definition? sphere.group sphere.name ≠ some sphere ∧
      ∀ input, (Session.invoke "Sphere" ⟨[.proxy input], ∅⟩ s).1 =
        .error (.engine (.unknownProperty "SphereSource" "Input")) := by
  intro redefined s
  have hslot : s.slots.connection = some ⟨1⟩ := by decide +kernel
  have halive : s.engine.isAlive ⟨1⟩ = true := by decide +kernel
  have hc : s.slots.liveConnection s.engine = .ok ⟨1⟩ := by
    unfold Slots.liveConnection
    rw [hslot]
    exact if_pos halive
  have hs : s.Partitioned :=
    Session.partitioned_run_of_starts ⟨"", "", .default, Or.inl rfl⟩ _
  have hfound : (s.constructors.find? "Sphere").map (fun d => (d.group, d.name, d.takesInput)) =
      some (.sources, "SphereSource", true) := by decide +kernel
  have hused : (s.engine.definition? .sources "SphereSource").map Definition.takesInput =
      some false := by decide +kernel
  obtain ⟨sphere, hsphere, hfields⟩ := Option.map_eq_some_iff.mp hfound
  obtain ⟨hgroup, hname, htakes⟩ : sphere.group = .sources ∧ sphere.name = "SphereSource" ∧
      sphere.takesInput = true := by simpa using hfields
  obtain ⟨first, hfirst, hnone⟩ := Option.map_eq_some_iff.mp hused
  rw [← hgroup, ← hname] at hfirst
  refine ⟨sphere, hsphere, htakes, fun hsame => ?_, fun input => ?_⟩
  · obtain rfl := Option.some.inj (hfirst.symm.trans hsame)
    rw [htakes] at hnone
    cases hnone
  · rw [hs.fst_invoke_eq_error_iff hsphere,
      Session.construct_undeclared hc hfirst htakes hnone, hname]

end VizSession
