import VizSession.Proofs.Commits
import VizSession.Proofs.Constructors

/-!
# What constructors wire

A constructor makes an object of its definition, and if the definition takes an input the object
gets one : what the keyword says, or the first positional argument, or the active source
(`Session.wiredInput?`). The object becomes active, so the next constructor that takes an input may
take this one. If the definition takes none, neither positional arguments nor the active source can
be noticed (`Session.HeedsNoSource`).

The keywords are applied by the first definition of the group and the name that the catalog has. In
a catalog that has no other one this is the definition of the constructor
(`Engine.definition?_of_nodup`).
-/

namespace VizSession

/-- In a catalog without two definitions of one group and name, the engine goes by each of them. -/
theorem Engine.definition?_of_nodup {e : Engine} {d : Definition}
    (hnodup : (e.catalog.map fun d => (d.group, d.name)).Nodup) (hd : d ∈ e.catalog) :
    e.definition? d.group d.name = some d := by
  rw [Engine.definition?_eq_some_iff_not_shadowed hd]
  rintro ⟨before, first, rest, hcatalog, hbefore, hne, hgroup, hname⟩
  rw [hcatalog] at hd hnodup
  have hrest : d ∈ rest := by
    rcases List.mem_append.mp hd with h | h
    · exact absurd h hbefore
    · exact (List.mem_cons.mp h).resolve_left (Ne.symm hne)
  rw [List.map_append, List.map_cons, List.nodup_append, List.nodup_cons] at hnodup
  exact hnodup.2.1.1 (List.mem_map.mpr ⟨d, hrest, by rw [hgroup, hname]⟩)

namespace Session

variable {s s' : Session} {n : String} {d : Definition} {args : Args} {α β : Type}

/-! ## Where the active source is not heeded -/

/-- The session with another source in its slot, or with none. -/
def withSource (s : Session) (source : Option Handle) : Session :=
  { s with slots.source := source }

/-- The answer of the step does not depend on the active source, nor does anything that it does,
but for the source that is active afterwards. -/
def HeedsNoSource (x : SessionStep α) : Prop :=
  ∀ s source, ∃ source', x (withSource s source) = ((x s).1, withSource (x s).2 source')

theorem heedsNoSource_bind {x : SessionStep α} {f : α → SessionStep β} (hx : HeedsNoSource x)
    (hf : ∀ a, HeedsNoSource (f a)) : HeedsNoSource (x >>= f) := by
  intro s source
  obtain ⟨source', hsame⟩ := hx s source
  cases hanswer : x s with
  | mk answer t =>
    rw [hanswer] at hsame
    cases answer with
    | error fault =>
      exact ⟨source', by rw [Step.bind_error hsame, Step.bind_error hanswer]⟩
    | ok a =>
      rw [Step.bind_ok hsame, Step.bind_ok hanswer]
      exact hf a t source'

theorem heedsNoSource_pure (a : α) : HeedsNoSource (pure a : SessionStep α) :=
  fun _ source => ⟨source, rfl⟩

theorem heedsNoSource_fail (fault : SessionError) :
    HeedsNoSource (Step.fail fault : SessionStep α) :=
  fun _ source => ⟨source, rfl⟩

theorem heedsNoSource_query {f : Session → Except SessionError α}
    (hf : ∀ s source, f (withSource s source) = f s) : HeedsNoSource (Step.query f) :=
  fun s source => ⟨source, by rw [Step.query_apply, Step.query_apply, hf]⟩

theorem heedsNoSource_onEngine (x : Step Engine EngineError α) : HeedsNoSource (onEngine x) :=
  fun _ source => ⟨source, rfl⟩

theorem heedsNoSource_requireConnection : HeedsNoSource requireConnection := by
  have hactive : HeedsNoSource (active .connection) := heedsNoSource_query fun _ _ => rfl
  refine heedsNoSource_bind (heedsNoSource_bind hactive fun _ => heedsNoSource_pure _) fun c => ?_
  cases c with
  | some c => exact heedsNoSource_pure c
  | none => exact heedsNoSource_fail .noActiveConnection

/-- Whether a new object becomes active does not depend on the source that is active, though a new
source takes its place. -/
theorem heedsNoSource_activateNew (h : Handle) (g : Group) : HeedsNoSource (activateNew h g) := by
  have hset : ∀ k, k ≠ .connection → HeedsNoSource (setActive k (.proxy h)) := by
    intro k hk s source
    have hrefusal : (withSource s source).slots.refusal? k h s.engine =
        s.slots.refusal? k h s.engine := rfl
    have hengine : (withSource s source).engine = s.engine := rfl
    simp only [setActive, onSlots, Slots.set_proxy hk, hengine, hrefusal]
    cases s.slots.refusal? k h s.engine with
    | some fault => exact ⟨source, rfl⟩
    | none =>
      cases k with
      | source => exact ⟨some h, rfl⟩
      | connection | view | camera => exact ⟨source, rfl⟩
  cases g with
  | views => exact hset .view (by decide)
  | sources => exact hset .source (by decide)
  | cameras | representations | lookupTables | layouts => exact heedsNoSource_pure ()

theorem heedsNoSource_settle (h : Handle) (g : Group) (requested : Option String) :
    HeedsNoSource (settle h g requested) := by
  have hactivate : HeedsNoSource (activateNew h g >>= fun _ => pure h) :=
    heedsNoSource_bind (heedsNoSource_activateNew h g) fun _ => heedsNoSource_pure h
  cases requested with
  | none => exact hactivate
  | some text =>
    refine heedsNoSource_bind (fun s source => ⟨source, ?_⟩) fun _ => hactivate
    have hengine : (withSource s source).engine = s.engine := rfl
    unfold nameOrDiscard
    rw [hengine]
    split
    · rfl
    · rfl

/-- Making an object does not heed the active source, though it may replace it. -/
theorem heedsNoSource_create (g : Group) (name : String) (ps : Properties) :
    HeedsNoSource (create g name ps) :=
  heedsNoSource_bind heedsNoSource_requireConnection fun _ =>
    heedsNoSource_bind (fun _ source => ⟨source, rfl⟩) fun requested =>
      heedsNoSource_bind (heedsNoSource_onEngine _) fun h => heedsNoSource_settle h g requested

/-! ## Calls of constructors -/

/-- Calling a constructor is refused where the active source that it needs cannot be read. Else it
comes to making an object of the properties that it wires : it fails with that, or it answers with
the object. -/
theorem Partitioned.invoke_endings (hs : s.Partitioned) (hd : s.constructors.find? n = some d)
    (args : Args) : (∃ fault, invoke n args s = (.error fault, s)) ∨
      (∃ fault s', create d.group d.name (s.wired d args) s = (.error fault, s') ∧
        invoke n args s = (.error fault, s')) ∨
      ∃ h s', create d.group d.name (s.wired d args) s = (.ok h, s') ∧
        invoke n args s = (.ok (.proxy h), s') := by
  rw [hs.singleProviders.invoke_constructor n d args hd]
  rcases construct_wired d args s with ⟨fault, hfails, -⟩ | hmakes
  · exact Or.inl ⟨fault, Step.bind_error hfails⟩
  refine Or.inr ?_
  rw [Step.bind_apply, hmakes]
  cases create d.group d.name (s.wired d args) s with
  | mk answer s' =>
    cases answer with
    | error fault => exact Or.inl ⟨fault, s', rfl, rfl⟩
    | ok h => exact Or.inr ⟨h, s', rfl, rfl⟩

theorem find?_wired_of_ne {key : String} (hkey : key ≠ "Input") :
    (s.wired d args).find? key = args.keywords.find? key := by
  unfold wired
  split
  · cases s.wiredInput? args with
    | none => rfl
    | some v => exact (OrderedMap.find?_insert ..).trans (if_neg (Ne.symm hkey))
  · rfl

theorem find?_wired_input (hd : d.takesInput = true) :
    (s.wired d args).find? "Input" = s.wiredInput? args := by
  unfold wired
  rw [if_pos hd]
  cases hinput : s.wiredInput? args with
  | none => exact (Option.or_eq_none_iff.mp hinput).1
  | some v => exact (OrderedMap.find?_insert ..).trans (if_pos rfl)

/-- What calling a constructor does. -/
structure Wires (s : Session) (n : String) (d : Definition) (args : Args) : Prop where
  /-- It answers with a new object of its definition, which is made as by a plain creation with the
  properties that it wires, and which becomes active. -/
  makes : ∀ v s', invoke n args s = (.ok v, s') → ∃ h r cameras, v = .proxy h ∧
    create d.group d.name (s.wired d args) s = (.ok h, s') ∧
    Committed s s' d.group d.name (s.wired d args) h d r cameras ∧
    (∃ k, newSlot? d.group = some k ∧ s'.slots.peek k = some (.proxy h)) ∧
    -- the input is what was wired, or else the default
    (d.takesInput = true → r.properties.find? "Input" =
      (s.wiredInput? args).or ((d.property? "Input").map PropertySpec.default))
  /-- All other properties that it wires are the keywords. -/
  keywords : ∀ key, key ≠ "Input" → (s.wired d args).find? key = args.keywords.find? key
  /-- If the definition takes no input, the keywords are all there is to the call. -/
  heedless : d.takesInput = false → s.wired d args = args.keywords ∧
    ∀ positional source, ∃ source',
      invoke n ⟨positional, args.keywords⟩ (withSource s source) =
        ((invoke n args s).1, withSource (invoke n args s).2 source')
  /-- If it fails, nothing came of it, as long as views can be made with their cameras. -/
  fails : (∃ camera, s.engine.definition? .cameras "Camera" = some camera) →
    ∀ fault s', invoke n args s = (.error fault, s') → RolledBack s s'

theorem Committed.input {h : Handle} {r : Record} {cameras : List Record}
    (hc : Committed s s' d.group d.name (s.wired d args) h d r cameras) (hd : d.takesInput = true) :
    r.properties.find? "Input" =
      (s.wiredInput? args).or ((d.property? "Input").map PropertySpec.default) := by
  have hwired : (s.wired d args).find? "Input" = s.wiredInput? args := find?_wired_input hd
  have hname : "Input" ≠ nameKeyword := by decide
  cases hinput : s.wiredInput? args with
  | some v => exact hc.given "Input" v hname (hwired.trans hinput)
  | none => exact hc.default "Input" (Or.inr (hwired.trans hinput))

theorem Partitioned.heedless (hs : s.Partitioned) (hd : s.constructors.find? n = some d)
    (htakes : d.takesInput = false) (args : Args) (positional : List Value)
    (source : Option Handle) : ∃ source',
      invoke n ⟨positional, args.keywords⟩ (withSource s source) =
        ((invoke n args s).1, withSource (invoke n args s).2 source') := by
  have hs' : (withSource s source).Partitioned := hs.sameNames ⟨rfl, rfl, rfl⟩
  rw [hs.singleProviders.invoke_constructor n d args hd,
    hs'.singleProviders.invoke_constructor n d _ hd, construct_of_not_takesInput htakes,
    construct_of_not_takesInput htakes]
  exact heedsNoSource_bind (heedsNoSource_create d.group d.name args.keywords)
    (fun h => heedsNoSource_pure (Value.proxy h)) s source

/-- A new source or view is active in the slot of its kind. -/
theorem Committed.exists_slot {g : Group} {name : String} {ps : Properties} {h : Handle}
    {r : Record} {cameras : List Record} (hc : Committed s s' g name ps h d r cameras)
    (hgroup : g = .sources ∨ g = .views) :
    ∃ k, newSlot? g = some k ∧ s'.slots.peek k = some (.proxy h) := by
  rcases hgroup with rfl | rfl
  · exact ⟨.source, rfl, by rw [hc.slots]; rfl⟩
  · exact ⟨.view, rfl, by rw [hc.slots]; rfl⟩

/-- Every constructor wires its input. That the catalog has no two definitions of one group and name
is needed for what is made : the engine takes the first one, which may not be the one of the
constructor. -/
theorem wires_of_wellFormed (we : s.engine.WellFormed) (hp : s.Partitioned) (hs : s.Sourced)
    (hnodup : (s.engine.catalog.map fun d => (d.group, d.name)).Nodup)
    (hd : s.constructors.find? n = some d)
    (hn : (invoke n args s).2.engine.NumbersLeft) : Wires s n d args := by
  obtain ⟨hmem, hgroup, -⟩ := hs n d hd
  constructor
  case makes =>
    intro v s' hcall
    rcases hp.invoke_endings hd args with ⟨fault, hfails⟩ | ⟨fault, t, -, hfails⟩ |
      ⟨h, t, hcreate, hanswers⟩
    · rw [hfails] at hcall
      cases hcall
    · rw [hfails] at hcall
      cases hcall
    · rw [hanswers] at hcall hn
      cases hcall
      obtain ⟨d', r, cameras, hcommitted⟩ := committed_of_create we hcreate hn
      obtain rfl : d = d' := Option.some.inj
        ((Engine.definition?_of_nodup hnodup hmem).symm.trans hcommitted.definition)
      exact ⟨h, r, cameras, rfl, hcreate, hcommitted, hcommitted.exists_slot hgroup,
        hcommitted.input⟩
  case keywords => exact fun key hkey => find?_wired_of_ne hkey
  case heedless =>
    intro htakes
    exact ⟨by simp [wired, htakes], hp.heedless hd htakes args⟩
  case fails =>
    rintro ⟨camera, hcamera⟩ fault s' hcall
    rcases hp.invoke_endings hd args with ⟨fault', hfails⟩ | ⟨fault', t, hcreate, hfails⟩ |
      ⟨h, t, -, hanswers⟩
    · rw [hfails] at hcall
      cases hcall
      exact .refl s
    · rw [hfails] at hcall hn
      cases hcall
      refine (transacts_of_wellFormed we hcamera ?_).rolls_back _ _ hcreate
      rwa [hcreate]
    · rw [hanswers] at hcall
      cases hcall

end Session

/-- Calling a constructor makes a new object of its definition on the active connection, wired to
the input that the arguments give or else to the active source, and makes it active; or the call
fails and takes back whatever was made. This holds for every session over a catalog without two
definitions of one group and name, as long as the engine has numbers left. -/
theorem constructors_wire_inputs {e : Engine} (he : e.Reachable) {start : Session}
    (hstart : Session.Starts e start) (ops : List Session.Op)
    (hnodup : ((start.run ops).engine.catalog.map fun d => (d.group, d.name)).Nodup)
    {n : String} {d : Definition} (hd : (start.run ops).constructors.find? n = some d)
    (args : Args) (hn : (Session.invoke n args (start.run ops)).2.engine.NumbersLeft) :
    Session.Wires (start.run ops) n d args := by
  have hchanges : Engine.Changes (start.run ops).engine
      (Session.invoke n args (start.run ops)).2.engine :=
    Session.Moves.changes (Session.moves_invoke n args (start.run ops))
  exact Session.wires_of_wellFormed (Session.wellFormed_run he hstart (hn.of_changes hchanges))
    (Session.partitioned_run_of_starts hstart ops)
    ((Session.sourced_of_starts hstart).run ops) hnodup hd hn

/-- A filter that is called with a number and a name takes the sphere that is active as its input,
and is active itself afterwards. -/
theorem constructors_wire_inputs_shrink :
    let start := Session.new "" "" .new .default
    let ops : List Session.Op := [.connect, .extendNamespace [], .invoke "Sphere" .none]
    let args : Args := ⟨[.int 1], .ofList [(Session.nameKeyword, .text "Small")]⟩
    let sphere : Handle := ⟨1, ⟨1⟩, .sources, "SphereSource"⟩
    let shrink : Handle := ⟨2, ⟨1⟩, .sources, "ShrinkFilter"⟩
    Engine.new.Reachable ∧ Session.Starts .new start ∧
      ((start.run ops).engine.catalog.map fun d => (d.group, d.name)).Nodup ∧
      (Session.invoke "Shrink" args (start.run ops)).2.engine.NumbersLeft ∧
      ∃ d, (start.run ops).constructors.find? "Shrink" = some d ∧ d.takesInput = true ∧
        Session.Wires (start.run ops) "Shrink" d args ∧
        (start.run ops).wiredInput? args = some (.proxy sphere) ∧
        ∃ s' r, Session.invoke "Shrink" args (start.run ops) = (.ok (.proxy shrink), s') ∧
          s'.engine.record shrink = .ok r ∧ r.name = "Small" ∧
          r.properties.find? "Input" = some (.proxy sphere) ∧ s'.slots.source = some shrink := by
  intro start ops args sphere shrink
  have he : Engine.new.Reachable := ⟨builtinCatalog, [], rfl⟩
  have hstart : Session.Starts .new start := ⟨"", "", .default, Or.inl rfl⟩
  have hnodup : ((start.run ops).engine.catalog.map fun d => (d.group, d.name)).Nodup := by
    decide +kernel
  have hn : (Session.invoke "Shrink" args (start.run ops)).2.engine.NumbersLeft :=
    ⟨by decide +kernel, by decide +kernel⟩
  have hfound : ((start.run ops).constructors.find? "Shrink").map Definition.takesInput =
      some true := by decide +kernel
  obtain ⟨d, hd, htakes⟩ := Option.map_eq_some_iff.mp hfound
  have hwires := constructors_wire_inputs he hstart ops hnodup hd args hn
  have hinput : (start.run ops).wiredInput? args = some (.proxy sphere) := by
    have hsource : (start.run ops).slots.source = some sphere := by decide +kernel
    unfold Session.wiredInput?
    rw [hsource]
    rfl
  have hanswer : (Session.invoke "Shrink" args (start.run ops)).1.toOption.bind Value.asProxy =
      some shrink := by decide +kernel
  have hactive : (Session.invoke "Shrink" args (start.run ops)).2.slots.source = some shrink := by
    decide +kernel
  refine ⟨he, hstart, hnodup, hn, d, hd, htakes, hwires, hinput, ?_⟩
  cases hcall : Session.invoke "Shrink" args (start.run ops) with
  | mk answer s' =>
    rw [hcall] at hanswer hactive
    cases answer with
    | error fault => cases hanswer
    | ok v =>
      obtain ⟨h, r, cameras, rfl, -, hcommitted, -, hwired⟩ := hwires.makes v s' hcall
      obtain rfl : h = shrink := Option.some.inj hanswer
      refine ⟨s', r, rfl, hcommitted.record, hcommitted.named "Small" ?_, ?_, hactive⟩
      · exact (Session.find?_wired_of_ne (by decide)).trans rfl
      · rw [hwired htakes, hinput, Option.some_or]

end VizSession
