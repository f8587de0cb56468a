import VizSession.Proofs.Calls

/-!
# Methods that reach the slots

Four kinds of move act on the engine and the slots together. This module lists how each of
them can end : `leave_apply` (with the chains of moves), `join_cases`, `create_cases` and
`delete_cases`. Extensions reach neither (`Alongside`). So every move changes the engine
through the operations of the engine only (`Move.changes`), and what a method does to the engine
it does by moves that are no extensions (`passes_perform`).
-/

namespace VizSession

open Relation

namespace Session

/-! ## Starting -/

/-- A session over an engine as a host starts it : a new one, or one that is embedded on a
live connection. -/
def Starts (e : Engine) (s : Session) : Prop :=
  ∃ id createdAt config,
    s = new id createdAt e config ∨ ∃ c, embedded id createdAt e config c = .ok s

theorem setActive_of_embedded {id createdAt : String} {e : Engine} {config : Config}
    {c : ConnectionId} {s : Session} (h : embedded id createdAt e config c = .ok s) :
    s = (setActive .connection (.connection c) (new id createdAt e config)).2 := by
  unfold embedded at h
  split at h
  · rename_i s' hset
    obtain rfl := Except.ok.inj h
    rw [hset]
  · cases h

theorem engine_of_starts {e : Engine} {s : Session} (hs : Starts e s) : s.engine = e := by
  obtain ⟨id, createdAt, config, rfl | ⟨c, hc⟩⟩ := hs
  · rfl
  · rw [setActive_of_embedded hc]
    rfl

/-! ## Connections -/

/-- The engine refuses a connection, or the new one is active. Either way the call is counted. -/
theorem join_counted (s : Session) :
    (∃ fault, join s = (.error (.engine fault), { s with engine := s.engine.countEstablish })) ∨
      join s = (.ok s.engine.nextConnectionId,
        { s with
          engine := s.engine.countEstablish.withConnection
          slots := { s.slots with connection := some s.engine.nextConnectionId } }) := by
  rcases Engine.establish_counted s.config.url s.engine with ⟨fault, h⟩ | h
  · refine Or.inl ⟨fault, ?_⟩
    show (onEngine (Engine.establish s.config.url) >>= _) s = _
    exact Step.bind_error (onEngine_error h)
  · have halive : s.engine.countEstablish.withConnection.isAlive s.engine.nextConnectionId =
        true := (Engine.isAlive_withConnection ..).mpr (Or.inl rfl)
    refine Or.inr ?_
    show (onEngine (Engine.establish s.config.url) >>= _) s = _
    rw [Step.bind_ok (onEngine_ok h)]
    simp [Step.bind_apply, setActive, onSlots, Slots.set, halive]

theorem join_cases (s : Session) : ∃ stats,
    (∃ fault, join s = (.error fault, { s with engine := { s.engine with stats := stats } })) ∨
      join s = (.ok s.engine.nextConnectionId,
        { s with
          engine := Engine.withConnection { s.engine with stats := stats }
          slots := { s.slots with connection := some s.engine.nextConnectionId } }) := by
  refine ⟨s.engine.countEstablish.stats, ?_⟩
  rcases join_counted s with ⟨fault, h⟩ | h
  · exact Or.inl ⟨.engine fault, h⟩
  · exact Or.inr h

theorem requireConnection_of_isAlive {s : Session} {c : ConnectionId}
    (hc : s.slots.connection = some c) (halive : s.engine.isAlive c = true) :
    requireConnection s = (.ok c, s) := by
  simp [requireConnection, activeConnection, active, Step.bind_apply, Slots.get, Slots.peek,
    Slots.staleness?, Occupant.owner, Occupant.connection?, hc, halive]

/-- Without an active connection the method fails; the answer is a live connection. -/
theorem requireConnection_cases (s : Session) :
    (∃ fault, requireConnection s = (.error fault, s)) ∨
      ∃ c, s.slots.connection = some c ∧ s.engine.isAlive c = true ∧
        requireConnection s = (.ok c, s) := by
  cases hc : s.slots.connection with
  | none =>
    refine Or.inl ⟨.noActiveConnection, ?_⟩
    simp [requireConnection, activeConnection, active, Step.bind_apply, Slots.get, Slots.peek, hc]
  | some c =>
    cases halive : s.engine.isAlive c with
    | true => exact Or.inr ⟨c, rfl, halive, requireConnection_of_isAlive hc halive⟩
    | false =>
      refine Or.inl ⟨.staleReference .connection c, ?_⟩
      simp [requireConnection, activeConnection, active, Step.bind_apply, Slots.get, Slots.peek,
        Slots.staleness?, Occupant.owner, hc, halive]

theorem requireConnection_eq_ok_iff {s : Session} {c : ConnectionId} :
    requireConnection s = (.ok c, s) ↔
      s.slots.connection = some c ∧ s.engine.isAlive c = true := by
  refine ⟨fun hreq => ?_, fun h => requireConnection_of_isAlive h.1 h.2⟩
  rcases requireConnection_cases s with ⟨fault, hfails⟩ | ⟨c', hc, halive, hok⟩
  · rw [hfails] at hreq
    cases hreq
  · obtain rfl := Step.answer_unique hok hreq
    exact ⟨hc, halive⟩

/-! ## Making and deleting -/

theorem nameOrDiscard_cases (h : Handle) (name : String) (s : Session) :
    (∃ fault, nameOrDiscard h name s =
        (.error fault, { s with engine := (Engine.delete h s.engine).2 })) ∨
      ∃ e, Engine.Edits s.engine e ∧ nameOrDiscard h name s = (.ok (), { s with engine := e }) := by
  rcases Engine.rename_cases h name s.engine with ⟨fault, hname⟩ | ⟨r, hr, hfree, hname⟩
  · refine Or.inl ⟨.engine fault, ?_⟩
    simp [nameOrDiscard, hname]
  · refine Or.inr ⟨_, .single (.rename hr hfree), ?_⟩
    simp [nameOrDiscard, hname]

/-- A new source or view is set active, and nothing else is touched. -/
theorem activateNew_cases (h : Handle) (g : Group) (s : Session) :
    (activateNew h g s).2 = s ∨
      ∃ k, (activateNew h g s).2 =
        { s with slots := (Slots.set k (.proxy h) s.engine s.slots).2 } := by
  cases g with
  | views => exact Or.inr ⟨.view, rfl⟩
  | sources => exact Or.inr ⟨.source, rfl⟩
  | cameras | representations | lookupTables | layouts => exact Or.inl rfl

/-- Settling a new object edits the engine and sets the object active, or deletes the object
again. -/
theorem settle_cases (h : Handle) (g : Group) (requested : Option String) (s : Session) :
    (∃ fault, settle h g requested s =
        (.error fault, { s with engine := (Engine.delete h s.engine).2 })) ∨
      ∃ e, Engine.Edits s.engine e ∧
        (settle h g requested s).2 = (activateNew h g { s with engine := e }).2 := by
  cases requested with
  | none =>
    refine Or.inr ⟨s.engine, .refl, ?_⟩
    exact Step.snd_bind_pure (activateNew h g) (fun _ => h) s
  | some name =>
    rcases nameOrDiscard_cases h name s with ⟨fault, hname⟩ | ⟨e, hedits, hname⟩
    · exact Or.inl ⟨fault, Step.bind_error hname⟩
    · refine Or.inr ⟨e, hedits, ?_⟩
      show ((nameOrDiscard h name >>= fun _ => activateNew h g >>= fun _ => pure h) s).2 = _
      rw [Step.bind_ok hname]
      exact Step.snd_bind_pure (activateNew h g) (fun _ => h) _

/-- Making an object goes step by step : there has to be an active connection, the name that is
asked for has to be a text that is not blank, the engine has to make the object, and the object
is settled. -/
theorem create_steps (g : Group) (name : String) (ps : Properties) (s : Session) :
    (∃ fault, create g name ps s = (.error fault, s) ∧
      (requireConnection s = (.error fault, s) ∨ requestedName ps = .error fault)) ∨
      ∃ c requested, s.slots.connection = some c ∧ s.engine.isAlive c = true ∧
        requestedName ps = .ok requested ∧
        ((∃ fault e, Engine.create c g name (ps.erase nameKeyword) s.engine = (.error fault, e) ∧
            create g name ps s = (.error (.engine fault), { s with engine := e })) ∨
          ∃ h e, Engine.create c g name (ps.erase nameKeyword) s.engine = (.ok h, e) ∧
            create g name ps s = settle h g requested { s with engine := e }) := by
  rcases requireConnection_cases s with ⟨fault, hreq⟩ | ⟨c, hc, halive, hreq⟩
  · exact Or.inl ⟨fault, Step.bind_error hreq, Or.inl hreq⟩
  have hstart : create g name ps s = (do
      let requested ← Step.ofExcept (requestedName ps)
      let h ← onEngine (Engine.create c g name (ps.erase nameKeyword))
      settle h g requested : SessionStep Handle) s := Step.bind_ok hreq
  cases hname : requestedName ps with
  | error fault =>
    refine Or.inl ⟨fault, ?_, Or.inr rfl⟩
    rw [hstart, hname]
    rfl
  | ok requested =>
    replace hstart : create g name ps s =
        (onEngine (Engine.create c g name (ps.erase nameKeyword)) >>= fun h =>
          settle h g requested) s := by
      rw [hstart, hname]
      rfl
    refine Or.inr ⟨c, requested, hc, halive, rfl, ?_⟩
    cases hmade : Engine.create c g name (ps.erase nameKeyword) s.engine with
    | mk answer e =>
      cases answer with
      | error fault =>
        exact Or.inl ⟨fault, e, rfl, hstart.trans (Step.bind_error (onEngine_error hmade))⟩
      | ok h => exact Or.inr ⟨h, e, rfl, hstart.trans (Step.bind_ok (onEngine_ok hmade))⟩

/-- Making an object fails before the engine is asked, or the engine refuses, or the object
that the engine made is deleted again, or it is edited and set active. -/
theorem create_cases (g : Group) (name : String) (ps : Properties) (s : Session) :
    (∃ fault, create g name ps s = (.error fault, s)) ∨
      ∃ c made, s.slots.connection = some c ∧ s.engine.isAlive c = true ∧
        made = Engine.create c g name (ps.erase nameKeyword) s.engine ∧
        ((∃ fault, create g name ps s = (.error fault, { s with engine := made.2 })) ∨
          ∃ h, made.1 = .ok h ∧
            ((∃ fault, create g name ps s =
                (.error fault, { s with engine := (Engine.delete h made.2).2 })) ∨
              ∃ e, Engine.Edits made.2 e ∧
                (create g name ps s).2 = (activateNew h g { s with engine := e }).2)) := by
  rcases create_steps g name ps s with ⟨fault, h, -⟩ | ⟨c, requested, hc, halive, -, hcase⟩
  · exact Or.inl ⟨fault, h⟩
  refine Or.inr ⟨c, _, hc, halive, rfl, ?_⟩
  rcases hcase with ⟨fault, e, hmade, h⟩ | ⟨new, e, hmade, h⟩
  · rw [hmade]
    exact Or.inl ⟨_, h⟩
  · rw [hmade, h]
    exact Or.inr ⟨new, rfl, settle_cases new g requested { s with engine := e }⟩

/-- A camera that is not there any more is dropped. -/
theorem dropLostCamera_eq (s : Session) :
    dropLostCamera s = { s with slots.camera := s.slots.camera.filter (s.engine.isLive ·) } := by
  unfold dropLostCamera
  cases hcamera : s.slots.camera with
  | none =>
    show s = { s with slots.camera := none }
    rw [← hcamera]
  | some camera =>
    cases hlive : s.engine.isLive camera with
    | true => simp [Option.filter, hlive, ← hcamera]
    | false => simp [Option.filter, hlive, Slots.clear, Slots.putProxy]

theorem peek_dropLostCamera_of_ne {k : SlotKind} (hk : k ≠ .camera) (s : Session) :
    (dropLostCamera s).slots.peek k = s.slots.peek k := by
  rw [dropLostCamera_eq]
  cases k <;> first | rfl | exact absurd rfl hk

/-- What the camera slot holds when it is looked after was there before, and is live. -/
theorem peek_dropLostCamera {s : Session} {k : SlotKind} {o : Occupant}
    (h : (dropLostCamera s).slots.peek k = some o) :
    s.slots.peek k = some o ∧
      (k = .camera → ∀ camera, o = .proxy camera → s.engine.isLive camera = true) := by
  by_cases hk : k = .camera
  · subst hk
    rw [dropLostCamera_eq] at h
    obtain ⟨camera, hcamera, rfl⟩ := Option.map_eq_some_iff.mp h
    obtain ⟨hslot, hlive⟩ := Option.filter_eq_some_iff.mp hcamera
    refine ⟨congrArg (Option.map Occupant.proxy) hslot, fun _ camera' ho => ?_⟩
    exact Occupant.proxy.inj ho ▸ hlive
  · rw [peek_dropLostCamera_of_ne hk] at h
    exact ⟨h, fun hk' => absurd hk' hk⟩

@[simp] theorem engine_dropLostCamera (s : Session) : (dropLostCamera s).engine = s.engine := by
  rw [dropLostCamera_eq]

@[simp] theorem connection_dropLostCamera (s : Session) :
    (dropLostCamera s).slots.connection = s.slots.connection := by
  rw [dropLostCamera_eq]

/-- A deletion is refused and changes nothing; or the engine removes the object, and the
slots that it was in are looked after. -/
theorem delete_cases (h : Handle) (s : Session) :
    (∃ fault, delete h s = (.error fault, s)) ∨
      ∃ r, s.engine.object? h.connection h.id = some r ∧
        delete h s = (.ok (), dropLostCamera
          { s with
            engine := s.engine.updateStore h.connection fun store => store.remove h.id
            slots := s.slots.forgetProxy h }) := by
  rcases Engine.delete_cases h s.engine with ⟨fault, hdel⟩ | ⟨r, hr, hdel⟩
  · exact Or.inl ⟨_, Step.bind_error (onEngine_error hdel)⟩
  · exact Or.inr ⟨r, hr, Step.bind_ok (onEngine_ok hdel)⟩

/-! ## Extensions -/

/-- The two sessions differ at most in what scripts can call. -/
def Alongside (s s' : Session) : Prop := s'.engine = s.engine ∧ s'.slots = s.slots

theorem Alongside.changes {s s' : Session} (h : Alongside s s') :
    Engine.Changes s.engine s'.engine := by
  rw [h.1]

theorem alongside_registerPlugin (p : Plugin) (s : Session) :
    Alongside s (registerPlugin p s).2 := ⟨rfl, rfl⟩

theorem alongside_extendExports (names : List String) (s : Session) :
    Alongside s (s.extendExports names).2 := ⟨rfl, rfl⟩

/-- A plugin that cannot be scanned changes nothing; the names that one took are offered. -/
theorem loadPlugin_cases (p : Plugin) (s : Session) :
    (∃ fault, loadPlugin p s = (.error fault, s)) ∨
      ∃ registration registry, Registry.register p s.registry = (.ok registration, registry) ∧
        (loadPlugin p s).2 =
          ({ s with registry := registry }.extendExports registration.names).2 := by
  cases hp : p.contributions with
  | error cause =>
    have hreg : registerPlugin p s = (.error (.registration p.name cause), s) :=
      Step.within_error (Registry.register_error hp s.registry)
    exact Or.inl ⟨_, Step.bind_error hreg⟩
  | ok callables =>
    have hok : ∃ registration registry,
        Registry.register p s.registry = (.ok registration, registry) := by
      simp [Registry.register, hp]
    obtain ⟨registration, registry, hok⟩ := hok
    have hreg : registerPlugin p s = (.ok registration, { s with registry := registry }) :=
      Step.within_ok hok
    exact Or.inr ⟨registration, registry, hok, congrArg Prod.snd (Step.bind_ok hreg)⟩

theorem alongside_loadPlugin (p : Plugin) (s : Session) : Alongside s (loadPlugin p s).2 := by
  rcases loadPlugin_cases p s with ⟨fault, h⟩ | ⟨registration, registry, -, h⟩
  · rw [h]
    exact ⟨rfl, rfl⟩
  · rw [h]
    exact ⟨rfl, rfl⟩

theorem alongside_addConstructors (ds : List Definition) (s : Session) :
    Alongside s (s.addConstructors ds).2 := by
  induction ds generalizing s with
  | nil => exact ⟨rfl, rfl⟩
  | cons d ds ih =>
    unfold addConstructors
    split
    · exact ih s
    · rename_i name _
      exact ih (s.addConstructor name d)

theorem alongside_extendNamespace (ps : List Plugin) (s : Session) :
    Alongside s (s.extendNamespace ps).2 :=
  alongside_addConstructors s.constructible s

/-! ## What moves do to the engine -/

theorem changes_leave (c : ConnectionId) (s : Session) :
    Engine.Changes s.engine (leave c s).2.engine := by
  rw [leave_apply]
  dsimp only
  split
  · exact Engine.changes_disconnect c s.engine
  · exact .refl

theorem changes_join (s : Session) : Engine.Changes s.engine (join s).2.engine := by
  obtain ⟨stats, ⟨fault, h⟩ | h⟩ := join_cases s
  · rw [h]
    exact .single (.edit (.count s.engine stats))
  · rw [h]
    exact .tail (.single (.edit (.count s.engine stats))) (.connect _)

@[simp] theorem engine_activateNew (h : Handle) (g : Group) (s : Session) :
    (activateNew h g s).2.engine = s.engine := by
  cases g <;> rfl

theorem changes_settle (h : Handle) (g : Group) (requested : Option String) (s : Session) :
    Engine.Changes s.engine (settle h g requested s).2.engine := by
  rcases settle_cases h g requested s with ⟨fault, hsettle⟩ | ⟨e, hedits, hsettle⟩
  · rw [hsettle]
    exact Engine.changes_delete h s.engine
  · rw [hsettle, engine_activateNew]
    exact hedits.changes

theorem changes_create (g : Group) (name : String) (ps : Properties) (s : Session) :
    Engine.Changes s.engine (create g name ps s).2.engine := by
  rcases create_steps g name ps s with ⟨fault, h, -⟩ | ⟨c, requested, -, -, -, hcase⟩
  · rw [h]
  · have hmade := (Engine.edits_create c g name (ps.erase nameKeyword) s.engine).changes
    rcases hcase with ⟨fault, e, heq, h⟩ | ⟨new, e, heq, h⟩
    · rw [heq] at hmade
      rw [h]
      exact hmade
    · rw [heq] at hmade
      rw [h]
      exact hmade.trans (changes_settle new g requested { s with engine := e })

theorem changes_delete (h : Handle) (s : Session) :
    Engine.Changes s.engine (delete h s).2.engine := by
  rcases delete_cases h s with ⟨fault, hdel⟩ | ⟨r, hr, hdel⟩
  · rw [hdel]
  · rw [hdel, engine_dropLostCamera]
    exact .single (.remove hr)

/-- Moves reach the engine through its operations only. -/
theorem Move.changes {given : Handle → Prop} {s s' : Session} (h : Move given s s') :
    Engine.Changes s.engine s'.engine := by
  cases h with
  | leave => exact changes_leave _ s
  | join => exact changes_join s
  | occupy | configure => exact .refl
  | create g name ps => exact changes_create g name ps s
  | delete => exact changes_delete _ s
  | edit h => exact h.changes
  | register p => exact (alongside_registerPlugin p s).changes
  | load p => exact (alongside_loadPlugin p s).changes
  | extend ps => exact (alongside_extendNamespace ps s).changes

theorem Moves.changes {given : Handle → Prop} {s s' : Session} (h : Moves given s s') :
    Engine.Changes s.engine s'.engine := by
  induction h with
  | refl => exact .refl
  | tail _ hstep ih => exact ih.trans hstep.changes

/-! ## Turns and what leaves the engine alone -/

/-- A turn, or a step that leaves the engine alone. -/
def Passes (given : Handle → Prop) (named : Handle → String → Prop) (s s' : Session) : Prop :=
  Turn given named s s' ∨ s'.engine = s.engine

section Passes

variable {given : Handle → Prop} {named : Handle → String → Prop} {s s' : Session}

theorem passes_of_turns (h : ReflTransGen (Turn given named) s s') :
    ReflTransGen (Passes given named) s s' :=
  ReflTransGen.mono (fun _ _ => Or.inl) _ _ h

theorem Alongside.passes (h : Alongside s s') : Passes given named s s' := Or.inr h.1

theorem passes_start (s : Session) : ReflTransGen (Passes given named) s (start s).2 := by
  rcases start_cases given s with h | ⟨hturns, -⟩
  · rw [h]
    exact .single (alongside_extendNamespace [] s).passes
  · exact ReflTransGen.mono (fun _ _ h => Or.inl (h.mono (fun _ h => h) fun _ _ h => h.elim))
      _ _ hturns

theorem Passes.mono {given' : Handle → Prop} {named' : Handle → String → Prop}
    (hg : ∀ x, given x → given' x) (hn : ∀ x name, named x name → named' x name)
    (h : Passes given named s s') : Passes given' named' s s' :=
  h.imp_left (Turn.mono hg hn)

/-- A bound call of any built-in function. -/
theorem passes_call (c : BoundCall) (s : Session) :
    ReflTransGen (Passes c.Gives c.Renames) s (call c s).2 := by
  by_cases hc : c.callee.IsExtension
  · obtain ⟨callee, given, rest⟩ := c
    obtain rfl | rfl : callee = .extendNamespace ∨ callee = .start := hc
    · exact .single (alongside_extendNamespace [] s).passes
    · exact steps_answer startupValue (passes_start s)
  · exact passes_of_turns (acts_call c hc s).1

theorem passes_dispatch (name : String) (args : Args) (s : Session) :
    ReflTransGen (Passes args.Mentions (CallRenames name args)) s (dispatch name args s).2 :=
  steps_dispatch (fun h => Or.inl (h.mono (fun _ h => h) fun _ _ h => h.elim)) fun b args' hb =>
    ReflTransGen.mono
      (fun _ _ => Passes.mono (fun _ => hb.mentions) fun _ _ hnew => ⟨b, args', hb, hnew⟩) _ _
      (passes_call (b.bind args') s)

theorem passes_invoke (name : String) (args : Args) (s : Session) :
    ReflTransGen (Passes args.Mentions (CallRenames name args)) s (invoke name args s).2 :=
  steps_provide (fun h => Or.inl (h.mono (fun _ h => h) fun _ _ h => h.elim))
    (passes_dispatch name args s)

/-- What a method does to the engine it does by turns. -/
theorem passes_perform {op : Op} (hengine : ∀ o, op ≠ .engine o) (s : Session) :
    ReflTransGen (Passes op.Takes op.Renames) s (perform op s).2 := by
  by_cases hop : op.Turns
  · exact passes_of_turns (turns_perform hop s)
  cases op with
  | engine o => exact absurd rfl (hengine o)
  | clearActive | extendExports | setConfig => exact .single (Or.inr rfl)
  | registerPlugin p => exact steps_answer _ (.single (alongside_registerPlugin p s).passes)
  | loadPlugin p => exact steps_answer _ (.single (alongside_loadPlugin p s).passes)
  | extendNamespace ps => exact .single (alongside_extendNamespace ps s).passes
  | start => exact steps_answer _ (passes_start s)
  | invoke name args => exact steps_answer _ (passes_invoke name args s)
  | dispatch name args => exact steps_answer _ (passes_dispatch name args s)
  | connect | disconnect | reset | active | setActive | activeConnection | activeProxy | cameraOf
  | activeViewOrCreate | create | delete | rename | registrationName | find | findViewOrCreate
  | list | setProperties | getProperty | resetProperty | getRepresentation | showSource
  | hideSource | render | renderAllViews | interact => exact absurd trivial hop

end Passes

end Session

end VizSession
