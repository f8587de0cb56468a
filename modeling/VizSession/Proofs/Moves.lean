import VizSession.Proofs.Changes
import VizSession.Session.Run

/-!
# What methods do to a session

Whatever method of a session is called, and whether it succeeds, the session goes through a
chain of a few kinds of move (`Session.Move`) : a connection is left or joined, something
becomes active, an object is made or deleted, the engine is edited, and what scripts can
call is extended. There is a lemma for every method (`acts_connect`, `acts_create`, ...).
Most methods extend nothing and leave the configuration alone, so these lemmas are about
fewer kinds of move (`Session.Turn`), which in turn tell the operations of the engine apart. Only
an extension and a start go further (`follows_extendNamespace`, `follows_start`).

The objects that a method deletes or makes active by their handles are among those that it
was given (`Op.Takes`), which is what `Move` is relative to. A `Turn` is also relative to the
names that the method is to give.

On the way `Step.Follows` also keeps account of failures : no method fails by saying that
some function is unknown (`Ordinary`). Looking at what is active, and making something active,
fails in a few ways only (`Unusable`).
-/

namespace VizSession

open Relation

/-! ## Steps that go along a relation -/

/-- Every run of the step is a chain of `R`, and its failures satisfy `Q`. -/
def Step.Follows {σ ε α : Type} (R : σ → σ → Prop) (Q : ε → Prop) (x : Step σ ε α) : Prop :=
  ∀ s, ReflTransGen R s (x s).2 ∧ ∀ fault, (x s).1 = .error fault → Q fault

namespace Step

variable {σ ε α β : Type} {R R' : σ → σ → Prop} {Q : ε → Prop}

theorem follows_pure (a : α) : Follows R Q (pure a : Step σ ε α) :=
  fun _ => ⟨.refl, fun _ h => by cases h⟩

theorem follows_read (f : σ → α) : Follows R Q (read f : Step σ ε α) :=
  fun _ => ⟨.refl, fun _ h => by cases h⟩

theorem follows_fail {fault : ε} (h : Q fault) : Follows R Q (fail fault : Step σ ε α) := by
  refine fun _ => ⟨.refl, fun fault' h' => ?_⟩
  cases h'
  exact h

theorem follows_query {f : σ → Except ε α} (h : ∀ s fault, f s = .error fault → Q fault) :
    Follows R Q (query f) :=
  fun s => ⟨.refl, h s⟩

theorem follows_ofExcept {r : Except ε α} (h : ∀ fault, r = .error fault → Q fault) :
    Follows R Q (ofExcept r : Step σ ε α) :=
  fun _ => ⟨.refl, h⟩

theorem Follows.bind {x : Step σ ε α} {f : α → Step σ ε β} (hx : Follows R Q x)
    (hf : ∀ a, Follows R Q (f a)) : Follows R Q (x >>= f) := by
  intro s
  obtain ⟨hs, hq⟩ := hx s
  rw [bind_apply]
  cases h : x s with
  | mk answer s' =>
    rw [h] at hs hq
    cases answer with
    | ok a => exact ⟨hs.trans (hf a s').1, (hf a s').2⟩
    | error fault =>
      refine ⟨hs, fun fault' h' => ?_⟩
      cases h'
      exact hq fault rfl

/-- An answer that was computed without the state is known to what follows. -/
theorem follows_ofExcept_bind {r : Except ε α} {f : α → Step σ ε β}
    (hq : ∀ fault, r = .error fault → Q fault) (hf : ∀ a, r = .ok a → Follows R Q (f a)) :
    Follows R Q (ofExcept r >>= f) := by
  cases r with
  | ok a => exact hf a rfl
  | error fault => exact follows_fail (hq fault rfl)

theorem follows_ite {p : Prop} [Decidable p] {x y : Step σ ε α} (hx : Follows R Q x)
    (hy : Follows R Q y) : Follows R Q (if p then x else y) := by
  split
  · exact hx
  · exact hy

theorem Follows.mono {x : Step σ ε α} (hx : Follows R Q x) (h : ∀ s s', R s s' → R' s s') :
    Follows R' Q x :=
  fun s => ⟨ReflTransGen.mono h _ _ (hx s).1, (hx s).2⟩

theorem Follows.weaken {x : Step σ ε α} (hx : Follows R Q x) {Q' : ε → Prop}
    (h : ∀ {fault}, Q fault → Q' fault) : Follows R Q' x :=
  fun s => ⟨(hx s).1, fun fault hf => h ((hx s).2 fault hf)⟩

end Step

/-! ## Handles among arguments -/

/-- The handle is an argument of the call. -/
def Args.Mentions (args : Args) (h : Handle) : Prop :=
  .proxy h ∈ args.positional ∨ Properties.Mentions args.keywords h

theorem Args.mentions_of_lookup? {args : Args} {name : String} {i : Nat} {h : Handle}
    (hv : args.lookup? name i = some (.proxy h)) : args.Mentions h := by
  unfold lookup? at hv
  rcases Option.or_eq_some_iff.mp hv with hk | ⟨-, hp⟩
  · exact Or.inr ⟨name, hk⟩
  · exact Or.inl (List.mem_of_getElem? hp)

namespace Session

/-- The handle is an argument of the method. -/
def Op.Takes : Op → Handle → Prop
  | .setActive _ o, h => o = .proxy h
  | .cameraOf h', h | .delete h', h | .rename h' _, h | .registrationName h', h => h' = h
  | .create _ _ ps, h => ps.Mentions h
  | .setProperties h' ps, h => h' = some h ∨ ps.Mentions h
  | .getProperty h' _, h | .resetProperty h' _, h | .render h', h | .interact h', h => h' = some h
  | .getRepresentation source view, h | .showSource source view, h | .hideSource source view, h =>
    source = some h ∨ view = some h
  | .invoke _ args, h | .dispatch _ args, h => args.Mentions h
  | _, _ => False

/-! ## The kinds of move -/

/-- One move of a session. Objects that are deleted or made active by their handles satisfy
`given`. -/
inductive Move (given : Handle → Prop) : Session → Session → Prop where
  /-- The active connection was left. -/
  | leave {s : Session} {c : ConnectionId} (hc : s.slots.connection = some c) :
      Move given s (leave c s).2
  /-- Without an active connection, one was made, or refused. -/
  | join {s : Session} (hc : s.slots.connection = none) : Move given s (join s).2
  /-- Something was to become active. -/
  | occupy (s : Session) (k : SlotKind) (o : Occupant) (ho : ∀ h, o = .proxy h → given h) :
      Move given s (setActive k o s).2
  /-- An object was to be made. -/
  | create (s : Session) (g : Group) (name : String) (ps : Properties) :
      Move given s (create g name ps s).2
  /-- An object was to be deleted. -/
  | delete (s : Session) {h : Handle} (hh : given h) : Move given s (delete h s).2
  /-- Objects were changed, or made by the way. -/
  | edit {s : Session} {e : Engine} (h : Engine.Edits s.engine e) :
      Move given s { s with engine := e }
  /-- A plugin was scanned. -/
  | register (s : Session) (p : Plugin) : Move given s (registerPlugin p s).2
  /-- A plugin was scanned and its names were exported. -/
  | load (s : Session) (p : Plugin) : Move given s (loadPlugin p s).2
  /-- The exports were extended by all that was known, and by plugins. -/
  | extend (s : Session) (ps : List Plugin) : Move given s (s.extendNamespace ps).2
  /-- The configuration was exchanged. -/
  | configure (s : Session) (config : Config) : Move given s { s with config := config }

/-- A chain of moves. -/
abbrev Moves (given : Handle → Prop) : Session → Session → Prop := ReflTransGen (Move given)

/-- A move that is no extension and leaves the configuration alone. What it does to objects
that are there is told apart, and objects are renamed only as `named` says. -/
inductive Turn (given : Handle → Prop) (named : Handle → String → Prop) :
    Session → Session → Prop where
  | leave {s : Session} {c : ConnectionId} (hc : s.slots.connection = some c) :
      Turn given named s (leave c s).2
  | join {s : Session} (hc : s.slots.connection = none) : Turn given named s (join s).2
  | occupy (s : Session) (k : SlotKind) (o : Occupant) (ho : ∀ h, o = .proxy h → given h) :
      Turn given named s (setActive k o s).2
  | create (s : Session) (g : Group) (name : String) (ps : Properties) :
      Turn given named s (create g name ps s).2
  | delete (s : Session) {h : Handle} (hh : given h) : Turn given named s (delete h s).2
  | rename (s : Session) {h : Handle} {name : String} (hn : named h name) :
      Turn given named s { s with engine := (Engine.rename h name s.engine).2 }
  | write (s : Session) (h : Handle) (ps : Properties) :
      Turn given named s { s with engine := (Engine.setProperties h ps s.engine).2 }
  | display (s : Session) (source view : Handle) (visible : Bool) :
      Turn given named s
        { s with engine := (Engine.setVisibility source view visible s.engine).2 }
  | render (s : Session) (view : Handle) :
      Turn given named s { s with engine := (Engine.render view s.engine).2 }
  | interact (s : Session) (view : Handle) :
      Turn given named s { s with engine := (Engine.interact view s.engine).2 }

section Turn

variable {given given' : Handle → Prop} {named named' : Handle → String → Prop} {s s' : Session}

theorem Turn.move (h : Turn given named s s') : Move given s s' := by
  cases h with
  | leave hc => exact .leave hc
  | join hc => exact .join hc
  | occupy k o ho => exact .occupy _ k o ho
  | create g name ps => exact .create ..
  | delete hh => exact .delete _ hh
  | rename => exact .edit (Engine.edits_rename ..)
  | write => exact .edit (Engine.edits_setProperties ..)
  | display => exact .edit (Engine.edits_setVisibility ..)
  | render => exact .edit (Engine.edits_render ..)
  | interact => exact .edit (Engine.edits_interact ..)

theorem Turn.mono (hg : ∀ x, given x → given' x) (hn : ∀ x name, named x name → named' x name)
    (ht : Turn given named s s') : Turn given' named' s s' := by
  cases ht with
  | leave hc => exact .leave hc
  | join hc => exact .join hc
  | occupy k o ho => exact .occupy _ k o fun x hx => hg x (ho x hx)
  | create => exact .create ..
  | delete hh => exact .delete _ (hg _ hh)
  | rename h => exact .rename _ (hn _ _ h)
  | write => exact .write ..
  | display => exact .display ..
  | render => exact .render ..
  | interact => exact .interact ..

end Turn

theorem Move.mono {given given' : Handle → Prop} (h : ∀ x, given x → given' x) {s s' : Session}
    (hm : Move given s s') : Move given' s s' := by
  cases hm with
  | leave hc => exact .leave hc
  | join hc => exact .join hc
  | occupy k o ho => exact .occupy _ k o fun x hx => h x (ho x hx)
  | create g name ps => exact .create ..
  | delete hh => exact .delete _ (h _ hh)
  | edit h => exact .edit h
  | register => exact .register ..
  | load => exact .load ..
  | extend => exact .extend ..
  | configure => exact .configure ..

/-! ## Failures -/

/-- A failure other than that a function is unknown. -/
def Ordinary (fault : SessionError) : Prop := ∀ name, fault ≠ .unknownFunction name

theorem ordinary_of_onEngine {α : Type} {x : Step Engine EngineError α} {s : Session}
    {fault : SessionError} (h : (onEngine x s).1 = .error fault) : Ordinary fault := by
  have h' : (x s.engine).1.mapError SessionError.engine = .error fault := h
  cases hx : (x s.engine).1 with
  | ok a =>
    rw [hx] at h'
    cases h'
  | error cause =>
    rw [hx] at h'
    cases h'
    exact fun _ h => by cases h

/-- What is active, or is to become active, cannot be used. -/
inductive Unusable : SessionError → Prop where
  | noActiveConnection : Unusable .noActiveConnection
  | staleReference (k : SlotKind) (c : ConnectionId) : Unusable (.staleReference k c)
  | deleted (k : SlotKind) (h : Handle) : Unusable (.deleted k h)
  | unknownConnection (c : ConnectionId) : Unusable (.unknownConnection c)
  | wrongConnection (k : SlotKind) (c c' : ConnectionId) : Unusable (.wrongConnection k c c')
  | kindMismatch (k : SlotKind) (g : Group) : Unusable (.kindMismatch k g)
  | notAProxy (k : SlotKind) : Unusable (.notAProxy k)
  | proxyNotFound (id : UInt64) : Unusable (.engine (.proxyNotFound id))

theorem Unusable.ordinary {fault : SessionError} (h : Unusable fault) : Ordinary fault := by
  intro name
  cases h <;> nofun

section Unusable

variable {slots : Slots} {k : SlotKind} {e : Engine} {fault : SessionError}

theorem unusable_of_get (h : slots.get k e = .error fault) : Unusable fault := by
  unfold Slots.get Slots.staleness? at h
  split at h
  · cases h
  · split at h
    · rename_i hstale
      obtain rfl := Except.error.inj h
      split at hstale
      · rw [← Option.some.inj hstale]
        exact .staleReference k _
      · split at hstale
        · cases hstale
        · split at hstale
          · cases hstale
          · rw [← Option.some.inj hstale]
            exact .deleted k _
    · cases h

theorem unusable_of_liveConnection (h : slots.liveConnection e = .error fault) :
    Unusable fault := by
  unfold Slots.liveConnection at h
  split at h
  · rw [← Except.error.inj h]
    exact .noActiveConnection
  · split at h
    · cases h
    · rw [← Except.error.inj h]
      exact .staleReference .connection _

/-- An object is refused as no live connection is active, as it is on another one, as its group does
not fit the slot, or as it is gone. -/
theorem unusable_of_refusal? {h : Handle} (hr : slots.refusal? k h e = some fault) :
    Unusable fault := by
  unfold Slots.refusal? at hr
  split at hr
  · rename_i hc
    obtain rfl := Option.some.inj hr
    exact unusable_of_liveConnection hc
  · split at hr
    · rw [← Option.some.inj hr]
      exact .wrongConnection k _ _
    · split at hr
      · rw [← Option.some.inj hr]
        exact .kindMismatch k _
      · split at hr
        · rw [← Option.some.inj hr]
          exact .proxyNotFound _
        · cases hr

theorem unusable_of_setActive {o : Occupant} {s : Session}
    (h : (setActive k o s).1 = .error fault) : Unusable fault := by
  have hset : (Slots.set k o s.engine s.slots).1 = .error fault := h
  unfold Slots.set at hset
  split at hset
  · split at hset
    · cases hset
    · rw [← Except.error.inj hset]
      exact .unknownConnection _
  · rw [← Except.error.inj hset]
    exact .kindMismatch .connection _
  · rw [← Except.error.inj hset]
    exact .notAProxy k
  · split at hset
    · rename_i hr
      obtain rfl := Except.error.inj hset
      exact unusable_of_refusal? hr
    · cases hset

end Unusable

/-! ## Steps that leave the session alone -/

section Asking

variable {R : Session → Session → Prop}

theorem follows_active (k : SlotKind) : (active k).Follows R Unusable :=
  Step.follows_query fun _ _ => unusable_of_get

theorem follows_activeConnection : activeConnection.Follows R Unusable :=
  (follows_active _).bind fun _ => Step.follows_pure _

theorem follows_activeProxy (k : SlotKind) : (activeProxy k).Follows R Unusable :=
  (follows_active k).bind fun _ => Step.follows_pure _

theorem follows_requireConnection : requireConnection.Follows R Unusable := by
  refine follows_activeConnection.bind fun c => ?_
  cases c with
  | some c => exact Step.follows_pure c
  | none => exact Step.follows_fail .noActiveConnection

theorem follows_orActive (k : SlotKind) (h : Option Handle) :
    (orActive k h).Follows R Ordinary := by
  cases h with
  | some h => exact Step.follows_pure h
  | none =>
    refine ((follows_activeProxy k).weaken Unusable.ordinary).bind fun h => ?_
    cases h with
    | some h => exact Step.follows_pure h
    | none => exact Step.follows_fail fun _ h => by cases h

theorem follows_askEngine {α : Type} (f : Engine → Except EngineError α) :
    (askEngine f).Follows R Ordinary :=
  fun _ => ⟨.refl, fun _ => ordinary_of_onEngine⟩

theorem follows_find (g : Group) (name : String) : (find g name).Follows R Ordinary :=
  (follows_requireConnection.weaken Unusable.ordinary).bind fun _ => Step.follows_read _

theorem follows_list (g : Group) : (list g).Follows R Ordinary :=
  (follows_requireConnection.weaken Unusable.ordinary).bind fun _ => Step.follows_read _

theorem follows_getProperty (h : Option Handle) (name : String) :
    (getProperty h name).Follows R Ordinary := by
  refine (follows_orActive _ h).bind fun h => (follows_askEngine _).bind fun ps => ?_
  cases ps.find? name with
  | some v => exact Step.follows_pure v
  | none => exact Step.follows_fail fun _ h => by cases h

/-- Of a step whose moves do not matter, only the failures count. -/
theorem follows_of_failures {α : Type} {x : SessionStep α} {Q : SessionError → Prop}
    (h : ∀ s fault, (x s).1 = .error fault → Q fault) : x.Follows (fun _ _ => True) Q :=
  fun s => ⟨.single trivial, h s⟩

end Asking

/-! ## Methods as chains of moves -/

/-- The method is a chain of moves that are no extensions, and its failures are ordinary. -/
abbrev Acts {α : Type} (given : Handle → Prop) (named : Handle → String → Prop)
    (x : SessionStep α) : Prop :=
  x.Follows (Turn given named) Ordinary

section Methods

variable {given : Handle → Prop} {named : Handle → String → Prop}

/-- A step of the engine. -/
theorem follows_onEngine {α : Type} {R : Session → Session → Prop} {x : Step Engine EngineError α}
    (h : ∀ s, R s { s with engine := (x s.engine).2 }) : (onEngine x).Follows R Ordinary :=
  fun s => ⟨.single (h s), fun _ => ordinary_of_onEngine⟩

theorem acts_renderView (view : Handle) : Acts given named (onEngine (Engine.render view)) :=
  follows_onEngine fun s => .render s view

theorem acts_setActive {k : SlotKind} {o : Occupant} (ho : ∀ h, o = .proxy h → given h) :
    Acts given named (setActive k o) :=
  fun s => ⟨.single (.occupy s k o ho), fun _ h => (unusable_of_setActive h).ordinary⟩

/-- Leaving a connection cannot fail. -/
theorem leave_apply (c : ConnectionId) (s : Session) : leave c s =
    (.ok (), { s with
      engine := if s.engine.isAlive c then (Engine.disconnect c s.engine).2 else s.engine
      slots := s.slots.forgetConnection c }) := by
  unfold leave
  rw [Step.bind_apply, Step.read_apply]
  dsimp only
  by_cases hc : s.engine.isAlive c = true
  · have hdis : Engine.disconnect c s.engine = (.ok (), (Engine.disconnect c s.engine).2) := by
      obtain ⟨stats, h⟩ := Engine.disconnect_eq c s.engine
      rw [h, if_pos hc]
    rw [if_pos hc, if_pos hc, Step.bind_apply]
    simp only [onEngine, Step.within]
    rw [hdis]
    rfl
  · rw [if_neg hc, if_neg hc]
    rfl

theorem connection_leave {s : Session} {c : ConnectionId} (hc : s.slots.connection = some c) :
    (leave c s).2.slots.connection = none := by
  rw [leave_apply]
  simp [Slots.forgetConnection, hc]

theorem acts_disconnect : Acts given named disconnect := by
  intro s
  unfold disconnect
  rw [Step.bind_apply, Step.read_apply]
  cases hc : s.slots.connection with
  | some c =>
    refine ⟨.single (.leave hc), fun fault h => ?_⟩
    rw [show (leave c s).1 = .ok () from congrArg Prod.fst (leave_apply c s)] at h
    cases h
  | none => exact ⟨.refl, fun fault h => by cases h; exact fun _ h => by cases h⟩

theorem ordinary_of_join {s : Session} {fault : SessionError} (h : (join s).1 = .error fault) :
    Ordinary fault := by
  have hjoin : join.Follows (fun _ _ => True) Ordinary :=
    (Step.follows_read _).bind fun _ =>
      (follows_of_failures fun _ _ => ordinary_of_onEngine).bind fun _ =>
        (follows_of_failures fun _ _ h => (unusable_of_setActive h).ordinary).bind fun _ =>
          Step.follows_pure _
  exact (hjoin s).2 fault h

theorem acts_connect : Acts given named connect := by
  intro s
  unfold connect
  rw [Step.bind_apply, Step.read_apply]
  cases hc : s.slots.connection with
  | some c =>
    have hleave : leave c s = (.ok (), (leave c s).2) := by rw [leave_apply]
    dsimp only
    rw [Step.bind_ok hleave]
    exact ⟨.tail (.single (.leave hc)) (.join (connection_leave hc)),
      fun _ => ordinary_of_join⟩
  | none => exact ⟨.single (.join hc), fun _ => ordinary_of_join⟩

theorem acts_reset : Acts given named reset :=
  (Step.follows_read _).bind fun _ =>
    Step.follows_ite (acts_disconnect.bind fun _ => acts_connect) acts_connect

theorem requestedName_eq_error {ps : Properties} {fault : SessionError}
    (h : requestedName ps = .error fault) :
    fault = .engine (.invalidProperty nameKeyword .blankName) ∨
      fault = .call "create" (.typeMismatch nameKeyword "string") := by
  unfold requestedName at h
  split at h
  · cases h
  · split at h
    · exact Or.inl (Except.error.inj h).symm
    · cases h
  · exact Or.inr (Except.error.inj h).symm

/-- Only the engine refuses a name. -/
theorem nameOrDiscard_eq_error {h : Handle} {name : String} {s : Session} {fault : SessionError}
    (hf : (nameOrDiscard h name s).1 = .error fault) :
    ∃ cause, (Engine.rename h name s.engine).1 = .error cause ∧ fault = .engine cause := by
  unfold nameOrDiscard at hf
  split at hf
  · cases hf
  · rename_i cause e hname
    exact ⟨cause, congrArg Prod.fst hname, (Except.error.inj hf).symm⟩

/-- A new object is not settled if the engine refuses its name or it cannot become active. -/
theorem failure_of_settle {Q : SessionError → Prop} {h : Handle} {g : Group}
    {requested : Option String} {s : Session} {fault : SessionError}
    (hf : (settle h g requested s).1 = .error fault)
    (hname : ∀ name s fault, (nameOrDiscard h name s).1 = .error fault → Q fault)
    (hactive : ∀ {fault}, Unusable fault → Q fault) : Q fault := by
  have hactivate : (activateNew h g).Follows (fun _ _ => True) Q := by
    cases g with
    | views | sources =>
      exact follows_of_failures fun _ _ h => hactive (unusable_of_setActive h)
    | cameras | representations | lookupTables | layouts => exact Step.follows_pure ()
  have hsettle : (settle h g requested).Follows (fun _ _ => True) Q := by
    cases requested with
    | some name =>
      exact (follows_of_failures (hname name)).bind fun _ =>
        hactivate.bind fun _ => Step.follows_pure _
    | none => exact hactivate.bind fun _ => Step.follows_pure _
  exact (hsettle s).2 fault hf

theorem ordinary_of_settle {h : Handle} {g : Group} {requested : Option String} {s : Session}
    {fault : SessionError} (hf : (settle h g requested s).1 = .error fault) : Ordinary fault :=
  failure_of_settle hf (fun _ _ _ h => by
    obtain ⟨cause, -, rfl⟩ := nameOrDiscard_eq_error h
    exact nofun) Unusable.ordinary

theorem ordinary_of_create {g : Group} {name : String} {ps : Properties} {s : Session}
    {fault : SessionError} (h : (create g name ps s).1 = .error fault) : Ordinary fault := by
  have hrequested : ∀ fault, requestedName ps = .error fault → Ordinary fault := by
    intro fault h
    rcases requestedName_eq_error h with rfl | rfl <;> exact nofun
  have hcreate : (create g name ps).Follows (fun _ _ => True) Ordinary :=
    (follows_requireConnection.weaken Unusable.ordinary).bind fun _ =>
      (Step.follows_ofExcept hrequested).bind fun _ =>
        (follows_of_failures fun _ _ => ordinary_of_onEngine).bind fun _ =>
          follows_of_failures fun _ _ => ordinary_of_settle
  exact (hcreate s).2 fault h

theorem acts_create (g : Group) (name : String) (ps : Properties) :
    Acts given named (create g name ps) :=
  fun s => ⟨.single (.create s g name ps), fun _ => ordinary_of_create⟩

theorem ordinary_of_delete {h : Handle} {s : Session} {fault : SessionError}
    (hf : (delete h s).1 = .error fault) : Ordinary fault := by
  have hdelete : (delete h).Follows (fun _ _ => True) Ordinary :=
    (follows_of_failures fun _ _ => ordinary_of_onEngine).bind fun _ =>
      (follows_of_failures fun _ _ h => by cases h).bind fun _ =>
        follows_of_failures fun _ _ h => by cases h
  exact (hdelete s).2 fault hf

theorem acts_delete {h : Handle} (hh : given h) : Acts given named (delete h) :=
  fun s => ⟨.single (.delete s hh), fun _ => ordinary_of_delete⟩

theorem acts_rename {h : Handle} {name : String} (hn : named h name) :
    Acts given named (rename h name) :=
  follows_onEngine fun s => .rename s hn

theorem acts_findViewOrCreate (name definition : String) :
    Acts given named (findViewOrCreate name definition) := by
  refine (follows_find .views name).bind fun found => ?_
  cases found with
  | some view => exact Step.follows_pure view
  | none => exact acts_create _ _ _

theorem acts_activeViewOrCreate : Acts given named activeViewOrCreate := by
  refine ((follows_activeProxy .view).weaken Unusable.ordinary).bind fun view => ?_
  cases view with
  | some view => exact Step.follows_pure view
  | none =>
    exact (Step.follows_read _).bind fun config =>
      Step.follows_ite (acts_create _ _ _) (Step.follows_fail fun _ h => by cases h)

theorem acts_orActiveView (view : Option Handle) : Acts given named (orActiveView view) := by
  cases view with
  | some view => exact Step.follows_pure view
  | none => exact acts_activeViewOrCreate

theorem acts_setProperties (h : Option Handle) (ps : Properties) :
    Acts given named (setProperties h ps) :=
  (follows_orActive _ h).bind fun h =>
    (follows_onEngine fun s => .write s h ps).bind fun _ => Step.follows_pure _

theorem acts_resetProperty (h : Option Handle) (name : String) :
    Acts given named (resetProperty h name) := by
  refine (follows_orActive _ h).bind fun h => (Step.follows_read _).bind fun default => ?_
  cases default with
  | none => exact Step.follows_fail fun _ h => by cases h
  | some v =>
    exact (follows_onEngine fun s => .write s h _).bind fun _ => Step.follows_pure _

theorem acts_setVisibility (source view : Handle) (visible : Bool) :
    Acts given named (onEngine (Engine.setVisibility source view visible)) :=
  follows_onEngine fun s => .display s source view visible

theorem acts_getRepresentation (source view : Option Handle) :
    Acts given named (getRepresentation source view) := by
  refine (follows_orActive _ source).bind fun source => (acts_orActiveView view).bind fun view =>
    (follows_askEngine _).bind fun found => ?_
  cases found with
  | some h => exact Step.follows_pure h
  | none => exact acts_setVisibility source view false

theorem acts_showSource (source view : Option Handle) : Acts given named (showSource source view) :=
  (follows_orActive _ source).bind fun source => (acts_orActiveView view).bind fun view =>
    acts_setVisibility source view true

theorem acts_hideSource (source view : Option Handle) : Acts given named (hideSource source view) :=
  (follows_orActive _ source).bind fun source => (follows_orActive _ view).bind fun view =>
    acts_setVisibility source view false

theorem acts_render (view : Option Handle) : Acts given named (render view) :=
  (acts_orActiveView view).bind fun view =>
    (acts_renderView view).bind fun _ => Step.follows_pure _

theorem acts_renderEach (views : List Handle) : Acts given named (renderEach views) := by
  induction views with
  | nil => exact Step.follows_pure ()
  | cons view views ih => exact (acts_renderView view).bind fun _ => ih

theorem acts_renderAllViews : Acts given named renderAllViews :=
  (follows_list .views).bind fun views =>
    (acts_renderEach views).bind fun _ => Step.follows_pure _

theorem acts_interact (view : Option Handle) : Acts given named (interact view) :=
  (acts_orActiveView view).bind fun view =>
    (follows_onEngine fun s => .interact s view).bind fun _ => Step.follows_pure _

theorem follows_extendNamespace {α : Type} (ps : List Plugin) (f : ExtensionReport → α) :
    Step.Follows (Move given) Ordinary fun s =>
      (.ok (f (s.extendNamespace ps).1), (s.extendNamespace ps).2) :=
  fun s => ⟨.single (.extend s ps), fun _ h => by cases h⟩

/-- Starting extends the exports and says so, or it is a chain of moves that are no
extensions, none of which renames an object. -/
theorem start_cases (given : Handle → Prop) (s : Session) :
    start s = (.ok (.extended (s.extendNamespace []).1), (s.extendNamespace []).2) ∨
      ReflTransGen (Turn given fun _ _ => False) s (start s).2 ∧
        (∀ report, (start s).1 ≠ .ok (.extended report)) ∧
          ∀ fault, (start s).1 = .error fault → Ordinary fault := by
  unfold start
  rw [Step.bind_apply, Step.read_apply]
  dsimp only
  split
  · exact Or.inr ⟨.refl, nofun, nofun⟩
  have hsame : (activeConnection s).2 = s := Step.snd_bind_pure ..
  cases hc : activeConnection s with
  | mk answer s' =>
    rw [hc] at hsame
    obtain rfl : s' = s := hsame
    cases answer with
    | error fault =>
      have hunusable := (follows_activeConnection (R := Turn given fun _ _ => False) s').2 fault
      rw [hc] at hunusable
      rw [Step.bind_error hc]
      refine Or.inr ⟨.refl, nofun, fun fault' h => ?_⟩
      cases h
      exact (hunusable rfl).ordinary
    | ok c =>
      rw [Step.bind_ok hc]
      cases c with
      | some c => exact Or.inl rfl
      | none =>
        have hconnect : Acts given (fun _ _ => False)
            (do return .connected (← connect) : SessionStep Startup) :=
          acts_connect.bind fun _ => Step.follows_pure _
        refine Or.inr ⟨(hconnect s').1, fun report h => ?_, (hconnect s').2⟩
        obtain ⟨c, -, h⟩ := Step.ok_of_bind_pure h
        cases h

theorem follows_start : start.Follows (Move given) Ordinary := by
  intro s
  rcases start_cases given s with h | ⟨hturns, -, hordinary⟩
  · rw [h]
    exact ⟨.single (.extend s []), nofun⟩
  · exact ⟨ReflTransGen.mono (fun _ _ => Turn.move) _ _ hturns, hordinary⟩

theorem acts_construct (d : Definition) (args : Args) : Acts given named (construct d args) := by
  unfold construct
  refine Step.follows_ite ?_ (acts_create _ _ _)
  cases args.positional.head?.bind Value.asProxy with
  | some h => exact acts_create _ _ _
  | none =>
    refine ((follows_activeProxy .source).weaken Unusable.ordinary).bind fun input => ?_
    cases input with
    | some h => exact acts_create _ _ _
    | none => exact acts_create _ _ _

end Methods

end Session

end VizSession
