import VizSession.Proofs.Creations
import VizSession.Proofs.Methods

/-!
# Engines of sessions

A session reaches its engine through the operations of the engine only, also where a method
acts on it several times, and where a later step undoes what an earlier one did : whatever a
method does, the engine is afterwards as some operations of its own leave it (`Session.Operates`,
`operates_perform`). So the engine of a session that was started over a reachable engine is
reachable at all times (`Session.reachable_run`), and what is known of reachable engines is known
of it.
-/

namespace VizSession

open Relation

namespace Session

/-- The engine of the second session is that of the first after some operations. -/
def Operates (s s' : Session) : Prop := ∃ ops, s'.engine = s.engine.run ops

variable {s s' s'' : Session}

theorem operates_of_engine (h : s'.engine = s.engine) : Operates s s' := ⟨[], h⟩

theorem operates_of_perform (op : Engine.Op) (h : s'.engine = (Engine.perform op s.engine).2) :
    Operates s s' := ⟨[op], h⟩

theorem Operates.trans (h : Operates s s') (h' : Operates s' s'') : Operates s s'' := by
  obtain ⟨ops, heq⟩ := h
  obtain ⟨rest, heq'⟩ := h'
  exact ⟨ops ++ rest, by rw [heq', heq, Engine.run_append]⟩

theorem operates_of_chain {R : Session → Session → Prop} (hR : ∀ s s', R s s' → Operates s s')
    (h : ReflTransGen R s s') : Operates s s' := by
  induction h with
  | refl => exact operates_of_engine rfl
  | tail _ hstep ih => exact ih.trans (hR _ _ hstep)

/-! ## Steps -/

/-- Whatever becomes of the step, it reaches the engine through operations. -/
abbrev Operating {α : Type} (x : SessionStep α) : Prop := x.Follows Operates fun _ => True

section Steps

variable {α : Type} {x : SessionStep α}

theorem operating_of_operates (h : ∀ s, Operates s (x s).2) : Operating x :=
  fun s => ⟨.single (h s), fun _ _ => trivial⟩

theorem Operating.operates (h : Operating x) (s : Session) : Operates s (x s).2 :=
  operates_of_chain (fun _ _ h => h) (h s).1

theorem operating_onEngine {act : Step Engine EngineError α} (op : Engine.Op)
    (h : ∀ e, (Engine.perform op e).2 = (act e).2) : Operating (onEngine act) :=
  operating_of_operates fun s => operates_of_perform op (h s.engine).symm

end Steps

theorem operating_setActive (k : SlotKind) (o : Occupant) : Operating (setActive k o) :=
  operating_of_operates fun _ => operates_of_engine rfl

/-! ## Moves -/

theorem operating_leave (c : ConnectionId) : Operating (leave c) := by
  have hslots : Operating (updateSlots fun slots => slots.forgetConnection c) :=
    operating_of_operates fun _ => operates_of_engine rfl
  refine (Step.follows_read _).bind fun _ => Step.follows_ite ?_ hslots
  exact (operating_onEngine (.disconnect c) fun _ => Engine.snd_perform_disconnect ..).bind
    fun _ => hslots

theorem operating_join : Operating join :=
  (Step.follows_read _).bind fun url =>
    (operating_onEngine (.establish url) fun _ => Engine.snd_perform_establish ..).bind fun c =>
      (operating_setActive _ _).bind fun _ => Step.follows_pure c

/-- An object that cannot be named is deleted, which is an operation more. -/
theorem operating_nameOrDiscard (h : Handle) (name : String) :
    Operating (nameOrDiscard h name) := by
  refine operating_of_operates fun s => ?_
  unfold nameOrDiscard
  cases hname : Engine.rename h name s.engine with
  | mk answer e =>
    have hrename : e = (Engine.perform (.rename h name) s.engine).2 := by
      rw [Engine.snd_perform_rename, hname]
    cases answer with
    | ok => exact operates_of_perform _ hrename
    | error fault =>
      have hrenamed : Operates s { s with engine := e } := operates_of_perform _ hrename
      exact hrenamed.trans (operates_of_perform (.delete h) (Engine.snd_perform_delete ..).symm)

theorem operating_settle (h : Handle) (g : Group) (requested : Option String) :
    Operating (settle h g requested) := by
  have hactivate : Operating (activateNew h g >>= fun _ => pure h) :=
    (operating_of_operates fun s => operates_of_engine (engine_activateNew h g s)).bind
      fun _ => Step.follows_pure h
  cases requested with
  | none => exact hactivate
  | some name => exact (operating_nameOrDiscard h name).bind fun _ => hactivate

theorem operating_create (g : Group) (name : String) (ps : Properties) :
    Operating (create g name ps) :=
  (follows_requireConnection.weaken fun _ => trivial).bind fun c =>
    (Step.follows_ofExcept fun _ _ => trivial).bind fun requested =>
      (operating_onEngine (.create c g name (ps.erase nameKeyword)) fun _ =>
        Engine.snd_perform_create ..).bind fun h => operating_settle h g requested

theorem operating_delete (h : Handle) : Operating (delete h) :=
  (operating_onEngine (.delete h) fun _ => Engine.snd_perform_delete ..).bind fun _ =>
    (operating_of_operates fun _ => operates_of_engine rfl).bind fun _ =>
      operating_of_operates fun s => operates_of_engine (engine_dropLostCamera s)

/-- Every turn reaches the engine through its operations, some through two of them and some through
none. -/
theorem Turn.operates {given : Handle → Prop} {named : Handle → String → Prop}
    (h : Turn given named s s') : Operates s s' := by
  cases h with
  | leave => exact (operating_leave _).operates s
  | join => exact operating_join.operates s
  | occupy => exact operates_of_engine rfl
  | create g name ps => exact (operating_create g name ps).operates s
  | delete => exact (operating_delete _).operates s
  | rename => exact operates_of_perform _ (Engine.snd_perform_rename ..).symm
  | write => exact operates_of_perform _ (Engine.snd_perform_setProperties ..).symm
  | display => exact operates_of_perform _ (Engine.snd_perform_setVisibility ..).symm
  | render => exact operates_of_perform _ (Engine.snd_perform_render ..).symm
  | interact => exact operates_of_perform _ (Engine.snd_perform_interact ..).symm

/-! ## Runs -/

/-- Every operation of a session, the host's included, reaches the engine through operations. -/
theorem operates_perform (op : Op) (s : Session) : Operates s (perform op s).2 := by
  by_cases hengine : ∃ o, op = .engine o
  · obtain ⟨o, rfl⟩ := hengine
    exact ⟨[o], rfl⟩
  · refine operates_of_chain (fun s s' hpass => ?_)
      (passes_perform (fun o ho => hengine ⟨o, ho⟩) s)
    exact hpass.elim Turn.operates operates_of_engine

theorem operates_run (s : Session) (ops : List Op) : Operates s (s.run ops) := by
  induction ops generalizing s with
  | nil => exact operates_of_engine rfl
  | cons op ops ih => exact (operates_perform op s).trans (ih (perform op s).2)

/-- However a session is started over a reachable engine, its engine stays reachable. -/
theorem reachable_run {e : Engine} (he : e.Reachable) {start : Session} (hstart : Starts e start)
    (ops : List Op) : (start.run ops).engine.Reachable := by
  obtain ⟨engineOps, h⟩ := operates_run start ops
  rw [h, engine_of_starts hstart]
  exact he.run engineOps

end Session

end VizSession
