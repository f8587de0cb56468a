import VizSession.Proofs.Moves

/-!
# What calls by name do to a session

A call by name is a chain of moves like any method, relative to the handles among its
arguments (`moves_invoke`) : a built-in function is bound to what the call was given
(`mentions_of_bind`) and does what a method does (`acts_call`, `follows_call`), a constructor
makes an object, and a function of a plugin sees no session. With that every operation is
accounted for (`moves_perform`, `perform_cases`).

A call extends the exports only if it comes to a built-in function that does
(`ReachesExtension`, `turns_invoke`), and it renames an object only if it comes to the function
that is for that (`CallRenames`). What a method renames is known from its arguments
(`Op.Renames`).
-/

namespace VizSession

open Relation

/-! ## Arguments of built-in functions -/

namespace BoundCall

open Session (Ordinary)

/-- The handle is the argument of a parameter. -/
def Gives (c : BoundCall) (h : Handle) : Prop := ∃ param, c.given.find? param = some (.proxy h)

/-- The call is to give the object of the handle the name. -/
def Renames (c : BoundCall) (h : Handle) (name : String) : Prop :=
  c.callee = .rename ∧ c.proxy "proxy" = .ok h ∧ c.text "name" = .ok name

variable {c : BoundCall} {param : String} {fault : SessionError}

theorem gives_of_proxy? {h : Handle} (hh : c.proxy? param = .ok (some h)) : c.Gives h := by
  refine ⟨param, ?_⟩
  unfold proxy? at hh
  grind

theorem gives_of_proxy {h : Handle} (hh : c.proxy param = .ok h) : c.Gives h := by
  unfold proxy at hh
  cases hp : c.proxy? param with
  | error fault => simp [hp, bind, Except.bind] at hh
  | ok found =>
    cases found with
    | none => simp [hp, bind, Except.bind] at hh
    | some h' =>
      simp only [hp, bind, Except.bind, Except.ok.injEq] at hh
      subst hh
      exact gives_of_proxy? hp

theorem gives_of_occupant {h : Handle} (hh : c.occupant param = .ok (.proxy h)) : c.Gives h := by
  unfold occupant at hh
  split at hh
  · cases hc : c.connection param <;> simp [hc, Except.map] at hh
  · cases hp : c.proxy param with
    | error fault => simp [hp, Except.map] at hh
    | ok h' =>
      simp only [hp, Except.map, Except.ok.injEq, Occupant.proxy.injEq] at hh
      subst hh
      exact gives_of_proxy hp

theorem ordinary_of_text (h : c.text param = .error fault) : Ordinary fault := by
  intro name hname
  subst hname
  unfold text failure at h
  grind

theorem ordinary_of_proxy? (h : c.proxy? param = .error fault) : Ordinary fault := by
  intro name hname
  subst hname
  unfold proxy? failure at h
  grind

theorem ordinary_of_proxy (h : c.proxy param = .error fault) : Ordinary fault := by
  unfold proxy at h
  cases hp : c.proxy? param with
  | error fault' =>
    simp only [hp, bind, Except.bind, Except.error.injEq] at h
    subst h
    exact ordinary_of_proxy? hp
  | ok found =>
    cases found with
    | some h' => simp [hp, bind, Except.bind] at h
    | none =>
      simp only [hp, bind, Except.bind, Except.error.injEq] at h
      subst h
      exact fun _ h => by cases h

theorem ordinary_of_connection (h : c.connection param = .error fault) : Ordinary fault := by
  intro name hname
  subst hname
  unfold connection failure at h
  grind

theorem ordinary_of_kind (h : c.kind param = .error fault) : Ordinary fault := by
  unfold kind at h
  cases ht : c.text param with
  | error fault' =>
    simp only [ht, bind, Except.bind, Except.error.injEq] at h
    subst h
    exact ordinary_of_text ht
  | ok word =>
    cases hk : SlotKind.ofName? word with
    | some k => simp [ht, hk, bind, Except.bind] at h
    | none =>
      simp only [ht, hk, bind, Except.bind, Except.error.injEq] at h
      subst h
      exact fun _ h => by cases h

theorem ordinary_of_occupant (h : c.occupant param = .error fault) : Ordinary fault := by
  unfold occupant at h
  split at h
  · cases hc : c.connection param with
    | ok k => simp [hc, Except.map] at h
    | error fault' =>
      simp only [hc, Except.map, Except.error.injEq] at h
      subst h
      exact ordinary_of_connection hc
  · cases hp : c.proxy param with
    | ok h' => simp [hp, Except.map] at h
    | error fault' =>
      simp only [hp, Except.map, Except.error.injEq] at h
      subst h
      exact ordinary_of_proxy hp

theorem ordinary_of_group (h : c.group param = .error fault) : Ordinary fault := by
  unfold group at h
  cases ht : c.text param with
  | error fault' =>
    simp only [ht, bind, Except.bind, Except.error.injEq] at h
    subst h
    exact ordinary_of_text ht
  | ok word =>
    cases hg : Group.all.find? fun g => g.name = word.toLower with
    | some g => simp [ht, hg, bind, Except.bind] at h
    | none =>
      simp only [ht, hg, bind, Except.bind, Except.error.injEq] at h
      subst h
      exact fun _ h => by cases h

end BoundCall

theorem Builtin.name_of_ofName? {name : String} {b : Builtin} (h : ofName? name = some b) :
    b.name = name := by
  unfold ofName? at h
  simpa using List.find?_some h

/-- The function extends the exports, or it may do so. -/
def Builtin.IsExtension (b : Builtin) : Prop := b = .extendNamespace ∨ b = .start

namespace Session

/-! ## Calls of built-in functions -/

/-- What a built-in function is bound to was given in the call. -/
theorem mentions_of_bind {b : Builtin} {args : Args} {h : Handle} (hh : (b.bind args).Gives h) :
    args.Mentions h := by
  obtain ⟨param, hp⟩ := hh
  obtain ⟨p, -, hp⟩ := List.mem_filterMap.mp (OrderedMap.mem_of_find?_ofList hp)
  obtain ⟨v, hv, heq⟩ := Option.map_eq_some_iff.mp hp
  obtain ⟨-, rfl⟩ := Prod.mk.inj heq
  exact Args.mentions_of_lookup? hv

/-- A bound call of a built-in function, if the function is no extension. -/
theorem acts_call (c : BoundCall) (hc : ¬c.callee.IsExtension) :
    Acts c.Gives c.Renames (call c) := by
  have htext : ∀ param, Acts c.Gives c.Renames (Step.ofExcept (c.text param)) := fun _ =>
    Step.follows_ofExcept fun _ => BoundCall.ordinary_of_text
  have hproxy : ∀ param, Acts c.Gives c.Renames (Step.ofExcept (c.proxy? param)) := fun _ =>
    Step.follows_ofExcept fun _ => BoundCall.ordinary_of_proxy?
  have hset : ∀ k param, Acts c.Gives c.Renames (setActiveFrom k c param) := fun k param =>
    Step.follows_ofExcept_bind (fun _ => BoundCall.ordinary_of_proxy) fun h hh =>
      (acts_setActive fun h' hh' => by
        cases hh'
        exact BoundCall.gives_of_proxy hh).bind fun _ => Step.follows_pure _
  obtain ⟨callee, given, rest⟩ := c
  cases callee with
  | extendNamespace => exact absurd (Or.inl rfl) hc
  | start => exact absurd (Or.inr rfl) hc
  | connect => exact acts_connect.bind fun _ => Step.follows_pure _
  | disconnect => exact acts_disconnect.bind fun _ => Step.follows_pure _
  | resetSession => exact acts_reset.bind fun _ => Step.follows_pure _
  | getActive =>
    exact (Step.follows_ofExcept fun _ => BoundCall.ordinary_of_kind).bind fun k =>
      ((follows_active k).weaken Unusable.ordinary).bind fun _ => Step.follows_pure _
  | setActive =>
    exact (Step.follows_ofExcept fun _ => BoundCall.ordinary_of_kind).bind fun k =>
      Step.follows_ofExcept_bind (fun _ => BoundCall.ordinary_of_occupant) fun o ho =>
        (acts_setActive fun h hh => BoundCall.gives_of_occupant (hh ▸ ho)).bind fun _ =>
          Step.follows_pure _
  | getActiveConnection =>
    exact (follows_activeConnection.weaken Unusable.ordinary).bind fun _ => Step.follows_pure _
  | getActiveView | getActiveSource | getActiveCamera =>
    exact ((follows_activeProxy _).weaken Unusable.ordinary).bind fun _ => Step.follows_pure _
  | setActiveConnection =>
    exact (Step.follows_ofExcept fun _ => BoundCall.ordinary_of_connection).bind fun k =>
      (acts_setActive fun h hh => by cases hh).bind fun _ => Step.follows_pure _
  | setActiveView | setActiveSource | setActiveCamera => exact hset _ _
  | getActiveViewOrCreate => exact acts_activeViewOrCreate.bind fun _ => Step.follows_pure _
  | cameraForView =>
    exact (hproxy _).bind fun h =>
      (follows_orActive .view h).bind fun view =>
        (follows_askEngine _).bind fun _ => Step.follows_pure _
  | create =>
    exact (Step.follows_ofExcept fun _ => BoundCall.ordinary_of_group).bind fun g =>
      (htext _).bind fun name =>
        (acts_create g name rest).bind fun _ => Step.follows_pure _
  | createSource | createView =>
    exact (htext _).bind fun name =>
      (acts_create _ name rest).bind fun _ => Step.follows_pure _
  | delete =>
    exact Step.follows_ofExcept_bind (fun _ => BoundCall.ordinary_of_proxy) fun h hh =>
      (acts_delete (BoundCall.gives_of_proxy hh)).bind fun _ => Step.follows_pure _
  | rename =>
    exact Step.follows_ofExcept_bind (fun _ => BoundCall.ordinary_of_proxy) fun h hh =>
      Step.follows_ofExcept_bind (fun _ => BoundCall.ordinary_of_text) fun name hname =>
        (acts_rename ⟨rfl, hh, hname⟩).bind fun _ => Step.follows_pure _
  | findSource | findView =>
    exact (htext _).bind fun name =>
      (follows_find _ name).bind fun _ => Step.follows_pure _
  | findViewOrCreate =>
    refine (htext _).bind fun name => ?_
    refine Step.follows_ite ?_ ?_
    · exact (htext _).bind fun definition =>
        (acts_findViewOrCreate name definition).bind fun _ => Step.follows_pure _
    · exact (Step.follows_read _).bind fun definition =>
        (acts_findViewOrCreate name definition).bind fun _ => Step.follows_pure _
  | getSources | getViews => exact (follows_list _).bind fun _ => Step.follows_pure _
  | setProperties =>
    exact (hproxy _).bind fun h =>
      (acts_setProperties h rest).bind fun _ => Step.follows_pure _
  | getProperty =>
    exact (htext _).bind fun name =>
      (hproxy _).bind fun h => follows_getProperty h name
  | resetProperty =>
    exact (htext _).bind fun name =>
      (hproxy _).bind fun h => acts_resetProperty h name
  | getRepresentation =>
    exact (hproxy _).bind fun source =>
      (hproxy _).bind fun view =>
        (acts_getRepresentation source view).bind fun _ => Step.follows_pure _
  | render =>
    exact (hproxy _).bind fun view =>
      (acts_render view).bind fun _ => Step.follows_pure _
  | renderAllViews => exact acts_renderAllViews.bind fun _ => Step.follows_pure _
  | interact =>
    exact (hproxy _).bind fun view =>
      (acts_interact view).bind fun _ => Step.follows_pure _
  | showSource =>
    exact (hproxy _).bind fun source =>
      (hproxy _).bind fun view =>
        (acts_showSource source view).bind fun _ => Step.follows_pure _
  | hideSource =>
    exact (hproxy _).bind fun source =>
      (hproxy _).bind fun view =>
        (acts_hideSource source view).bind fun _ => Step.follows_pure _
  | loadPlugin => exact Step.follows_fail fun _ h => by cases h

/-- A bound call of any built-in function. -/
theorem follows_call (c : BoundCall) : (call c).Follows (Move c.Gives) Ordinary := by
  by_cases hc : c.callee.IsExtension
  · obtain ⟨callee, given, rest⟩ := c
    obtain rfl | rfl : callee = .extendNamespace ∨ callee = .start := hc
    · exact follows_extendNamespace [] fun report => countValue report.exports.added.length
    · exact follows_start.bind fun _ => Step.follows_pure _
  · exact (acts_call c hc).mono fun _ _ => Turn.move

/-- What is handed on was given in the call. -/
theorem mentions_of_forwarded {args : Args} {h : Handle} (hh : (forwarded args).Mentions h) :
    args.Mentions h := by
  rcases hh with hpos | ⟨name, hkey⟩
  · refine Or.inl ?_
    unfold forwarded at hpos
    dsimp only at hpos
    split at hpos
    · exact hpos
    · exact List.mem_of_mem_drop hpos
  · unfold forwarded Properties.without at hkey
    rw [OrderedMap.find?_filter, Option.filter_eq_some_iff] at hkey
    exact Or.inr ⟨name, hkey.1⟩

/-- A call by name comes to a built-in function with arguments : under its own name, or as the
function that is to be called in turn. -/
inductive Reaches (name : String) (args : Args) : Builtin → Args → Prop where
  | called (b : Builtin) (h : name = b.name) : Reaches name args b args
  | forwarded (b : Builtin) (h : name = Builtin.forwarding)
      (htarget : args.text "name" 0 = .ok b.name) : Reaches name args b (forwarded args)

theorem Reaches.mentions {name : String} {args args' : Args} {b : Builtin}
    (hb : Reaches name args b args') {h : Handle} (hh : (b.bind args').Gives h) :
    args.Mentions h := by
  cases hb with
  | called => exact mentions_of_bind hh
  | forwarded => exact mentions_of_forwarded (mentions_of_bind hh)

/-! ## Calls by name -/

section Calls

variable {R : Session → Session → Prop} {given : Handle → Prop} {name : String} {args : Args}
  {s : Session}

theorem steps_callBuiltin
    (h : ∀ b : Builtin, name = b.name → ReflTransGen R s (call (b.bind args) s).2) :
    ReflTransGen R s (callBuiltin name args s).2 := by
  unfold callBuiltin
  cases hb : Builtin.ofName? name with
  | some b => exact h b (Builtin.name_of_ofName? hb).symm
  | none => exact .refl

/-- Whatever provides a name, a call of it is a chain of steps if those calls are that are left
to others. -/
theorem steps_provide (hR : ∀ {s s'}, Turn given (fun _ _ => False) s s' → R s s')
    {otherwise : String → Args → SessionStep Value}
    (h : ReflTransGen R s (otherwise name args s).2) :
    ReflTransGen R s (provide otherwise name args s).2 := by
  unfold provide
  split
  · exact .refl
  · split
    · rename_i d _
      rw [Step.snd_bind_pure]
      exact ReflTransGen.mono (fun _ _ => hR) _ _ (acts_construct d args s).1
    · split
      · exact .refl
      · exact h

theorem steps_forward (hR : ∀ {s s'}, Turn given (fun _ _ => False) s s' → R s s')
    (h : ∀ b : Builtin, args.text "name" 0 = .ok b.name →
      ReflTransGen R s (call (b.bind (forwarded args)) s).2) :
    ReflTransGen R s (forward args s).2 := by
  unfold forward
  cases htext : args.text "name" 0 with
  | error cause => exact .refl
  | ok target =>
    dsimp only
    split
    · exact .refl
    · exact steps_provide hR (steps_callBuiltin fun b hb => h b (hb ▸ htext))

/-- A call by name is a chain of steps if those are that it reaches. -/
theorem steps_dispatch (hR : ∀ {s s'}, Turn given (fun _ _ => False) s s' → R s s')
    (h : ∀ b args', Reaches name args b args' → ReflTransGen R s (call (b.bind args') s).2) :
    ReflTransGen R s (dispatch name args s).2 := by
  unfold dispatch
  split
  · rename_i hname
    exact steps_forward hR fun b hb => h b _ (.forwarded b hname hb)
  · exact steps_callBuiltin fun b hb => h b _ (.called b hb)

end Calls

theorem Turns.moves {given : Handle → Prop} {named : Handle → String → Prop} {s s' : Session}
    (h : ReflTransGen (Turn given named) s s') : Moves given s s' :=
  ReflTransGen.mono (fun _ _ => Turn.move) _ _ h

theorem moves_dispatch (name : String) (args : Args) (s : Session) :
    Moves args.Mentions s (dispatch name args s).2 :=
  steps_dispatch Turn.move fun b args' hb =>
    ReflTransGen.mono (fun _ _ => Move.mono fun _ => hb.mentions) _ _
      (follows_call (b.bind args') s).1

theorem moves_invoke (name : String) (args : Args) (s : Session) :
    Moves args.Mentions s (invoke name args s).2 :=
  steps_provide Turn.move (moves_dispatch name args s)

/-- The call may come to a built-in function that extends the exports. -/
def ReachesExtension (name : String) (args : Args) : Prop :=
  ∃ b args', Reaches name args b args' ∧ b.IsExtension

/-- The call comes to the function that renames objects, with the handle and the name. -/
def CallRenames (name : String) (args : Args) (h : Handle) (new : String) : Prop :=
  ∃ b args', Reaches name args b args' ∧ (b.bind args').Renames h new

theorem turns_dispatch {name : String} {args : Args} (h : ¬ReachesExtension name args)
    (s : Session) :
    ReflTransGen (Turn args.Mentions (CallRenames name args)) s (dispatch name args s).2 :=
  steps_dispatch (Turn.mono (fun _ h => h) fun _ _ h => h.elim) fun b args' hb =>
    ReflTransGen.mono
      (fun _ _ => Turn.mono (fun _ => hb.mentions) fun _ _ hnew => ⟨b, args', hb, hnew⟩) _ _
      (acts_call (b.bind args') (fun hext => h ⟨b, args', hb, hext⟩) s).1

theorem turns_invoke {name : String} {args : Args} (h : ¬ReachesExtension name args)
    (s : Session) :
    ReflTransGen (Turn args.Mentions (CallRenames name args)) s (invoke name args s).2 :=
  steps_provide (Turn.mono (fun _ h => h) fun _ _ h => h.elim) (turns_dispatch h s)

/-! ## All methods -/

/-- What is answered in the end makes no difference. -/
theorem steps_answer {R : Session → Session → Prop} {α β : Type} {x : SessionStep α}
    {s : Session} (f : α → β) (h : ReflTransGen R s (x s).2) :
    ReflTransGen R s ((x >>= fun a => pure (f a)) s).2 := by
  rw [Step.snd_bind_pure]
  exact h

/-- The operation is a chain of moves that are no extensions and leave the configuration
alone. -/
def Op.Turns : Op → Prop
  | .start | .clearActive _ | .extendExports _ | .registerPlugin _ | .loadPlugin _
  | .extendNamespace _ | .setConfig _ | .engine _ => False
  | .invoke name args | .dispatch name args => ¬ReachesExtension name args
  | _ => True

/-- The operation is to give the object of the handle the name. -/
def Op.Renames : Op → Handle → String → Prop
  | .rename h' name', h, name => h' = h ∧ name' = name
  | .invoke f args, h, name | .dispatch f args, h, name => CallRenames f args h name
  | _, _, _ => False

/-- A method that turns takes turns only, with no handles but those that it is given and no names
but those that it is to give. -/
theorem turns_perform {op : Op} (hop : op.Turns) (s : Session) :
    ReflTransGen (Turn op.Takes op.Renames) s (perform op s).2 := by
  cases op with
  | start | clearActive | extendExports | registerPlugin | loadPlugin | extendNamespace
  | setConfig | engine => exact hop.elim
  | connect => exact steps_answer _ (acts_connect s).1
  | disconnect => exact steps_answer _ (acts_disconnect s).1
  | reset => exact steps_answer _ (acts_reset s).1
  | active k => exact steps_answer _ (follows_active k s).1
  | setActive k o => exact steps_answer _ (acts_setActive (fun _ ho => ho) s).1
  | activeConnection => exact steps_answer _ (follows_activeConnection s).1
  | activeProxy k => exact steps_answer _ (follows_activeProxy k s).1
  | cameraOf view => exact steps_answer _ (follows_askEngine _ s).1
  | activeViewOrCreate => exact steps_answer _ (acts_activeViewOrCreate s).1
  | create g name ps => exact steps_answer _ (acts_create g name ps s).1
  | delete h => exact steps_answer _ (acts_delete rfl s).1
  | rename h name => exact steps_answer _ (acts_rename ⟨rfl, rfl⟩ s).1
  | registrationName h => exact steps_answer _ (follows_askEngine _ s).1
  | find g name => exact steps_answer _ (follows_find g name s).1
  | findViewOrCreate name definition =>
    exact steps_answer _ (acts_findViewOrCreate name definition s).1
  | list g => exact steps_answer _ (follows_list g s).1
  | setProperties h ps => exact steps_answer _ (acts_setProperties h ps s).1
  | getProperty h name => exact steps_answer _ (follows_getProperty h name s).1
  | resetProperty h name => exact steps_answer _ (acts_resetProperty h name s).1
  | getRepresentation source view => exact steps_answer _ (acts_getRepresentation source view s).1
  | showSource source view => exact steps_answer _ (acts_showSource source view s).1
  | hideSource source view => exact steps_answer _ (acts_hideSource source view s).1
  | render view => exact steps_answer _ (acts_render view s).1
  | renderAllViews => exact steps_answer _ (acts_renderAllViews s).1
  | interact view => exact steps_answer _ (acts_interact view s).1
  | invoke name args => exact steps_answer _ (turns_invoke hop s)
  | dispatch name args => exact steps_answer _ (turns_dispatch hop s)

/-- Every method is a chain of moves, whether it succeeds or fails. Emptying a slot, offering
names of one's own for export and letting the host act on the engine are none. -/
theorem moves_perform {op : Op} (hclear : ∀ k, op ≠ .clearActive k)
    (hoffer : ∀ names, op ≠ .extendExports names) (hengine : ∀ o, op ≠ .engine o) (s : Session) :
    Moves op.Takes s (perform op s).2 := by
  by_cases hop : op.Turns
  · exact Turns.moves (turns_perform hop s)
  cases op with
  | clearActive k => exact absurd rfl (hclear k)
  | extendExports names => exact absurd rfl (hoffer names)
  | engine o => exact absurd rfl (hengine o)
  | start => exact steps_answer _ (follows_start s).1
  | registerPlugin p => exact steps_answer _ (.single (.register s p))
  | loadPlugin p => exact steps_answer _ (.single (.load s p))
  | extendNamespace ps => exact .single (.extend s ps)
  | invoke name args => exact steps_answer _ (moves_invoke name args s)
  | dispatch name args => exact steps_answer _ (moves_dispatch name args s)
  | setConfig config => exact .single (.configure s config)
  | connect | disconnect | reset | active | setActive | activeConnection | activeProxy | cameraOf
  | activeViewOrCreate | create | delete | rename | registrationName | find | findViewOrCreate
  | list | setProperties | getProperty | resetProperty | getRepresentation | showSource
  | hideSource | render | renderAllViews | interact => exact absurd trivial hop

/-- What an operation does to a session : it empties a slot, or offers names for export, or
the host acts on the engine, or it is a chain of moves. -/
theorem perform_cases (op : Op) (s : Session) :
    (∃ k, op = .clearActive k ∧ (perform op s).2 = { s with slots := s.slots.clear k }) ∨
      (∃ names, op = .extendExports names ∧ (perform op s).2 = (s.extendExports names).2) ∨
      (∃ o, op = .engine o ∧
        (perform op s).2 = { s with engine := (Engine.perform o s.engine).2 }) ∨
      Moves op.Takes s (perform op s).2 := by
  by_cases hclear : ∃ k, op = .clearActive k
  · obtain ⟨k, rfl⟩ := hclear
    exact Or.inl ⟨k, rfl, rfl⟩
  by_cases hoffer : ∃ names, op = .extendExports names
  · obtain ⟨names, rfl⟩ := hoffer
    exact Or.inr (Or.inl ⟨names, rfl, rfl⟩)
  by_cases hengine : ∃ o, op = .engine o
  · obtain ⟨o, rfl⟩ := hengine
    exact Or.inr (Or.inr (Or.inl ⟨o, rfl, rfl⟩))
  exact Or.inr (Or.inr (Or.inr (moves_perform (fun k h => hclear ⟨k, h⟩)
    (fun names h => hoffer ⟨names, h⟩) (fun o h => hengine ⟨o, h⟩) s)))

theorem run_append (s : Session) (ops rest : List Op) :
    s.run (ops ++ rest) = (s.run ops).run rest :=
  List.foldl_append

end Session

end VizSession
