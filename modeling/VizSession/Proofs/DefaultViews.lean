import VizSession.Proofs.Commits
import VizSession.Proofs.Representations
import VizSession.Proofs.StaleSlots

/-!
# Default views of calls that fail

Showing, hiding, asking for a representation, rendering and interacting come upon their source
and their view first and then call the engine once. What they are given or find active is only
looked at, and an engine that refuses changes nothing, so a call that fails leaves the session
as it was (`Step.Harmless`).

The exception is the view that is made when none is active (`Session.MakesView`). It is made
before the engine is asked, and it is not taken back. The engine has no objection to a new view,
so rendering it succeeds; but a source may be gone, or live on another connection
(`Session.AtHand`). Then showing the source fails, and the default view stays, active and with
its camera (`DisplayCall.Strands`).
-/

namespace VizSession

/-! ## Steps that fail without a trace -/

namespace Step

variable {σ ε α β : Type} {x : Step σ ε α} {f : α → Step σ ε β} {s : σ}

/-- If the step fails, it leaves the state as it was. -/
def Harmless (x : Step σ ε α) (s : σ) : Prop := ∀ fault s', x s = (.error fault, s') → s' = s

/-- What goes along no relation at all stays where it is. -/
theorem Follows.snd_eq {Q : ε → Prop} (h : x.Follows (fun _ _ => False) Q) (s : σ) :
    (x s).2 = s := by
  rcases (h s).1.cases_tail with hsame | ⟨t, -, hstep⟩
  · exact hsame
  · exact hstep.elim

/-- What only looks at the state can go before a harmless step. -/
theorem harmless_bind (hsame : (x s).2 = s) (hf : ∀ a, (x s).1 = .ok a → (f a).Harmless s) :
    (x >>= f).Harmless s := by
  intro fault s' hfails
  rw [bind_apply] at hfails
  split at hfails
  · rename_i a t hx
    obtain rfl : t = s := (congrArg Prod.snd hx).symm.trans hsame
    exact hf a (congrArg Prod.fst hx) fault s' hfails
  · rename_i fault' t hx
    cases hfails
    exact (congrArg Prod.snd hx).symm.trans hsame

theorem bind_assoc {γ : Type} (x : Step σ ε α) (f : α → Step σ ε β) (g : β → Step σ ε γ) :
    x >>= f >>= g = x >>= fun a => f a >>= g := by
  funext s
  simp only [bind_apply]
  cases x s with
  | mk answer t => cases answer <;> rfl

theorem Harmless.answer (h : x.Harmless s) (f : α → β) :
    (x >>= fun a => pure (f a)).Harmless s := by
  intro fault s' hfails
  rw [bind_apply] at hfails
  split at hfails
  · cases hfails
  · rename_i t hx
    cases hfails
    exact h _ _ hx

end Step

namespace Engine

variable {e e' : Engine} {source view : Handle}

theorem harmless_setVisibility (source view : Handle) (visible : Bool) (e : Engine) :
    (setVisibility source view visible).Harmless e := by
  intro fault e' hfails
  rcases setVisibility_cases source view visible e with ⟨fault', h⟩ |
    ⟨r, r', -, -, -, ⟨k, rep, -, -, h⟩ | ⟨d, -, -, h⟩⟩
  all_goals
    rw [h] at hfails
    cases hfails
  rfl

theorem harmless_render (view : Handle) (e : Engine) : (render view).Harmless e := by
  intro fault e' hfails
  rcases render_cases view e with ⟨fault', h⟩ | h
  all_goals
    rw [h] at hfails
    cases hfails
  rfl

theorem harmless_interact (view : Handle) (e : Engine) : (interact view).Harmless e := by
  intro fault e' hfails
  rcases interact_cases view e with ⟨fault', h⟩ | h
  all_goals
    rw [h] at hfails
    cases hfails
  rfl

theorem exists_render_eq_ok (hg : view.group = .views) (hlive : e.isLive view = true) :
    ∃ e', render view e = (.ok (), e') :=
  ⟨_, render_of_isLive hg hlive⟩

theorem exists_interact_eq_ok (hg : view.group = .views) (hlive : e.isLive view = true) :
    ∃ e', interact view e = (.ok (), e') :=
  ⟨_, Step.bind_ok (render_of_isLive hg hlive)⟩

/-- A pair that the table does not have can be shown and hidden exactly if the two are
together. -/
theorem exists_setVisibility_eq_ok_iff {d : Definition}
    (hd : e.definition? .representations "GeometryRepresentation" = some d)
    (hk : e.tabled? source.connection (source.id, view.id) = none) (visible : Bool) :
    (∃ r e', setVisibility source view visible e = (.ok r, e')) ↔ e.Together source view := by
  constructor
  · rintro ⟨r, e', h⟩
    rcases setVisibility_cases source view visible e with ⟨fault, heq⟩ | ⟨r, r', hc, hs, hv, -⟩
    · rw [heq] at h
      cases h
    · exact ⟨hc, isLive_of_object? hs, isLive_of_object? hv⟩
  · exact fun hp => ⟨_, _, setVisibility_of_untabled hp hd hk visible⟩

/-- Objects that were there before an addition are there after it, and no others of their
numbers. -/
theorem Gains.isLive_eq {c : ConnectionId} {rs : List Record} (h : Gains e e' c rs)
    (he : e.Keyed) (he' : e'.Keyed) (hc : Changes e e') (hn : e'.NumbersLeft) {x : Handle}
    (hx : x.id.toNat < e.nextObject) : e'.isLive x = e.isLive x := by
  cases hlive : e.isLive x with
  | false => exact hc.isLive_eq_false hn hx hlive
  | true =>
    obtain ⟨r, hr⟩ := isLive_iff.mp hlive
    obtain ⟨hid, hconn⟩ := he _ _ r hr
    have hmem : r ∈ e.records x.connection := he.mem_records.mpr (by rw [hid]; exact hr)
    have hmem' : r ∈ e'.records x.connection := by
      by_cases hxc : x.connection = c
      · rw [hxc, h.here]
        exact List.mem_append_left _ (hxc ▸ hmem)
      · rw [h.elsewhere hxc]
        exact hmem
    exact isLive_iff.mpr ⟨r, hid ▸ he'.mem_records.mp hmem'⟩

end Engine

namespace Session

variable {s s' : Session}

theorem harmless_onEngine {α : Type} {x : Step Engine EngineError α} (h : x.Harmless s.engine) :
    (onEngine x).Harmless s := by
  intro fault s' hfails
  cases hx : x s.engine with
  | mk answer e =>
    cases answer with
    | ok a =>
      rw [onEngine_ok hx] at hfails
      cases hfails
    | error fault' =>
      rw [onEngine_error hx] at hfails
      cases hfails
      rw [h fault' e hx]

/-! ## The view of a call -/

theorem snd_orActive (k : SlotKind) (h : Option Handle) (s : Session) :
    (orActive k h s).2 = s :=
  (follows_orActive k h).snd_eq s

/-- A call without a view makes the default view. -/
structure MakesView (s : Session) : Prop where
  absent : s.slots.view = none
  allowed : s.config.autoCreateView = true
  creatable : Creatable s .views s.config.defaultView ∅

theorem activeViewOrCreate_of_absent (h : s.slots.view = none) :
    activeViewOrCreate s =
      if s.config.autoCreateView then create .views s.config.defaultView ∅ s
      else (.error (.noActive .view), s) := by
  have hnone : activeProxy .view s = (.ok none, s) := by
    simp [activeProxy, active, Step.bind_apply, Slots.get, Slots.peek, h]
  rw [activeViewOrCreate, Step.bind_ok hnone]
  show (if s.config.autoCreateView then _ else _ : SessionStep Handle) s = _
  split <;> rfl

/-- What a slot holds is active, or it went stale. -/
theorem activeProxy_of_present {k : SlotKind} {h : Handle} (hk : s.slots.peek k = some (.proxy h)) :
    (∃ fault, activeProxy k s = (.error fault, s)) ∨ activeProxy k s = (.ok (some h), s) := by
  have hget : active k s = (s.slots.get k s.engine, s) := rfl
  rw [Slots.get, hk] at hget
  cases hstale : Slots.staleness? k (.proxy h) s.engine with
  | some fault =>
    simp only [hstale] at hget
    exact Or.inl ⟨fault, Step.bind_error hget⟩
  | none =>
    simp only [hstale] at hget
    exact Or.inr (Step.bind_ok hget)

/-- An object is active if it is in the slot and still there. -/
theorem activeProxy_eq_ok_some_iff {k : SlotKind} {h : Handle} :
    activeProxy k s = (.ok (some h), s) ↔
      s.slots.peek k = some (.proxy h) ∧ s.engine.isLive h = true := by
  have hget : ∀ o, s.slots.get k s.engine = .ok o → active k s = (.ok o, s) :=
    fun o ho => Prod.ext ho rfl
  constructor
  · intro hfound
    obtain ⟨o, ho, hproxy⟩ := Step.ok_of_bind_pure (congrArg Prod.fst hfound)
    obtain ⟨o, rfl, heq⟩ := Option.bind_eq_some_iff.mp hproxy
    cases o with
    | connection c => cases heq
    | proxy h' =>
      cases heq
      exact Slots.get_eq_ok_some_iff.mp ho
  · exact fun hk => Step.bind_ok (hget _ (Slots.get_eq_ok_some_iff.mpr hk))

theorem snd_activeViewOrCreate_of_present {view : Handle} (h : s.slots.view = some view) :
    (activeViewOrCreate s).2 = s := by
  rcases activeProxy_of_present (k := .view) (congrArg (Option.map Occupant.proxy) h) with
    ⟨fault, hfails⟩ | hfound
  · exact congrArg Prod.snd (Step.bind_error hfails)
  · exact congrArg Prod.snd (Step.bind_ok hfound)

/-- Coming upon the view of a call leaves the session as it was, or it makes the default
view. -/
theorem orActiveView_endings (we : s.engine.WellFormed) {camera : Definition}
    (hcamera : s.engine.definition? .cameras "Camera" = some camera) (view : Option Handle)
    (hn : (orActiveView view s).2.engine.NumbersLeft) :
    (¬(view = none ∧ MakesView s) ∧ (orActiveView view s).2 = s) ∨
      (view = none ∧ MakesView s) ∧ ∃ h s' d r cameras, orActiveView view s = (.ok h, s') ∧
        Committed s s' .views s.config.defaultView ∅ h d r cameras := by
  cases view with
  | some view => exact Or.inl ⟨nofun, rfl⟩
  | none =>
    show (_ ∧ (activeViewOrCreate s).2 = s) ∨ _ ∧ ∃ h s' d r cameras, activeViewOrCreate s = _ ∧ _
    replace hn : (activeViewOrCreate s).2.engine.NumbersLeft := hn
    cases hview : s.slots.view with
    | some view =>
      refine Or.inl ⟨fun h => ?_, snd_activeViewOrCreate_of_present hview⟩
      rw [h.2.absent] at hview
      cases hview
    | none =>
      rw [activeViewOrCreate_of_absent hview] at hn ⊢
      cases hallowed : s.config.autoCreateView with
      | false =>
        refine Or.inl ⟨fun h => ?_, rfl⟩
        rw [h.2.allowed] at hallowed
        cases hallowed
      | true =>
        rw [if_pos hallowed] at hn
        rw [if_pos rfl]
        rcases create_endings we hcamera hn with ⟨fault, s', hfails, -, hunnamed, hnot⟩ |
          ⟨h, s', d, r, cameras, hmade, hcommitted, hcreatable⟩
        · refine Or.inl ⟨fun h => hnot h.2.creatable, ?_⟩
          rw [hfails]
          exact hunnamed rfl
        · exact Or.inr ⟨⟨rfl, hview, hallowed, hcreatable⟩, h, s', d, r, cameras, hmade,
            hcommitted⟩

/-! ## The view that was made -/

section Committed

variable {g : Group} {name : String} {ps : Properties} {h x : Handle} {d : Definition} {r : Record}
  {cameras : List Record}

theorem Committed.isLive (hcommitted : Committed s s' g name ps h d r cameras) :
    s'.engine.isLive h = true :=
  Engine.isLive_of_object? (Engine.record_eq_ok_iff.mp hcommitted.record)

theorem Committed.ne (hcommitted : Committed s s' g name ps h d r cameras) : s' ≠ s := by
  rintro rfl
  have hobject := Engine.record_eq_ok_iff.mp hcommitted.record
  rw [hcommitted.fresh] at hobject
  cases hobject

/-- The object is not part of a pair. -/
theorem Committed.tabled?_eq_none (hcommitted : Committed s s' g name ps h d r cameras)
    (we : s.engine.WellFormed) (hn : s.engine.NumbersLeft) (c : ConnectionId) (id : UInt64) :
    s'.engine.tabled? c (id, h.id) = none := by
  rw [hcommitted.gains.tabled]
  refine Option.eq_none_iff_forall_ne_some.mpr fun k hk => ?_
  exact hn.nextObject_not_lt (hcommitted.number ▸ (we.pair_lt hk).2)

/-- The object is there, on the active connection. -/
def AtHand (s : Session) (x : Handle) : Prop :=
  s.slots.connection = some x.connection ∧ s.engine.isLive x = true

/-- The objects that can be shown in the new view are those of the active connection. -/
theorem Committed.together_iff (hcommitted : Committed s s' g name ps h d r cameras)
    (he : s.engine.Keyed) (hc : Engine.Changes s.engine s'.engine) (hn : s'.engine.NumbersLeft)
    (hx : x.id.toNat < s.engine.nextObject) : s'.engine.Together x h ↔ s.AtHand x := by
  have he' : s'.engine.Keyed := hc.keeps (fun _ _ h he => he.change h) he
  have hlive := hcommitted.gains.isLive_eq he he' hc hn hx
  unfold AtHand
  rw [hcommitted.connection, ← hlive, Option.some.injEq]
  exact ⟨fun hp => ⟨hp.connection.symm, hp.source⟩,
    fun hp => ⟨hp.1.symm, hp.2, hcommitted.isLive⟩⟩

end Committed

/-! ## Calls -/

/-- The method that is called, with the source and the view that it is given. -/
def PairCall.method (source view : Option Handle) : PairCall → Op
  | shows => .showSource source view
  | hides => .hideSource source view
  | asks => .getRepresentation source view

/-- A call that shows or renders. -/
inductive DisplayCall where
  | pair (call : PairCall) (source view : Option Handle)
  | render (view : Option Handle)
  | interact (view : Option Handle)

/-- The method that is called. -/
def DisplayCall.op : DisplayCall → Op
  | pair call source view => call.method source view
  | render view => .render view
  | interact view => .interact view

/-- The call makes the default view, and then it comes upon a source that cannot be shown there.
Hiding makes no view. -/
def DisplayCall.Strands (s : Session) : DisplayCall → Prop
  | pair call source view => call ≠ .hides ∧ (view = none ∧ MakesView s) ∧
    ∃ x, (orActive .source source s).1 = .ok x ∧ ¬s.AtHand x
  | render _ | interact _ => False

/-- What a call that fails leaves behind. -/
structure Displays (s : Session) (call : DisplayCall) : Prop where
  unchanged : ¬call.Strands s → ∀ fault s', perform call.op s = (.error fault, s') → s' = s
  /-- The default view was made as a whole, and nothing else happened. -/
  stranded : call.Strands s → ∃ fault s' view d r cameras,
    perform call.op s = (.error fault, s') ∧ s' ≠ s ∧
      Committed s s' .views s.config.defaultView ∅ view d r cameras

theorem getRepresentation_error {source view : Handle} {fault : EngineError}
    (h : s.engine.representation source view = .error fault) :
    getRepresentation (some source) (some view) s = (.error (.engine fault), s) := by
  have hask : askEngine (fun e => e.representation source view) s = _ :=
    onEngine_error (Prod.ext h rfl)
  show (askEngine (fun e => e.representation source view) >>= _) s = _
  exact Step.bind_error hask

/-- A call that names a pair fails without a trace. -/
theorem harmless_op (call : PairCall) (source view : Handle) (s : Session) :
    (perform (call.op source view)).Harmless s := by
  have hset : ∀ visible, (onEngine (Engine.setVisibility source view visible)).Harmless s :=
    fun visible => harmless_onEngine (Engine.harmless_setVisibility source view visible s.engine)
  cases call with
  | shows => exact (hset true).answer _
  | hides => exact (hset false).answer _
  | asks =>
    have hask : (getRepresentation (some source) (some view)).Harmless s := by
      intro fault s' hfails
      cases hfound : s.engine.representation source view with
      | error fault' =>
        rw [getRepresentation_error hfound] at hfails
        cases hfails
        rfl
      | ok found =>
        rw [getRepresentation_eq hfound] at hfails
        cases found with
        | some r => cases hfails
        | none => exact hset false fault s' hfails
    exact hask.answer _

/-- A pair that the table does not have : the call succeeds exactly if the two are together. -/
theorem exists_perform_op_iff {source view : Handle} {d : Definition}
    (hd : s.engine.definition? .representations "GeometryRepresentation" = some d)
    (hk : s.engine.tabled? source.connection (source.id, view.id) = none) (call : PairCall) :
    (∃ reply, (perform (call.op source view) s).1 = .ok reply) ↔ s.engine.Together source view := by
  refine ⟨fun ⟨reply, hreply⟩ => ?_, fun hp => ⟨_, congrArg Prod.fst
    (perform_op_of_untabled hp hd hk call)⟩⟩
  have hset : ∀ visible, (∃ r, (onEngine (Engine.setVisibility source view visible) s).1 = .ok r) →
      s.engine.Together source view := by
    rintro visible ⟨r, hr⟩
    cases hx : Engine.setVisibility source view visible s.engine with
    | mk answer e =>
      cases answer with
      | ok r' => exact (Engine.exists_setVisibility_eq_ok_iff hd hk visible).mp ⟨r', e, hx⟩
      | error fault =>
        rw [onEngine_error hx] at hr
        cases hr
  cases call with
  | shows =>
    obtain ⟨r, hr, -⟩ := Step.ok_of_bind_pure hreply
    exact hset true ⟨r, hr⟩
  | hides =>
    obtain ⟨r, hr, -⟩ := Step.ok_of_bind_pure hreply
    exact hset false ⟨r, hr⟩
  | asks =>
    obtain ⟨r, hr, -⟩ := Step.ok_of_bind_pure hreply
    cases hask : s.engine.representation source view with
    | error fault =>
      rw [getRepresentation_error hask] at hr
      cases hr
    | ok found =>
      obtain ⟨⟨rs, hs⟩, rv, hv⟩ := Engine.live_of_representation hask
      obtain rfl : found = none := by
        rw [Engine.representation_eq hs hv, hk] at hask
        exact (Except.ok.inj hask).symm
      rw [getRepresentation_eq hask] at hr
      exact hset false ⟨r, hr⟩

/-! ## Calls that fail -/

section Calls

variable {source view : Option Handle} {x : Handle}

/-- What follows the first step only changes the engine further. -/
theorem changes_bind {α β : Type} (x : SessionStep α) {f : α → SessionStep β}
    (hf : ∀ a t, Engine.Changes t.engine (f a t).2.engine) (s : Session) :
    Engine.Changes (x s).2.engine ((x >>= f) s).2.engine := by
  rw [Step.bind_apply]
  cases x s with
  | mk answer t =>
    cases answer with
    | ok a => exact hf a t
    | error fault => exact .refl

theorem changes_orActiveView (view : Option Handle) (s : Session) :
    Engine.Changes s.engine (orActiveView view s).2.engine := by
  cases view with
  | some view => exact .refl
  | none =>
    have hchanges := changes_perform .activeViewOrCreate s
    rwa [show (perform .activeViewOrCreate s).2 = (activeViewOrCreate s).2 from
      Step.snd_bind_pure ..] at hchanges

/-- An object that is active in place of one that is given is in the slot. -/
theorem peek_of_orActive {k : SlotKind} (hx : (orActive k none s).1 = .ok x) :
    s.slots.peek k = some (.proxy x) := by
  cases hfound : activeProxy k s with
  | mk answer t =>
    cases answer with
    | error fault =>
      have hfails : orActive k none s = (.error fault, t) := Step.bind_error hfound
      rw [hfails] at hx
      cases hx
    | ok found =>
      have hthen : orActive k none s = _ := Step.bind_ok hfound
      rw [hthen] at hx
      cases found with
      | none => cases hx
      | some x' =>
        cases hx
        obtain rfl : t = s :=
          (congrArg Prod.snd hfound).symm.trans ((follows_activeProxy k).snd_eq s)
        exact (activeProxy_eq_ok_some_iff.mp hfound).1

/-- The number of a source that a call comes upon was given out, if that is so for what it is
given and for what is active. -/
theorem toNat_lt_of_orActive (hsource : ∀ x, source = some x → x.id.toNat < s.engine.nextObject)
    (hslots : s.Holds Engine.Numbered) (hx : (orActive .source source s).1 = .ok x) :
    x.id.toNat < s.engine.nextObject := by
  cases source with
  | some source =>
    cases hx
    exact hsource _ rfl
  | none => exact hslots .source _ (peek_of_orActive hx)

/-- A call that may make its view comes upon the source and the view, and then it is the call
that names the two. -/
theorem perform_method {call : PairCall} (hcall : call ≠ .hides)
    (hx : orActive .source source s = (.ok x, s)) :
    perform (call.method source view) s =
      (orActiveView view >>= fun v => perform (call.op x v)) s := by
  cases call with
  | shows =>
    show (showSource source view >>= _) s = _
    rw [showSource, Step.bind_assoc, Step.bind_ok hx, Step.bind_assoc]
    rfl
  | hides => exact absurd rfl hcall
  | asks =>
    show (getRepresentation source view >>= _) s = _
    rw [getRepresentation, Step.bind_assoc, Step.bind_ok hx, Step.bind_assoc]
    rfl

theorem harmless_hideSource (source view : Option Handle) (s : Session) :
    (hideSource source view).Harmless s :=
  Step.harmless_bind (snd_orActive .source source s) fun x _ =>
    Step.harmless_bind (snd_orActive .view view s) fun v _ =>
      harmless_onEngine (Engine.harmless_setVisibility x v false s.engine)

/-- A call that comes upon no source fails before it makes anything. -/
theorem displays_of_no_source {call : PairCall} (hcall : call ≠ .hides) {fault : SessionError}
    (hx : orActive .source source s = (.error fault, s)) :
    Displays s (.pair call source view) := by
  have hfails : perform (call.method source view) s = (.error fault, s) := by
    cases call with
    | shows | asks => exact Step.bind_error (Step.bind_error hx)
    | hides => exact absurd rfl hcall
  refine ⟨fun _ fault' s' h => ?_, ?_⟩
  · rw [show perform (DisplayCall.pair call source view).op s = _ from hfails] at h
    cases h
    rfl
  · rintro ⟨-, -, x, hx', -⟩
    rw [hx] at hx'
    cases hx'

/-- A call has made its view, and what is left of it is the call that names the source and the new
view. If that one succeeds exactly where the source is at hand, then the call leaves the view behind
exactly where it is not. -/
theorem displays_of_committed {call : PairCall} (hcall : call ≠ .hides)
    (hx : (orActive .source source s).1 = .ok x) (hmakes : view = none ∧ MakesView s)
    {h : Handle} {d : Definition} {r : Record} {cameras : List Record}
    (hcommitted : Committed s s' .views s.config.defaultView ∅ h d r cameras)
    (hrest : perform (DisplayCall.pair call source view).op s = perform (call.op x h) s')
    (hshows : (∃ reply, (perform (call.op x h) s').1 = .ok reply) ↔ s.AtHand x) :
    Displays s (.pair call source view) := by
  refine ⟨fun hnot fault s'' hfails => ?_, ?_⟩
  · have hat : s.AtHand x := by
      by_contra haway
      exact hnot ⟨hcall, hmakes, x, hx, haway⟩
    obtain ⟨reply, hreply⟩ := hshows.mpr hat
    rw [← hrest, hfails] at hreply
    cases hreply
  · rintro ⟨-, -, x', hx', haway⟩
    obtain rfl : x = x' := Except.ok.inj (hx.symm.trans hx')
    cases hcalled : perform (call.op x h) s' with
    | mk answer s'' =>
      cases answer with
      | ok reply => exact absurd (hshows.mp ⟨reply, by rw [hcalled]⟩) haway
      | error fault =>
        obtain rfl := harmless_op call x h s' fault s'' hcalled
        exact ⟨fault, s'', h, d, r, cameras, hrest.trans hcalled, hcommitted.ne, hcommitted⟩

variable (we : s.engine.WellFormed) {camera : Definition}
  (hcamera : s.engine.definition? .cameras "Camera" = some camera)
include we hcamera

/-- A call that acts on a view of its own choice fails without a trace. -/
theorem harmless_onView {act : Handle → Step Engine EngineError Unit}
    (hharmless : ∀ v e, (act v).Harmless e)
    (hok : ∀ {v : Handle} {e : Engine}, v.group = .views → e.isLive v = true →
      ∃ e', act v e = (.ok (), e'))
    (hedits : ∀ v e, Engine.Edits e (act v e).2)
    (hn : ((orActiveView view >>= fun v => onEngine (act v) >>= fun _ => pure v) s).2.engine
      |>.NumbersLeft) :
    (orActiveView view >>= fun v => onEngine (act v) >>= fun _ => pure v).Harmless s := by
  have hchanges := changes_bind (orActiveView view)
    (f := fun v => onEngine (act v) >>= fun _ => pure v) (fun v t => ?_) s
  · rcases orActiveView_endings we hcamera view (hn.of_changes hchanges) with ⟨-, hsame⟩ |
      ⟨-, h, s', d, r, cameras, hmade, hcommitted⟩
    · exact Step.harmless_bind hsame fun v _ =>
        (harmless_onEngine (hharmless v s.engine)).answer fun _ => v
    · intro fault s'' hfails
      obtain ⟨e', hact⟩ := hok hcommitted.kind.1 hcommitted.isLive
      rw [Step.bind_ok hmade, Step.bind_ok (onEngine_ok hact)] at hfails
      cases hfails
  · rw [Step.snd_bind_pure (onEngine (act v)) fun _ => v]
    exact (hedits v t.engine).changes

/-- A call that may make its view first comes upon a source. If there is none it fails. If the view
is at hand nothing is made, and the call can only fail without a trace. Else the view is made, and
no pair with it is in the table : what is left succeeds exactly if the source and the view are
together. -/
theorem displays_pair {d : Definition}
    (hd : s.engine.definition? .representations "GeometryRepresentation" = some d)
    {call : PairCall} (hcall : call ≠ .hides)
    (hnumbered : ∀ x, (orActive .source source s).1 = .ok x → x.id.toNat < s.engine.nextObject)
    (hn : (perform (call.method source view) s).2.engine.NumbersLeft) :
    Displays s (.pair call source view) := by
  have hlooks := snd_orActive .source source s
  cases hx : orActive .source source s with
  | mk answer t =>
    obtain rfl : t = s := by rwa [hx] at hlooks
    cases answer with
    | error fault => exact displays_of_no_source hcall hx
    | ok x =>
      have hfst : (orActive .source source t).1 = .ok x := congrArg Prod.fst hx
      have hmethod : perform (call.method source view) t = _ := perform_method hcall hx
      rw [hmethod] at hn
      have hn' := hn.of_changes (changes_bind (orActiveView view)
        (fun v s => changes_perform (call.op x v) s) t)
      have hchanges := changes_orActiveView view t
      rcases orActiveView_endings we hcamera view hn' with ⟨hnot, hsame⟩ |
        ⟨hmakes, h, s', dv, r, cameras, hmade, hcommitted⟩
      · refine ⟨fun _ fault s' hfails => ?_, fun hstrands => absurd hstrands.2.1 hnot⟩
        exact Step.harmless_bind hsame (fun v _ => harmless_op call x v t) fault s'
          (hmethod.symm.trans hfails)
      · rw [hmade] at hchanges hn'
        have hnone := hcommitted.tabled?_eq_none we (hn'.of_changes hchanges) x.connection x.id
        refine displays_of_committed hcall hfst hmakes hcommitted
          (hmethod.trans (Step.bind_ok hmade)) ?_
        exact (exists_perform_op_iff (hchanges.definition? hd) hnone call).trans
          (hcommitted.together_iff we.keyed hchanges hn' (hnumbered x hfst))

/-- Every call with handles that were given out. Only one that shows a source or asks for its
representation can leave a view behind. -/
theorem displays_of_wellFormed {d : Definition}
    (hd : s.engine.definition? .representations "GeometryRepresentation" = some d)
    (call : DisplayCall) (hslots : s.Holds Engine.Numbered)
    (hissued : ∀ h, call.op.Takes h → s.engine.Issued h)
    (hn : (perform call.op s).2.engine.NumbersLeft) : Displays s call := by
  have honly : ∀ {call : DisplayCall}, ¬call.Strands s → (perform call.op).Harmless s →
      Displays s call := fun hnot hharmless => ⟨fun _ => hharmless, fun h => absurd h hnot⟩
  cases call with
  | pair call source view =>
    have hnumbered : ∀ x, (orActive .source source s).1 = .ok x →
        x.id.toNat < s.engine.nextObject := fun x hx =>
      toNat_lt_of_orActive (fun x hx => (hissued x (by cases call <;> exact Or.inl hx)).1) hslots hx
    cases call with
    | shows | asks => exact displays_pair we hcamera hd (fun h => by cases h) hnumbered hn
    | hides => exact honly (fun h => h.1 rfl) ((harmless_hideSource source view s).answer _)
  | render view =>
    have hsame : (perform (DisplayCall.render view).op s).2 = (render view s).2 :=
      Step.snd_bind_pure ..
    rw [hsame] at hn
    exact honly (fun h => h) ((harmless_onView we hcamera Engine.harmless_render
      Engine.exists_render_eq_ok Engine.edits_render hn).answer _)
  | interact view =>
    have hsame : (perform (DisplayCall.interact view).op s).2 = (interact view s).2 :=
      Step.snd_bind_pure ..
    rw [hsame] at hn
    exact honly (fun h => h) ((harmless_onView we hcamera Engine.harmless_interact
      Engine.exists_interact_eq_ok Engine.edits_interact hn).answer _)

end Calls

/-- A session is started over an engine with the built-in catalog, and methods are called and
the host acts on the engine in any order. A call that shows, hides, asks for a representation,
renders or interacts, with objects whose handles the engine gave out, leaves the session as it
was when it fails, unless it was to show a source that is not there on the active connection in
a view that it had to make first. Such a call always fails, and it leaves the default view, with
its camera and active, and no other trace. This holds as long as the engine has numbers left for
what it makes. -/
theorem failed_display_calls (before : List Engine.Op) {start : Session}
    (hstart : Starts (Engine.new.run before) start) (ops : List Op) (call : DisplayCall)
    (hissued : ∀ h, call.op.Takes h → (start.run ops).engine.Issued h)
    (hn : (perform call.op (start.run ops)).2.engine.NumbersLeft) :
    Displays (start.run ops) call := by
  have he : (Engine.new.run before).Reachable := ⟨builtinCatalog, before, rfl⟩
  have hn' := hn.of_changes (changes_perform call.op _)
  have hchanges := changes_run start ops
  have hengine := engine_of_starts hstart
  have we := Engine.wellFormed_of_reachable he (hengine ▸ hn'.of_changes hchanges)
  have hslots : (start.run ops).Holds Engine.Numbered :=
    (holds_of_starts we hstart).1.numbered_run (hengine ▸ we) hn'
  have hdefined : ∀ {g name d}, Engine.new.definition? g name = some d →
      (start.run ops).engine.definition? g name = some d := fun hd =>
    hchanges.definition? (hengine ▸ (Engine.changes_run Engine.new before).definition? hd)
  exact displays_of_wellFormed (wellFormed_run he hstart hn') (hdefined rfl) (hdefined rfl) call
    hslots hissued hn

/-- A sphere is made and deleted. Hiding it fails, and nothing changes; showing it fails as well,
and the default view is there. -/
theorem failed_display_calls_deleted_sphere :
    let sphere : Handle := ⟨1, ⟨1⟩, .sources, "SphereSource"⟩
    let start := new "" "" .new .default
    let ops : List Op := [.connect, .create .sources "SphereSource" ∅, .delete sphere]
    let s := start.run ops
    let hides : DisplayCall := .pair .hides (some sphere) none
    let shows : DisplayCall := .pair .shows (some sphere) none
    Starts (Engine.new.run []) start ∧ s.engine.Issued sphere ∧
      (perform hides.op s).2.engine.NumbersLeft ∧ (perform shows.op s).2.engine.NumbersLeft ∧
      (perform hides.op s).1.isOk = false ∧ (∀ fault s', perform hides.op s = (.error fault, s') →
        s' = s) ∧
      ∃ fault s' view d r cameras, perform shows.op s = (.error fault, s') ∧ s' ≠ s ∧
        Committed s s' .views s.config.defaultView ∅ view d r cameras := by
  intro sphere start ops s hides shows
  have hs : Starts (Engine.new.run []) start := ⟨"", "", .default, Or.inl rfl⟩
  have habsent : s.slots.view = none := by decide +kernel
  have hgone : s.engine.isLive sphere = false := by decide +kernel
  have hissued : s.engine.Issued sphere := ⟨by decide +kernel, fun r hr =>
    absurd (Engine.isLive_of_object? hr) (Bool.eq_false_iff.mp hgone)⟩
  have hhides : (perform hides.op s).2.engine.NumbersLeft :=
    ⟨by decide +kernel, by decide +kernel⟩
  have hshows : (perform shows.op s).2.engine.NumbersLeft :=
    ⟨by decide +kernel, by decide +kernel⟩
  have htakes : ∀ {h}, some sphere = some h ∨ none = some h → s.engine.Issued h := by
    rintro h (heq | heq)
    · exact Option.some.inj heq ▸ hissued
    · cases heq
  have hcreatable : Creatable s .views "RenderView" ∅ := by
    have hok : (s.engine.blueprint ⟨1⟩ .views "RenderView"
        ((∅ : Properties).erase nameKeyword)).isOk = true := by decide +kernel
    cases hb : s.engine.blueprint ⟨1⟩ .views "RenderView" ((∅ : Properties).erase nameKeyword) with
    | error fault =>
      rw [hb] at hok
      cases hok
    | ok d => exact ⟨⟨⟨1⟩, d, by decide +kernel, hb⟩, fun v hv => by cases hv⟩
  have hdisplays : ∀ call : DisplayCall, (∀ h, call.op.Takes h → s.engine.Issued h) →
      (perform call.op s).2.engine.NumbersLeft → Displays s call :=
    failed_display_calls [] hs ops
  have hstrands : shows.Strands s := by
    have hdefault : s.config.defaultView = "RenderView" := by decide +kernel
    have hmakes : MakesView s := ⟨habsent, by decide +kernel, hdefault.symm ▸ hcreatable⟩
    have hsource : (orActive .source (some sphere) s).1 = .ok sphere := rfl
    have haway : ¬s.AtHand sphere := fun hat => Bool.eq_false_iff.mp hgone hat.2
    exact ⟨fun h => (by cases h), ⟨rfl, hmakes⟩, sphere, hsource, haway⟩
  refine ⟨hs, hissued, hhides, hshows, by decide +kernel, ?_, ?_⟩
  · exact (hdisplays hides (fun _ => htakes) hhides).unchanged fun h => h.1 rfl
  · exact (hdisplays shows (fun _ => htakes) hshows).stranded hstrands

/-- Showing a sphere that was deleted fails for lack of the sphere, and a view that was not there
before is active, with its camera. -/
theorem failed_show_leaves_view :
    let sphere : Handle := ⟨1, ⟨1⟩, .sources, "SphereSource"⟩
    let view : Handle := ⟨2, ⟨1⟩, .views, "RenderView"⟩
    let s := (new "" "" .new .default).run
      [.connect, .create .sources "SphereSource" ∅, .delete sphere]
    let shown := showSource (some sphere) none s
    s.engine.Issued sphere ∧ shown.1 = .error (.engine (.proxyNotFound 1)) ∧
      s.slots.view = none ∧ shown.2.slots.view = some view ∧
      s.engine.list ⟨1⟩ .views = [] ∧ shown.2.engine.list ⟨1⟩ .views = [view] ∧
      (shown.2.engine.cameraOf view).toOption = some ⟨3, ⟨1⟩, .cameras, "Camera"⟩ :=
  ⟨⟨by decide +kernel, fun r hr => by cases hr⟩, rfl, rfl, by decide +kernel, by decide +kernel,
    by decide +kernel, by decide +kernel⟩

end Session

end VizSession
