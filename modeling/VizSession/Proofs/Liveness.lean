import VizSession.Proofs.Methods
import VizSession.Proofs.Survival

/-!
# Slots never dangle

As long as only methods act on a session, what its slots hold is there (`Grounded`) : the
active connection is alive, and an active object is there under its handle, in the group of
its slot. Objects go in several ways, and every method that lets objects go looks after the
slots : leaving a connection empties the slots on it, a deletion empties the slots that hold
the object and the camera slot if the camera went along. What else goes with an object are
representations, which are active nowhere.

The methods have to be called with handles that the engine gave out (`PassesIssued`) :
an object is deleted by its number, and a slot that holds the number under another handle
would not be emptied.
-/

namespace VizSession

open Relation

/-! ## What a slot may hold -/

/-- The occupant is there : a connection that is alive, or an object of the group of the slot
that is stored under its handle. -/
def Engine.Supports (e : Engine) (k : SlotKind) : Occupant → Prop
  | .connection c => e.isAlive c = true
  | .proxy h => k.group? = some h.group ∧
      ∃ r, e.object? h.connection h.id = some r ∧ r.handle = h

theorem Engine.Retains.supports {e e' : Engine} (h : Engine.Retains e e') {k : SlotKind}
    {o : Occupant} (ho : e.Supports k o) : e'.Supports k o := by
  cases o with
  | connection c => exact h.alive ho
  | proxy p =>
    obtain ⟨hgroup, r, hr, hhandle⟩ := ho
    obtain ⟨r', hr', hhandle'⟩ := h.object hr
    exact ⟨hgroup, r', hr', hhandle'.trans hhandle⟩

namespace Session

/-- The engine is well-formed, and what the slots hold is there. -/
structure Grounded (s : Session) : Prop where
  engine : s.engine.WellFormed
  slot : ∀ {k o}, s.slots.peek k = some o → s.engine.Supports k o

theorem Grounded.get {s : Session} (hs : s.Grounded) (k : SlotKind) :
    s.slots.get k s.engine = .ok (s.slots.peek k) := by
  unfold Slots.get
  cases hk : s.slots.peek k with
  | none => rfl
  | some o =>
    have ho := hs.slot hk
    cases o with
    | connection c =>
      have halive : s.engine.isAlive c = true := ho
      simp [Slots.staleness?, Occupant.owner, halive]
    | proxy h =>
      obtain ⟨-, r, hr, -⟩ := ho
      simp [Slots.staleness?, Occupant.owner, Engine.isAlive_of_object? hr,
        Engine.isLive_iff.mpr ⟨r, hr⟩]

theorem grounded_new {e : Engine} (we : e.WellFormed) (id createdAt : String) (config : Config) :
    (new id createdAt e config).Grounded where
  engine := we
  slot {k o} h := by
    rw [show (new id createdAt e config).slots = .empty from rfl, Slots.peek_empty] at h
    cases h

/-! ## Filling slots -/

/-- An object that was given out is there under its handle, if it is there. -/
theorem supports_of_issued {e : Engine} {k : SlotKind} {h : Handle} (hh : e.Issued h)
    (hgroup : k.group? = some h.group) (hlive : e.isLive h = true) :
    e.Supports k (.proxy h) := by
  obtain ⟨r, hr⟩ := Engine.isLive_iff.mp hlive
  exact ⟨hgroup, r, hr, hh.2 r hr⟩

/-- What is put into a slot was checked to be there, and an object that was given out is there under
its handle. -/
theorem Grounded.setActive {s : Session} (hs : s.Grounded) (k : SlotKind) {o : Occupant}
    (ho : ∀ h, o = .proxy h → s.engine.Issued h) : (setActive k o s).2.Grounded where
  engine := hs.engine
  slot {j o'} hj := by
    replace hj : (Slots.set k o s.engine s.slots).2.peek j = some o' := hj
    rcases Slots.set_cases k o s.engine s.slots with hset | ⟨hset, hchecked⟩
    · rw [hset] at hj
      exact hs.slot hj
    · rw [hset] at hj
      split at hj
      · rename_i hkj
        obtain rfl := hkj
        obtain rfl := Option.some.inj hj
        rcases hchecked with ⟨c, -, rfl, halive⟩ | ⟨h, rfl, hrefusal⟩
        · exact halive
        · obtain ⟨-, -, hgroup, hlive⟩ := Slots.refusal?_eq_none hrefusal
          exact supports_of_issued (ho h rfl) hgroup hlive
      · exact hs.slot hj

theorem Grounded.activateNew {s : Session} (hs : s.Grounded) {h : Handle}
    (hh : s.engine.Issued h) (g : Group) : (activateNew h g s).2.Grounded := by
  rcases activateNew_cases h g s with heq | ⟨k, heq⟩
  · rw [heq]
    exact hs
  · rw [heq]
    exact hs.setActive k fun h' hh' => by
      cases hh'
      exact hh

/-! ## The engine moves on -/

/-- An engine that retains what was there supports the same slots. -/
theorem Grounded.retains {s : Session} (hs : s.Grounded) {e : Engine} (we : e.WellFormed)
    (h : Engine.Retains s.engine e) : { s with engine := e }.Grounded where
  engine := we
  slot hk := h.supports (hs.slot hk)

theorem Grounded.edits {s : Session} (hs : s.Grounded) {e : Engine}
    (h : Engine.Edits s.engine e) (hn : e.NumbersLeft) : { s with engine := e }.Grounded :=
  hs.retains (hs.engine.changes h.changes hn) (h.retains hs.engine hn)

theorem Grounded.alongside {s s' : Session} (hs : s.Grounded) (h : Alongside s s') :
    s'.Grounded where
  engine := h.1 ▸ hs.engine
  slot hk := by
    rw [h.2] at hk
    rw [h.1]
    exact hs.slot hk

/-- When a connection ends the slots forget what is on it, so what they still hold is on another
one. -/
theorem Grounded.leave {s : Session} (hs : s.Grounded) (c : ConnectionId)
    (hn : (leave c s).2.engine.NumbersLeft) : (leave c s).2.Grounded where
  engine := hs.engine.changes (changes_leave c s) hn
  slot {k o} hk := by
    rw [leave_apply] at hk ⊢
    dsimp only at hk ⊢
    rw [Slots.peek_forgetConnection, Option.filter_eq_some_iff] at hk
    obtain ⟨hold, howner⟩ := hk
    replace howner : o.owner ≠ c := by simpa using howner
    have ho := hs.slot hold
    split
    · obtain ⟨stats, hdis⟩ := Engine.disconnect_eq c s.engine
      rename_i halive
      rw [hdis, if_pos halive]
      cases o with
      | connection c' => exact (Engine.isAlive_without ..).mpr ⟨fun h => howner h.symm, ho⟩
      | proxy h =>
        obtain ⟨hgroup, r, hr, hhandle⟩ := ho
        refine ⟨hgroup, r, ?_, hhandle⟩
        rw [Engine.object?_without, if_neg fun h => howner h.symm]
        exact hr
    · exact ho

/-- A connection that is made is alive, so its slot can be filled with it as by a call. -/
theorem Grounded.join {s : Session} (hs : s.Grounded)
    (hn : (join s).2.engine.NumbersLeft) : (join s).2.Grounded := by
  have we := hs.engine.changes (changes_join s) hn
  obtain ⟨stats, ⟨fault, h⟩ | h⟩ := join_cases s
  · rw [h] at hn ⊢
    exact hs.edits (.single (.count s.engine stats)) hn
  · rw [h] at hn we ⊢
    have hconnect : Engine.Change { s.engine with stats := stats }
        (Engine.withConnection { s.engine with stats := stats }) := .connect _
    have hn' := hn.of_change hconnect
    have hcounted := hs.edits (.single (.count s.engine stats)) hn'
    have hmade := hcounted.retains we (Engine.retains_withConnection hcounted.engine hn')
    have hactive := hmade.setActive .connection (o := .connection s.engine.nextConnectionId)
      fun h hh => by cases hh
    have halive : (Engine.withConnection { s.engine with stats := stats }).isAlive
        s.engine.nextConnectionId = true :=
      (Engine.isAlive_withConnection ..).mpr (Or.inl rfl)
    simpa [VizSession.Session.setActive, onSlots, Slots.set, halive] using hactive

/-! ## Objects come and go -/

/-- Making an object loses nothing, also when the object is discarded for its name : it takes only
what came with it. -/
theorem Grounded.create {s : Session} (hs : s.Grounded) (g : Group) (name : String)
    (ps : Properties) (hn : (create g name ps s).2.engine.NumbersLeft) :
    (create g name ps s).2.Grounded := by
  have we := hs.engine.changes (changes_create g name ps s) hn
  rcases create_cases g name ps s with ⟨fault, h⟩ | ⟨c, made, -, -, rfl, hcase⟩
  · rw [h]
    exact hs
  have hedits := Engine.edits_create c g name (ps.erase nameKeyword) s.engine
  rcases hcase with ⟨fault, h⟩ | ⟨new, hnew, ⟨fault, h⟩ | ⟨e, hsettled, h⟩⟩
  · rw [h] at hn ⊢
    exact hs.edits hedits hn
  · rw [h] at hn we ⊢
    exact hs.retains we (Engine.retains_discard hs.engine
      (hn.of_changes (Engine.changes_delete ..)) (Prod.ext hnew rfl))
  · rw [h] at hn ⊢
    rw [engine_activateNew] at hn
    have hissued := Engine.issued_of_create hs.engine (hn.of_changes hsettled.changes)
      (Prod.ext hnew rfl)
    exact (hs.edits (hedits.trans hsettled) hn).activateNew
      (hissued.changes hsettled.changes hn) g

/-- A deletion empties the slots of what it takes : the object itself, and a camera that goes along,
for which the camera slot is looked at again. Representations go along too, but no slot holds
one. -/
theorem Grounded.delete {s : Session} (hs : s.Grounded) {h : Handle} (hh : s.engine.Issued h)
    (hn : (delete h s).2.engine.NumbersLeft) : (delete h s).2.Grounded := by
  have we := hs.engine.changes (changes_delete h s) hn
  rcases delete_cases h s with ⟨fault, hdel⟩ | ⟨r, hr, hdel⟩
  · rw [hdel]
    exact hs
  rw [hdel] at we ⊢
  refine ⟨we, fun {k o} hk => ?_⟩
  obtain ⟨hk, hcamera⟩ := peek_dropLostCamera hk
  rw [Slots.peek_forgetProxy, Option.filter_eq_some_iff] at hk
  obtain ⟨hold, hother⟩ := hk
  have ho := hs.slot hold
  rw [engine_dropLostCamera]
  cases o with
  | connection c => simpa [Engine.Supports] using ho
  | proxy p =>
    obtain ⟨hgroup, rp, hrp, rfl⟩ := ho
    refine ⟨hgroup, rp, (Engine.object?_remove ..).mpr ⟨hrp, ?_⟩, rfl⟩
    rintro ⟨hc, hid | hattends⟩
    · -- the number that was deleted is stored under the handle that was forgotten
      rw [← hc, hid] at hrp
      exact absurd (congrArg Occupant.proxy (hh.2 rp hrp)) (by simpa using hother)
    · rw [hc] at hattends
      rcases hs.engine.group_of_attends hattends hrp with hg | hg
      · obtain rfl : k = .camera := by
          rw [hg] at hgroup
          cases k <;> first | rfl | cases hgroup
        obtain ⟨r', hr'⟩ := Engine.isLive_iff.mp (hcamera rfl _ rfl)
        exact ((Engine.object?_remove ..).mp hr').2 ⟨hc, Or.inr (hc ▸ hattends)⟩
      · rw [hg] at hgroup
        cases k <;> cases hgroup

/-! ## Runs -/

/-- One move keeps the slots filled with what is there, if the handles that it is given were given
out. -/
theorem Grounded.move {s s' : Session} (hs : s.Grounded) {given : Handle → Prop}
    (hm : Move given s s') (hgiven : ∀ h, given h → s.engine.Issued h)
    (hn : s'.engine.NumbersLeft) : s'.Grounded := by
  cases hm with
  | leave => exact hs.leave _ hn
  | join => exact hs.join hn
  | occupy k o ho => exact hs.setActive k fun h hh => hgiven h (ho h hh)
  | create g name ps => exact hs.create g name ps hn
  | delete hh => exact hs.delete (hgiven _ hh) hn
  | edit h => exact hs.edits h hn
  | register p => exact hs.alongside (alongside_registerPlugin p s)
  | load p => exact hs.alongside (alongside_loadPlugin p s)
  | extend ps => exact hs.alongside (alongside_extendNamespace ps s)
  | configure => exact ⟨hs.engine, hs.slot⟩

theorem Grounded.moves {s s' : Session} (hs : s.Grounded) {given : Handle → Prop}
    (hm : Moves given s s') (hgiven : ∀ h, given h → s.engine.Issued h)
    (hn : s'.engine.NumbersLeft) : s'.Grounded := by
  induction hm with
  | refl => exact hs
  | tail hms hstep ih =>
    have hn' := hn.of_changes hstep.changes
    exact (ih hn').move hstep
      (fun h hh => (hgiven h hh).changes (Moves.changes hms) hn') hn

theorem grounded_of_starts {e : Engine} (we : e.WellFormed) {s : Session} (hs : Starts e s) :
    s.Grounded := by
  obtain ⟨id, createdAt, config, rfl | ⟨c, hc⟩⟩ := hs
  · exact grounded_new we id createdAt config
  · rw [setActive_of_embedded hc]
    exact (grounded_new we id createdAt config).setActive .connection fun h hh => by cases hh

/-- Whenever a method is called, the handles among its arguments were given out by the
engine. -/
def PassesIssued : Session → List Op → Prop
  | _, [] => True
  | s, op :: ops => (∀ h, op.Takes h → s.engine.Issued h) ∧ PassesIssued (perform op s).2 ops

theorem passesIssued_of_append {s : Session} {ops rest : List Op}
    (h : PassesIssued s (ops ++ rest)) : PassesIssued s ops := by
  induction ops generalizing s with
  | nil => exact trivial
  | cons op ops ih => exact ⟨h.1, ih h.2⟩

theorem changes_perform (op : Op) (s : Session) :
    Engine.Changes s.engine (perform op s).2.engine := by
  rcases perform_cases op s with ⟨k, -, h⟩ | ⟨names, -, h⟩ | ⟨o, -, h⟩ | h
  · rw [h]
  · rw [h, (alongside_extendExports names s).1]
  · rw [h]
    exact Engine.changes_perform o s.engine
  · exact h.changes

theorem changes_run (s : Session) (ops : List Op) :
    Engine.Changes s.engine (s.run ops).engine := by
  induction ops generalizing s with
  | nil => exact .refl
  | cons op ops ih => exact (changes_perform op s).trans (ih _)

/-- Whatever methods and host do, the engine stays well-formed as long as it has numbers
left. -/
theorem wellFormed_run {e : Engine} (he : e.Reachable) {s : Session} (hs : Starts e s)
    {ops : List Op} (hn : (s.run ops).engine.NumbersLeft) : (s.run ops).engine.WellFormed := by
  have hchanges := changes_run s ops
  have we := Engine.wellFormed_of_reachable he (engine_of_starts hs ▸ hn.of_changes hchanges)
  exact (engine_of_starts hs ▸ we).changes hchanges hn

/-- A method keeps them so as well : it is a chain of moves, or it empties a slot, or it exports
names. -/
theorem Grounded.perform {s : Session} (hs : s.Grounded) {op : Op} (hop : ∀ o, op ≠ .engine o)
    (hissued : ∀ h, op.Takes h → s.engine.Issued h) (hn : (perform op s).2.engine.NumbersLeft) :
    (perform op s).2.Grounded := by
  rcases perform_cases op s with ⟨k, -, h⟩ | ⟨names, -, h⟩ | ⟨o, ho, -⟩ | h
  · rw [h]
    refine ⟨hs.engine, fun {j o} hj => ?_⟩
    dsimp only at hj
    rw [Slots.peek_clear] at hj
    split at hj
    · cases hj
    · exact hs.slot hj
  · rw [h]
    exact hs.alongside (alongside_extendExports names s)
  · exact absurd ho (hop o)
  · exact hs.moves h hissued hn

theorem Grounded.run {s : Session} (hs : s.Grounded) {ops : List Op}
    (hops : ∀ op ∈ ops, ∀ o, op ≠ .engine o) (hissued : PassesIssued s ops)
    (hn : (s.run ops).engine.NumbersLeft) : (s.run ops).Grounded := by
  induction ops generalizing s with
  | nil => exact hs
  | cons op ops ih =>
    have hstep := hs.perform (hops op (List.mem_cons_self ..)) hissued.1
      (hn.of_changes (changes_run _ ops))
    exact ih hstep (fun op hop => hops op (List.mem_cons_of_mem _ hop)) hissued.2 hn

/-- A session is started over any reachable engine, and methods are called with handles that
the engine gave out. After each of them, whether it succeeded or failed, every slot can be
read : it is empty, or what it holds is there. This holds as long as the engine has numbers
left for what it makes. -/
theorem active_of_run {e : Engine} (he : e.Reachable) {s : Session} (hs : Starts e s)
    {ops rest : List Op} (hops : ∀ op ∈ ops ++ rest, ∀ o, op ≠ .engine o)
    (hissued : PassesIssued s (ops ++ rest))
    (hn : (s.run (ops ++ rest)).engine.NumbersLeft) (k : SlotKind) :
    (active k (s.run ops)).1 = .ok ((s.run ops).slots.peek k) := by
  have hsplit : s.run (ops ++ rest) = (s.run ops).run rest := List.foldl_append
  rw [hsplit] at hn
  have hn' := hn.of_changes (changes_run _ rest)
  have we : e.WellFormed := Engine.wellFormed_of_reachable he
    (engine_of_starts hs ▸ hn'.of_changes (changes_run s ops))
  exact ((grounded_of_starts we hs).run (fun op hop => hops op (List.mem_append_left _ hop))
    (passesIssued_of_append hissued) hn').get k

/-- A sphere is made, becomes the active source and is deleted; then no source is active. -/
theorem active_of_run_deleted_sphere :
    let sphere : Handle := ⟨1, ⟨1⟩, .sources, "SphereSource"⟩
    let s := new "" "" .new .default
    let ops : List Op := [.connect, .create .sources "SphereSource" ∅, .delete sphere]
    let rest : List Op := [.connect]
    Engine.new.Reachable ∧ Starts .new s ∧ (∀ op ∈ ops ++ rest, ∀ o, op ≠ .engine o) ∧
      PassesIssued s (ops ++ rest) ∧ (s.run (ops ++ rest)).engine.NumbersLeft ∧
      (active .source (s.run ops)).1 = .ok none := by
  intro sphere s ops rest
  have he : Engine.new.Reachable := ⟨builtinCatalog, [], rfl⟩
  have hs : Starts .new s := ⟨"", "", .default, Or.inl rfl⟩
  have hops : ∀ op ∈ ops ++ rest, ∀ o, op ≠ .engine o := by
    simp [ops, rest]
  have hissued : PassesIssued s (ops ++ rest) := by
    refine And.intro (fun h hh => hh.elim) (And.intro (fun h ⟨name, hh⟩ => by cases hh)
      (And.intro (fun h hh => ?_) (And.intro (fun h hh => hh.elim) trivial)))
    obtain rfl : sphere = h := hh
    refine ⟨by decide, fun r hr => ?_⟩
    cases hr
    rfl
  have hn : (s.run (ops ++ rest)).engine.NumbersLeft := ⟨by decide, by decide⟩
  exact ⟨he, hs, hops, hissued, hn, active_of_run he hs hops hissued hn .source⟩

end Session

end VizSession
