import VizSession.Proofs.Handles
import VizSession.Proofs.Liveness

/-!
# Slots that went stale

A slot reads as stale when what it holds is gone (`Session.readsStale_iff`). Since nothing
comes back under a number that was given out (`Engine.Numbered.has_of_changes`), it is enough
that the numbers of all that slots hold were given out : what comes into a slot comes there by
right (`Session.Rightful`, `peek_perform_cases`), and what is in a slot by right stays so,
whatever the host does to the engine in between (`Session.Holds.step`).

A slot that can be read denotes the object whose handle it holds, if slots were set to handles
that the engine gave out (`Session.record_of_active`). Without this a slot may hold a handle
that lies about its object. The group that the handle states is in any case the one that the slot
takes (`Session.fits_run`).
-/

namespace VizSession

/-! ## What occupants denote -/

namespace Engine

variable {e e' : Engine} {o : Occupant}

/-- The occupant is there : a connection that is alive, or an object of that number. -/
def Has (e : Engine) : Occupant → Prop
  | .connection c => e.isAlive c = true
  | .proxy h => e.isLive h = true

/-- The number of the occupant was given out. -/
def Numbered (e : Engine) : Occupant → Prop
  | .connection c => c.raw.toNat < e.nextConnection
  | .proxy h => h.id.toNat < e.nextObject

theorem WellFormed.numbered (we : e.WellFormed) (ho : e.Has o) : e.Numbered o := by
  cases o with
  | connection c => exact we.connection_lt ho
  | proxy h =>
    obtain ⟨r, hr⟩ := isLive_iff.mp ho
    exact we.object_lt hr

theorem Numbered.changes (ho : e.Numbered o) (h : Changes e e') : e'.Numbered o := by
  cases o with
  | connection c => exact Nat.lt_of_lt_of_le ho h.counters.2
  | proxy p => exact Nat.lt_of_lt_of_le ho h.counters.1

/-- What is there under a number given out before was there all along. -/
theorem Numbered.has_of_changes (ho : e.Numbered o) (h : Changes e e') (hn : e'.NumbersLeft)
    (hhas : e'.Has o) : e.Has o := by
  cases o with
  | connection c => exact h.alive_kept hn ho hhas
  | proxy p =>
    cases hlive : e.isLive p with
    | true => exact hlive
    | false =>
      rw [Has, h.isLive_eq_false hn ho hlive] at hhas
      cases hhas

end Engine

namespace Slots

theorem staleness?_eq_none_iff {k : SlotKind} {o : Occupant} {e : Engine} :
    staleness? k o e = none ↔ e.Has o := by
  cases o with
  | connection c => simp [staleness?, Engine.Has, Occupant.owner]
  | proxy h =>
    cases hlive : e.isLive h with
    | true =>
      obtain ⟨r, hr⟩ := Engine.isLive_iff.mp hlive
      simp [staleness?, Engine.Has, Occupant.owner, hlive, Engine.isAlive_of_object? hr]
    | false =>
      cases halive : e.isAlive h.connection with
      | true => simp [staleness?, Engine.Has, Occupant.owner, hlive, halive]
      | false => simp [staleness?, Engine.Has, Occupant.owner, hlive, halive]

theorem staleness?_cases {k : SlotKind} {o : Occupant} {e : Engine} {fault : SessionError}
    (h : staleness? k o e = some fault) :
    (∃ c, fault = .staleReference k c) ∨ ∃ p, fault = .deleted k p := by
  unfold staleness? at h
  split at h
  · exact Or.inl ⟨_, (Option.some.inj h).symm⟩
  · cases o with
    | connection c => cases h
    | proxy p =>
      dsimp only at h
      split at h
      · cases h
      · exact Or.inr ⟨p, (Option.some.inj h).symm⟩

theorem get_eq_ok_some_iff {s : Slots} {k : SlotKind} {e : Engine} {o : Occupant} :
    s.get k e = .ok (some o) ↔ s.peek k = some o ∧ e.Has o := by
  rw [← staleness?_eq_none_iff (k := k)]
  unfold get
  cases hk : s.peek k with
  | none => simp
  | some o' =>
    dsimp only
    constructor
    · intro h
      cases hstale : staleness? k o' e with
      | none =>
        rw [hstale] at h
        obtain rfl := Option.some.inj (Except.ok.inj h)
        exact ⟨rfl, hstale⟩
      | some fault =>
        rw [hstale] at h
        cases h
    · rintro ⟨ho, hfresh⟩
      obtain rfl := Option.some.inj ho
      rw [hfresh]

/-- An object is of the group of the slot. -/
def Fits (k : SlotKind) (o : Occupant) : Prop := ∀ h, o = .proxy h → k.group? = some h.group

/-- What a slot holds after one was filled it held before, or it is what was put there, and
that is there and fits the slot. -/
theorem peek_set_cases {k j : SlotKind} {o o' : Occupant} {e : Engine} {s : Slots}
    (h : (set k o e s).2.peek j = some o') :
    s.peek j = some o' ∨ o' = o ∧ e.Has o ∧ Fits j o := by
  rcases set_cases k o e s with hsame | ⟨hpeek, hchecked⟩
  · rw [hsame] at h
    exact Or.inl h
  · rw [hpeek] at h
    split at h
    · rename_i hkj
      obtain rfl := hkj
      obtain rfl := Option.some.inj h
      refine Or.inr ⟨rfl, ?_⟩
      rcases hchecked with ⟨c, -, rfl, halive⟩ | ⟨p, rfl, hrefusal⟩
      · exact ⟨halive, fun p hp => by cases hp⟩
      · obtain ⟨-, -, hgroup, hlive⟩ := refusal?_eq_none hrefusal
        exact ⟨hlive, fun p' hp => Occupant.proxy.inj hp ▸ hgroup⟩
    · exact Or.inl h

end Slots

namespace Session

/-! ## Where occupants come from -/

section Origin

variable {given : Handle → Prop} {s s' : Session} {k : SlotKind} {o : Occupant}

/-- The occupant came into its slot by right : its number was given out, and an object is
one of the given ones or has a handle that the engine gave out. -/
def Rightful (given : Handle → Prop) (e : Engine) (o : Occupant) : Prop :=
  e.Numbered o ∧ ∀ h, o = .proxy h → given h ∨ e.Issued h

theorem Rightful.changes {e e' : Engine} (h : Rightful given e o) (hc : Engine.Changes e e')
    (hn : e'.NumbersLeft) : Rightful given e' o :=
  ⟨h.1.changes hc, fun p hp => (h.2 p hp).imp_right fun hissued => hissued.changes hc hn⟩

/-- What a slot holds after a move it held before, or it came there by right and fits. -/
theorem Move.peek_cases (h : Move given s s') (we : s.engine.WellFormed)
    (hn : s'.engine.NumbersLeft) (hk : s'.slots.peek k = some o) :
    s.slots.peek k = some o ∨ Rightful given s'.engine o ∧ Slots.Fits k o := by
  have we' := we.changes h.changes hn
  cases h with
  | leave =>
    rw [leave_apply] at hk
    dsimp only at hk
    rw [Slots.peek_forgetConnection, Option.filter_eq_some_iff] at hk
    exact Or.inl hk.1
  | join =>
    obtain ⟨stats, ⟨fault, h⟩ | h⟩ := join_cases s
    · rw [h] at hk
      exact Or.inl hk
    · rw [h] at hk we' ⊢
      cases k with
      | connection =>
        obtain rfl := Option.some.inj hk
        refine Or.inr ⟨⟨we'.numbered ?_, fun p hp => by cases hp⟩, fun p hp => by cases hp⟩
        exact (Engine.isAlive_withConnection ..).mpr (Or.inl rfl)
      | view | source | camera => exact Or.inl hk
  | occupy j o' ho =>
    rcases Slots.peek_set_cases hk with hold | ⟨rfl, hhas, hfits⟩
    · exact Or.inl hold
    · exact Or.inr ⟨⟨we.numbered hhas, fun p hp => Or.inl (ho p hp)⟩, hfits⟩
  | create g name ps =>
    rcases create_cases g name ps s with ⟨fault, h⟩ | ⟨c, made, -, -, rfl, hcase⟩
    · rw [h] at hk
      exact Or.inl hk
    rcases hcase with ⟨fault, h⟩ | ⟨new, hnew, ⟨fault, h⟩ | ⟨e, hsettled, h⟩⟩
    · rw [h] at hk
      exact Or.inl hk
    · rw [h] at hk
      exact Or.inl hk
    · rw [h, engine_activateNew] at hn we'
      rw [h] at hk
      rw [h, engine_activateNew]
      rcases activateNew_cases new g { s with engine := e } with hsame | ⟨j, hset⟩
      · rw [hsame] at hk
        exact Or.inl hk
      · rw [hset] at hk
        rcases Slots.peek_set_cases hk with hold | ⟨rfl, hhas, hfits⟩
        · exact Or.inl hold
        · refine Or.inr ⟨⟨we'.numbered hhas, fun p hp => Or.inr ?_⟩, hfits⟩
          obtain rfl := Occupant.proxy.inj hp
          exact (Engine.issued_of_create we (hn.of_changes hsettled.changes)
            (Prod.ext hnew rfl)).changes hsettled.changes hn
  | @delete x =>
    rcases delete_cases x s with ⟨fault, h⟩ | ⟨r, -, h⟩
    · rw [h] at hk
      exact Or.inl hk
    · rw [h] at hk
      have hkept := (peek_dropLostCamera hk).1
      rw [Slots.peek_forgetProxy, Option.filter_eq_some_iff] at hkept
      exact Or.inl hkept.1
  | edit | configure => exact Or.inl hk
  | register p => exact Or.inl ((alongside_registerPlugin p s).2 ▸ hk)
  | load p => exact Or.inl ((alongside_loadPlugin p s).2 ▸ hk)
  | extend ps => exact Or.inl ((alongside_extendNamespace ps s).2 ▸ hk)

theorem Moves.peek_cases (h : Moves given s s') (we : s.engine.WellFormed)
    (hn : s'.engine.NumbersLeft) (hk : s'.slots.peek k = some o) :
    s.slots.peek k = some o ∨ Rightful given s'.engine o ∧ Slots.Fits k o := by
  induction h with
  | refl => exact Or.inl hk
  | tail hmoves hstep ih =>
    have hn' := hn.of_changes hstep.changes
    rcases hstep.peek_cases (we.changes (Moves.changes hmoves) hn') hn hk with hold | hnew
    · exact (ih hn' hold).imp_right fun h => ⟨h.1.changes hstep.changes hn, h.2⟩
    · exact Or.inr hnew

/-- What a slot holds after an operation it held before, or it came there by right and fits. -/
theorem peek_perform_cases {op : Op} (we : s.engine.WellFormed)
    (hn : (perform op s).2.engine.NumbersLeft) (hk : (perform op s).2.slots.peek k = some o) :
    s.slots.peek k = some o ∨ Rightful op.Takes (perform op s).2.engine o ∧ Slots.Fits k o := by
  rcases perform_cases op s with ⟨j, -, h⟩ | ⟨names, -, h⟩ | ⟨o', -, h⟩ | h
  · rw [h] at hk
    dsimp only at hk
    rw [Slots.peek_clear] at hk
    split at hk
    · cases hk
    · exact Or.inl hk
  · rw [h, (alongside_extendExports names s).2] at hk
    exact Or.inl hk
  · rw [h] at hk
    exact Or.inl hk
  · exact h.peek_cases we hn hk

end Origin

/-! ## Stale slots -/

/-- Reading the slot says that it is stale : its connection ended, or its object is gone. -/
def ReadsStale (s : Session) (k : SlotKind) : Prop :=
  (∃ c, (active k s).1 = .error (.staleReference k c)) ∨
    ∃ h, (active k s).1 = .error (.deleted k h)

/-- A slot is stale if what is in it is not there. -/
theorem readsStale_iff {s : Session} {k : SlotKind} :
    s.ReadsStale k ↔ ∃ o, s.slots.peek k = some o ∧ ¬s.engine.Has o := by
  have hget : (active k s).1 = s.slots.get k s.engine := rfl
  unfold ReadsStale
  rw [hget, Slots.get]
  cases hk : s.slots.peek k with
  | none => simp
  | some o =>
    dsimp only
    constructor
    · intro h
      refine ⟨o, rfl, fun hhas => ?_⟩
      rw [Slots.staleness?_eq_none_iff.mpr hhas] at h
      rcases h with ⟨c, h⟩ | ⟨p, h⟩
      · cases h
      · cases h
    · rintro ⟨o', ho, hgone⟩
      obtain rfl := Option.some.inj ho
      cases hstale : Slots.staleness? k o s.engine with
      | none => exact absurd (Slots.staleness?_eq_none_iff.mp hstale) hgone
      | some fault =>
        rcases Slots.staleness?_cases hstale with ⟨c, rfl⟩ | ⟨p, rfl⟩
        · exact Or.inl ⟨c, rfl⟩
        · exact Or.inr ⟨p, rfl⟩

/-! ## Runs -/

/-- What the slots hold has a property of the engine's. -/
def Holds (P : Engine → Occupant → Prop) (s : Session) : Prop :=
  ∀ k o, s.slots.peek k = some o → P s.engine o

/-- A property that lasts, and that what comes into a slot by right has, is kept. -/
theorem Holds.step {P : Engine → Occupant → Prop} {s : Session} {op : Op} (hs : s.Holds P)
    (we : s.engine.WellFormed) (hn : (perform op s).2.engine.NumbersLeft)
    (hlasts : ∀ o, P s.engine o → P (perform op s).2.engine o)
    (hnew : ∀ k o, (perform op s).2.slots.peek k = some o →
      Rightful op.Takes (perform op s).2.engine o → P (perform op s).2.engine o) :
    (perform op s).2.Holds P := by
  intro k o hk
  rcases peek_perform_cases we hn hk with hold | ⟨hright, -⟩
  · exact hlasts o (hs k o hold)
  · exact hnew k o hk hright

/-- The numbers of what the slots hold were given out. -/
theorem Holds.numbered_run {s : Session} (hs : s.Holds Engine.Numbered)
    (we : s.engine.WellFormed) {ops : List Op} (hn : (s.run ops).engine.NumbersLeft) :
    (s.run ops).Holds Engine.Numbered := by
  induction ops generalizing s with
  | nil => exact hs
  | cons op ops ih =>
    have hop := changes_perform op s
    have hn' := hn.of_changes (changes_run (perform op s).2 ops)
    have hstep := hs.step we hn' (fun o ho => ho.changes hop) fun _ _ _ hright => hright.1
    exact ih hstep (we.changes hop hn') hn

/-- The objects that the slots hold are of their groups, whatever methods and host do. -/
theorem fits_run {s : Session} (hs : ∀ k o, s.slots.peek k = some o → Slots.Fits k o)
    (we : s.engine.WellFormed) {ops : List Op} (hn : (s.run ops).engine.NumbersLeft)
    {k : SlotKind} {o : Occupant} (hk : (s.run ops).slots.peek k = some o) : Slots.Fits k o := by
  induction ops generalizing s with
  | nil => exact hs k o hk
  | cons op ops ih =>
    have hn' := hn.of_changes (changes_run (perform op s).2 ops)
    refine ih (fun j o' hj => ?_) (we.changes (changes_perform op s) hn') hn hk
    rcases peek_perform_cases we hn' hj with hold | ⟨-, hfits⟩
    · exact hs j o' hold
    · exact hfits

/-- An occupant that is an object has a handle that the engine gave out. -/
def HandleIssued (e : Engine) (o : Occupant) : Prop := ∀ h, o = .proxy h → e.Issued h

/-- Slots are set to handles that the engine gave out : when a method was given a handle and
a slot holds it afterwards, the handle was given out before. -/
def SetsIssued : Session → List Op → Prop
  | _, [] => True
  | s, op :: ops =>
    (∀ k h, op.Takes h → (perform op s).2.slots.peek k = some (.proxy h) → s.engine.Issued h) ∧
      SetsIssued (perform op s).2 ops

/-- If slots are set to handles that were given out, they hold no other ones : what a method puts
there of its own it has made. -/
theorem Holds.issued_run {s : Session} (hs : s.Holds HandleIssued) (we : s.engine.WellFormed)
    {ops : List Op} (hn : (s.run ops).engine.NumbersLeft) (hsets : SetsIssued s ops) :
    (s.run ops).Holds HandleIssued := by
  induction ops generalizing s with
  | nil => exact hs
  | cons op ops ih =>
    have hop := changes_perform op s
    have hn' := hn.of_changes (changes_run (perform op s).2 ops)
    refine ih (hs.step we hn' (fun o ho h hh => (ho h hh).changes hop hn') ?_)
      (we.changes hop hn') hn hsets.2
    rintro k o hk ⟨-, horigin⟩ h rfl
    rcases horigin h rfl with htakes | hissued
    · exact (hsets.1 k h htakes hk).changes hop hn'
    · exact hissued

theorem fits_of_starts {e : Engine} (we : e.WellFormed) {s : Session} (hs : Starts e s)
    (k : SlotKind) (o : Occupant) (hk : s.slots.peek k = some o) : Slots.Fits k o := by
  rintro h rfl
  exact ((grounded_of_starts we hs).slot hk).1

theorem holds_of_starts {e : Engine} (we : e.WellFormed) {s : Session} (hs : Starts e s) :
    s.Holds Engine.Numbered ∧ s.Holds HandleIssued := by
  have hground := grounded_of_starts we hs
  constructor
  · intro k o hk
    cases o with
    | connection c => exact hground.engine.numbered (hground.slot hk)
    | proxy p =>
      obtain ⟨-, r, hr, -⟩ := hground.slot hk
      exact hground.engine.object_lt hr
  · rintro k o hk h rfl
    obtain ⟨-, hcarries⟩ := hground.slot hk
    exact hground.engine.issued_of_carries hcarries

variable {e : Engine} {s : Session} {ops : List Op}

/-- A slot that reads as stale reads as stale as long as it holds what it holds. -/
theorem readsStale_of_run (he : e.Reachable) (hs : Starts e s)
    (hn : (s.run ops).engine.NumbersLeft) {pre post : List Op} {k : SlotKind}
    (hops : ops = pre ++ post) (hstale : (s.run pre).ReadsStale k)
    (hsame : (s.run ops).slots.peek k = (s.run pre).slots.peek k) :
    (s.run ops).ReadsStale k := by
  subst hops
  rw [run_append] at hn hsame ⊢
  have hpost := changes_run (s.run pre) post
  have hn' := hn.of_changes hpost
  have we : e.WellFormed := Engine.wellFormed_of_reachable he
    (engine_of_starts hs ▸ hn'.of_changes (changes_run s pre))
  obtain ⟨o, ho, hgone⟩ := readsStale_iff.mp hstale
  have hnumbered := (holds_of_starts we hs).1.numbered_run (engine_of_starts hs ▸ we) hn' k o ho
  exact readsStale_iff.mpr ⟨o, hsame.trans ho, fun hhas =>
    hgone (hnumbered.has_of_changes hpost hn hhas)⟩

/-- A slot that can be read denotes the object whose handle it holds. -/
theorem record_of_active (he : e.Reachable) (hs : Starts e s)
    (hn : (s.run ops).engine.NumbersLeft) (hsets : SetsIssued s ops) {k : SlotKind} {h : Handle}
    (hk : (active k (s.run ops)).1 = .ok (some (.proxy h))) :
    ∃ r, (s.run ops).engine.record h = .ok r ∧ r.handle = h := by
  have we : e.WellFormed := Engine.wellFormed_of_reachable he
    (engine_of_starts hs ▸ hn.of_changes (changes_run s ops))
  obtain ⟨hpeek, hlive⟩ := Slots.get_eq_ok_some_iff.mp hk
  have hissued :=
    (holds_of_starts we hs).2.issued_run (engine_of_starts hs ▸ we) hn hsets k _ hpeek h rfl
  obtain ⟨r, hr⟩ := Engine.isLive_iff.mp hlive
  exact ⟨r, Engine.record_eq_ok_iff.mpr hr, hissued.2 r hr⟩

end Session

/-! ## What is gone stays away -/

/-- As long as the engine has numbers left for what it makes, a run from any catalog gives out
no number twice, an object carries the handle that was given out for it, and neither an
object nor a connection that is gone comes back. So a slot of a session, with the host acting
on the engine in between, reads as stale as long as it holds what it held when it first did;
and if the slots were set to handles that the engine gave out, a slot that can be read denotes
the object of the very handle it holds. -/
theorem handles_never_return :
    (∀ (catalog : List Definition) (ops : List Engine.Op),
      ((Engine.ofCatalog catalog).run ops).NumbersLeft →
        (Engine.ofCatalog catalog).NeverReuses ops) ∧
    ∀ (e : Engine) (s : Session) (ops : List Session.Op), e.Reachable → Session.Starts e s →
      (s.run ops).engine.NumbersLeft →
        (∀ pre post k, ops = pre ++ post → (s.run pre).ReadsStale k →
          (s.run ops).slots.peek k = (s.run pre).slots.peek k → (s.run ops).ReadsStale k) ∧
        (s.SetsIssued ops → ∀ k h, (Session.active k (s.run ops)).1 = .ok (some (.proxy h)) →
          ∃ r, (s.run ops).engine.record h = .ok r ∧ r.handle = h) := by
  constructor
  · intro catalog ops hn
    exact Engine.neverReuses ⟨catalog, [], rfl⟩ hn
  · intro e s ops he hs hn
    refine ⟨fun pre post k => Session.readsStale_of_run he hs hn, fun hsets k h => ?_⟩
    exact Session.record_of_active he hs hn hsets

/-- A sphere becomes active when it is made, and the slot denotes it. It is deleted behind the
back of the session, and the slot reads as stale from then on, though the host makes another
source. -/
theorem handles_never_return_deleted_sphere :
    let sphere : Handle := ⟨1, ⟨1⟩, .sources, "SphereSource"⟩
    let made : List Engine.Op :=
      [.establish "builtin:", .create ⟨1⟩ .sources "SphereSource" ∅, .delete sphere]
    let after : List Engine.Op := [.create ⟨1⟩ .sources "ConeSource" ∅]
    let s := Session.new "" "" .new .default
    let start : List Session.Op := [.connect, .create .sources "SphereSource" ∅]
    let pre : List Session.Op := start ++ [.engine (.delete sphere)]
    let post : List Session.Op := [.engine (.create ⟨1⟩ .sources "ConeSource" ∅)]
    ((Engine.ofCatalog builtinCatalog).run (made ++ after)).NumbersLeft ∧
      ((Engine.ofCatalog builtinCatalog).run (made ++ after)).isLive sphere = false ∧
      Engine.new.Reachable ∧ Session.Starts .new s ∧
      (s.run start).engine.NumbersLeft ∧ s.SetsIssued start ∧
      (∃ r, (s.run start).engine.record sphere = .ok r ∧ r.handle = sphere) ∧
      (s.run (pre ++ post)).engine.NumbersLeft ∧ (s.run (pre ++ post)).ReadsStale .source := by
  intro sphere made after s start pre post
  have hn : ((Engine.ofCatalog builtinCatalog).run (made ++ after)).NumbersLeft :=
    ⟨by decide, by decide⟩
  have hgiven : (Engine.ofCatalog builtinCatalog).GivesOut made sphere :=
    ⟨[.establish "builtin:"], _, [.delete sphere], .handle sphere, rfl, rfl,
      List.mem_cons_self ..⟩
  have he : Engine.new.Reachable := ⟨builtinCatalog, [], rfl⟩
  have hs : Session.Starts .new s := ⟨"", "", .default, Or.inl rfl⟩
  have hstart : (s.run start).engine.NumbersLeft := ⟨by decide, by decide⟩
  have hsets : s.SetsIssued start := by
    refine ⟨fun _ _ h => h.elim, ?_, trivial⟩
    rintro k h ⟨name, hname⟩
    cases hname
  have hn' : (s.run (pre ++ post)).engine.NumbersLeft := ⟨by decide, by decide⟩
  have hbefore : (s.run pre).slots.peek .source = some (.proxy sphere) := by decide +kernel
  have hgone : (s.run pre).engine.isLive sphere = false := by decide +kernel
  have hstale : (s.run pre).ReadsStale .source :=
    Session.readsStale_iff.mpr ⟨_, hbefore, Bool.eq_false_iff.mp hgone⟩
  have hafter : (s.run (pre ++ post)).slots.peek .source = some (.proxy sphere) := by
    decide +kernel
  refine ⟨hn, ?_, he, hs, hstart, hsets, ?_, hn', ?_⟩
  · exact (handles_never_return.1 builtinCatalog _ hn).object_gone rfl hgiven rfl
  · exact (handles_never_return.2 _ s _ he hs hstart).2 hsets .source sphere rfl
  · exact (handles_never_return.2 _ s _ he hs hn').1 pre post .source rfl hstale
      (hafter.trans hbefore.symm)

end VizSession
