import VizSession.Proofs.Commits
import VizSession.Proofs.StaleSlots

/-!
# What decides the content of a slot

A slot is filled with what it accepts (`Slots.Accepts`), and by a call that succeeds; a call that
fails changes no slot (`Slots.set_endings`). What was put into a slot can be read there, by the
engine that accepted it, and the other slots are left alone (`Slots.Assigns`).

To one slot a call writes an occupant, or it empties it, or it does nothing to it
(`Slots.Call.written?`, `Slots.Call.peek_apply`). So after any calls the slot has what was written
to it last (`Slots.peek_after`). What a call writes to a slot depends on the content of that slot
and, since objects have to be on the active connection, on the connection slot. Whatever the
other slots hold, and whatever is called about them, is of no account (`Slots.peek_after_congr`).
-/

namespace VizSession

namespace Slots

variable {s t : Slots} {k j : SlotKind} {o : Occupant} {e : Engine}

/-! ## Filling a slot -/

/-- What a slot accepts : the connection slot a live connection, and any other slot an object of
its group that is there, on the active connection, which has to be alive. -/
def Accepts (s : Slots) (k : SlotKind) (e : Engine) : Occupant → Prop
  | .connection c => k = .connection ∧ e.isAlive c = true
  | .proxy h => k.group? = some h.group ∧ e.isLive h = true ∧
    s.connection = some h.connection ∧ e.isAlive h.connection = true

/-- What a slot accepts it holds then, and all else is refused and changes nothing. -/
theorem set_endings (k : SlotKind) (o : Occupant) (e : Engine) (s : Slots) :
    (s.Accepts k e o ∧ ∃ t, set k o e s = (.ok (), t) ∧
      ∀ j, t.peek j = if k = j then some o else s.peek j) ∨
    ¬s.Accepts k e o ∧ ∃ fault, set k o e s = (.error fault, s) := by
  cases o with
  | connection c =>
    by_cases hk : k = .connection
    · subst hk
      by_cases hc : e.isAlive c = true
      · refine Or.inl ⟨⟨rfl, hc⟩, { s with connection := some c }, by simp [set, hc], fun j => ?_⟩
        cases j <;> simp [peek]
      · exact Or.inr ⟨fun h => hc h.2, _, by simp [set, hc]; rfl⟩
    · refine Or.inr ⟨fun h => hk h.1, .notAProxy k, ?_⟩
      cases k <;> first | rfl | exact absurd rfl hk
  | proxy h =>
    by_cases hk : k = .connection
    · subst hk
      exact Or.inr ⟨fun h => (by cases h.1), _, rfl⟩
    · rw [set_proxy hk]
      cases hr : s.refusal? k h e with
      | none =>
        obtain ⟨hc, halive, hgroup, hlive⟩ := refusal?_eq_none hr
        exact Or.inl ⟨⟨hgroup, hlive, hc, halive⟩, _, rfl, peek_putProxy s hk (some h)⟩
      | some fault =>
        refine Or.inr ⟨fun haccepts => ?_, fault, rfl⟩
        obtain ⟨hgroup, hlive, hc, -⟩ := haccepts
        rw [refusal?_of_isLive hc hgroup hlive] at hr
        cases hr

theorem Accepts.has (h : s.Accepts k e o) : e.Has o := by
  cases o with
  | connection c => exact h.2
  | proxy p => exact h.2.1

/-- A slot is filled exactly if it accepts what it is to hold, and nothing else happens. -/
structure Assigns (s : Slots) (k : SlotKind) (o : Occupant) (e : Engine) : Prop where
  succeeds : (∃ t, set k o e s = (.ok (), t)) ↔ s.Accepts k e o
  /-- The slot holds the occupant, which can be read there, and the others are as they were. -/
  filled : ∀ t, set k o e s = (.ok (), t) →
    t.peek k = some o ∧ t.get k e = .ok (some o) ∧ ∀ j, j ≠ k → t.peek j = s.peek j
  refused : ∀ fault t, set k o e s = (.error fault, t) → t = s

theorem assigns (s : Slots) (k : SlotKind) (o : Occupant) (e : Engine) : s.Assigns k o e := by
  rcases set_endings k o e s with ⟨haccepts, t, hset, hpeek⟩ | ⟨hnot, fault, hset⟩
  · have hk : t.peek k = some o := (hpeek k).trans (if_pos rfl)
    refine ⟨⟨fun _ => haccepts, fun _ => ⟨t, hset⟩⟩, fun t' hset' => ?_, fun fault t' hset' => ?_⟩
    · rw [hset] at hset'
      cases hset'
      refine ⟨hk, get_eq_ok_some_iff.mpr ⟨hk, haccepts.has⟩, fun j hj => ?_⟩
      exact (hpeek j).trans (if_neg (Ne.symm hj))
    · rw [hset] at hset'
      cases hset'
  · refine ⟨⟨fun ⟨t, hset'⟩ => ?_, fun h => absurd h hnot⟩, fun t' hset' => ?_,
      fun fault' t' hset' => ?_⟩
    all_goals
      rw [hset] at hset'
      cases hset'
    rfl

/-! ## Calls -/

/-- A call that fills or empties slots. One that fills a slot sees the engine of its time. -/
inductive Call where
  | set (k : SlotKind) (o : Occupant) (e : Engine)
  | clear (k : SlotKind)
  | forgetConnection (c : ConnectionId)
  | forgetProxy (h : Handle)

/-- The slots after a call. -/
def Call.apply (s : Slots) : Call → Slots
  | .set k o e => (Slots.set k o e s).2
  | .clear k => s.clear k
  | .forgetConnection c => s.forgetConnection c
  | .forgetProxy h => s.forgetProxy h

/-- What a call leaves in one slot, if it does anything to that slot : filling it has to succeed,
and what is forgotten has to be in it. -/
def Call.written? (s : Slots) (k : SlotKind) : Call → Option (Option Occupant)
  | .set j o e => if j = k ∧ (Slots.set j o e s).1.isOk then some (some o) else none
  | .clear j => if j = k then some none else none
  | .forgetConnection c => if (s.peek k).map Occupant.owner = some c then some none else none
  | .forgetProxy h => if s.peek k = some (.proxy h) then some none else none

/-- The slots after calls, whether they succeed or fail. -/
def after (s : Slots) (calls : List Call) : Slots := calls.foldl Call.apply s

/-- What calls leave in one slot, one after another. -/
def writes (k : SlotKind) : Slots → List Call → List (Option Occupant)
  | _, [] => []
  | s, call :: calls => (call.written? s k).toList ++ writes k (call.apply s) calls

/-- What a slot holds after a call is what the call leaves in it, if it does anything to it. -/
theorem Call.peek_apply (call : Call) (s : Slots) (k : SlotKind) :
    (call.apply s).peek k = (call.written? s k).getD (s.peek k) := by
  cases call with
  | set j o e =>
    simp only [apply, written?]
    rcases set_endings j o e s with ⟨-, t, hset, hpeek⟩ | ⟨-, fault, hset⟩
    · rw [hset, hpeek]
      by_cases hj : j = k <;> simp [hj, Except.isOk, Except.toBool]
    · rw [hset]
      simp [Except.isOk, Except.toBool]
  | clear j =>
    show (s.clear j).peek k = _
    rw [peek_clear, written?]
    split <;> rfl
  | forgetConnection c =>
    show (s.forgetConnection c).peek k = _
    rw [peek_forgetConnection, written?]
    cases s.peek k with
    | none => rfl
    | some o => by_cases hc : o.owner = c <;> simp [hc, Option.filter]
  | forgetProxy h =>
    show (s.forgetProxy h).peek k = _
    rw [peek_forgetProxy, written?]
    cases s.peek k with
    | none => rfl
    | some o => by_cases ho : o = .proxy h <;> simp [ho, Option.filter]

/-- After calls a slot has what was left in it last. -/
theorem peek_after (s : Slots) (k : SlotKind) (calls : List Call) :
    (s.after calls).peek k = (writes k s calls).getLastD (s.peek k) := by
  induction calls generalizing s with
  | nil => rfl
  | cons call calls ih =>
    show ((call.apply s).after calls).peek k = _
    rw [ih, call.peek_apply, writes]
    cases call.written? s k with
    | none => rfl
    | some o => exact (List.getLastD_cons ..).symm

/-! ## Other slots -/

/-- Whether a call may be about a slot, or about the connection slot. -/
def Call.concerns (k : SlotKind) : Call → Bool
  | .set j _ _ | .clear j => j = k ∨ j = .connection
  | .forgetConnection _ | .forgetProxy _ => true

theorem accepts_congr (h : s.peek .connection = t.peek .connection) :
    s.Accepts k e o ↔ t.Accepts k e o := by
  unfold Accepts
  rw [connection_eq_of_peek h]

theorem isOk_set_iff : (set k o e s).1.isOk = true ↔ s.Accepts k e o := by
  rcases set_endings k o e s with ⟨haccepts, t, hset, -⟩ | ⟨hnot, fault, hset⟩
  · exact ⟨fun _ => haccepts, fun _ => by rw [hset]; rfl⟩
  · rw [hset]
    exact ⟨nofun, fun h => absurd h hnot⟩

theorem isOk_set_congr (h : s.peek .connection = t.peek .connection) :
    (set k o e s).1.isOk = (set k o e t).1.isOk := by
  rw [Bool.eq_iff_iff, isOk_set_iff, isOk_set_iff, accepts_congr h]

/-- What a call leaves in a slot depends on that slot and on the connection slot. -/
theorem Call.written?_congr (call : Call) (hc : s.peek .connection = t.peek .connection)
    (hk : s.peek k = t.peek k) : call.written? s k = call.written? t k := by
  cases call with
  | set j o e => rw [written?, written?, isOk_set_congr hc]
  | clear j => rfl
  | forgetConnection c => rw [written?, written?, hk]
  | forgetProxy h => rw [written?, written?, hk]

theorem Call.peek_apply_congr (call : Call) (hc : s.peek .connection = t.peek .connection)
    (hk : s.peek k = t.peek k) : (call.apply s).peek k = (call.apply t).peek k := by
  rw [call.peek_apply, call.peek_apply, call.written?_congr hc hk, hk]

/-- A call about other slots leaves a slot alone. -/
theorem Call.peek_apply_of_ne {call : Call} (h : ¬call.concerns k = true) (s : Slots) :
    (call.apply s).peek .connection = s.peek .connection ∧ (call.apply s).peek k = s.peek k := by
  rw [call.peek_apply, call.peek_apply]
  cases call with
  | set j o e =>
    obtain ⟨hk, hc⟩ := not_or.mp fun hj => h (decide_eq_true hj)
    simp [written?, hk, hc]
  | clear j =>
    obtain ⟨hk, hc⟩ := not_or.mp fun hj => h (decide_eq_true hj)
    simp [written?, hk, hc]
  | forgetConnection | forgetProxy => exact absurd rfl h

/-- Calls about other slots can be left out, and what the other slots hold does not matter. -/
theorem peek_after_congr (calls : List Call) (hc : s.peek .connection = t.peek .connection)
    (hk : s.peek k = t.peek k) :
    (s.after calls).peek k = (t.after (calls.filter (Call.concerns k))).peek k := by
  induction calls generalizing s t with
  | nil => exact hk
  | cons call calls ih =>
    show ((call.apply s).after calls).peek k = _
    by_cases hcall : call.concerns k = true
    · rw [List.filter_cons_of_pos hcall]
      exact ih (call.peek_apply_congr hc hc) (call.peek_apply_congr hc hk)
    · rw [List.filter_cons_of_neg hcall]
      obtain ⟨hc', hk'⟩ := call.peek_apply_of_ne hcall s
      exact ih (hc'.trans hc) (hk'.trans hk)

end Slots

/-- Slots are assigned one by one, whatever they hold. A call fills a slot exactly if the slot
accepts what it is to hold, which can then be read there, and a call that fails changes nothing.
After any calls a slot has what was left in it last, by a call that filled it or by one that
emptied it of what it held; calls about other slots but the connection slot can be left out, and
what those held does not matter. -/
theorem slots_assigned_one_by_one (s : Slots) :
    (∀ k o e, s.Assigns k o e) ∧ ∀ k calls,
      (s.after calls).peek k = (Slots.writes k s calls).getLastD (s.peek k) ∧
      ∀ t : Slots, s.peek .connection = t.peek .connection → s.peek k = t.peek k →
        (s.after calls).peek k = (t.after (calls.filter (Slots.Call.concerns k))).peek k :=
  ⟨s.assigns, fun k calls => ⟨s.peek_after k calls, fun _ => Slots.peek_after_congr calls⟩⟩

end VizSession
