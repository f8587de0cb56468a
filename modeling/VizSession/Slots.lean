import VizSession.Engine

/-!
# Active objects

`Slots` remember what is active : a connection, a view, a source and a camera, each on its
own. What they hold is not trusted. Reading a slot (`get`) checks that the connection is
alive and the object is there; filling one (`set`) checks also that an object is of the
slot's group and lives on the active connection. Setting one slot leaves the others alone.

What an operation does to the slots is said of `peek` : `peek_clear`, `peek_forgetConnection`,
`peek_forgetProxy`, and `set_cases` for filling a slot.
-/

namespace VizSession

/-- What a slot can hold. -/
inductive Occupant where
  | connection (c : ConnectionId)
  | proxy (h : Handle)
deriving DecidableEq

namespace Occupant

/-- The connection the occupant is, or lives on. -/
def owner : Occupant → ConnectionId
  | connection c => c
  | proxy h => h.connection

/-- The connection the occupant is. -/
def connection? : Occupant → Option ConnectionId
  | connection c => some c
  | proxy _ => none

/-- The object the occupant is. -/
def proxy? : Occupant → Option Handle
  | connection _ => none
  | proxy h => some h

/-- An occupant as it is shown. -/
def label : Occupant → String
  | connection c => c.label
  | proxy h => h.label

end Occupant

/-- The active objects. -/
structure Slots where
  /-- The active connection. -/
  connection : Option ConnectionId
  /-- The active view. -/
  view : Option Handle
  /-- The active source. -/
  source : Option Handle
  /-- The active camera. -/
  camera : Option Handle
deriving DecidableEq

namespace Slots

/-- Nothing is active. -/
def empty : Slots := ⟨none, none, none, none⟩

instance : Inhabited Slots := ⟨empty⟩

/-- What a slot holds, unchecked. -/
def peek (s : Slots) : SlotKind → Option Occupant
  | .connection => s.connection.map .connection
  | .view => s.view.map .proxy
  | .source => s.source.map .proxy
  | .camera => s.camera.map .proxy

/-- Whether all slots are empty. -/
def isEmpty (s : Slots) : Bool := SlotKind.all.all fun k => (s.peek k).isNone

/-- Why an occupant cannot be relied on, if it cannot. -/
def staleness? (k : SlotKind) (o : Occupant) (e : Engine) : Option SessionError :=
  if !e.isAlive o.owner then some (.staleReference k o.owner)
  else
    match o with
    | .connection _ => none
    | .proxy h => if e.isLive h then none else some (.deleted k h)

/-- What a slot holds, checked against the engine. -/
def get (s : Slots) (k : SlotKind) (e : Engine) : Except SessionError (Option Occupant) :=
  match s.peek k with
  | none => .ok none
  | some o =>
    match staleness? k o e with
    | some fault => .error fault
    | none => .ok (some o)

/-- The active connection, which has to be alive. -/
def liveConnection (s : Slots) (e : Engine) : Except SessionError ConnectionId :=
  match s.connection with
  | none => .error .noActiveConnection
  | some c => if e.isAlive c then .ok c else .error (.staleReference .connection c)

/-- Puts an object into the slot of a kind; connections have their own slot. -/
def putProxy (s : Slots) (k : SlotKind) (h : Option Handle) : Slots :=
  match k with
  | .connection => s
  | .view => { s with view := h }
  | .source => { s with source := h }
  | .camera => { s with camera := h }

/-- Why an object cannot become active as a kind other than connection, if it cannot. -/
def refusal? (s : Slots) (k : SlotKind) (h : Handle) (e : Engine) : Option SessionError :=
  match s.liveConnection e with
  | .error fault => some fault
  | .ok c =>
    if h.connection ≠ c then some (.wrongConnection k c h.connection)
    else if k.group? ≠ some h.group then some (.kindMismatch k h.group)
    else if !e.isLive h then some (.engine (.proxyNotFound h.id))
    else none

/-- Makes something active, after checking it against the engine. -/
def set (k : SlotKind) (o : Occupant) (e : Engine) : Step Slots SessionError Unit := fun s =>
  match k, o with
  | .connection, .connection c =>
    if e.isAlive c then (.ok (), { s with connection := some c })
    else (.error (.unknownConnection c), s)
  | .connection, .proxy h => (.error (.kindMismatch k h.group), s)
  | _, .connection _ => (.error (.notAProxy k), s)
  | _, .proxy h =>
    match s.refusal? k h e with
    | some fault => (.error fault, s)
    | none => (.ok (), s.putProxy k (some h))

/-- Empties a slot. -/
def clear (s : Slots) (k : SlotKind) : Slots :=
  match k with
  | .connection => { s with connection := none }
  | k => s.putProxy k none

/-- Empties every slot that belongs to a connection. -/
def forgetConnection (s : Slots) (c : ConnectionId) : Slots where
  connection := s.connection.filter (· ≠ c)
  view := s.view.filter (·.connection ≠ c)
  source := s.source.filter (·.connection ≠ c)
  camera := s.camera.filter (·.connection ≠ c)

/-- Empties every slot that holds an object. -/
def forgetProxy (s : Slots) (h : Handle) : Slots where
  connection := s.connection
  view := s.view.filter (· ≠ h)
  source := s.source.filter (· ≠ h)
  camera := s.camera.filter (· ≠ h)

/-! ## What the slots hold -/

@[simp] theorem peek_empty (k : SlotKind) : empty.peek k = none := by cases k <;> rfl

theorem peek_eq_connection {s : Slots} {k : SlotKind} {c : ConnectionId} :
    s.peek k = some (.connection c) ↔ k = .connection ∧ s.connection = some c := by
  cases k <;> simp [peek]

theorem connection_eq_of_peek {s t : Slots} (h : s.peek .connection = t.peek .connection) :
    s.connection = t.connection :=
  Option.map_injective (fun _ _ h => (Occupant.connection.inj h)) h

theorem peek_putProxy (s : Slots) {k : SlotKind} (hk : k ≠ .connection) (h : Option Handle)
    (j : SlotKind) : (s.putProxy k h).peek j = if k = j then h.map .proxy else s.peek j := by
  cases k <;> cases j <;> first | rfl | exact absurd rfl hk

theorem peek_clear (s : Slots) (k j : SlotKind) :
    (s.clear k).peek j = if k = j then none else s.peek j := by
  cases k <;> cases j <;> rfl

theorem peek_forgetConnection (s : Slots) (c : ConnectionId) (j : SlotKind) :
    (s.forgetConnection c).peek j = (s.peek j).filter fun o => o.owner ≠ c := by
  cases j <;> simp only [peek, forgetConnection, Option.filter_map] <;> rfl

theorem peek_forgetProxy (s : Slots) (h : Handle) (j : SlotKind) :
    (s.forgetProxy h).peek j = (s.peek j).filter fun o => o ≠ .proxy h := by
  cases j with
  | connection => cases hc : s.connection <;> simp [peek, forgetProxy, hc, Option.filter]
  | view | source | camera =>
    simp [peek, forgetProxy, Option.filter_map, Function.comp_def]

theorem set_proxy {k : SlotKind} (hk : k ≠ .connection) (h : Handle) (e : Engine) (s : Slots) :
    set k (.proxy h) e s =
      match s.refusal? k h e with
      | some fault => (.error fault, s)
      | none => (.ok (), s.putProxy k (some h)) := by
  cases k <;> first | rfl | exact absurd rfl hk

/-- Filling a slot fails and changes nothing, or the occupant passed the checks and is what
the slot now holds. -/
theorem set_cases (k : SlotKind) (o : Occupant) (e : Engine) (s : Slots) :
    (set k o e s).2 = s ∨
      (∀ j, (set k o e s).2.peek j = if k = j then some o else s.peek j) ∧
        ((∃ c, k = .connection ∧ o = .connection c ∧ e.isAlive c = true) ∨
          ∃ h, o = .proxy h ∧ s.refusal? k h e = none) := by
  cases o with
  | connection c =>
    by_cases hk : k = .connection
    · subst hk
      by_cases hc : e.isAlive c = true
      · refine Or.inr ⟨fun j => ?_, Or.inl ⟨c, rfl, rfl, hc⟩⟩
        cases j <;> simp [set, hc, peek]
      · exact Or.inl (by simp [set, hc])
    · exact Or.inl (by cases k <;> first | rfl | exact absurd rfl hk)
  | proxy h =>
    by_cases hk : k = .connection
    · subst hk
      exact Or.inl rfl
    · rw [set_proxy hk]
      cases hr : s.refusal? k h e with
      | some fault => exact Or.inl rfl
      | none => exact Or.inr ⟨peek_putProxy s hk (some h), Or.inr ⟨h, rfl, hr⟩⟩

/-- An object that may become active lives on the active connection, and its group is the
one of the slot. -/
theorem refusal?_eq_none {s : Slots} {k : SlotKind} {h : Handle} {e : Engine}
    (hr : s.refusal? k h e = none) :
    s.connection = some h.connection ∧ e.isAlive h.connection = true ∧
      k.group? = some h.group ∧ e.isLive h = true := by
  unfold refusal? liveConnection at hr
  cases hc : s.connection with
  | none => simp [hc] at hr
  | some c =>
    by_cases halive : e.isAlive c = true
    · simp only [hc, halive, if_true] at hr
      split at hr
      · cases hr
      · rename_i hconn
        split at hr
        · cases hr
        · rename_i hgroup
          split at hr
          · cases hr
          · rename_i hlive
            obtain rfl := Decidable.not_not.mp hconn
            exact ⟨rfl, halive, Decidable.not_not.mp hgroup, by simpa using hlive⟩
    · simp [hc, halive] at hr

end Slots

end VizSession
