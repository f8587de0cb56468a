import VizSession.Proofs.Isolation
import VizSession.Proofs.StaleSlots
import VizSession.Proofs.Startup

/-!
# Connecting anew

Connecting has two halves : the active connection is left, and a new one is joined. To leave is to
end the connection in the engine, if it is alive, and to empty every slot that belongs to it
(`Session.left`); this is all that a disconnect does (`disconnect_eq`). The new connection gets the
connection slot, or the engine refuses it and the slot stays empty (`join_counted`).

A reset disconnects first and connects then. It comes to the same as connecting at once
(`reset_eq_connect`), because there is nothing to leave a second time. For this the connections
need not even be numbered. That the old connection stays away does hang on the numbers : the new
connection is the next one, and what a slot holds was given out before (`Leaves.join`).
-/

namespace VizSession

/-! ## The engine -/

namespace Engine

variable {e e' : Engine} {c : ConnectionId}

/-- Whether a connection is made, and which one, does not hang on those that are there. -/
theorem fst_establish_congr (url : String) (hrefusal : e'.refusal = e.refusal)
    (hnext : e'.nextConnection = e.nextConnection) :
    (establish url e').1 = (establish url e).1 := by
  unfold establish nextConnectionId
  dsimp only
  rw [hrefusal, hnext]
  cases e.refusal with
  | some reason => rfl
  | none =>
    dsimp only
    split <;> rfl

/-- The engine after a session left a connection : it was ended if it was alive. -/
def ended (c : ConnectionId) (e : Engine) : Engine :=
  if e.isAlive c then (disconnect c e).2 else e

theorem ended_cases (c : ConnectionId) (e : Engine) :
    (e.isAlive c = false ∧ ended c e = e) ∨
      (e.isAlive c = true ∧ ended c e =
        without { e with stats.disconnectCalls := e.stats.disconnectCalls + 1 } c) := by
  cases halive : e.isAlive c with
  | false => exact Or.inl ⟨rfl, if_neg (Bool.eq_false_iff.mp halive)⟩
  | true => exact Or.inr ⟨rfl, (if_pos halive).trans (congrArg Prod.snd (if_pos halive))⟩

theorem gone_ended (c : ConnectionId) (e : Engine) : (ended c e).Gone c := by
  refine gone_of_isAlive (Bool.eq_false_iff.mpr fun halive => ?_)
  rcases ended_cases c e with ⟨hdead, h⟩ | ⟨-, h⟩
  · rw [h, hdead] at halive
    cases halive
  · rw [h] at halive
    exact ((isAlive_without ..).mp halive).1 rfl

theorem sameOn_ended {c' : ConnectionId} (hc : c' ≠ c) (e : Engine) : SameOn c' e (ended c e) := by
  rcases ended_cases c e with ⟨-, h⟩ | ⟨-, h⟩
  · rw [h]
    exact ⟨rfl, rfl⟩
  · rw [h]
    exact sameOn_without { e with stats.disconnectCalls := e.stats.disconnectCalls + 1 } hc

theorem ended_eq (c : ConnectionId) (e : Engine) : ended c e =
    { e with
      connections := (ended c e).connections
      stats.disconnectCalls := e.stats.disconnectCalls + (e.isAlive c).toNat } := by
  rcases ended_cases c e with ⟨halive, h⟩ | ⟨halive, h⟩
  · rw [h, halive]
    rfl
  · rw [h, halive]
    rfl

/-- The connection that was made last is empty. -/
theorem store_withConnection (e : Engine) :
    e.withConnection.store e.nextConnectionId = .ok .empty := by
  unfold store withConnection
  dsimp only
  rw [OrderedMap.find?_insert, if_pos rfl]

/-- A connection of that number was not alive when the count was lower. -/
theorem WellFormed.isAlive_eq_false (we : e.WellFormed) (h : Changes e e')
    (hc : c.raw.toNat = e'.nextConnection) : e.isAlive c = false := by
  refine Bool.eq_false_iff.mpr fun halive => ?_
  have hlt := we.connection_lt halive
  have hle := h.counters.2
  omega

end Engine

namespace Session

variable {s t : Session} {c : ConnectionId}

/-! ## Leaving and joining -/

/-- The session after it left its active connection, if it had one. -/
def left (s : Session) : Session :=
  match s.slots.connection with
  | none => s
  | some c => (leave c s).2

theorem left_of_none (hc : s.slots.connection = none) : s.left = s := by
  unfold left
  split
  · rfl
  · rename_i c hsome
    rw [hc] at hsome
    cases hsome

theorem leave_eq (hc : s.slots.connection = some c) : leave c s = (.ok (), s.left) := by
  have hleft : s.left = (leave c s).2 := by
    unfold left
    rw [hc]
  rw [hleft, leave_apply]

theorem disconnect_eq (s : Session) : disconnect s =
    match s.slots.connection with
    | none => (.error .noActiveConnection, s)
    | some _ => (.ok (), s.left) := by
  unfold disconnect
  rw [Step.bind_apply, Step.read_apply]
  cases hc : s.slots.connection with
  | none => rfl
  | some c => exact leave_eq hc

theorem connect_eq (s : Session) : connect s = join s.left := by
  unfold connect
  rw [Step.bind_apply, Step.read_apply]
  cases hc : s.slots.connection with
  | none => rw [left_of_none hc]
  | some c => exact Step.bind_ok (leave_eq hc)

@[simp] theorem connection_left (s : Session) : s.left.slots.connection = none := by
  cases hc : s.slots.connection with
  | none => rw [left_of_none hc, hc]
  | some c =>
    have hnone := connection_leave hc
    rwa [leave_eq hc] at hnone

/-- The two ways to connect anew agree, in every state. -/
theorem reset_eq_connect (s : Session) : reset s = connect s := by
  unfold reset
  rw [Step.bind_apply, Step.read_apply]
  cases hc : s.slots.connection with
  | none => rfl
  | some c =>
    have hdisconnect : disconnect s = (.ok (), s.left) := by rw [disconnect_eq, hc]
    refine (Step.bind_ok hdisconnect).trans ?_
    show connect s.left = connect s
    rw [connect_eq, connect_eq, left_of_none (connection_left s)]

theorem fst_join (s : Session) :
    (join s).1 = (Engine.establish s.config.url s.engine).1.mapError .engine := by
  rw [join_eq]
  rcases Engine.establish_counted s.config.url s.engine with ⟨fault, h⟩ | h
  · rw [h]
    rfl
  · rw [h]
    rfl

/-! ## What is left behind -/

/-- The session was rid of the connection that was active, and may have got another one. -/
structure Leaves (s s' : Session) : Prop where
  /-- The connection that was active is not alive, and nothing of it is there. -/
  gone : ∀ c, s.slots.connection = some c → s'.engine.Gone c
  /-- No slot holds it or anything of it. -/
  forgotten : ∀ k o, s'.slots.peek k = some o → s.slots.connection ≠ some o.owner
  /-- A slot that holds an object of another connection holds it still. -/
  slots : ∀ k, k ≠ .connection →
    s'.slots.peek k = (s.slots.peek k).filter fun o => s.slots.connection ≠ some o.owner
  /-- All other connections stay as they are. -/
  elsewhere : ∀ c, s.slots.connection ≠ some c → s'.slots.connection ≠ some c →
    Engine.SameOn c s.engine s'.engine
  /-- The engine was told once to end it, if it was alive; it was told nothing else, but to make
  another one. -/
  engine : s'.engine = { s.engine with
    connections := s'.engine.connections
    nextConnection := s'.engine.nextConnection
    stats.establishCalls := s'.engine.stats.establishCalls
    stats.disconnectCalls := s.engine.stats.disconnectCalls +
      (s.slots.connection.any s.engine.isAlive).toNat }
  /-- Nothing else in the session changed. -/
  rest : s' = { s with engine := s'.engine, slots := s'.slots }

theorem Leaves.sameNames (h : Leaves s t) : SameNames s t := by
  rw [h.rest]
  exact ⟨rfl, rfl, rfl⟩

theorem left_eq (hc : s.slots.connection = some c) : s.left =
    { s with engine := s.engine.ended c, slots := s.slots.forgetConnection c } := by
  have hleave := leave_eq hc
  rw [leave_apply] at hleave
  exact (Prod.mk.inj hleave).2.symm

/-- Without an active connection there is nothing to leave. Otherwise the engine ends it, and the
slots forget what they hold of it. -/
theorem leaves_left (s : Session) : Leaves s s.left := by
  cases hc : s.slots.connection with
  | none =>
    rw [left_of_none hc]
    have hkept : ∀ k, s.slots.peek k = (s.slots.peek k).filter fun o =>
        s.slots.connection ≠ some o.owner := fun k => by
      cases s.slots.peek k <;> simp [hc, Option.filter]
    exact ⟨by simp [hc], by simp [hc], fun k _ => hkept k, fun _ _ _ => ⟨rfl, rfl⟩, by simp [hc],
      rfl⟩
  | some c =>
    rw [left_eq hc]
    have hpeek := s.slots.peek_forgetConnection c
    constructor
    case gone =>
      intro c' hc'
      obtain rfl := Option.some.inj (hc.symm.trans hc')
      exact Engine.gone_ended c s.engine
    case forgotten =>
      intro k o ho hsame
      rw [hpeek, Option.filter_eq_some_iff] at ho
      rw [hc, Option.some.injEq] at hsame
      simpa [hsame] using ho.2
    case slots =>
      intro k _
      simp [hpeek, hc, eq_comm]
    case elsewhere =>
      intro c' hc' _
      exact Engine.sameOn_ended (fun h => hc' (by rw [hc, h])) s.engine
    case engine =>
      dsimp only
      rw [Engine.ended_eq c s.engine, hc]
      rfl
    case rest => rfl

/-- A connection that is refused leaves the session rid of the one it had. -/
theorem Leaves.refused (h : Leaves s t) :
    Leaves s { t with engine := t.engine.countEstablish } where
  gone c hc := Engine.gone_of_isAlive (h.gone c hc).alive
  forgotten := h.forgotten
  slots := h.slots
  elsewhere := h.elsewhere
  engine := congrArg Engine.countEstablish h.engine
  rest := congrArg (fun s' : Session => { s' with engine := s'.engine.countEstablish }) h.rest

/-- One that is made does so too, unless it is the old one over again. -/
theorem Leaves.joined (h : Leaves s t) (hnew : s.slots.connection ≠ some t.engine.nextConnectionId)
    (hnone : t.slots.connection = none) :
    Leaves s (t.joined t.engine.countEstablish.withConnection t.engine.nextConnectionId) where
  gone c hc := by
    refine Engine.gone_of_isAlive (Bool.eq_false_iff.mpr fun halive => ?_)
    rcases (Engine.isAlive_withConnection ..).mp halive with rfl | hold
    · exact hnew hc
    · exact Bool.eq_false_iff.mp (h.gone c hc).alive hold
  forgotten k o ho := by
    cases k with
    | connection =>
      obtain rfl := Option.some.inj ho
      exact hnew
    | view => exact h.forgotten .view o ho
    | source => exact h.forgotten .source o ho
    | camera => exact h.forgotten .camera o ho
  slots k hk := by
    cases k with
    | connection => exact absurd rfl hk
    | view | source | camera => exact h.slots _ hk
  elsewhere c hc hc' := (h.elsewhere c hc (by simp [hnone])).trans
    (Engine.sameOn_withConnection t.engine.countEstablish fun h => hc' (congrArg some h.symm))
  engine := congrArg (fun e : Engine => e.countEstablish.withConnection) h.engine
  rest := congrArg (fun s' : Session => s'.joined t.engine.countEstablish.withConnection
    t.engine.nextConnectionId) h.rest

theorem Leaves.join (h : Leaves s t) (hnew : s.slots.connection ≠ some t.engine.nextConnectionId)
    (hnone : t.slots.connection = none) : Leaves s (join t).2 := by
  rcases join_counted t with ⟨fault, hjoin⟩ | hjoin
  · rw [hjoin]
    exact h.refused
  · rw [hjoin]
    exact h.joined hnew hnone

/-! ## Connecting anew -/

/-- What connecting anew does, by either route, and what a disconnect alone does. -/
structure Reconnects (s : Session) : Prop where
  /-- A reset and a connect answer the same and leave the same session behind. -/
  agree : reset s = connect s
  /-- The session is rid of the connection that was active. -/
  leaves : Leaves s (connect s).2
  /-- What scripts can call stays. -/
  names : SameNames s (connect s).2
  /-- The engine was asked for a connection once. -/
  calls : (connect s).2.engine.stats.establishCalls = s.engine.stats.establishCalls + 1
  /-- The answer is the engine's, which leaving the old connection does not change. -/
  answer : (connect s).1 = (Engine.establish s.config.url s.engine).1.mapError .engine
  /-- A connection that is made is the next one, alive, empty and active. -/
  joined : ∀ c, (connect s).1 = .ok c → c.raw.toNat = s.engine.nextConnection ∧
    (connect s).2.engine.isAlive c = true ∧ (connect s).2.engine.store c = .ok .empty ∧
    (connect s).2.slots.connection = some c
  /-- If none is made, none is active. -/
  refused : ∀ fault, (connect s).1 = .error fault → (connect s).2.slots.connection = none
  /-- A disconnect fails if no connection is active, and changes nothing then. -/
  disconnect_fails : s.slots.connection = none → disconnect s = (.error .noActiveConnection, s)
  /-- Otherwise it is the first half of connecting anew. -/
  disconnects : s.slots.connection ≠ none → (disconnect s).1 = .ok () ∧
    Leaves s (disconnect s).2 ∧ (disconnect s).2.slots.connection = none ∧
    (disconnect s).2.engine.nextConnection = s.engine.nextConnection ∧
    (disconnect s).2.engine.stats.establishCalls = s.engine.stats.establishCalls ∧
    connect s = join (disconnect s).2

/-- What a call for a connection depends on does not change when the session leaves the old one. -/
theorem nextConnection_left (s : Session) :
    s.left.engine.nextConnection = s.engine.nextConnection ∧
      s.left.engine.refusal = s.engine.refusal ∧
      s.left.engine.stats.establishCalls = s.engine.stats.establishCalls := by
  cases hc : s.slots.connection with
  | none =>
    rw [left_of_none hc]
    exact ⟨rfl, rfl, rfl⟩
  | some c =>
    rw [left_eq hc]
    dsimp only
    rw [Engine.ended_eq]
    exact ⟨rfl, rfl, rfl⟩

theorem disconnect_of_connected (hc : s.slots.connection ≠ none) :
    disconnect s = (.ok (), s.left) := by
  rw [disconnect_eq]
  cases hslot : s.slots.connection with
  | none => exact absurd hslot hc
  | some c => rfl

/-- Connecting anew leaves the old connection and joins the next one. No slot holds the next one
before, so what the slots keep is told apart from what is new. -/
theorem reconnects (hs : s.Holds Engine.Numbered) (hn : s.engine.NumbersLeft) : s.Reconnects := by
  obtain ⟨hnext, hrefusal, hcalls⟩ := nextConnection_left s
  have hurl : s.left.config = s.config := by rw [(leaves_left s).rest]
  have hid : s.left.engine.nextConnectionId = s.engine.nextConnectionId := by
    unfold Engine.nextConnectionId
    rw [hnext]
  have hnew : s.slots.connection ≠ some s.left.engine.nextConnectionId := by
    intro hc
    have hlt := hs .connection _ (Slots.peek_eq_connection.mpr ⟨rfl, hc⟩)
    rw [hid, Engine.Numbered, hn.toNat_nextConnection] at hlt
    exact Nat.lt_irrefl _ hlt
  have hjoin := join_counted s.left
  rw [← connect_eq] at hjoin
  have hleaves : Leaves s (connect s).2 := by
    rw [connect_eq]
    exact (leaves_left s).join hnew (connection_left s)
  constructor
  case agree => exact reset_eq_connect s
  case leaves => exact hleaves
  case names => exact hleaves.sameNames
  case calls =>
    rcases hjoin with ⟨fault, h⟩ | h
    · rw [h]
      exact congrArg (· + 1) hcalls
    · rw [h]
      exact congrArg (· + 1) hcalls
  case answer =>
    rw [connect_eq, fst_join, hurl, Engine.fst_establish_congr _ hrefusal hnext]
  case joined =>
    intro c hc
    rcases hjoin with ⟨fault, h⟩ | h
    · rw [h] at hc
      cases hc
    · rw [h] at hc ⊢
      obtain rfl := Except.ok.inj hc
      refine ⟨?_, (Engine.isAlive_withConnection ..).mpr (Or.inl rfl),
        Engine.store_withConnection s.left.engine.countEstablish, rfl⟩
      rw [hid, hn.toNat_nextConnection]
  case refused =>
    intro fault hfault
    rcases hjoin with ⟨fault', h⟩ | h
    · rw [h]
      exact connection_left s
    · rw [h] at hfault
      cases hfault
  case disconnect_fails =>
    intro hc
    rw [disconnect_eq, hc]
  case disconnects =>
    intro hc
    rw [disconnect_of_connected hc]
    exact ⟨rfl, leaves_left s, connection_left s, hnext, hcalls, connect_eq s⟩

end Session

/-- In every state of a session, whatever its methods and the host did, a reset and a connect come
to the same. Both leave the active connection, dead or alive, and with it all that the slots hold
of it, and no other; then the engine makes a connection that is empty and was never alive before,
which is now active, or it refuses and none is. What scripts can call stays. A disconnect is the
first half of this, and fails if no connection is active. -/
theorem reconnections_agree (catalog : List Definition) (made : List Engine.Op) {start : Session}
    (hstart : Session.Starts ((Engine.ofCatalog catalog).run made) start)
    (ops : List Session.Op) (hn : (start.run ops).engine.NumbersLeft) :
    (start.run ops).Reconnects ∧
      ∀ c, (Session.connect (start.run ops)).1 = .ok c →
        (∀ pre post, made = pre ++ post →
          ((Engine.ofCatalog catalog).run pre).isAlive c = false) ∧
        ∀ pre post, ops = pre ++ post → (start.run pre).engine.isAlive c = false := by
  have he : ((Engine.ofCatalog catalog).run made).Reachable := ⟨catalog, made, rfl⟩
  have hrun := Session.changes_run start ops
  have we := Engine.wellFormed_of_reachable he
    (Session.engine_of_starts hstart ▸ hn.of_changes hrun)
  have hreconnects := Session.reconnects
    ((Session.holds_of_starts we hstart).1.numbered_run
      (Session.engine_of_starts hstart ▸ we) hn) hn
  refine ⟨hreconnects, fun c hc => ?_⟩
  have hnumber := (hreconnects.joined c hc).1
  constructor
  · rintro pre post rfl
    have hlater : Engine.Changes ((Engine.ofCatalog catalog).run pre) (start.run ops).engine := by
      rw [Session.engine_of_starts hstart, Engine.run_append] at hrun
      exact (Engine.changes_run _ post).trans hrun
    exact (Engine.wellFormed_of_reachable ⟨catalog, pre, rfl⟩
      (hn.of_changes hlater)).isAlive_eq_false hlater hnumber
  · rintro pre post rfl
    rw [Session.run_append] at hn hnumber
    have hlater := Session.changes_run (start.run pre) post
    exact (Session.wellFormed_run he hstart (hn.of_changes hlater)).isAlive_eq_false hlater hnumber

/-- A sphere is active on the first connection when the host makes a second one and ends the first.
Connecting anew gives a third one, and empties the slot of the sphere. -/
theorem reconnections_agree_stale_sphere :
    let s := Session.new "" "" .new .default
    let before : List Session.Op := [.connect, .create .sources "SphereSource" ∅]
    let behind : List Session.Op :=
      [.engine (.establish "builtin:"), .engine (.disconnect ⟨1⟩)]
    let t := s.run (before ++ behind)
    Session.Starts ((Engine.ofCatalog builtinCatalog).run []) s ∧ t.engine.NumbersLeft ∧
      t.slots = ⟨some ⟨1⟩, none, some ⟨1, ⟨1⟩, .sources, "SphereSource"⟩, none⟩ ∧
      t.Reconnects ∧ (Session.connect t).1 = .ok ⟨3⟩ ∧
      (Session.connect t).2.slots = ⟨some ⟨3⟩, none, none, none⟩ ∧
      (s.run before).engine.isAlive ⟨3⟩ = false := by
  intro s before behind t
  have hstart : Session.Starts ((Engine.ofCatalog builtinCatalog).run []) s :=
    ⟨"", "", .default, Or.inl rfl⟩
  have hn : t.engine.NumbersLeft := ⟨by decide, by decide⟩
  have hconnect : (Session.connect t).1 = .ok ⟨3⟩ := by decide +kernel
  obtain ⟨hreconnects, hnew⟩ := reconnections_agree builtinCatalog [] hstart (before ++ behind) hn
  exact ⟨hstart, hn, by decide +kernel, hreconnects, hconnect, by decide +kernel,
    (hnew _ hconnect).2 before behind rfl⟩

end VizSession
