import VizSession.Proofs.Methods

/-!
# One connection at a time

A session that is started over an engine without connections, and that never empties its
connection slot by hand, has at most one connection in the engine, namely the active one
(`Single`, `Single.run`). So the connection slot says which connection is alive, everything
that is active lives on it, and nothing is active without it.

The methods that make or end connections are chains of `leave` and `join`. A session leaves
before it joins, so whether or not the engine accepts the new connection, there is no other.
No handle has to be trusted for this, since a slot is filled only after it was checked that
the object lives on the active connection.
-/

namespace VizSession

open Relation

namespace Session

/-- The only connection of the engine is the active one, if any is, and the other slots hold
objects on it. -/
structure Single (s : Session) : Prop where
  keys : s.engine.connections.keys = s.slots.connection.toList
  proxy : ∀ {k h}, s.slots.peek k = some (.proxy h) →
    s.slots.connection = some h.connection ∧ k.group? = some h.group

namespace Single

variable {s : Session}

theorem isAlive_iff (hs : s.Single) {c : ConnectionId} :
    s.engine.isAlive c = true ↔ s.slots.connection = some c := by
  rw [Engine.isAlive_iff_mem, hs.keys, Option.mem_toList]

/-- Without an active connection nothing is active. -/
theorem peek_eq_none (hs : s.Single) (hc : s.slots.connection = none) (k : SlotKind) :
    s.slots.peek k = none := by
  cases hk : s.slots.peek k with
  | none => rfl
  | some o =>
    cases o with
    | connection c =>
      rw [(Slots.peek_eq_connection.mp hk).2] at hc
      cases hc
    | proxy h =>
      rw [(hs.proxy hk).1] at hc
      cases hc

/-! ## What keeps the connection -/

/-- The connections and the slots that count stay, or slots are emptied. -/
theorem of_keys (hs : s.Single) {s' : Session}
    (hkeys : s'.engine.connections.keys = s.engine.connections.keys)
    (hconnection : s'.slots.connection = s.slots.connection)
    (hpeek : ∀ k h, s'.slots.peek k = some (.proxy h) → s.slots.peek k = some (.proxy h)) :
    s'.Single where
  keys := by rw [hkeys, hconnection, hs.keys]
  proxy hk := by
    rw [hconnection]
    exact hs.proxy (hpeek _ _ hk)

theorem edits (hs : s.Single) {e : Engine} (h : Engine.Edits s.engine e) :
    { s with engine := e }.Single :=
  hs.of_keys h.keys rfl fun _ _ h => h

theorem alongside (hs : s.Single) {s' : Session} (h : Alongside s s') : s'.Single :=
  hs.of_keys (by rw [h.1]) (by rw [h.2]) fun k p hk => by rwa [h.2] at hk

/-- The connection slot accepts a live connection only, which is the active one already, and other
slots accept objects on it only. -/
theorem setActive (hs : s.Single) (k : SlotKind) (o : Occupant) :
    (setActive k o s).2.Single := by
  show { s with slots := (Slots.set k o s.engine s.slots).2 }.Single
  rcases Slots.set_cases k o s.engine s.slots with
    hset | ⟨hset, ⟨c, rfl, rfl, halive⟩ | ⟨h, rfl, hr⟩⟩
  · rw [hset]
    exact hs
  · have hold := hs.isAlive_iff.mp halive
    have hnew := (Slots.peek_eq_connection.mp (hset .connection)).2
    refine hs.of_keys rfl (hnew.trans hold.symm) fun j h hj => ?_
    rw [hset] at hj
    split at hj
    · cases hj
    · exact hj
  · obtain ⟨hold, -, hgroup, -⟩ := Slots.refusal?_eq_none hr
    have hk : k ≠ .connection := by
      rintro rfl
      cases hgroup
    have hconnection := Slots.connection_eq_of_peek ((hset .connection).trans (if_neg hk))
    refine ⟨hconnection ▸ hs.keys, fun {j h'} hj => ?_⟩
    dsimp only at hj ⊢
    rw [hset] at hj
    rw [hconnection]
    split at hj
    · rename_i hkj
      obtain rfl := hkj
      cases hj
      exact ⟨hold, hgroup⟩
    · exact hs.proxy hj

/-! ## Leaving and joining -/

/-- When the active connection ends there is none left, and no slot holds anything any more, as all
of it was on that connection. -/
theorem leave (hs : s.Single) {c : ConnectionId} (hc : s.slots.connection = some c) :
    (leave c s).2.Single := by
  have hconnection := connection_leave hc
  refine ⟨?_, fun {k h} hk => ?_⟩
  · rw [hconnection, leave_apply]
    obtain ⟨stats, hdis⟩ := Engine.disconnect_eq c s.engine
    have halive := hs.isAlive_iff.mpr hc
    dsimp only
    rw [hdis, if_pos halive, if_pos halive]
    show (s.engine.connections.erase c).keys = []
    rw [OrderedMap.keys_erase, hs.keys, hc]
    simp
  · rw [leave_apply] at hk
    dsimp only at hk
    rw [Slots.peek_forgetConnection, Option.filter_eq_some_iff] at hk
    obtain ⟨hold, howner⟩ := hk
    have hon := (hs.proxy hold).1
    rw [hc] at hon
    exact absurd (Option.some.inj hon).symm (of_decide_eq_true howner)

theorem join (hs : s.Single) (hc : s.slots.connection = none) : (join s).2.Single := by
  obtain ⟨stats, ⟨fault, h⟩ | h⟩ := join_cases s
  · rw [h]
    exact hs.edits (.single (.count s.engine stats))
  · rw [h]
    refine ⟨?_, fun {k h} hk => ?_⟩
    · show (s.engine.connections.insert s.engine.nextConnectionId .empty).keys =
        [s.engine.nextConnectionId]
      rw [OrderedMap.keys_insert, hs.keys, hc]
      simp
    · have hnone := hs.peek_eq_none hc k
      cases k with
      | connection => cases hk
      | view | source | camera => exact absurd (hnone.symm.trans hk) (by simp)

/-! ## Making and deleting -/

theorem keys_delete (h : Handle) (e : Engine) :
    (Engine.delete h e).2.connections.keys = e.connections.keys := by
  rcases Engine.delete_cases h e with ⟨fault, hdel⟩ | ⟨r, -, hdel⟩
  · rw [hdel]
  · rw [hdel]
    simp

/-- Making an object keeps the connections; at most one slot is filled with it, which is a matter of
`setActive`. -/
theorem create (hs : s.Single) (g : Group) (name : String) (ps : Properties) :
    (create g name ps s).2.Single := by
  rcases create_cases g name ps s with ⟨fault, h⟩ | ⟨c, made, -, -, rfl, hcase⟩
  · rw [h]
    exact hs
  have hmade := Engine.edits_create c g name (ps.erase nameKeyword) s.engine
  rcases hcase with ⟨fault, h⟩ | ⟨new, -, ⟨fault, h⟩ | ⟨e, hsettled, h⟩⟩
  · rw [h]
    exact hs.edits hmade
  · rw [h]
    exact hs.of_keys ((keys_delete new _).trans hmade.keys) rfl fun _ _ h => h
  · rw [h]
    have hedited := hs.edits (hmade.trans hsettled)
    rcases activateNew_cases new g { s with engine := e } with heq | ⟨k, heq⟩
    · rw [heq]
      exact hedited
    · rw [heq]
      exact hedited.setActive k (.proxy new)

theorem delete (hs : s.Single) (h : Handle) : (delete h s).2.Single := by
  rcases delete_cases h s with ⟨fault, hdel⟩ | ⟨r, -, hdel⟩
  · rw [hdel]
    exact hs
  · rw [hdel]
    refine hs.of_keys (by simp) (by simp [Slots.forgetProxy]) fun k p hk => ?_
    have hforgotten := (peek_dropLostCamera hk).1
    rw [Slots.peek_forgetProxy, Option.filter_eq_some_iff] at hforgotten
    exact hforgotten.1

/-! ## Runs -/

/-- A connection is made only when none is active, and ends only when it is the active one. -/
theorem move (hs : s.Single) {given : Handle → Prop} {s' : Session} (hm : Move given s s') :
    s'.Single := by
  cases hm with
  | leave hc => exact hs.leave hc
  | join hc => exact hs.join hc
  | occupy k o => exact hs.setActive k o
  | create g name ps => exact hs.create g name ps
  | delete => exact hs.delete _
  | edit h => exact hs.edits h
  | register p => exact hs.alongside (alongside_registerPlugin p s)
  | load p => exact hs.alongside (alongside_loadPlugin p s)
  | extend ps => exact hs.alongside (alongside_extendNamespace ps s)
  | configure => exact ⟨hs.keys, hs.proxy⟩

theorem moves (hs : s.Single) {given : Handle → Prop} {s' : Session} (hm : Moves given s s') :
    s'.Single := by
  induction hm with
  | refl => exact hs
  | tail _ hstep ih => exact ih.move hstep

/-- Every method keeps the connection single, but for emptying its slot, which would leave the
connection alive; so does the host as long as it only refuses connections or accepts them. -/
theorem perform (hs : s.Single) {op : Op} (hclear : op ≠ .clearActive .connection)
    (hengine : ∀ o, op = .engine o → ∃ reason, o = .setRefusal reason) :
    (perform op s).2.Single := by
  rcases perform_cases op s with ⟨k, rfl, h⟩ | ⟨names, rfl, h⟩ | ⟨o, rfl, h⟩ | h
  · rw [h]
    have hk : k ≠ .connection := fun hk => hclear (by rw [hk])
    refine hs.of_keys rfl ?_ fun j p hj => ?_
    · exact Slots.connection_eq_of_peek ((Slots.peek_clear ..).trans (if_neg hk))
    · dsimp only at hj
      rw [Slots.peek_clear] at hj
      split at hj
      · cases hj
      · exact hj
  · rw [h]
    exact hs.alongside (alongside_extendExports names s)
  · obtain ⟨reason, rfl⟩ := hengine o rfl
    rw [h]
    exact hs.edits (.single (.refuse s.engine reason))
  · exact hs.moves h

theorem run (hs : s.Single) {ops : List Op}
    (hops : ∀ op ∈ ops, op ≠ .clearActive .connection ∧
      ∀ o, op = .engine o → ∃ reason, o = .setRefusal reason) : (s.run ops).Single := by
  induction ops generalizing s with
  | nil => exact hs
  | cons op ops ih =>
    obtain ⟨hclear, hengine⟩ := hops op (List.mem_cons_self ..)
    exact ih (hs.perform hclear hengine) fun op hop => hops op (List.mem_cons_of_mem _ hop)

end Single

theorem single_new {e : Engine} (he : ∀ c, e.isAlive c = false) (id createdAt : String)
    (config : Config) : (new id createdAt e config).Single where
  keys := by
    show e.connections.keys = []
    refine List.eq_nil_iff_forall_not_mem.mpr fun c hc => ?_
    rw [← Engine.isAlive_iff_mem, he c] at hc
    cases hc
  proxy {k h} hk := by
    rw [show (new id createdAt e config).slots = .empty from rfl, Slots.peek_empty] at hk
    cases hk

/-- A session is started over an engine without connections, and the connection slot is
never emptied by hand. The host may make the engine refuse connections, but does nothing
else to it. Then at most one connection is alive at any time, the connection slot holds
exactly the connection that is alive, everything else that is active lives on it and is of
the group of its slot, and without a connection nothing is active. -/
theorem single_connection_of_run {e : Engine} (he : ∀ c, e.isAlive c = false)
    (id createdAt : String) (config : Config) {ops : List Op}
    (hops : ∀ op ∈ ops, op ≠ .clearActive .connection ∧
      ∀ o, op = .engine o → ∃ reason, o = .setRefusal reason) :
    let s := (new id createdAt e config).run ops
    (∀ c c', s.engine.isAlive c = true → s.engine.isAlive c' = true → c = c') ∧
      (∀ c, s.slots.connection = some c ↔ s.engine.isAlive c = true) ∧
      (∀ k h, s.slots.peek k = some (.proxy h) →
        s.slots.connection = some h.connection ∧ k.group? = some h.group) ∧
      ((∀ c, s.engine.isAlive c = false) → s.slots.isEmpty = true) := by
  intro s
  have hs : s.Single := (single_new he id createdAt config).run hops
  refine ⟨fun c c' hc hc' => ?_, fun c => hs.isAlive_iff.symm, fun k h => hs.proxy, fun hnone => ?_⟩
  · exact Option.some.inj ((hs.isAlive_iff.mp hc).symm.trans (hs.isAlive_iff.mp hc'))
  · have hconnection : s.slots.connection = none := by
      cases hc : s.slots.connection with
      | none => rfl
      | some c => exact absurd (hs.isAlive_iff.mpr hc) (by simp [hnone c])
    simp [Slots.isEmpty, hs.peek_eq_none hconnection]

/-- A session connects and makes a sphere, and then the engine refuses another connection. -/
theorem single_connection_of_refused_reset :
    let ops : List Op := [.connect, .create .sources "SphereSource" ∅,
      .engine (.setRefusal (some "busy")), .reset]
    let s := (new "" "" .new .default).run ops
    (∀ c, Engine.new.isAlive c = false) ∧
      (∀ op ∈ ops, op ≠ .clearActive .connection ∧
        ∀ o, op = .engine o → ∃ reason, o = .setRefusal reason) ∧
      s.slots.isEmpty = true := by
  intro ops s
  have he : ∀ c, Engine.new.isAlive c = false := fun _ => rfl
  have hops : ∀ op ∈ ops, op ≠ .clearActive .connection ∧
      ∀ o, op = .engine o → ∃ reason, o = .setRefusal reason := by
    intro op hop
    simp only [ops, List.mem_cons, List.not_mem_nil, or_false] at hop
    rcases hop with rfl | rfl | rfl | rfl <;> simp
  exact ⟨he, hops, (single_connection_of_run he "" "" .default hops).2.2.2 fun _ => rfl⟩

end Session

end VizSession
