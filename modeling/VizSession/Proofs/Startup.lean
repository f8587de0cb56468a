import VizSession.Proofs.RepeatedExtensions

/-!
# Starting a session, once and again

What a start does depends on the configuration, on the connection slot and on whether its
connection is alive, and `start_eq` says it in full. The engine is asked for a connection once or
not at all, and only a start that extends the exports changes them (`startPolicy`).

A session that is started again and again connects with the first call and extends its exports
with every later one (`connectsOnce_new`). An extension pass right after another one changes nothing
at all (`Extended.same`) : the constructors and the registry are the same, and the report
that everything new is added to the end of the exports leaves nothing for it to add. So the third
call and all after it change nothing.
-/

namespace VizSession

/-! ## Asking for a connection -/

namespace Engine

/-- A call for a connection is counted, whatever comes of it. -/
theorem establishCalls_establish (url : String) (e : Engine) :
    (establish url e).2.stats.establishCalls = e.stats.establishCalls + 1 := by
  rcases establish_counted url e with ⟨fault, h⟩ | h
  · rw [h]
    rfl
  · rw [h]
    rfl

/-- A connection that is refused leaves all connections as they are. -/
theorem connections_of_establish_error {url : String} {e e' : Engine} {fault : EngineError}
    (h : establish url e = (.error fault, e')) : e'.connections = e.connections := by
  obtain ⟨stats, ⟨fault', hmade⟩ | hmade⟩ := establish_cases url e <;> rw [h] at hmade
  · rw [(Prod.mk.inj hmade).2]
  · cases hmade

/-- A connection that is made is the next one, and alive. -/
theorem isAlive_of_establish_ok {url : String} {e e' : Engine} {c : ConnectionId}
    (h : establish url e = (.ok c, e')) : e'.isAlive c = true := by
  obtain ⟨stats, ⟨fault', hmade⟩ | hmade⟩ := establish_cases url e <;> rw [h] at hmade
  · cases hmade
  · obtain ⟨hc, he⟩ := Prod.mk.inj hmade
    rw [he, isAlive_withConnection, Except.ok.inj hc]
    exact .inl rfl

/-- An engine that accepts the address, and has no connections, has the one that it makes. -/
theorem establish_of_accepting {e : Engine} (hrefusal : e.refusal = none)
    (hnone : ∀ c, e.isAlive c = false) : ∃ e',
      establish servedUrl e = (.ok e.nextConnectionId, e') ∧
        ∀ c, e'.isAlive c = true ↔ c = e.nextConnectionId := by
  obtain ⟨stats, ⟨fault, hmade⟩ | hmade⟩ := establish_cases servedUrl e
  · simp [establish, hrefusal] at hmade
  · refine ⟨_, hmade, fun c => ?_⟩
    have hold : isAlive { e with stats := stats } c = false := hnone c
    rw [isAlive_withConnection, hold]
    simp [nextConnectionId, eq_comm]

end Engine

namespace Session

variable {s : Session} {c : ConnectionId}

/-! ## One start -/

/-- The session after the engine made it a connection. -/
def joined (s : Session) (e : Engine) (c : ConnectionId) : Session :=
  { s with engine := e, slots := { s.slots with connection := some c } }

@[simp] theorem exports_joined (s : Session) (e : Engine) (c : ConnectionId) :
    (s.joined e c).exports = s.exports := rfl

theorem join_eq (s : Session) : join s =
    match Engine.establish s.config.url s.engine with
    | (.error fault, e) => (.error (.engine fault), { s with engine := e })
    | (.ok c, e) => (.ok c, s.joined e c) := by
  show (onEngine (Engine.establish s.config.url) >>= _) s = _
  cases hmade : Engine.establish s.config.url s.engine with
  | mk answer e =>
    cases answer with
    | error fault => exact Step.bind_error (onEngine_error hmade)
    | ok c =>
      rw [Step.bind_ok (onEngine_ok hmade)]
      simp [Step.bind_apply, setActive, onSlots, Slots.set, joined,
        Engine.isAlive_of_establish_ok hmade]

theorem activeConnection_eq (s : Session) : activeConnection s =
    (match s.slots.connection with
      | none => .ok none
      | some c =>
        if s.engine.isAlive c then .ok (some c)
        else .error (.staleReference .connection c), s) := by
  cases hc : s.slots.connection with
  | none => simp [activeConnection, active, Step.bind_apply, Slots.get, Slots.peek, hc]
  | some c =>
    cases halive : s.engine.isAlive c <;>
      simp [activeConnection, active, Step.bind_apply, Slots.get, Slots.peek, Slots.staleness?,
        Occupant.owner, Occupant.connection?, hc, halive]

theorem activeConnection_eq_ok_some_iff {s : Session} {c : ConnectionId} :
    (activeConnection s).1 = .ok (some c) ↔ requireConnection s = (.ok c, s) := by
  have hsame : (activeConnection s).2 = s := Step.snd_bind_pure ..
  refine ⟨fun hactive => Step.bind_ok (Prod.ext hactive hsame), fun hreq => ?_⟩
  obtain ⟨hc, halive⟩ := requireConnection_eq_ok_iff.mp hreq
  simp [activeConnection_eq, hc, halive]

/-- What a start answers and leaves behind. -/
theorem start_eq (s : Session) : start s =
    if s.config.satellite then (.ok .satellite, s)
    else
      match s.slots.connection with
      | none =>
        match Engine.establish s.config.url s.engine with
        | (.error fault, e) => (.error (.engine fault), { s with engine := e })
        | (.ok c, e) => (.ok (.connected c), s.joined e c)
      | some c =>
        if s.engine.isAlive c then
          (.ok (.extended (s.extendNamespace []).1), (s.extendNamespace []).2)
        else (.error (.staleReference .connection c), s) := by
  cases hsatellite : s.config.satellite with
  | true => simp [start, Step.bind_apply, hsatellite]
  | false =>
    cases hc : s.slots.connection with
    | none =>
      have hconnect : connect s = join s := by simp [connect, Step.bind_apply, hc]
      simp only [start, Step.bind_apply, Step.read_apply, hsatellite, activeConnection_eq, hc,
        hconnect, join_eq, Bool.false_eq_true, if_false]
      cases Engine.establish s.config.url s.engine with
      | mk answer e => cases answer <;> rfl
    | some c =>
      cases halive : s.engine.isAlive c <;>
        simp [start, Step.bind_apply, hsatellite, activeConnection_eq, hc, halive]

/-- Without an active connection a session starts by connecting. -/
theorem start_of_unconnected (hs : s.config.satellite = false)
    (hc : s.slots.connection = none) : start s =
      match Engine.establish s.config.url s.engine with
      | (.error fault, e) => (.error (.engine fault), { s with engine := e })
      | (.ok c, e) => (.ok (.connected c), s.joined e c) := by
  rw [start_eq, hs, hc]
  rfl

/-- What one start does, by the configuration, the connection slot and the engine. -/
structure StartPolicy (s : Session) : Prop where
  /-- The engine is asked for a connection once, if the session is no satellite and its connection
  slot is empty, and not at all otherwise. -/
  calls : (start s).2.engine.stats.establishCalls = s.engine.stats.establishCalls +
    if s.config.satellite = false ∧ s.slots.connection = none then 1 else 0
  /-- A satellite does nothing. -/
  satellite : s.config.satellite = true → start s = (.ok .satellite, s)
  /-- A session on a live connection extends its exports. -/
  live : ∀ {c}, s.config.satellite = false → s.slots.connection = some c →
    s.engine.isAlive c = true →
    start s = (.ok (.extended (s.extendNamespace []).1), (s.extendNamespace []).2)
  /-- Without extension, what scripts can call stays. -/
  names : (∀ report, (start s).1 ≠ .ok (.extended report)) → SameNames s (start s).2
  /-- A start fails if the active connection is gone, or if the engine refuses one. -/
  fails_iff : (∃ fault, (start s).1 = .error fault) ↔ s.config.satellite = false ∧
    ((∃ c, s.slots.connection = some c ∧ s.engine.isAlive c = false) ∨
      s.slots.connection = none ∧
        ∃ fault, (Engine.establish s.config.url s.engine).1 = .error fault)
  /-- A start that fails leaves the slots, the exports and all connections with their objects as
  they are. -/
  fails : ∀ fault, (start s).1 = .error fault → (start s).2.slots = s.slots ∧
    (start s).2.exports = s.exports ∧ (start s).2.engine.connections = s.engine.connections

/-- The policy is read off the four ways that a start can go (`start_eq`) : a satellite, no active
connection, one that is alive, and one that is gone. -/
theorem startPolicy (s : Session) : s.StartPolicy := by
  have heq := start_eq s
  cases hsatellite : s.config.satellite with
  | true =>
    simp only [hsatellite, if_true] at heq
    exact ⟨by simp [heq, hsatellite], fun _ => heq, by simp [hsatellite],
      fun _ => by rw [heq]; exact ⟨rfl, rfl, rfl⟩, by simp [heq, hsatellite], by simp [heq]⟩
  | false =>
    simp only [hsatellite, Bool.false_eq_true, if_false] at heq
    cases hc : s.slots.connection with
    | none =>
      have hcalls := Engine.establishCalls_establish s.config.url s.engine
      cases hmade : Engine.establish s.config.url s.engine with
      | mk answer e =>
        simp only [hc, hmade] at heq hcalls
        cases answer with
        | error fault =>
          simp only at heq
          have hconnections := Engine.connections_of_establish_error hmade
          exact ⟨by simp [heq, hsatellite, hc, hcalls], by simp [hsatellite], by simp [hc],
            fun _ => by rw [heq]; exact ⟨rfl, rfl, rfl⟩, by simp [heq, hsatellite, hc, hmade],
            by simp [heq, hconnections]⟩
        | ok c =>
          simp only at heq
          exact ⟨by simp [heq, hsatellite, hc, hcalls, joined], by simp [hsatellite], by simp [hc],
            fun _ => by rw [heq]; exact ⟨rfl, rfl, rfl⟩, by simp [heq, hsatellite, hc, hmade],
            by simp [heq]⟩
    | some c =>
      simp only [hc] at heq
      cases halive : s.engine.isAlive c with
      | true =>
        simp only [halive, if_true] at heq
        have hengine := (alongside_extendNamespace [] s).1
        exact ⟨by simp [heq, hc, hengine], by simp [hsatellite], fun _ _ _ => heq,
          fun hnever => absurd (congrArg Prod.fst heq) (hnever _), by simp [heq, hc, halive],
          by simp [heq]⟩
      | false =>
        simp only [halive, Bool.false_eq_true, if_false] at heq
        exact ⟨by simp [heq, hc], by simp [hsatellite], by simp [hc, halive],
          fun _ => by rw [heq]; exact ⟨rfl, rfl, rfl⟩, by simp [heq, hsatellite, hc, halive],
          by simp [heq]⟩

/-! ## One start after another -/

/-- The session after so many starts. -/
def started (s : Session) (n : Nat) : Session := s.run (List.replicate n .start)

theorem started_one (s : Session) : s.started 1 = (start s).2 := snd_perform_start s

theorem started_add (s : Session) (m n : Nat) : s.started (m + n) = (s.started m).started n := by
  rw [started, ← List.replicate_append_replicate, run_append]
  rfl

theorem started_succ (s : Session) (n : Nat) : s.started (n + 1) = (start (s.started n)).2 := by
  rw [started_add, started_one]

/-- The active connection is alive, and a start does not leave it alone. -/
structure Up (s : Session) (c : ConnectionId) : Prop where
  satellite : s.config.satellite = false
  connection : s.slots.connection = some c
  alive : s.engine.isAlive c = true

theorem Up.start_eq (hs : s.Up c) :
    start s = (.ok (.extended (s.extendNamespace []).1), (s.extendNamespace []).2) :=
  (startPolicy s).live hs.satellite hs.connection hs.alive

theorem Up.extend (hs : s.Up c) : (s.extendNamespace []).2.Up c := by
  obtain ⟨hengine, hslots⟩ := alongside_extendNamespace [] s
  refine ⟨?_, by rw [hslots, hs.connection], by rw [hengine, hs.alive]⟩
  rw [extendNamespace_eq]
  exact hs.satellite

/-- Once it is up, a session stays up, on the same engine. -/
theorem Up.started (hs : s.Up c) (n : Nat) :
    (s.started n).Up c ∧ (s.started n).engine = s.engine := by
  induction n with
  | zero => exact ⟨hs, rfl⟩
  | succ n ih =>
    obtain ⟨hup, hengine⟩ := ih
    rw [started_succ, hup.start_eq]
    exact ⟨hup.extend, (alongside_extendNamespace [] (s.started n)).1.trans hengine⟩

/-- A start of a session that is up leaves nothing for the next one to do. -/
theorem Up.settled (hs : s.Up c) (n : Nat) : ∃ report, report.exports.added = [] ∧
    start (s.started (n + 1)) = (.ok (.extended report), s.started (n + 1)) := by
  have hstart := (hs.started (n + 1)).1.start_eq
  have hnext : s.started (n + 1) = ((s.started n).extendNamespace []).2 := by
    rw [started_succ, (hs.started n).1.start_eq]
  have hextended := extended_extendNamespace [] (s.started n)
  rw [hnext, hextended.same] at hstart
  rw [hnext]
  exact ⟨_, hextended.added, hstart⟩

/-- The session connects once : the first start makes the connection, the second one extends the
exports, and all after it find nothing to do. -/
structure ConnectsOnce (s : Session) : Prop where
  /-- The first call says that it connected, and leaves the exports as they are. -/
  first : (start s).1 = .ok (.connected s.engine.nextConnectionId)
  exports : (s.started 1).exports = s.exports
  /-- All later calls say that they extended the exports. -/
  later : ∀ n, ∃ report, (start (s.started (n + 1))).1 = .ok (.extended report)
  /-- However many there are, the engine is asked for a connection once. -/
  calls : ∀ n, (s.started (n + 1)).engine.stats.establishCalls =
    s.engine.stats.establishCalls + 1
  /-- One connection is alive, which is the one that was made. -/
  alive : ∀ n c, (s.started (n + 1)).engine.isAlive c = true ↔ c = s.engine.nextConnectionId
  /-- From the third call on nothing is added, and nothing changes. -/
  settled : ∀ n, ∃ report, report.exports.added = [] ∧
    start (s.started (n + 2)) = (.ok (.extended report), s.started (n + 2))

/-- A new session over an engine that accepts connections and has none is up after its first start,
and stays up (`Up.started`). -/
theorem connectsOnce_new {e : Engine} {config : Config} (hsatellite : config.satellite = false)
    (hurl : config.url = Engine.servedUrl) (hrefusal : e.refusal = none)
    (hnone : ∀ c, e.isAlive c = false) (id createdAt : String) :
    (new id createdAt e config).ConnectsOnce := by
  let s := new id createdAt e config
  let c := e.nextConnectionId
  obtain ⟨e', hmade, halive⟩ := Engine.establish_of_accepting hrefusal hnone
  rw [← hurl] at hmade
  have hstart : start s = (.ok (.connected c), s.joined e' c) := by
    have hconfig : s.config = config := rfl
    have hslot : s.slots.connection = none := rfl
    have hengine : s.engine = e := rfl
    simp only [start_eq, hconfig, hsatellite, hslot, hengine, hmade, Bool.false_eq_true, if_false,
      c]
  have hup : (s.joined e' c).Up c := ⟨hsatellite, rfl, (halive c).mpr rfl⟩
  have hstarted : ∀ n, s.started (n + 1) = (s.joined e' c).started n := by
    intro n
    rw [Nat.add_comm, started_add, started_one, hstart]
  have hcalls : e'.stats.establishCalls = e.stats.establishCalls + 1 := by
    have h := Engine.establishCalls_establish config.url e
    rwa [hmade] at h
  refine ⟨congrArg Prod.fst hstart, ?_, fun n => ?_, fun n => ?_, fun n c' => ?_, fun n => ?_⟩
  · rw [started_one, hstart, exports_joined]
  · rw [hstarted, (hup.started n).1.start_eq]
    exact ⟨_, rfl⟩
  · rw [hstarted, (hup.started n).2]
    exact hcalls
  · rw [hstarted, (hup.started n).2]
    exact halive c'
  · rw [hstarted]
    exact hup.settled n

/-- Whether a start asks for no connection : the session is a satellite, or its connection slot is
filled. -/
def Provided (s : Session) : Prop := s.config.satellite = true ∨ s.slots.connection ≠ none

/-- A start leaves the session without need of a connection. -/
theorem Provided.start (hs : s.Provided) : (start s).2.Provided := by
  rw [start_eq]
  split
  · exact hs
  split
  · rename_i hsatellite o hnone
    exact absurd hs (not_or.mpr ⟨hsatellite, not_not_intro hnone⟩)
  split
  · have hslots := (alongside_extendNamespace [] s).2
    rw [extendNamespace_eq] at hslots ⊢
    exact hs
  · exact hs

/-- Without need of a connection, however many starts there are, none is asked for. -/
theorem Provided.started (hs : s.Provided) (n : Nat) : (s.started n).Provided ∧
    (s.started n).engine.stats.establishCalls = s.engine.stats.establishCalls := by
  induction n with
  | zero => exact ⟨hs, rfl⟩
  | succ n ih =>
    obtain ⟨hprovided, hcalls⟩ := ih
    have hnot : ¬((s.started n).config.satellite = false ∧
        (s.started n).slots.connection = none) := by
      rintro ⟨hsatellite, hnone⟩
      rcases hprovided with h | h
      · simp [hsatellite] at h
      · exact h hnone
    rw [started_succ, (startPolicy _).calls, if_neg hnot, hcalls]
    exact ⟨hprovided.start, rfl⟩

theorem provided_embedded {id createdAt : String} {e : Engine} {config : Config}
    (h : embedded id createdAt e config c = .ok s) : s.Provided := by
  cases halive : e.isAlive c <;>
    simp [embedded, setActive, onSlots, Slots.set, new, halive] at h
  subst h
  exact .inr (by simp)

/-- How starts go : what one does in any session; that a new session over an engine that accepts its
connection connects once, however often it is started; and that a session inside a host never asks
for one. -/
theorem startup_policy :
    (∀ s : Session, s.StartPolicy) ∧
    (∀ id createdAt (e : Engine) (config : Config), config.satellite = false →
      config.url = Engine.servedUrl → e.refusal = none → (∀ c, e.isAlive c = false) →
      (new id createdAt e config).ConnectsOnce ∧
        ((new id createdAt e config).started 1).exports = Builtin.exports) ∧
    ∀ id createdAt (e : Engine) (config : Config) c s,
      embedded id createdAt e config c = .ok s →
      ∀ n, (s.started n).engine.stats.establishCalls = e.stats.establishCalls := by
  refine ⟨startPolicy, fun id createdAt e config hsatellite hurl hrefusal hnone => ?_,
    fun id createdAt e config c s h n => ?_⟩
  · have honce := connectsOnce_new hsatellite hurl hrefusal hnone id createdAt
    have hexports : (new id createdAt e config).exports = Builtin.exports := by simp only [new]
    exact ⟨honce, honce.exports.trans hexports⟩
  · rw [((provided_embedded h).started n).2, engine_of_starts ⟨id, createdAt, config, .inr ⟨c, h⟩⟩]

/-- A session over the built-in engine connects, then exports the constructors, such as that of
spheres; a session over an engine with a connection lets it be the only one. -/
theorem startup_policy_builtin :
    let s := new "" "" .new .default
    let e := (Engine.establish "builtin:" .new).2
    (∀ c, Engine.new.isAlive c = false) ∧ s.ConnectsOnce ∧ (s.started 1).exports = Builtin.exports ∧
      (s.started 2).exports.contains "Sphere" = true ∧
      ∃ host, embedded "" "" e .default ⟨1⟩ = .ok host ∧
        ∀ n, (host.started n).engine.stats.establishCalls = 1 := by
  intro s e
  have hnone : ∀ c, Engine.new.isAlive c = false := fun _ => rfl
  obtain ⟨honce, hexports⟩ := startup_policy.2.1 "" "" .new .default rfl rfl rfl hnone
  refine ⟨hnone, honce, hexports, by decide +kernel, _, rfl, fun n => ?_⟩
  exact startup_policy.2.2 "" "" e .default ⟨1⟩ _ rfl n

end Session

end VizSession
