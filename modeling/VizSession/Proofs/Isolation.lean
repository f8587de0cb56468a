import VizSession.Proofs.Creations

/-!
# Connections are isolated

All connections live in one engine, with one catalog and one pair of counters, and a handle
names its connection itself. Still an operation reaches only the connection that it is
addressed to (`Engine.Op.Addresses`) : every other one stays as it is, with all that is on it
(`Engine.SameOn`), whether the operation succeeds or fails (`sameOn_perform_of_addresses`).
An operation that names objects of two connections is addressed to both, and it changes
neither. What is addressed to no connection reaches none either; a connection that is made
comes in addition to those that are there.

So no run of operations that are addressed elsewhere can be noticed on a connection
(`sameOn_run`).
-/

namespace VizSession

namespace Engine

/-! ## Addresses -/

/-- The operation is addressed to the connection : it names the connection or an object of it.
An operation on two objects may be addressed to two connections. -/
def Op.Addresses (c : ConnectionId) : Op → Prop
  | .disconnect c' | .isAlive c' | .create c' .. | .find c' .. | .list c' _
  | .definitions c' _ => c' = c
  | .delete h | .isLive h | .registrationName h | .rename h _ | .properties h
  | .setProperties h _ | .cameraOf h | .render h | .interact h => h.connection = c
  | .representation source view | .setVisibility source view _ =>
    source.connection = c ∨ view.connection = c
  | .establish _ | .setRefusal _ | .addDefinition _ | .inventory => False

/-- The connection is the same in both engines : it is alive in both or in neither, and it has
the same store, with the same objects in the same order, their names, properties and cameras,
the same table of representations and the same counters of names. -/
def SameOn (c : ConnectionId) (e e' : Engine) : Prop :=
  e'.isAlive c = e.isAlive c ∧ e'.store c = e.store c

section SameOn

variable {e e' e'' : Engine} {c : ConnectionId}

theorem sameOn_of_find? (h : e'.connections.find? c = e.connections.find? c) : SameOn c e e' := by
  constructor
  · unfold isAlive OrderedMap.contains
    rw [h]
  · unfold store
    rw [h]

theorem SameOn.trans (h : SameOn c e e') (h' : SameOn c e' e'') : SameOn c e e'' :=
  ⟨h'.1.trans h.1, h'.2.trans h.2⟩

theorem sameOn_updateStore (e : Engine) {c₀ : ConnectionId} (hc : c ≠ c₀) (f : Store → Store) :
    SameOn c e (e.updateStore c₀ f) :=
  sameOn_of_find? (find?_updateStore_of_ne e f hc)

theorem sameOn_addObject (e : Engine) {c₀ : ConnectionId} (hc : c ≠ c₀) (d : Definition)
    (ps : Properties) : SameOn c e (e.addObject c₀ d ps) :=
  sameOn_updateStore e hc _

theorem sameOn_addCamera (e : Engine) {c₀ : ConnectionId} (hc : c ≠ c₀) (owner : UInt64)
    (d : Definition) : SameOn c e (e.addCamera c₀ owner d) :=
  (sameOn_addObject e hc d ∅).trans (sameOn_updateStore _ hc _)

theorem sameOn_addRepresentation (e : Engine) {source : Handle} (hc : c ≠ source.connection)
    (view : Handle) (d : Definition) : SameOn c e (e.addRepresentation source view d) :=
  (sameOn_addObject e hc d (inputOf source)).trans (sameOn_updateStore _ hc _)

theorem sameOn_without (e : Engine) {c₀ : ConnectionId} (hc : c ≠ c₀) :
    SameOn c e (e.without c₀) :=
  sameOn_of_find? ((OrderedMap.find?_erase ..).trans (if_neg (Ne.symm hc)))

theorem sameOn_withConnection (e : Engine) (hc : c ≠ e.nextConnectionId) :
    SameOn c e e.withConnection :=
  sameOn_of_find? ((OrderedMap.find?_insert ..).trans (if_neg (Ne.symm hc)))

end SameOn

/-! ## One operation -/

section Perform

variable {e : Engine} {op : Op} {c : ConnectionId}

/-- Showing and hiding reaches the connection of the source only, and nothing when the view is
on another one. -/
theorem sameOn_setVisibility {source view : Handle}
    (hc : source.connection = view.connection → c ≠ source.connection) (visible : Bool) :
    SameOn c e (setVisibility source view visible e).2 := by
  rcases setVisibility_cases source view visible e with ⟨fault, h⟩ |
    ⟨r, r', hsame, -, -, ⟨k, rep, -, -, h⟩ | ⟨d, -, -, h⟩⟩
  · rw [h]
    exact ⟨rfl, rfl⟩
  · rw [h]
    exact sameOn_updateStore e (hc hsame) _
  · rw [h]
    exact (sameOn_addRepresentation e (hc hsame) view d).trans
      (sameOn_updateStore _ (hc hsame) _)

/-- An operation leaves a connection as it is that it is not addressed to, unless it makes that
very connection. -/
theorem sameOn_perform (hop : ¬op.Addresses c)
    (hnew : ∀ url, op = .establish url → c ≠ e.nextConnectionId) :
    SameOn c e (perform op e).2 := by
  cases op with
  | establish url =>
    rw [snd_perform_establish]
    obtain ⟨stats, ⟨fault, h⟩ | h⟩ := establish_cases url e
    · rw [h]
      exact ⟨rfl, rfl⟩
    · rw [h]
      exact sameOn_withConnection { e with stats := stats } (hnew url rfl)
  | disconnect c₀ =>
    rw [snd_perform_disconnect]
    obtain ⟨stats, h⟩ := disconnect_eq c₀ e
    rw [h]
    split
    · exact sameOn_without { e with stats := stats } (Ne.symm hop)
    · exact ⟨rfl, rfl⟩
  | create c₀ g name ps =>
    rw [snd_perform_create]
    have hc : c ≠ c₀ := Ne.symm hop
    rcases create_cases c₀ g name ps e with ⟨fault, h⟩ |
      ⟨d, -, -, -, ⟨-, h⟩ | ⟨-, -, fault, h⟩ | ⟨-, camera, -, h⟩⟩
    · rw [h]
      exact ⟨rfl, rfl⟩
    · rw [h]
      exact sameOn_addObject e hc d ps
    · rw [h]
      exact sameOn_addObject e hc d ps
    · rw [h]
      exact (sameOn_addObject e hc d ps).trans (sameOn_addCamera _ hc _ camera)
  | delete x =>
    rw [snd_perform_delete]
    rcases delete_cases x e with ⟨fault, h⟩ | ⟨r, -, h⟩
    · rw [h]
      exact ⟨rfl, rfl⟩
    · rw [h]
      exact sameOn_updateStore e (Ne.symm hop) _
  | rename x name =>
    rw [snd_perform_rename]
    rcases rename_cases x name e with ⟨fault, h⟩ | ⟨r, -, -, h⟩
    · rw [h]
      exact ⟨rfl, rfl⟩
    · rw [h]
      exact sameOn_updateStore e (Ne.symm hop) _
  | setProperties x ps =>
    rw [snd_perform_setProperties]
    rcases setProperties_cases x ps e with ⟨fault, h⟩ | ⟨r, d, -, -, -, h⟩
    · rw [h]
      exact ⟨rfl, rfl⟩
    · rw [h]
      exact sameOn_updateStore e (Ne.symm hop) _
  | render view =>
    rw [snd_perform_render]
    obtain ⟨stats, h⟩ := render_eq view e
    rw [h]
    exact ⟨rfl, rfl⟩
  | interact view =>
    rw [snd_perform_interact]
    obtain ⟨stats, h⟩ := interact_eq view e
    rw [h]
    exact ⟨rfl, rfl⟩
  | setVisibility source view visible =>
    rw [snd_perform_setVisibility]
    exact sameOn_setVisibility (fun _ => Ne.symm fun h => hop (Or.inl h)) visible
  | setRefusal | addDefinition => exact ⟨rfl, rfl⟩
  | isAlive | isLive | registrationName | find | list | properties | cameraOf | definitions
  | representation | inventory => exact ⟨rfl, rfl⟩

/-- What is addressed to one connection leaves every other connection as it is. -/
theorem sameOn_perform_of_addresses {c₀ : ConnectionId} (hop : op.Addresses c₀) (hc : c ≠ c₀) :
    SameOn c e (perform op e).2 := by
  by_cases hboth : op.Addresses c
  · -- an operation that is addressed to two connections at once names an object of either
    cases op with
    | setVisibility source view visible =>
      rw [snd_perform_setVisibility]
      refine sameOn_setVisibility (fun hsame hcs => ?_) visible
      rcases hop with h | h
      · exact hc (hcs.trans h)
      · exact hc (hcs.trans (hsame.trans h))
    | representation => exact ⟨rfl, rfl⟩
    | establish | setRefusal | addDefinition | inventory => exact hop.elim
    | disconnect | isAlive | create | find | list | definitions | delete | isLive
    | registrationName | rename | properties | setProperties | cameraOf | render | interact =>
      exact absurd (hboth.symm.trans hop) hc
  · refine sameOn_perform hboth fun url h => ?_
    rw [h] at hop
    exact hop.elim

end Perform

/-! ## Making and ending connections -/

section Connections

variable {e : Engine} {c : ConnectionId}

/-- A connection that is not there yet comes last and is empty. -/
theorem entries_withConnection (h : e.isAlive e.nextConnectionId = false) :
    e.withConnection.connections.entries =
      e.connections.entries ++ [(e.nextConnectionId, .empty)] :=
  OrderedMap.entries_insert_of_find?_eq_none (by simpa [isAlive, OrderedMap.contains] using h) _

/-- What is known of a connection that is not alive : nothing. -/
structure Gone (e : Engine) (c : ConnectionId) : Prop where
  alive : e.isAlive c = false
  isLive : ∀ h : Handle, h.connection = c → e.isLive h = false
  list : ∀ g, e.list c g = []
  find : ∀ g name, e.find? c g name = none
  definitions : ∀ g, e.definitions c g = []

/-- Nothing can be found on a connection that is not alive, in whatever way it is looked for. -/
theorem gone_of_isAlive (h : e.isAlive c = false) : e.Gone c := by
  have hnone : e.connections.find? c = none := by
    simpa [isAlive, OrderedMap.contains] using h
  refine ⟨h, ?_, fun g => ?_, fun g name => ?_, fun g => ?_⟩
  · rintro x rfl
    refine Bool.eq_false_iff.mpr fun hlive => ?_
    obtain ⟨r, hr⟩ := isLive_iff.mp hlive
    rw [isAlive_of_object? hr] at h
    cases h
  · unfold Engine.list
    rw [hnone]
  · unfold find?
    rw [hnone]
  · unfold Engine.definitions
    rw [if_neg (Bool.eq_false_iff.mp h)]

end Connections

/-! ## Runs -/

/-- What is addressed elsewhere cannot be noticed on a connection that is alive. -/
theorem sameOn_run {e : Engine} (we : e.WellFormed) {c : ConnectionId} (hc : e.isAlive c = true)
    {ops : List Op} (hn : (e.run ops).NumbersLeft) (hops : ∀ op ∈ ops, ¬op.Addresses c) :
    SameOn c e (e.run ops) := by
  induction ops generalizing e with
  | nil => exact ⟨rfl, rfl⟩
  | cons op ops ih =>
    have hop := changes_perform op e
    have hn' := hn.of_changes (changes_run (perform op e).2 ops)
    have hstep : SameOn c e (perform op e).2 :=
      sameOn_perform (hops op List.mem_cons_self) fun _ _ =>
        (we.connection_ne_next (hn'.of_changes hop) hc).symm
    exact hstep.trans (ih (we.changes hop hn') (hstep.1.trans hc) hn
      fun op hop => hops op (List.mem_cons_of_mem _ hop))

/-! ## Isolation -/

/-- What operations on an engine do to its connections. -/
structure Isolates (e : Engine) : Prop where
  /-- What is addressed to one connection leaves every other one as it is. -/
  elsewhere : ∀ (op : Op) c c', op.Addresses c → c' ≠ c → SameOn c' e (perform op e).2
  /-- A connection that is refused changes nothing but the count of calls. -/
  refused : ∀ url fault, (establish url e).1 = .error fault →
    ∃ stats, (establish url e).2 = { e with stats := stats }
  /-- A connection that is made was not alive, is empty, and comes in addition to the others. -/
  established : ∀ url c, (establish url e).1 = .ok c → e.NumbersLeft →
    e.isAlive c = false ∧
      ∃ stats connections, connections.entries = e.connections.entries ++ [(c, .empty)] ∧
        (establish url e).2 =
          { e with connections, nextConnection := e.nextConnection + 1, stats }
  /-- A connection that is ended goes with all its objects, and nothing else goes. -/
  disconnected : ∀ c, e.isAlive c = true → (disconnect c e).1 = .ok () ∧
    (∃ stats, (disconnect c e).2 = { e with connections := e.connections.erase c, stats }) ∧
      (disconnect c e).2.Gone c

/-- Each operation is read off what it does to the list of connections. That a new connection was
not alive is where numbers have to be left. -/
theorem isolates_of_reachable {e : Engine} (he : e.Reachable) : e.Isolates where
  elsewhere _ _ _ hop hc := sameOn_perform_of_addresses hop hc
  refused url fault h := by
    obtain ⟨stats, ⟨fault', heq⟩ | heq⟩ := establish_cases url e
    · exact ⟨stats, congrArg Prod.snd heq⟩
    · rw [heq] at h
      cases h
  established url c h hn := by
    obtain ⟨stats, ⟨fault, heq⟩ | heq⟩ := establish_cases url e
    · rw [heq] at h
      cases h
    · rw [heq] at h
      obtain rfl := Except.ok.inj h
      have hnew : e.isAlive e.nextConnectionId = false := Bool.eq_false_iff.mpr fun halive =>
        (wellFormed_of_reachable he hn).connection_ne_next hn halive rfl
      exact ⟨hnew, stats, _, entries_withConnection hnew, congrArg Prod.snd heq⟩
  disconnected c hc := by
    obtain ⟨stats, h⟩ := disconnect_eq c e
    rw [if_pos hc] at h
    have hgone : (without { e with stats := stats } c).isAlive c = false :=
      Bool.eq_false_iff.mpr fun halive => ((isAlive_without ..).mp halive).1 rfl
    rw [h]
    exact ⟨rfl, ⟨stats, rfl⟩, gone_of_isAlive hgone⟩

end Engine

/-- Whatever was done to an engine, an operation that is addressed to one connection leaves all
others as they are. A connection that is made is empty, was never made before, and comes in
addition to those that are there; one that is ended goes with all that was on it, and nothing
else goes. So a connection that is alive stays as it is as long as nothing is addressed to it. -/
theorem connections_isolated (catalog : List Definition) (ops : List Engine.Op) :
    let e := (Engine.ofCatalog catalog).run ops
    e.Isolates ∧
      (∀ url c, (Engine.establish url e).1 = .ok c → e.NumbersLeft →
        c ∉ (Engine.ofCatalog catalog).establishments ops) ∧
      ∀ later c, e.isAlive c = true → (e.run later).NumbersLeft →
        (∀ op ∈ later, ¬op.Addresses c) → Engine.SameOn c e (e.run later) := by
  intro e
  have hstart : (Engine.ofCatalog catalog).Reachable := ⟨catalog, [], rfl⟩
  have he : e.Reachable := hstart.run ops
  refine ⟨Engine.isolates_of_reachable he, fun url c hmade hn hold => ?_, ?_⟩
  · -- the new number is the counter's, and all before it are below the counter
    have hlt := Engine.counts_newConnections.lt_of_mem_brought hstart hn hold
    obtain ⟨stats, ⟨fault, heq⟩ | heq⟩ := Engine.establish_cases url e
    · rw [heq] at hmade
      cases hmade
    · rw [heq] at hmade
      obtain rfl := Except.ok.inj hmade
      exact absurd hn.toNat_nextConnection (Nat.ne_of_lt hlt)
  · intro later c hc hn hlater
    exact Engine.sameOn_run
      (Engine.wellFormed_of_reachable he (hn.of_changes (Engine.changes_run e later))) hc hn hlater

/-- A sphere is on one connection and a view on another. Showing the sphere in the view is
addressed to both and reaches neither. A third connection can be made, and the sphere can go
with its own : the connection of the view stays as it is. -/
theorem connections_isolated_two_connections :
    let sphere : Handle := ⟨1, ⟨1⟩, .sources, "SphereSource"⟩
    let view : Handle := ⟨2, ⟨2⟩, .views, "RenderView"⟩
    let made : List Engine.Op :=
      [.establish "builtin:", .establish "builtin:", .create ⟨1⟩ .sources "SphereSource" ∅,
        .create ⟨2⟩ .views "RenderView" ∅]
    let e := (Engine.ofCatalog builtinCatalog).run made
    let showing : Engine.Op := .setVisibility sphere view true
    let later : List Engine.Op := [.establish "builtin:", .delete sphere, .disconnect ⟨1⟩]
    showing.Addresses ⟨1⟩ ∧ Engine.SameOn ⟨2⟩ e (Engine.perform showing e).2 ∧
      showing.Addresses ⟨2⟩ ∧ Engine.SameOn ⟨1⟩ e (Engine.perform showing e).2 ∧
      (Engine.establish "builtin:" e).1 = .ok ⟨3⟩ ∧ e.NumbersLeft ∧
      ⟨3⟩ ∉ (Engine.ofCatalog builtinCatalog).establishments made ∧
      e.isAlive ⟨1⟩ = true ∧ (Engine.disconnect ⟨1⟩ e).2.Gone ⟨1⟩ ∧
      e.isAlive ⟨2⟩ = true ∧ (e.run later).NumbersLeft ∧
      (∀ op ∈ later, ¬op.Addresses ⟨2⟩) ∧ Engine.SameOn ⟨2⟩ e (e.run later) := by
  intro sphere view made e showing later
  obtain ⟨hisolates, hnew, hrun⟩ := connections_isolated builtinCatalog made
  have hmade : (Engine.establish "builtin:" e).1 = .ok ⟨3⟩ := rfl
  have hn : e.NumbersLeft := ⟨by decide, by decide⟩
  have hsource : showing.Addresses ⟨1⟩ := Or.inl rfl
  have hview : showing.Addresses ⟨2⟩ := Or.inr rfl
  have halive₁ : e.isAlive ⟨1⟩ = true := rfl
  have halive₂ : e.isAlive ⟨2⟩ = true := rfl
  have hlater : (e.run later).NumbersLeft := ⟨by decide, by decide⟩
  have hops : ∀ op ∈ later, ¬op.Addresses ⟨2⟩ := by
    simp [later, Engine.Op.Addresses, sphere]
  refine ⟨hsource, hisolates.elsewhere showing ⟨1⟩ ⟨2⟩ hsource (by decide), hview,
    hisolates.elsewhere showing ⟨2⟩ ⟨1⟩ hview (by decide), hmade, hn, hnew _ _ hmade hn, halive₁,
    (hisolates.disconnected ⟨1⟩ halive₁).2.2, halive₂, hlater, hops, ?_⟩
  exact hrun later ⟨2⟩ halive₂ hlater hops

end VizSession
