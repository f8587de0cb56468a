import VizSession.Proofs.Additions
import VizSession.Proofs.Conformance
import VizSession.Proofs.NameForms

/-!
# Objects are made as a whole or not at all

Making an object through a session takes several steps (`create_steps`) : it needs an active
connection and a name that can be read, the engine has to make the object, the engine has to
take the name, and the object becomes active. Whatever step fails, the session has what it had
(`Session.RolledBack`). The one step that fails after the object was made is naming it, and
then the object is deleted with all that came with it (`settle_of_made`). If no step fails, the
session has the object as it was asked for, a view with its camera, and nothing else is new
(`Session.Committed`).

All this needs a catalog with a definition of cameras, since the engine leaves a view behind
that lacks its camera (`Engine.LacksCamera`).
-/

namespace VizSession

namespace Slots

/-- A live object of the active connection may become active in a slot of its group. -/
theorem refusal?_of_isLive {s : Slots} {k : SlotKind} {h : Handle} {e : Engine}
    (hc : s.connection = some h.connection) (hgroup : k.group? = some h.group)
    (hlive : e.isLive h = true) : s.refusal? k h e = none := by
  obtain ⟨r, hr⟩ := Engine.isLive_iff.mp hlive
  simp [refusal?, liveConnection, hc, Engine.isAlive_of_object? hr, hgroup, hlive]

end Slots

namespace Session

variable {s s' : Session} {e : Engine} {c : ConnectionId} {g : Group} {name : String}
  {ps : Properties} {h : Handle} {d : Definition} {r : Record} {cameras : List Record}

/-! ## Settling an object -/

/-- The slot in which a new object of the group becomes active. -/
def newSlot? : Group → Option SlotKind
  | .views => some .view
  | .sources => some .source
  | .cameras | .representations | .lookupTables | .layouts => none

/-- The slots of the second session are those of the first, with the object in the slot of its
group. -/
def Activates (s s' : Session) (h : Handle) : Prop :=
  ∀ k, s'.slots.peek k = if newSlot? h.group = some k then some (.proxy h) else s.slots.peek k

/-- A live object of the active connection becomes active in a slot of its group. -/
theorem setActive_of_isLive {k : SlotKind} (hk : newSlot? h.group = some k)
    (hc : s.slots.connection = some h.connection) (hlive : s.engine.isLive h = true) :
    setActive k (.proxy h) s = (.ok (), { s with slots := s.slots.putProxy k (some h) }) := by
  obtain ⟨hne, hgroup⟩ : k ≠ .connection ∧ k.group? = some h.group := by
    revert hk
    cases h.group <;> rintro ⟨⟩ <;> exact ⟨nofun, rfl⟩
  simp only [setActive, onSlots, Slots.set_proxy hne, Slots.refusal?_of_isLive hc hgroup hlive]

/-- Becoming active is being set active, for an object whose group has a slot for that. -/
theorem activateNew_of_newSlot? {k : SlotKind} (hk : newSlot? g = some k) (h : Handle) :
    activateNew h g = setActive k (.proxy h) := by
  cases g <;> cases hk <;> rfl

/-- A live object of the active connection becomes active if its group has a slot for that. -/
theorem activateNew_of_isLive (hc : s.slots.connection = some h.connection)
    (hlive : s.engine.isLive h = true) : ∃ slots,
      activateNew h h.group s = (.ok (), { s with slots := slots }) ∧
        Activates s { s with slots := slots } h := by
  cases hslot : newSlot? h.group with
  | some k =>
    have hne : k ≠ .connection := by
      rintro rfl
      revert hslot
      cases h.group <;> nofun
    refine ⟨s.slots.putProxy k (some h), ?_, fun j => ?_⟩
    · rw [activateNew_of_newSlot? hslot, setActive_of_isLive hslot hc hlive]
    · simp only [Slots.peek_putProxy _ hne, hslot, Option.some.injEq, Option.map_some]
  | none =>
    refine ⟨s.slots, ?_, fun k => by simp [hslot]⟩
    cases hgroup : h.group with
    | views | sources =>
      rw [hgroup] at hslot
      cases hslot
    | cameras | representations | lookupTables | layouts => rfl

theorem settle_none (hc : s.slots.connection = some h.connection)
    (hlive : s.engine.isLive h = true) : ∃ slots,
      settle h h.group none s = (.ok h, { s with slots := slots }) ∧
        Activates s { s with slots := slots } h := by
  obtain ⟨slots, hactive, hslots⟩ := activateNew_of_isLive hc hlive
  exact ⟨slots, Step.bind_ok hactive, hslots⟩

/-- An object that the engine makes, while no name is asked for, becomes active in the slot of its
group. -/
theorem create_unnamed {k : SlotKind} (hk : newSlot? h.group = some k)
    (hreq : requireConnection s = (.ok h.connection, s)) (hname : ps.find? nameKeyword = none)
    (hmade : Engine.create h.connection h.group name (ps.erase nameKeyword) s.engine = (.ok h, e))
    (hlive : e.isLive h = true) : create h.group name ps s =
      (.ok h, { s with engine := e, slots := s.slots.putProxy k (some h) }) := by
  have hunnamed : requestedName ps = .ok none :=
    requestedName_eq_ok_iff.mpr (Or.inl ⟨hname, rfl⟩)
  have hc : s.slots.connection = some h.connection := (requireConnection_eq_ok_iff.mp hreq).1
  have hactive := setActive_of_isLive (s := { s with engine := e }) hk hc hlive
  rw [← activateNew_of_newSlot? hk] at hactive
  rw [create, Step.bind_ok hreq, hunnamed]
  exact (Step.bind_ok (onEngine_ok hmade)).trans (Step.bind_ok hactive)

/-- An object that was just made is settled : it gets the name that was asked for and becomes
active; or the engine refuses the name, and all that was made is gone again. -/
theorem settle_of_made (we : e.WellFormed) (hn : e.NumbersLeft) (hk : s.engine.Keyed)
    (hmade : e.Made s.engine c d ps r cameras) (hc : s.slots.connection = some c)
    (requested : Option String) :
    (∃ text fault e', requested = some text ∧ Text.hasControl text = true ∧
      settle r.handle d.group requested s = (.error fault, { s with engine := e' }) ∧
        e.Gains e' c []) ∨
    (∀ text, requested = some text → Text.hasControl text = false) ∧ ∃ e' slots,
      settle r.handle d.group requested s =
        (.ok r.handle, { s with engine := e', slots := slots }) ∧
      e'.Keyed ∧ e.Made e' c d ps { r with name := requested.getD r.name } cameras ∧
        Activates s { s with engine := e', slots := slots } r.handle := by
  have hobject := hmade.object? hk
  have hgroup : d.group = r.handle.group := by rw [hmade.handle]; rfl
  have hconn : r.handle.connection = c := by rw [hmade.handle]; rfl
  cases requested with
  | none =>
    have hlive : s.engine.isLive r.handle = true :=
      Engine.isLive_iff.mpr ⟨r, hconn ▸ hobject⟩
    obtain ⟨slots, hsettle, hslots⟩ := settle_none (hconn ▸ hc) hlive
    exact Or.inr ⟨nofun, s.engine, slots, hgroup ▸ hsettle, hk, hmade, hslots⟩
  | some text =>
    cases htext : Text.hasControl text with
    | true =>
      have hrename : Engine.rename r.handle text s.engine =
          (.error (.invalidProperty "registrationName" .controlCharacters), s.engine) := by
        simp [Engine.rename, htext]
      have hdelete := Engine.delete_eq (h := r.handle) (hconn ▸ hobject)
      have hname : nameOrDiscard r.handle text s =
          (.error (.engine (.invalidProperty "registrationName" .controlCharacters)),
            { s with
              engine := s.engine.updateStore r.handle.connection (·.remove r.handle.id) }) := by
        simp [nameOrDiscard, hrename, hdelete]
      refine Or.inl ⟨text, _, _, rfl, htext, Step.bind_error hname, ?_⟩
      rw [hconn]
      exact hmade.discard we hn hk
    | false =>
      have hrename : Engine.rename r.handle text s.engine =
          (.ok (), s.engine.updateStore c fun store => store.rename r.handle.id text) := by
        simp [Engine.rename, htext, Engine.record_eq_ok_iff.mpr (hconn ▸ hobject), hconn]
      have hname : nameOrDiscard r.handle text s =
          (.ok (), { s with engine := s.engine.updateStore c (·.rename r.handle.id text) }) := by
        simp [nameOrDiscard, hrename]
      have hmade' := hmade.rename we hn hk text
      have hk' := hk.change (.edit (.rename hobject htext))
      have hlive : (s.engine.updateStore c (·.rename r.handle.id text)).isLive r.handle = true :=
        Engine.isLive_iff.mpr ⟨_, by
          rw [hconn]
          exact hmade'.object? hk'⟩
      obtain ⟨slots, hsettle, hslots⟩ := settle_none (s := { s with engine := _ })
        (hconn ▸ hc) hlive
      refine Or.inr ⟨?_, _, slots, (Step.bind_ok hname).trans (hgroup ▸ hsettle), hk', hmade',
        hslots⟩
      exact fun text' heq => Option.some.inj heq ▸ htext

/-! ## Making an object -/

/-- Nothing came of the call : live connections, objects in their order, tables and settings of
the engine are as they were, whatever numbers and names were counted, and so is everything
else of the session. -/
structure RolledBack (s s' : Session) : Prop where
  engine : ∀ c, s.engine.Gains s'.engine c []
  rest : s' = { s with engine := s'.engine }

/-- The session has the object that it was asked for : `r` is the object, made from the
definition `d`, and `cameras` are the cameras that came with it. -/
structure Committed (s s' : Session) (g : Group) (name : String) (ps : Properties) (h : Handle)
    (d : Definition) (r : Record) (cameras : List Record) : Prop where
  /-- It is on the active connection, in the group and under the name of its definition. -/
  connection : s.slots.connection = some h.connection
  kind : h.group = g ∧ h.definition = name
  definition : s.engine.definition? g name = some d
  /-- It is new : it has the next number, which no object has. -/
  number : h.id = .ofNat s.engine.nextObject
  fresh : ∀ c, s.engine.object? c h.id = none
  record : s'.engine.record h = .ok r
  handle : r.handle = h
  /-- A view comes with a camera, and nothing else was added anywhere. -/
  brings : Engine.Brings g r cameras
  gains : s.engine.Gains s'.engine h.connection (r :: cameras)
  /-- It has the name that was asked for. -/
  named : ∀ text, ps.find? nameKeyword = some (.text text) → r.name = text
  /-- Keywords are its properties, and the others that the definition declares have their
  defaults. -/
  given : ∀ key v, key ≠ nameKeyword → ps.find? key = some v → r.properties.find? key = some v
  default : ∀ key, key = nameKeyword ∨ ps.find? key = none →
    r.properties.find? key = (d.property? key).map PropertySpec.default
  /-- It is active if its group has a slot for that, and the other slots were left alone. -/
  slots : ∀ k, s'.slots.peek k = if newSlot? g = some k then some (.proxy h) else s.slots.peek k
  rest : s' = { s with engine := s'.engine, slots := s'.slots }

/-- The engine can make the object on the active connection, and the name that is asked for, if
there is one, is a well-formed text. -/
structure Creatable (s : Session) (g : Group) (name : String) (ps : Properties) : Prop where
  possible : ∃ c d, s.slots.connection = some c ∧
    s.engine.blueprint c g name (ps.erase nameKeyword) = .ok d
  named : ∀ v, ps.find? nameKeyword = some v → ∃ text, v = .text text ∧ Text.IsName text

/-- Making the object commits as a whole or rolls back. -/
structure Transacts (s : Session) (g : Group) (name : String) (ps : Properties) : Prop where
  rolls_back : ∀ fault s', create g name ps s = (.error fault, s') → RolledBack s s'
  /-- Where no name is asked for there is nothing to take back. -/
  unnamed : ps.find? nameKeyword = none → ∀ fault s', create g name ps s = (.error fault, s') →
    s' = s
  commits : ∀ h s', create g name ps s = (.ok h, s') →
    ∃ d r cameras, Committed s s' g name ps h d r cameras
  commits_iff : (∃ h, (create g name ps s).1 = .ok h) ↔ Creatable s g name ps

theorem RolledBack.refl (s : Session) : RolledBack s s := ⟨.refl s.engine, rfl⟩

/-- Where nothing was added to one connection, nothing was added to any. -/
theorem RolledBack.of_gains {e' : Engine} (h : s.engine.Gains e' c []) :
    RolledBack s { s with engine := e' } where
  engine c' := by
    by_cases hc : c' = c
    · exact hc ▸ h
    · exact ⟨h.connections, by rw [h.elsewhere hc, List.append_nil], fun {c''} _ => by
        by_cases hc' : c'' = c
        · rw [hc', h.here, List.append_nil]
        · exact h.elsewhere hc', h.tabled, h.catalog, h.refusal, h.stats, h.nextConnection,
        h.nextObject⟩
  rest := rfl

/-- The properties of a new object, by what was given. -/
theorem find?_fillDefaults_erase (ps : Properties) (d : Definition) (key : String) :
    (Properties.fillDefaults (ps.erase nameKeyword) d.properties).find? key =
      (if nameKeyword = key then none else ps.find? key).or
        ((d.property? key).map PropertySpec.default) := by
  rw [Properties.find?_fillDefaults, OrderedMap.find?_erase]
  rfl

theorem find?_fillDefaults_of_given {key : String} {v : Value} (d : Definition)
    (hkey : key ≠ nameKeyword) (hv : ps.find? key = some v) :
    (Properties.fillDefaults (ps.erase nameKeyword) d.properties).find? key = some v := by
  rw [find?_fillDefaults_erase, if_neg (Ne.symm hkey), hv]
  rfl

theorem find?_fillDefaults_of_not_given {key : String} (d : Definition)
    (hkey : key = nameKeyword ∨ ps.find? key = none) :
    (Properties.fillDefaults (ps.erase nameKeyword) d.properties).find? key =
      (d.property? key).map PropertySpec.default := by
  rw [find?_fillDefaults_erase]
  rcases hkey with rfl | hnone
  · rw [if_pos rfl]
    exact Option.none_or
  · rw [hnone, ite_self]
    exact Option.none_or

/-- The name that is asked for is the text under its keyword. -/
theorem eq_of_requestedName {requested : Option String} {text : String}
    (hrequested : requestedName ps = .ok requested)
    (htext : ps.find? nameKeyword = some (.text text)) : requested = some text := by
  rcases requestedName_eq_ok_iff.mp hrequested with ⟨hnone, -⟩ | ⟨text', htext', -, rfl⟩
  · rw [hnone] at htext
    cases htext
  · rw [htext'] at htext
    exact congrArg some (Value.text.inj (Option.some.inj htext))

/-- What the engine made, named as was asked and set active, is what a call commits. The record that
the engine made had a generated name, so `Made` speaks of it with the name that it has by now. -/
theorem committed_of_made (we : s.engine.WellFormed)
    (hn : s.engine.NumbersLeft) (hk : s'.engine.Keyed) {requested : Option String}
    (hmade : s.engine.Made s'.engine c d (ps.erase nameKeyword)
      { r with name := requested.getD r.name } cameras)
    (hrequested : requestedName ps = .ok requested) (hc : s.slots.connection = some c)
    (hd : s.engine.definition? d.group d.name = some d) (hslots : Activates s s' r.handle)
    (hrest : s' = { s with engine := s'.engine, slots := s'.slots }) :
    Committed s s' d.group d.name ps r.handle d { r with name := requested.getD r.name }
      cameras := by
  have hhandle : r.handle = s.engine.nextHandle c d := hmade.handle
  have hconn : r.handle.connection = c := by rw [hhandle]; rfl
  have hproperties : r.properties =
      Properties.fillDefaults (ps.erase nameKeyword) d.properties :=
    hmade.properties
  exact {
    connection := hconn ▸ hc
    kind := by rw [hhandle]; exact ⟨rfl, rfl⟩
    definition := hd
    number := by rw [hhandle]; rfl
    fresh := fun c' => by rw [hhandle]; exact we.object?_next hn c'
    record := Engine.record_eq_ok_iff.mpr (hconn ▸ hmade.object? hk)
    handle := rfl
    brings := hmade.brings
    gains := hconn ▸ hmade.gains
    named := fun text htext => by rw [eq_of_requestedName hrequested htext]; rfl
    given := fun key v hkey hv =>
      (congrArg (·.find? key) hproperties).trans (find?_fillDefaults_of_given d hkey hv)
    default := fun key hkey =>
      (congrArg (·.find? key) hproperties).trans (find?_fillDefaults_of_not_given d hkey)
    slots := fun k => by rw [hslots k, hhandle]; rfl
    rest := hrest }

theorem Creatable.exists_requested (h : Creatable s g name ps) :
    ∃ requested, requestedName ps = .ok requested := by
  cases hfound : ps.find? nameKeyword with
  | none => exact ⟨none, requestedName_eq_ok_iff.mpr (Or.inl ⟨hfound, rfl⟩)⟩
  | some v =>
    obtain ⟨text, rfl, htext⟩ := h.named v hfound
    exact ⟨_, requestedName_eq_ok_iff.mpr (Or.inr ⟨text, hfound, htext.visible, rfl⟩)⟩

/-- If the object can be made, there is an active connection and a name that can be read. -/
theorem Creatable.not_refused (h : Creatable s g name ps) {fault : SessionError}
    (hreason : requireConnection s = (.error fault, s) ∨ requestedName ps = .error fault) :
    False := by
  rcases hreason with hreq | hname
  · obtain ⟨c, d, hc, hb⟩ := h.possible
    rw [requireConnection_of_isAlive hc (Engine.blueprint_eq_ok hb).1] at hreq
    cases hreq
  · obtain ⟨requested, hok⟩ := h.exists_requested
    rw [hok] at hname
    cases hname

/-- The name that is asked for is well formed if there are no control characters in it. -/
theorem creatable_iff_of_requested {requested : Option String}
    (hrequested : requestedName ps = .ok requested) (hc : s.slots.connection = some c) :
    Creatable s g name ps ↔
      (∃ d, s.engine.blueprint c g name (ps.erase nameKeyword) = .ok d) ∧
        ∀ text, requested = some text → Text.hasControl text = false := by
  have hfound := requestedName_eq_ok_iff.mp hrequested
  constructor
  · intro h
    obtain ⟨c', d, hc', hb⟩ := h.possible
    obtain rfl := Option.some.inj (hc.symm.trans hc')
    refine ⟨⟨d, hb⟩, ?_⟩
    rintro text rfl
    rcases hfound with ⟨-, hnone⟩ | ⟨text', hfound, -, heq⟩
    · cases hnone
    · obtain rfl := Option.some.inj heq
      obtain ⟨text', heq, hname⟩ := h.named _ hfound
      exact Value.text.inj heq ▸ hname.plain
  · rintro ⟨⟨d, hb⟩, hplain⟩
    refine ⟨⟨c, d, hc, hb⟩, fun v hv => ?_⟩
    rcases hfound with ⟨hnone, -⟩ | ⟨text, htext, hblank, rfl⟩
    · rw [hnone] at hv
      cases hv
    · exact ⟨text, Option.some.inj (hv.symm.trans htext), hblank, hplain text rfl⟩

/-- When the engine has made the object, what is left is to name it and to set it active. The name
is refused and all that was made is gone again, or the call commits. -/
theorem settle_endings (we : s.engine.WellFormed) {requested : Option String}
    (hrequested : requestedName ps = .ok requested) (hc : s.slots.connection = some c)
    (hmade : Engine.create c g name (ps.erase nameKeyword) s.engine = (.ok h, e))
    (hn : (settle h g requested { s with engine := e }).2.engine.NumbersLeft) :
    (∃ text fault s', requested = some text ∧ Text.hasControl text = true ∧
      settle h g requested { s with engine := e } = (.error fault, s') ∧ RolledBack s s') ∨
    (∀ text, requested = some text → Text.hasControl text = false) ∧
      ∃ s' d r cameras, settle h g requested { s with engine := e } = (.ok h, s') ∧
        Committed s s' g name ps h d r cameras := by
  have hn' : e.NumbersLeft := hn.of_changes (changes_settle h g requested { s with engine := e })
  have hedits := Engine.edits_create c g name (ps.erase nameKeyword) s.engine
  rw [hmade] at hedits
  have hn₀ : s.engine.NumbersLeft := hn'.of_changes hedits.changes
  have hk := (we.changes hedits.changes hn').keyed
  obtain ⟨d, r, cameras, hd, rfl, -, hnew⟩ := Engine.made_of_create we hn' hmade
  obtain ⟨rfl, rfl⟩ := Engine.group_name_of_definition? hd
  rcases settle_of_made (s := { s with engine := e }) we hn₀ hk hnew hc requested with
    ⟨text, fault, e', rfl, hcontrol, hsettle, hgains⟩ |
    ⟨hplain, e', slots, hsettle, hk', hnew', hslots⟩
  · exact Or.inl ⟨text, fault, _, rfl, hcontrol, hsettle, .of_gains hgains⟩
  · exact Or.inr ⟨hplain, _, d, _, cameras, hsettle,
      committed_of_made we hn₀ hk' hnew' hrequested hc hd hslots rfl⟩

/-- A call that is answered with an object commits, whatever the catalog. -/
theorem committed_of_create (we : s.engine.WellFormed)
    (hcreate : create g name ps s = (.ok h, s')) (hn : s'.engine.NumbersLeft) :
    ∃ d r cameras, Committed s s' g name ps h d r cameras := by
  rcases create_steps g name ps s with ⟨fault, hfails, -⟩ |
    ⟨c, requested, hc, -, hrequested, ⟨fault, e, -, hfails⟩ | ⟨new, e, hmade, hsettles⟩⟩
  · rw [hfails] at hcreate
    cases hcreate
  · rw [hfails] at hcreate
    cases hcreate
  · rw [hsettles] at hcreate
    have hn' : (settle new g requested { s with engine := e }).2.engine.NumbersLeft := by
      rwa [hcreate]
    rcases settle_endings we hrequested hc hmade hn' with
      ⟨text, fault, s'', -, -, hsettle, -⟩ | ⟨-, s'', d, r, cameras, hsettle, hcommitted⟩
    · rw [hsettle] at hcreate
      cases hcreate
    · rw [hsettle] at hcreate
      cases hcreate
      exact ⟨d, r, cameras, hcommitted⟩

/-- A call that cannot be answered with an object fails and rolls back; any other is answered
with an object, and commits. -/
theorem create_endings (we : s.engine.WellFormed) {camera : Definition}
    (hcamera : s.engine.definition? .cameras "Camera" = some camera)
    (hn : (create g name ps s).2.engine.NumbersLeft) :
    (∃ fault s', create g name ps s = (.error fault, s') ∧ RolledBack s s' ∧
      (ps.find? nameKeyword = none → s' = s) ∧ ¬Creatable s g name ps) ∨
    ∃ h s' d r cameras, create g name ps s = (.ok h, s') ∧
      Committed s s' g name ps h d r cameras ∧ Creatable s g name ps := by
  have hlacks : ∀ {c ps}, ¬s.engine.LacksCamera c g name ps := fun h => by
    rw [h.camera] at hcamera
    cases hcamera
  rcases create_steps g name ps s with ⟨fault, hfails, hreason⟩ |
    ⟨c, requested, hc, halive, hrequested, hmade⟩
  · exact Or.inl ⟨fault, s, hfails, .refl s, fun _ => rfl, fun h => h.not_refused hreason⟩
  have hcreatable : Creatable s g name ps ↔ _ := creatable_iff_of_requested hrequested hc
  rcases hmade with ⟨fault, e, hrefused, hfails⟩ | ⟨h, e, hmade, hsettles⟩
  · obtain rfl := (Engine.create_error_cases hrefused).resolve_right hlacks
    refine Or.inl ⟨_, _, hfails, .refl s, fun _ => rfl, fun h => ?_⟩
    obtain ⟨⟨d, hb⟩, -⟩ := hcreatable.mp h
    obtain ⟨h, e', hmade⟩ := Engine.exists_create_eq_ok hb hlacks
    rw [hmade] at hrefused
    cases hrefused
  rw [hsettles] at hn
  rcases settle_endings we hrequested hc hmade hn with
    ⟨text, fault, s', rfl, hcontrol, hsettle, hback⟩ |
    ⟨hplain, s', d, r, cameras, hsettle, hcommitted⟩
  · refine Or.inl ⟨fault, s', hsettles.trans hsettle, hback, fun hunnamed => ?_, fun h => ?_⟩
    · rcases requestedName_eq_ok_iff.mp hrequested with ⟨-, hnone⟩ | ⟨text', hfound, -, -⟩
      · cases hnone
      · rw [hunnamed] at hfound
        cases hfound
    · rw [(hcreatable.mp h).2 text rfl] at hcontrol
      cases hcontrol
  · exact Or.inr ⟨h, s', d, r, cameras, hsettles.trans hsettle, hcommitted,
      hcreatable.mpr ⟨Engine.blueprint_of_create hmade, hplain⟩⟩

/-- Which of its two endings the call has is read off its answer. -/
theorem transacts_of_wellFormed (we : s.engine.WellFormed) {camera : Definition}
    (hcamera : s.engine.definition? .cameras "Camera" = some camera)
    (hn : (create g name ps s).2.engine.NumbersLeft) : Transacts s g name ps := by
  rcases create_endings we hcamera hn with ⟨fault, s', hfails, hback, hunnamed, hnot⟩ |
    ⟨h, s', d, r, cameras, hmade, hcommitted, hcreatable⟩
  · refine ⟨fun fault' s'' heq => ?_, fun hnone fault' s'' heq => ?_, fun h s'' heq => ?_, ?_⟩
    · rw [hfails] at heq
      cases heq
      exact hback
    · rw [hfails] at heq
      cases heq
      exact hunnamed hnone
    · rw [hfails] at heq
      cases heq
    · rw [hfails]
      exact ⟨nofun, fun h => absurd h hnot⟩
  · refine ⟨fun fault' s'' heq => ?_, fun _ fault' s'' heq => ?_, fun h' s'' heq => ?_, ?_⟩
    · rw [hmade] at heq
      cases heq
    · rw [hmade] at heq
      cases heq
    · rw [hmade] at heq
      cases heq
      exact ⟨d, r, cameras, hcommitted⟩
    · rw [hmade]
      exact ⟨fun _ => hcreatable, fun _ => ⟨h, rfl⟩⟩

/-- A session is started over any reachable engine, and methods are called and the host acts on
the engine in any order. If the catalog has a definition of cameras by then, making an object
of any group, name and keywords commits as a whole or rolls back, and it commits exactly if the
engine can make the object and the name that is asked for is well formed. This holds as long as
the engine has numbers left for what it makes. -/
theorem create_transacts {e : Engine} (he : e.Reachable) {start : Session}
    (hstart : Starts e start) (ops : List Op)
    (hcamera : ∃ d, (start.run ops).engine.definition? .cameras "Camera" = some d) (g : Group)
    (name : String) (ps : Properties)
    (hn : (create g name ps (start.run ops)).2.engine.NumbersLeft) :
    Transacts (start.run ops) g name ps := by
  obtain ⟨camera, hcamera⟩ := hcamera
  have hn₀ := hn.of_changes (changes_create g name ps _)
  exact transacts_of_wellFormed (wellFormed_run he hstart hn₀) hcamera hn

/-- A view is made under the name that was asked for, with its camera, and becomes active. When
the name has a line break in it, the view and the camera were made and are gone again, and only
their numbers are used up. -/
theorem create_transacts_two_names :
    let s := (new "" "" .new .default).run [.connect]
    let named : Properties := .ofList [(nameKeyword, .text "Main")]
    let broken : Properties := .ofList [(nameKeyword, .text "Main\nView")]
    let view : Handle := ⟨1, ⟨1⟩, .views, "RenderView"⟩
    let made := create .views "RenderView" named s
    let failed := create .views "RenderView" broken s
    Engine.new.Reachable ∧ Starts .new (new "" "" .new .default) ∧
      (∃ d, s.engine.definition? .cameras "Camera" = some d) ∧
      made.2.engine.NumbersLeft ∧ failed.2.engine.NumbersLeft ∧
      (∃ d r cameras, Committed s made.2 .views "RenderView" named view d r cameras) ∧
      RolledBack s failed.2 ∧ failed.2.engine.nextObject = s.engine.nextObject + 2 := by
  intro s named broken view made failed
  have he : Engine.new.Reachable := ⟨builtinCatalog, [], rfl⟩
  have hs : Starts .new (new "" "" .new .default) := ⟨"", "", .default, Or.inl rfl⟩
  have hcamera : ∃ d, s.engine.definition? .cameras "Camera" = some d := ⟨_, rfl⟩
  have hmade : made.2.engine.NumbersLeft := ⟨by decide +kernel, by decide +kernel⟩
  have hfailed : failed.2.engine.NumbersLeft := ⟨by decide +kernel, by decide +kernel⟩
  refine ⟨he, hs, hcamera, hmade, hfailed, ?_, ?_, by decide +kernel⟩
  · exact (create_transacts he hs [.connect] hcamera .views "RenderView" named hmade).commits
      view made.2 rfl
  · exact (create_transacts he hs [.connect] hcamera .views "RenderView" broken
      hfailed).rolls_back _ failed.2 rfl

end Session

end VizSession
