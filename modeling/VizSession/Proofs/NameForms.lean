import VizSession.Proofs.Providers

/-!
# The forms of names

A name of an object is well formed if it is not blank and has no control character
(`Text.IsName`). The two halves are looked after at different places : a blank name is refused
when an object is made, and a control character when an object is renamed, which is how a new
object gets the name that was asked for.

So what methods do to names is this (`Engine.NamesWell`) : an object keeps its name, or it is new
and has a well-formed one, generated from a label or asked for. That is shown for the operations
of the engine, for every move but a renaming (`Turn.namesWell`) and for every method that renames
nothing (`namesWell_perform`). A method that renames an object is the renaming of the engine,
also when it is called by name (`SingleProviders.perform_of_renames`), and gives any name without
control characters (`Op.Retitles`). Over a run, a name that is not well formed was given by such
a method (`name_cases_run`), and that can only be a blank one.
-/

namespace VizSession

open Relation

/-! ## Well-formed names -/

namespace Text

/-- The text can be the name of an object : it is not blank and has no control character. -/
structure IsName (s : String) : Prop where
  visible : isBlankText s = false
  plain : hasControl s = false

theorem isBlank_isControl_of_isDigit {c : Char} (h : c.isDigit = true) :
    isBlank c = false ∧ isControl c = false := by
  have hrange : '0'.toNat ≤ c.toNat ∧ c.toNat ≤ '9'.toNat := by
    simpa [Char.isDigit, Char.le_def, UInt32.le_iff_toNat_le] using h
  simp [isBlank, isControl] at hrange ⊢
  omega

/-- A label without its blanks and a number make a name. -/
theorem isName_generated {label : String} (h : hasControl (squeeze label) = false) (n : Nat) :
    IsName (squeeze label ++ Decimal.natural n) := by
  have hdigits : ∀ c ∈ Decimal.digits n, isBlank c = false ∧ isControl c = false :=
    fun c hc => isBlank_isControl_of_isDigit (Decimal.isDigit_of_mem_digits hc)
  have htext : (squeeze label ++ Decimal.natural n).toList =
      (squeeze label).toList ++ Decimal.digits n := by
    simp [Decimal.natural]
  constructor
  · obtain ⟨c, hc⟩ := List.exists_mem_of_ne_nil _ (Decimal.digits_ne_nil n)
    simp only [isBlankText, htext, List.all_eq_false]
    exact ⟨c, List.mem_append_right _ hc, by simp [(hdigits c hc).1]⟩
  · simp only [hasControl, htext, List.any_append, Bool.or_eq_false_iff] at h ⊢
    exact ⟨h, by simpa using fun c hc => (hdigits c hc).2⟩

end Text

namespace Engine

/-! ## Names of objects -/

/-- The names of all objects satisfy `P`. -/
def Named (P : String → Prop) (e : Engine) : Prop :=
  ∀ h name, e.registrationName h = .ok name → P name

/-- The labels of all definitions, without their blanks, are free of control characters. -/
def Labelled (e : Engine) : Prop :=
  ∀ d ∈ e.catalog, Text.hasControl (Text.squeeze d.label) = false

/-- From the first engine to the second, objects kept their names or got well-formed ones. -/
structure NamesWell (e e' : Engine) : Prop where
  catalog : e'.catalog = e.catalog
  name : e.Labelled → ∀ h name, e'.registrationName h = .ok name →
    Text.IsName name ∨ e.registrationName h = .ok name

variable {e e' e'' : Engine}

/-- An engine without objects has no names. -/
theorem named_ofCatalog (P : String → Prop) (catalog : List Definition) :
    (ofCatalog catalog).Named P := by
  intro h name hname
  obtain ⟨r, hr, -⟩ := registrationName_eq_ok_iff.mp hname
  cases hr

namespace NamesWell

theorem refl (e : Engine) : NamesWell e e := ⟨rfl, fun _ _ _ h => Or.inr h⟩

theorem trans (h : NamesWell e e') (h' : NamesWell e' e'') : NamesWell e e'' where
  catalog := h'.catalog.trans h.catalog
  name hlabels x name hx := by
    have hlabels' : e'.Labelled := by
      unfold Labelled
      rwa [h.catalog]
    rcases h'.name hlabels' x name hx with hname | hold
    · exact Or.inl hname
    · exact h.name hlabels x name hold

/-- Nothing new is there, and no name changed. -/
theorem of_object (hcatalog : e'.catalog = e.catalog)
    (hobject : ∀ c id r', e'.object? c id = some r' →
      ∃ r, e.object? c id = some r ∧ r.name = r'.name) : NamesWell e e' where
  catalog := hcatalog
  name _ x name hx := by
    obtain ⟨r', hr', rfl⟩ := registrationName_eq_ok_iff.mp hx
    exact Or.inr (registrationName_eq_ok_iff.mpr (hobject _ _ r' hr'))

/-- An object was changed where it is, but for its name. -/
theorem of_modify {c : ConnectionId} {i : UInt64} {f : Store → Store} {g : Record → Record}
    (hf : ∀ s j, (f s).record? j = if i = j then (s.record? j).map g else s.record? j)
    (hg : ∀ r, (g r).name = r.name) (e : Engine) : NamesWell e (e.updateStore c f) := by
  refine of_object rfl fun c' id r' hr' => ?_
  rw [object?_updateStore_modify e c c' hf] at hr'
  split at hr'
  · obtain ⟨r, hr, rfl⟩ := Option.map_eq_some_iff.mp hr'
    exact ⟨r, hr, (hg r).symm⟩
  · exact ⟨r', hr', rfl⟩

theorem count (e : Engine) (stats : Stats) : NamesWell e { e with stats := stats } :=
  of_object rfl fun _ _ r hr => ⟨r, hr, rfl⟩

theorem withConnection (e : Engine) : NamesWell e e.withConnection := by
  refine of_object rfl fun c id r hr => ⟨r, ?_, rfl⟩
  rw [object?_withConnection] at hr
  split at hr
  · cases hr
  · exact hr

theorem without (e : Engine) (c : ConnectionId) : NamesWell e (e.without c) := by
  refine of_object rfl fun c' id r hr => ⟨r, ?_, rfl⟩
  rw [object?_without] at hr
  split at hr
  · cases hr
  · exact hr

theorem remove (e : Engine) (c : ConnectionId) (id : UInt64) :
    NamesWell e (e.updateStore c fun s => s.remove id) :=
  of_object rfl fun c' j r hr => ⟨r, ((object?_remove e c c' id j r).mp hr).1, rfl⟩

theorem write (e : Engine) (c : ConnectionId) (id : UInt64) (ps : Properties) :
    NamesWell e (e.updateStore c fun s => s.write id ps) :=
  of_modify (fun s j => s.record?_write id j ps) (fun _ => rfl) e

theorem linkCamera (e : Engine) (c : ConnectionId) (owner camera : UInt64) :
    NamesWell e (e.updateStore c fun s => s.linkCamera owner camera) :=
  of_modify (fun s j => s.record?_linkCamera owner camera j) (fun _ => rfl) e

theorem represent (e : Engine) (c : ConnectionId) (source view k : UInt64) :
    NamesWell e (e.updateStore c fun s => s.represent source view k) :=
  of_object rfl fun c' id r hr =>
    ⟨r, (object?_updateStore_of_eq e c c' (fun s j => s.record?_represent source view k j) id) ▸ hr,
      rfl⟩

/-- The name of a new object is generated from the label of its definition. -/
theorem addObject {c : ConnectionId} {d : Definition} (hc : e.isAlive c = true)
    (hd : d ∈ e.catalog) (ps : Properties) : NamesWell e (e.addObject c d ps) where
  catalog := rfl
  name hlabels x name hx := by
    obtain ⟨r, hr, rfl⟩ := registrationName_eq_ok_iff.mp hx
    rw [object?_addObject e c d ps hc] at hr
    split at hr
    · obtain rfl := Option.some.inj hr
      exact Or.inl (Text.isName_generated (hlabels d hd) _)
    · exact Or.inr (registrationName_eq_ok_iff.mpr ⟨r, hr, rfl⟩)

/-- An object got a well-formed name. -/
theorem updateName {name : String} (hname : Text.IsName name) (e : Engine) (c : ConnectionId)
    (id : UInt64) : NamesWell e (e.updateStore c fun s => s.rename id name) where
  catalog := rfl
  name _ x _ hx := by
    obtain ⟨r, hr, rfl⟩ := registrationName_eq_ok_iff.mp hx
    rw [object?_rename] at hr
    split at hr
    · obtain ⟨r, hr, rfl⟩ := Option.map_eq_some_iff.mp hr
      exact Or.inl hname
    · exact Or.inr (registrationName_eq_ok_iff.mpr ⟨r, hr, rfl⟩)

end NamesWell

/-! ## Operations of the engine -/

/-- A new object and its camera have generated names. -/
theorem namesWell_create (c : ConnectionId) (g : Group) (name : String) (ps : Properties)
    (e : Engine) : NamesWell e (create c g name ps e).2 := by
  rcases create_cases c g name ps e with ⟨fault, h⟩ | ⟨d, hc, hd, -, hcase⟩
  · rw [h]
    exact .refl e
  have hmade := NamesWell.addObject hc (List.mem_of_find?_eq_some hd) ps
  rcases hcase with ⟨-, h⟩ | ⟨-, -, fault, h⟩ | ⟨-, camera, hcamera, h⟩
  · rw [h]
    exact hmade
  · rw [h]
    exact hmade
  · rw [h]
    have hc' : (e.addObject c d ps).isAlive c = true := by rwa [isAlive_addObject]
    have hequipped := NamesWell.addObject hc' (List.mem_of_find?_eq_some hcamera) ∅
    exact (hmade.trans hequipped).trans (.linkCamera ..)

theorem namesWell_delete (h : Handle) (e : Engine) : NamesWell e (delete h e).2 := by
  rcases delete_cases h e with ⟨fault, hdel⟩ | ⟨r, -, hdel⟩
  · rw [hdel]
    exact .refl e
  · rw [hdel]
    exact .remove e ..

theorem namesWell_setProperties (h : Handle) (ps : Properties) (e : Engine) :
    NamesWell e (setProperties h ps e).2 := by
  rcases setProperties_cases h ps e with ⟨fault, hset⟩ | ⟨r, d, -, -, -, hset⟩
  · rw [hset]
    exact .refl e
  · rw [hset]
    exact .write e ..

/-- So has a new representation. -/
theorem namesWell_setVisibility (source view : Handle) (visible : Bool) (e : Engine) :
    NamesWell e (setVisibility source view visible e).2 := by
  rcases setVisibility_cases source view visible e with ⟨fault, h⟩ |
    ⟨r, r', -, hs, -, ⟨k, rep, -, -, h⟩ | ⟨d, -, hd, h⟩⟩
  · rw [h]
    exact .refl e
  · rw [h]
    exact .write e ..
  · rw [h]
    have hmade := NamesWell.addObject (isAlive_of_object? hs) (List.mem_of_find?_eq_some hd)
      (inputOf source)
    exact (hmade.trans (.represent ..)).trans (.write ..)

theorem namesWell_disconnect (c : ConnectionId) (e : Engine) :
    NamesWell e (disconnect c e).2 := by
  obtain ⟨stats, h⟩ := disconnect_eq c e
  rw [h]
  split
  · exact (NamesWell.count e stats).trans (.without ..)
  · exact .count e stats

end Engine

namespace Session

variable {s s' : Session} {op : Op}

/-! ## Methods that rename nothing -/

/-- From the first session to the second, objects kept their names or got well-formed ones. -/
abbrev NamesWell (s s' : Session) : Prop := Engine.NamesWell s.engine s'.engine

theorem namesWell_leave (c : ConnectionId) (s : Session) :
    NamesWell s (leave c s).2 := by
  rw [leave_apply]
  dsimp only
  split
  · exact Engine.namesWell_disconnect c s.engine
  · exact .refl s.engine

theorem namesWell_join (s : Session) : NamesWell s (join s).2 := by
  obtain ⟨stats, ⟨fault, h⟩ | h⟩ := join_cases s
  · rw [h]
    exact .count s.engine stats
  · rw [h]
    exact (Engine.NamesWell.count s.engine stats).trans (.withConnection _)

theorem namesWell_delete (h : Handle) (s : Session) :
    NamesWell s (delete h s).2 := by
  rcases delete_cases h s with ⟨fault, hdel⟩ | ⟨r, -, hdel⟩
  · rw [hdel]
    exact .refl s.engine
  · rw [NamesWell, hdel, engine_dropLostCamera]
    exact .remove s.engine ..

/-- A name that can be asked for is a text that is not blank. -/
theorem requestedName_eq_ok_iff {ps : Properties} {requested : Option String} :
    requestedName ps = .ok requested ↔
      (ps.find? nameKeyword = none ∧ requested = none) ∨
        ∃ text, ps.find? nameKeyword = some (.text text) ∧ Text.isBlankText text = false ∧
          requested = some text := by
  unfold requestedName
  split
  · rename_i hnone
    simp [hnone, eq_comm (b := requested)]
  · rename_i text htext
    cases hblank : Text.isBlankText text <;> simp [htext, hblank, eq_comm (b := requested)]
  · rename_i v hother hv
    simp only [hv, reduceCtorEq, false_and, Option.some.injEq, false_or, false_iff, not_exists]
    rintro text ⟨rfl, -⟩
    exact hother text rfl

/-- A name that was asked for is not blank. -/
theorem isBlankText_of_requestedName {ps : Properties} {name : String}
    (h : requestedName ps = .ok (some name)) : Text.isBlankText name = false := by
  rcases requestedName_eq_ok_iff.mp h with ⟨-, hname⟩ | ⟨text, -, hblank, hname⟩
  · cases hname
  · exact Option.some.inj hname ▸ hblank

/-- A name that is not blank is well formed, or the engine refuses it and the object goes. -/
theorem namesWell_nameOrDiscard {name : String} (hname : Text.isBlankText name = false)
    (h : Handle) (s : Session) : NamesWell s (nameOrDiscard h name s).2 := by
  rcases Engine.rename_cases h name s.engine with ⟨fault, hrename⟩ | ⟨r, -, hplain, hrename⟩
  · simp only [nameOrDiscard, hrename]
    exact Engine.namesWell_delete h s.engine
  · simp only [nameOrDiscard, hrename]
    exact .updateName ⟨hname, hplain⟩ ..

/-- A chain of moves names well if each of them does. -/
theorem namesWell_of_chain {R : Session → Session → Prop} (hR : ∀ s s', R s s' → NamesWell s s')
    (h : ReflTransGen R s s') : NamesWell s s' := by
  induction h with
  | refl => exact .refl s.engine
  | tail _ hstep ih => exact ih.trans (hR _ _ hstep)

/-- The step names well, whatever becomes of it. -/
abbrev Names {α : Type} (x : SessionStep α) : Prop := x.Follows NamesWell fun _ => True

theorem names_of_namesWell {α : Type} {x : SessionStep α} (h : ∀ s, NamesWell s (x s).2) :
    Names x :=
  fun s => ⟨.single (h s), fun _ _ => trivial⟩

theorem names_settle {requested : Option String}
    (hrequested : ∀ name, requested = some name → Text.isBlankText name = false) (h : Handle)
    (g : Group) : Names (settle h g requested) := by
  have hactivate : Names (activateNew h g >>= fun _ => pure h) :=
    (names_of_namesWell fun s => by
      rw [NamesWell, engine_activateNew]
      exact .refl s.engine).bind fun _ => Step.follows_pure h
  cases requested with
  | none => exact hactivate
  | some name =>
    exact (names_of_namesWell (namesWell_nameOrDiscard (hrequested name rfl) h)).bind fun _ =>
      hactivate

theorem namesWell_create (g : Group) (name : String) (ps : Properties) (s : Session) :
    NamesWell s (create g name ps s).2 := by
  have hcreate : Names (create g name ps) := by
    refine (follows_requireConnection.weaken fun _ => trivial).bind fun c => ?_
    refine Step.follows_ofExcept_bind (fun _ _ => trivial) fun requested hrequested => ?_
    have hmade : Names (onEngine (Engine.create c g name (ps.erase nameKeyword))) :=
      names_of_namesWell fun s => Engine.namesWell_create c g name _ s.engine
    refine hmade.bind fun h => names_settle (fun name hname => ?_) h g
    exact isBlankText_of_requestedName (hname ▸ hrequested)
  exact namesWell_of_chain (fun _ _ h => h) (hcreate s).1

/-- A move that is no extension and renames nothing. -/
theorem Turn.namesWell {given : Handle → Prop} (h : Turn given (fun _ _ => False) s s') :
    NamesWell s s' := by
  cases h with
  | leave => exact namesWell_leave _ s
  | join => exact namesWell_join s
  | occupy => exact .refl s.engine
  | create g name ps => exact namesWell_create g name ps s
  | delete => exact namesWell_delete _ s
  | rename h => exact h.elim
  | write => exact Engine.namesWell_setProperties ..
  | display => exact Engine.namesWell_setVisibility ..
  | render view =>
    obtain ⟨stats, h⟩ := Engine.render_eq view s.engine
    rw [NamesWell, h]
    exact .count s.engine stats
  | interact view =>
    obtain ⟨stats, h⟩ := Engine.interact_eq view s.engine
    rw [NamesWell, h]
    exact .count s.engine stats

/-- A method that renames nothing names well. -/
theorem namesWell_perform (hengine : ∀ o, op ≠ .engine o) (hnone : ∀ h name, ¬op.Renames h name)
    (s : Session) : NamesWell s (perform op s).2 := by
  refine namesWell_of_chain (fun s s' hpass => ?_) (passes_perform hengine s)
  rcases hpass with hturn | hsame
  · exact (hturn.mono (fun _ h => h) hnone).namesWell
  · rw [NamesWell, hsame]
    exact .refl s.engine

/-! ## Methods that rename an object -/

/-- A call of the function that renames objects is a renaming. -/
theorem call_of_renames {c : BoundCall} {x : Handle} {name : String} (h : c.Renames x name)
    (s : Session) :
    (call c s).2 = { s with engine := (Engine.rename x name s.engine).2 } := by
  obtain ⟨hcallee, hproxy, htext⟩ := h
  have hcall : call c s = ((rename x name >>= fun _ => pure .unset) : SessionStep Value) s := by
    simp only [call, hcallee, hproxy, htext]
    rfl
  rw [hcall, Step.snd_bind_pure]
  rfl

/-- So is a call by name that comes to this function. -/
theorem SingleProviders.dispatch_of_renames (hs : s.SingleProviders) {f : String} {args : Args}
    {x : Handle} {name : String} (h : CallRenames f args x name) :
    (dispatch f args s).2 = { s with engine := (Engine.rename x name s.engine).2 } := by
  obtain ⟨b, args', hreach, hb⟩ := h
  rw [← call_of_renames hb]
  cases hreach with
  | called hname => rw [hname, dispatch, if_neg b.name_ne_forwarding, callBuiltin_name]
  | forwarded hname htarget =>
    rw [hname, dispatch, if_pos rfl, hs.forward_builtin b args htarget]

theorem SingleProviders.invoke_of_renames (hs : s.SingleProviders) {f : String} {args : Args}
    {x : Handle} {name : String} (h : CallRenames f args x name) :
    (invoke f args s).2 = { s with engine := (Engine.rename x name s.engine).2 } := by
  rw [← hs.dispatch_of_renames h]
  obtain ⟨b, args', hreach, -⟩ := h
  cases hreach with
  | called hname =>
    rw [hname, hs.invoke_builtin, dispatch, if_neg b.name_ne_forwarding, callBuiltin_name]
  | forwarded hname => rw [hname, hs.invoke_forwarding, dispatch, if_pos rfl]

theorem SingleProviders.perform_of_renames (hs : s.SingleProviders) {x : Handle} {name : String}
    (h : op.Renames x name) :
    (perform op s).2 = { s with engine := (Engine.rename x name s.engine).2 } := by
  cases op with
  | rename y new =>
    obtain ⟨rfl, rfl⟩ := h
    exact Step.snd_bind_pure ..
  | invoke f args => exact (Step.snd_bind_pure ..).trans (hs.invoke_of_renames h)
  | dispatch f args => exact (Step.snd_bind_pure ..).trans (hs.dispatch_of_renames h)
  | start | connect | disconnect | reset | active | setActive | clearActive | activeConnection
  | activeProxy | cameraOf | activeViewOrCreate | create | delete | registrationName | find
  | findViewOrCreate | list | setProperties | getProperty | resetProperty | getRepresentation
  | showSource | hideSource | render | renderAllViews | interact | extendExports
  | registerPlugin | loadPlugin | extendNamespace | setConfig | engine => exact h.elim

/-- Carried out in the session, the operation gives an object that is there the name. -/
structure Op.Retitles (op : Op) (s : Session) (h : Handle) (name : String) : Prop where
  asked : ∃ x, op.Renames x name ∧ x.connection = h.connection ∧ x.id = h.id
  plain : Text.hasControl name = false
  live : s.engine.isLive h = true

/-- What an operation does to names : an object keeps its name, or gets a well-formed one, or the
operation renames it. -/
theorem name_cases_perform (hs : s.SingleProviders) (hl : s.engine.Labelled)
    (hengine : ∀ o, op ≠ .engine o) {h : Handle} {name : String}
    (hname : (perform op s).2.engine.registrationName h = .ok name) :
    Text.IsName name ∨ s.engine.registrationName h = .ok name ∨ op.Retitles s h name := by
  by_cases hrenames : ∃ x new, op.Renames x new
  · obtain ⟨x, new, hx⟩ := hrenames
    rw [hs.perform_of_renames hx] at hname
    rcases Engine.rename_cases x new s.engine with ⟨fault, hr⟩ | ⟨r, hr, hplain, hrename⟩
    · rw [hr] at hname
      exact Or.inr (Or.inl hname)
    · rw [hrename] at hname
      obtain ⟨r', hr', rfl⟩ := Engine.registrationName_eq_ok_iff.mp hname
      rw [Engine.object?_rename] at hr'
      split at hr'
      · rename_i hsame
        obtain ⟨r, hr, rfl⟩ := Option.map_eq_some_iff.mp hr'
        exact Or.inr (Or.inr ⟨⟨x, hx, hsame⟩, hplain, Engine.isLive_iff.mpr ⟨r, hr⟩⟩)
      · exact Or.inr (Or.inl (Engine.registrationName_eq_ok_iff.mpr ⟨r', hr', rfl⟩))
  · have hnone : ∀ x new, ¬op.Renames x new := fun x new hx => hrenames ⟨x, new, hx⟩
    exact ((namesWell_perform hengine hnone s).name hl h name hname).imp_right Or.inl

theorem catalog_perform (hs : s.SingleProviders) (hengine : ∀ o, op ≠ .engine o) :
    (perform op s).2.engine.catalog = s.engine.catalog := by
  by_cases hrenames : ∃ x new, op.Renames x new
  · obtain ⟨x, new, hx⟩ := hrenames
    rw [hs.perform_of_renames hx]
    rcases Engine.rename_cases x new s.engine with ⟨fault, hr⟩ | ⟨r, -, -, hr⟩
    · rw [hr]
    · rw [hr]
      rfl
  · exact (namesWell_perform hengine (fun x new hx => hrenames ⟨x, new, hx⟩) s).catalog

/-- A renaming gives the name that was asked for. -/
theorem Op.Retitles.registrationName {h : Handle} {name : String} (ho : op.Retitles s h name)
    (hs : s.SingleProviders) : (perform op s).2.engine.registrationName h = .ok name := by
  obtain ⟨⟨x, hx, hc, hid⟩, hplain, hlive⟩ := ho
  obtain ⟨r, hr⟩ := Engine.isLive_iff.mp hlive
  rw [hs.perform_of_renames hx]
  rcases Engine.rename_cases x name s.engine with ⟨fault, hrename⟩ | ⟨r', -, -, hrename⟩
  · rw [← hc, ← hid] at hr
    simp [Engine.rename, hplain, Engine.record_eq_ok_iff.mpr hr] at hrename
  · rw [hrename]
    refine Engine.registrationName_eq_ok_iff.mpr ⟨{ r with name := name }, ?_, rfl⟩
    rw [Engine.object?_rename, if_pos ⟨hc, hid⟩, hr]
    rfl

/-! ## Runs -/

/-- Where the names of a run come from : a name is well formed, or the object had it in the
beginning, or an operation of the run renamed the object. -/
theorem name_cases_run (hs : s.Partitioned) (hl : s.engine.Labelled) {ops : List Op}
    (hops : ∀ o, .engine o ∉ ops) {h : Handle} {name : String}
    (hname : (s.run ops).engine.registrationName h = .ok name) :
    Text.IsName name ∨ s.engine.registrationName h = .ok name ∨
      ∃ before op, before ++ [op] <+: ops ∧ op.Retitles (s.run before) h name := by
  induction ops generalizing s with
  | nil => exact Or.inr (Or.inl hname)
  | cons op ops ih =>
    have hengine : ∀ o, op ≠ .engine o := fun o ho => hops o (ho ▸ List.mem_cons_self ..)
    have hl' : (perform op s).2.engine.Labelled := by
      unfold Engine.Labelled
      rwa [catalog_perform hs.singleProviders hengine]
    rcases ih (hs.perform op) hl' (fun o ho => hops o (List.mem_cons_of_mem _ ho)) hname with
      hwell | hfirst | ⟨before, later, hbefore, hlater⟩
    · exact Or.inl hwell
    · rcases name_cases_perform hs.singleProviders hl hengine hfirst with hwell | hold | hop
      · exact Or.inl hwell
      · exact Or.inr (Or.inl hold)
      · exact Or.inr (Or.inr ⟨[], op, by simp, hop⟩)
    · exact Or.inr (Or.inr ⟨op :: before, later, by simpa using hbefore, hlater⟩)

/-- The names of the objects that are there after operations of a session. -/
structure NamesOfRun (s : Session) (ops : List Op) : Prop where
  /-- No name has a control character. -/
  plain : (s.run ops).engine.Named fun name => Text.hasControl name = false
  /-- An object with a blank name got it when an operation of the run renamed the object. -/
  blank : ∀ h name, (s.run ops).engine.registrationName h = .ok name →
    Text.isBlankText name = true →
      ∃ before op, before ++ [op] <+: ops ∧ op.Retitles (s.run before) h name
  /-- All names are well formed all along exactly if no operation renames an object to a blank
  text. -/
  wellFormed_iff : (∀ before, before <+: ops → (s.run before).engine.Named Text.IsName) ↔
    ∀ before op, before ++ [op] <+: ops → ∀ h name, op.Retitles (s.run before) h name →
      Text.isBlankText name = false

/-- On the built-in catalog a name is well formed, or an operation of the run renamed the object,
if all names were well formed in the beginning. -/
theorem name_cases_of_starts {e : Engine} (hcatalog : e.catalog = builtinCatalog)
    (hnames : e.Named Text.IsName) {start : Session} (hstart : Starts e start) {ops : List Op}
    (hops : ∀ o, .engine o ∉ ops) {h : Handle} {name : String}
    (hname : (start.run ops).engine.registrationName h = .ok name) :
    Text.IsName name ∨
      ∃ before op, before ++ [op] <+: ops ∧ op.Retitles (start.run before) h name := by
  have hl : start.engine.Labelled := by
    rw [Engine.Labelled, engine_of_starts hstart, hcatalog]
    decide
  have hs : start.Partitioned := partitioned_run_of_starts hstart []
  rcases name_cases_run hs hl hops hname with hwell | hold | hop
  · exact Or.inl hwell
  · rw [engine_of_starts hstart] at hold
    exact Or.inl (hnames h name hold)
  · exact Or.inr hop

/-- However a session is started on the built-in catalog, and whatever its methods are called
with, no name of an object gets a control character, and every name is well formed that was not
given by a renaming to a blank text. -/
theorem names_of_run {e : Engine} (hcatalog : e.catalog = builtinCatalog)
    (hnames : e.Named Text.IsName) {start : Session} (hstart : Starts e start) {ops : List Op}
    (hops : ∀ o, .engine o ∉ ops) : start.NamesOfRun ops := by
  refine ⟨fun h name hname => ?_, fun h name hname hblank => ?_, ?_, ?_⟩
  · rcases name_cases_of_starts hcatalog hnames hstart hops hname with hwell | ⟨_, _, -, hop⟩
    · exact hwell.plain
    · exact hop.plain
  · rcases name_cases_of_starts hcatalog hnames hstart hops hname with hwell | hop
    · exact absurd hblank (by simp [hwell.visible])
    · exact hop
  · intro hall before op hbefore h name hop
    have hsingle := (partitioned_run_of_starts hstart before).singleProviders
    have hwell := hall (before ++ [op]) hbefore h name
    rw [run_append] at hwell
    exact (hwell (hop.registrationName hsingle)).visible
  · intro hnone before hbefore h name hname
    have hops' : ∀ o, .engine o ∉ before := fun o ho => hops o (hbefore.subset ho)
    rcases name_cases_of_starts hcatalog hnames hstart hops' hname with
      hwell | ⟨earlier, op, hearlier, hop⟩
    · exact hwell
    · exact ⟨hnone earlier op (hearlier.trans hbefore) h name hop, hop.plain⟩

/-- A view, its camera and a cone get their names by a search, from a label, by a keyword and by
a call of the renaming function. -/
theorem names_of_run_by_every_route :
    let view : Handle := ⟨1, ⟨1⟩, .views, "RenderView"⟩
    let camera : Handle := ⟨2, ⟨1⟩, .cameras, "Camera"⟩
    let cone : Handle := ⟨3, ⟨1⟩, .sources, "ConeSource"⟩
    let start := new "" "" .new .default
    let ops : List Op :=
      [.connect, .findViewOrCreate "Main" "RenderView",
        .create .sources "ConeSource" (OrderedMap.ofList [(nameKeyword, .text "Cone")]),
        .invoke "rename" ⟨[.proxy cone, .text "The tip"], ∅⟩]
    let e := (start.run ops).engine
    Engine.new.catalog = builtinCatalog ∧ Engine.new.Named Text.IsName ∧ Starts .new start ∧
      (∀ o, .engine o ∉ ops) ∧ start.NamesOfRun ops ∧
      (e.registrationName view).toOption = some "Main" ∧
      (e.registrationName camera).toOption = some "Camera1" ∧
      (e.registrationName cone).toOption = some "The tip" := by
  intro view camera cone start ops e
  have hnames : Engine.new.Named Text.IsName := Engine.named_ofCatalog _ _
  have hstart : Starts .new start := ⟨"", "", .default, Or.inl rfl⟩
  have hops : ∀ o, Op.engine o ∉ ops := by simp [ops]
  exact ⟨rfl, hnames, hstart, hops, names_of_run rfl hnames hstart hops, by decide +kernel,
    by decide +kernel, by decide +kernel⟩

/-- A sphere is renamed to two blanks, under which no sphere can be made. -/
theorem sphere_renamed_to_blanks :
    let sphere : Handle := ⟨1, ⟨1⟩, .sources, "SphereSource"⟩
    let s := (new "" "" .new .default).run
      [.connect, .create .sources "SphereSource" ∅, .rename sphere "  "]
    s.engine.registrationName sphere = .ok "  " ∧ ¬s.engine.Named Text.IsName ∧
      (create .sources "SphereSource" (OrderedMap.ofList [(nameKeyword, .text "  ")]) s).1 =
        .error (.engine (.invalidProperty nameKeyword .blankName)) := by
  intro sphere s
  have hname : s.engine.registrationName sphere = .ok "  " := rfl
  refine ⟨hname, fun hnamed => ?_, rfl⟩
  have hvisible := (hnamed sphere "  " hname).visible
  revert hvisible
  decide

end Session

end VizSession
