import VizSession.Proofs.Visibility

/-!
# Objects and their definitions

Every object has the properties that its definition declares, with values that fit
(`Definition.Describes`). Properties come into objects checked (`Engine.validate_eq_ok_iff`),
as defaults (`describes_fillDefaults`), or from the engine itself : the input of a new
representation and whether it is visible. The last two are not checked, and fit because the
first definition of representations is the built-in one (`Engine.Furnished`) and the table
names nothing but representations (`WellFormed.tabled_definition`).

Objects go by the first definition of their group and name, so definitions that are added
later change nothing for them (`Engine.Conforms.addDefinition`). Properties are written by
what the handle says and checked by the same, so writing needs a handle that was given out
(`Engine.Conforming.write`).
-/

namespace VizSession

/-! ## What a definition says of properties -/

/-- A default goes only where nothing is. -/
theorem Properties.find?_fillDefault (ps : Properties) (spec : PropertySpec) (name : String) :
    (ps.fillDefault spec).find? name =
      (ps.find? name).or (if spec.name = name then some spec.default else none) := by
  unfold Properties.fillDefault OrderedMap.contains
  cases hfound : ps.find? spec.name with
  | some v =>
    rw [Option.isSome_some, if_pos rfl]
    split
    · rename_i heq
      rw [← heq, hfound]
      rfl
    · exact (Option.or_none ..).symm
  | none =>
    rw [Option.isSome_none, if_neg Bool.false_ne_true, OrderedMap.find?_insert]
    split
    · rename_i heq
      rw [← heq, hfound]
      rfl
    · exact (Option.or_none ..).symm

/-- What is given stays, and of the declarations of a name the first is the one that counts. -/
theorem Properties.find?_fillDefaults (ps : Properties) (specs : List PropertySpec)
    (name : String) : (ps.fillDefaults specs).find? name =
      (ps.find? name).or
        ((specs.find? fun spec => spec.name = name).map PropertySpec.default) := by
  induction specs generalizing ps with
  | nil => exact (Option.or_none ..).symm
  | cons spec specs ih =>
    have hstep : ps.fillDefaults (spec :: specs) = (ps.fillDefault spec).fillDefaults specs := rfl
    rw [hstep, ih, find?_fillDefault, Option.or_assoc, List.find?_cons]
    by_cases h : spec.name = name <;> simp [h]

theorem Properties.mem_keys_fillDefaults {ps : Properties} {specs : List PropertySpec}
    {name : String} : name ∈ (ps.fillDefaults specs).keys ↔
      name ∈ ps.keys ∨ ∃ spec ∈ specs, spec.name = name := by
  rw [OrderedMap.mem_keys_iff, OrderedMap.mem_keys_iff, find?_fillDefaults, Option.isSome_or,
    Option.isSome_map, Bool.or_eq_true, List.find?_isSome]
  simp

namespace Definition

variable {d : Definition} {ps qs : Properties}

/-- The defaults fit the types that they are declared with. -/
def DefaultsFit (d : Definition) : Prop :=
  ∀ spec ∈ d.properties, spec.type.admits spec.default = true

instance : DecidablePred DefaultsFit := fun d =>
  inferInstanceAs (Decidable (∀ spec ∈ d.properties, spec.type.admits spec.default = true))

/-- Every value has a declared name, and fits the type that the name is first declared
with. -/
def Admits (d : Definition) (ps : Properties) : Prop :=
  ∀ name v, ps.find? name = some v →
    ∃ spec, d.property? name = some spec ∧ spec.type.admits v = true

/-- The properties are those of an object of the definition. -/
structure Describes (d : Definition) (ps : Properties) : Prop where
  /-- The names are the declared ones. -/
  names : ∀ name, name ∈ ps.keys ↔ name ∈ d.properties.map PropertySpec.name
  /-- No name is there twice. -/
  once : ps.keys.Nodup
  /-- The values fit. -/
  values : d.Admits ps

theorem isSome_property? {name : String} :
    (d.property? name).isSome ↔ name ∈ d.properties.map PropertySpec.name := by
  simp [property?, List.find?_isSome]

theorem admits_empty : d.Admits ∅ := fun _ _ h => by cases h

/-- One value, under a name that is declared for it. -/
theorem admits_singleton {name : String} {v : Value} {spec : PropertySpec}
    (hspec : d.property? name = some spec) (hv : spec.type.admits v = true) :
    d.Admits (OrderedMap.ofList [(name, v)]) := by
  intro name' v' h
  obtain ⟨rfl, rfl⟩ := Prod.mk.inj (List.mem_singleton.mp (OrderedMap.mem_of_find?_ofList h))
  exact ⟨spec, hspec, hv⟩

/-- With its defaults filled in, an object has the properties of its definition. -/
theorem describes_fillDefaults (hps : d.Admits ps) (hd : d.DefaultsFit) :
    d.Describes (ps.fillDefaults d.properties) where
  names name := by
    rw [OrderedMap.mem_keys_iff, Properties.find?_fillDefaults, Option.isSome_or,
      Option.isSome_map, Bool.or_eq_true, ← isSome_property?]
    constructor
    · rintro (hgiven | hdeclared)
      · obtain ⟨v, hv⟩ := Option.isSome_iff_exists.mp hgiven
        obtain ⟨spec, hspec, -⟩ := hps name v hv
        exact Option.isSome_iff_exists.mpr ⟨spec, hspec⟩
      · exact hdeclared
    · exact Or.inr
  once := (ps.fillDefaults d.properties).nodup
  values name v hv := by
    rw [Properties.find?_fillDefaults, Option.or_eq_some_iff] at hv
    rcases hv with hgiven | ⟨-, hdefault⟩
    · exact hps name v hgiven
    · obtain ⟨spec, hspec, rfl⟩ := Option.map_eq_some_iff.mp hdefault
      exact ⟨spec, hspec, hd spec (List.mem_of_find?_eq_some hspec)⟩

/-- Written properties that are declared and fit bring no new name. -/
theorem Describes.insertMany (h : d.Describes ps) (hqs : d.Admits qs) :
    d.Describes (ps.insertMany qs.entries) where
  names name := by
    rw [OrderedMap.mem_keys_insertMany, ← h.names]
    constructor
    · rintro (hold | hnew)
      · exact hold
      · obtain ⟨v, hv⟩ := Option.isSome_iff_exists.mp (OrderedMap.mem_keys_iff.mp hnew)
        obtain ⟨spec, hspec, -⟩ := hqs name v hv
        exact (h.names name).mpr (isSome_property?.mp (Option.isSome_iff_exists.mpr ⟨spec, hspec⟩))
    · exact Or.inl
  once := (ps.insertMany qs.entries).nodup
  values name v hv := by
    rcases OrderedMap.mem_of_find?_insertMany hv with hold | hnew
    · exact h.values name v hold
    · exact hqs name v (OrderedMap.find?_eq_some_iff.mpr hnew)

end Definition

namespace Engine

variable {e e' : Engine}

/-! ## Validation -/

theorem propertyFault?_eq_none_iff {c : ConnectionId} {d : Definition} {name : String}
    {v : Value} : e.propertyFault? c d name v = none ↔
      (∃ spec, d.property? name = some spec ∧ spec.type.admits v = true) ∧
        ∀ t, v = .proxy t → t.connection = c ∧ e.isLive t = true := by
  unfold propertyFault?
  cases d.property? name with
  | none => simp
  | some spec =>
    cases hfits : spec.type.admits v with
    | false => simp [hfits]
    | true => cases v <;> simp [hfits]

/-- Properties are valid when the definition admits them and what they refer to is there, on
the same connection. -/
theorem validate_eq_ok_iff {c : ConnectionId} {d : Definition} {ps : Properties} :
    e.validate c d ps = .ok () ↔
      d.Admits ps ∧ ∀ t, ps.Mentions t → t.connection = c ∧ e.isLive t = true := by
  have hall : e.validate c d ps = .ok () ↔
      ∀ name v, ps.find? name = some v → e.propertyFault? c d name v = none := by
    unfold validate
    simp only [OrderedMap.find?_eq_some_iff]
    cases hfault : ps.entries.findSome? fun p => e.propertyFault? c d p.1 p.2 with
    | some fault =>
      obtain ⟨p, hmem, hp⟩ := List.exists_of_findSome?_eq_some hfault
      constructor
      · intro h
        cases h
      · intro h
        rw [h p.1 p.2 hmem] at hp
        cases hp
    | none => exact ⟨fun _ name v hv => List.findSome?_eq_none_iff.mp hfault _ hv, fun _ => rfl⟩
  simp only [hall, propertyFault?_eq_none_iff]
  constructor
  · intro h
    refine ⟨fun name v hv => (h name v hv).1, ?_⟩
    rintro t ⟨name, ht⟩
    exact (h name _ ht).2 t rfl
  · rintro ⟨hadmits, hrefs⟩ name v hv
    refine ⟨hadmits name v hv, ?_⟩
    rintro t rfl
    exact hrefs t ⟨name, hv⟩

/-! ## The catalog -/

/-- The catalog is fit for making objects : defaults fit, and what the engine itself writes
into representations fits. -/
structure Furnished (e : Engine) : Prop where
  /-- The defaults of all definitions fit. -/
  defaults : ∀ d ∈ e.catalog, d.DefaultsFit
  /-- A representation has an input, and it is visible or not. -/
  representation : ∃ d, e.definition? .representations "GeometryRepresentation" = some d ∧
    (∀ source, d.Admits (inputOf source)) ∧
    ∀ visible, d.Admits (OrderedMap.ofList [("Visibility", .bool visible)])

theorem furnished_new : new.Furnished where
  defaults := by decide
  representation :=
    ⟨_, rfl, fun _ => Definition.admits_singleton rfl rfl,
      fun _ => Definition.admits_singleton rfl rfl⟩

theorem Furnished.addDefinition (h : e.Furnished) {d : Definition} (hd : d.DefaultsFit) :
    (e.addDefinition d).Furnished where
  defaults d' hd' := by
    rcases List.mem_append.mp hd' with hold | hnew
    · exact h.defaults d' hold
    · exact List.mem_singleton.mp hnew ▸ hd
  representation := by
    obtain ⟨d', hd', hadmits⟩ := h.representation
    exact ⟨d', (Change.edit (.define e d)).definition? hd', hadmits⟩

/-! ## Objects -/

/-- The first definition of the object's group and name describes its properties. -/
def Conforms (e : Engine) (r : Record) : Prop :=
  ∃ d, e.definition? r.handle.group r.handle.definition = some d ∧ d.Describes r.properties

theorem Conforms.addDefinition {r : Record} (h : e.Conforms r) (d : Definition) :
    (e.addDefinition d).Conforms r := by
  obtain ⟨d', hd', hdescribes⟩ := h
  exact ⟨d', (Change.edit (.define e d)).definition? hd', hdescribes⟩

/-- A new object conforms. -/
theorem Furnished.conforms_newRecord (h : e.Furnished) {c : ConnectionId} {g : Group}
    {name : String} {d : Definition} {ps : Properties} (hd : e.definition? g name = some d)
    (hps : d.Admits ps) : e.Conforms (e.newRecord c d ps) := by
  obtain ⟨rfl, rfl⟩ := group_name_of_definition? hd
  exact ⟨d, hd, Definition.describes_fillDefaults hps
    (h.defaults d (List.mem_of_find?_eq_some hd))⟩

/-- An object that conforms still does when its properties are written with ones that its
definition admits. -/
theorem Conforms.write {r : Record} {d : Definition} {ps : Properties} (h : e.Conforms r)
    (hd : e.definition? r.handle.group r.handle.definition = some d) (hps : d.Admits ps) :
    e.Conforms { r with properties := r.properties.insertMany ps.entries } := by
  obtain ⟨d', hd', hdescribes⟩ := h
  obtain rfl := Option.some.inj (hd'.symm.trans hd)
  exact ⟨d', hd, hdescribes.insertMany hps⟩

/-- The catalog is fit, and every object conforms to it. -/
structure Conforming (e : Engine) : Prop extends e.Furnished where
  objects : ∀ {c id r}, e.object? c id = some r → e.Conforms r

theorem conforming_new : new.Conforming where
  toFurnished := furnished_new
  objects h := by cases h

/-- With the catalog as it was, it is enough that the objects conform to it. -/
theorem Conforming.of_objects (h : e.Conforming) (hcatalog : e'.catalog = e.catalog)
    (hobjects : ∀ {c id r}, e'.object? c id = some r → e.Conforms r) : e'.Conforming := by
  have hd : ∀ g name, e'.definition? g name = e.definition? g name :=
    fun _ _ => congrArg (List.find? _) hcatalog
  refine ⟨⟨?_, ?_⟩, fun {c id r} hr => ?_⟩
  · rw [hcatalog]
    exact h.defaults
  · rw [hd]
    exact h.representation
  · unfold Conforms
    rw [hd]
    exact hobjects hr

/-! ## Operations -/

theorem Conforming.addDefinition (h : e.Conforming) {d : Definition} (hd : d.DefaultsFit) :
    (e.addDefinition d).Conforming where
  toFurnished := h.toFurnished.addDefinition hd
  objects hr := Conforms.addDefinition (h.objects hr) d

theorem Conforming.addObject (h : e.Conforming) {c : ConnectionId} {g : Group} {name : String}
    {d : Definition} {ps : Properties} (hc : e.isAlive c = true)
    (hd : e.definition? g name = some d) (hps : d.Admits ps) : (e.addObject c d ps).Conforming := by
  refine h.of_objects rfl fun hr => ?_
  rcases object?_of_addObject hc hr with hold | ⟨-, -, rfl⟩
  · exact h.objects hold
  · exact h.conforms_newRecord hd hps

theorem Conforming.addCamera (h : e.Conforming) {c : ConnectionId} {d : Definition}
    (hc : e.isAlive c = true) (hd : e.definition? .cameras "Camera" = some d) (owner : UInt64) :
    (e.addCamera c owner d).Conforming := by
  have hadd := h.addObject hc hd Definition.admits_empty
  refine hadd.of_objects rfl fun hr => ?_
  rw [Engine.addCamera, object?_linkCamera] at hr
  obtain ⟨r, hold, hsame⟩ := eq_some_of_ite_map hr
  have hconforms := hadd.objects hold
  rcases hsame with rfl | rfl
  · exact hconforms
  · exact hconforms

theorem Conforming.addRepresentation (h : e.Conforming) {source : Handle} {d : Definition}
    (hc : e.isAlive source.connection = true)
    (hd : e.definition? .representations "GeometryRepresentation" = some d) (view : Handle) :
    (e.addRepresentation source view d).Conforming := by
  obtain ⟨d', hd', hinput, -⟩ := h.representation
  obtain rfl := Option.some.inj (hd'.symm.trans hd)
  refine h.of_objects rfl fun hr => ?_
  rw [object?_addRepresentation e d' view hc] at hr
  split at hr
  · exact Option.some.inj hr ▸ h.conforms_newRecord hd' (hinput source)
  · exact h.objects hr

/-- What is written has to be admitted by the definition that the object conforms to. -/
theorem Conforming.write (h : e.Conforming) {c : ConnectionId} {id : UInt64} {ps : Properties}
    (hps : ∀ r, e.object? c id = some r →
      ∃ d, e.definition? r.handle.group r.handle.definition = some d ∧ d.Admits ps) :
    (e.updateStore c fun s => s.write id ps).Conforming := by
  refine h.of_objects rfl fun {c' id' r'} hr => ?_
  rw [object?_write] at hr
  split at hr
  · rename_i hid
    obtain ⟨rfl, rfl⟩ := hid
    obtain ⟨r, hold, rfl⟩ := Option.map_eq_some_iff.mp hr
    obtain ⟨d, hd, hadmits⟩ := hps r hold
    exact (h.objects hold).write hd hadmits
  · exact h.objects hr

/-- What the table names is a representation, which is visible or not. -/
theorem Conforming.display (h : e.Conforming) (we : e.WellFormed) {c : ConnectionId}
    {pair : UInt64 × UInt64} {k : UInt64} (hk : e.tabled? c pair = some k) (visible : Bool) :
    (e.display c k visible).Conforming := by
  refine Conforming.write h fun r hr => ?_
  obtain ⟨d, hd, -, hvisible⟩ := h.representation
  refine ⟨d, ?_, hvisible visible⟩
  rw [(we.tabled hk).2 r hr, we.tabled_definition hk hr, hd]

theorem Conforming.rename (h : e.Conforming) (c : ConnectionId) (id : UInt64) (name : String) :
    (e.updateStore c fun s => s.rename id name).Conforming := by
  refine h.of_objects rfl fun hr => ?_
  rw [object?_rename] at hr
  obtain ⟨r, hold, hsame⟩ := eq_some_of_ite_map hr
  have hconforms := h.objects hold
  rcases hsame with rfl | rfl
  · exact hconforms
  · exact hconforms

theorem Conforming.count (h : e.Conforming) (stats : Stats) :
    Conforming { e with stats := stats } := h.of_objects rfl h.objects

theorem Conforming.withConnection (h : e.Conforming) : e.withConnection.Conforming := by
  refine h.of_objects rfl fun hr => ?_
  rw [object?_withConnection] at hr
  split at hr
  · cases hr
  · exact h.objects hr

theorem Conforming.without (h : e.Conforming) (c : ConnectionId) :
    (e.without c).Conforming := by
  refine h.of_objects rfl fun hr => ?_
  rw [object?_without] at hr
  split at hr
  · cases hr
  · exact h.objects hr

theorem Conforming.remove (h : e.Conforming) (c : ConnectionId) (id : UInt64) :
    (e.updateStore c fun s => s.remove id).Conforming :=
  h.of_objects rfl fun hr => h.objects ((object?_remove ..).mp hr).1

theorem Conforming.create (h : e.Conforming) (c : ConnectionId) (g : Group) (name : String)
    (ps : Properties) : (create c g name ps e).2.Conforming := by
  rcases create_cases c g name ps e with ⟨fault, heq⟩ | ⟨d, hc, hd, hps, hcase⟩
  · rw [heq]
    exact h
  have hadd := h.addObject hc hd (validate_eq_ok_iff.mp hps).1
  rcases hcase with ⟨-, heq⟩ | ⟨-, -, fault, heq⟩ | ⟨-, camera, hcamera, heq⟩
  · rw [heq]
    exact hadd
  · rw [heq]
    exact hadd
  · rw [heq]
    exact hadd.addCamera (by simpa using hc) hcamera _

/-- A handle that was given out is checked by the definition of its object. -/
theorem Conforming.setProperties (h : e.Conforming) {x : Handle} (hx : e.Issued x)
    (ps : Properties) : (setProperties x ps e).2.Conforming := by
  rcases setProperties_cases x ps e with ⟨fault, heq⟩ | ⟨r, d, hr, hd, hps, heq⟩
  · rw [heq]
    exact h
  · rw [heq]
    refine Conforming.write h fun r' hr' => ⟨d, ?_, (validate_eq_ok_iff.mp hps).1⟩
    rw [hx.2 r' hr', hd]

/-- What is shown or hidden is a representation, one from before or one that is made for it. -/
theorem Conforming.setVisibility (h : e.Conforming) (we : e.WellFormed) {source view : Handle}
    {visible : Bool} (hn : (setVisibility source view visible e).2.NumbersLeft) :
    (setVisibility source view visible e).2.Conforming := by
  rcases setVisibility_cases source view visible e with ⟨fault, heq⟩ |
    ⟨r, r', hc, hs, hv, ⟨k, rep, hk, hrep, heq⟩ | ⟨d, hp, hd, heq⟩⟩
  · rw [heq]
    exact h
  · rw [heq]
    exact h.display we hk visible
  · rw [heq] at hn ⊢
    have hc' := isAlive_of_object? hs
    have hrepresent : Change e (e.addRepresentation source view d) :=
      .edit (.represent hc hs hv hd hp)
    have hn' : (e.addRepresentation source view d).NumbersLeft := hn
    -- the new representation is in the table by now, so it is shown like one from before
    have hk := (tabled?_addRepresentation e d view hc' source.connection
      (source.id, view.id)).trans (if_pos ⟨rfl, rfl⟩)
    exact (h.addRepresentation hc' hd view).display
      (we.change hrepresent (hn'.of_change hrepresent)) hk visible

/-- The step of the invariant : after an operation every object conforms, as long as definitions
that are added have fit defaults and properties are written by handles that were given out. What an
operation writes was validated, but for the input and the visibility of a representation, which
`Furnished` speaks of. -/
theorem Conforming.perform (h : e.Conforming) (we : e.WellFormed) {op : Op}
    (hdefaults : ∀ d, op = .addDefinition d → d.DefaultsFit)
    (hissued : ∀ x ps, op = .setProperties x ps → e.Issued x)
    (hn : (perform op e).2.NumbersLeft) : (perform op e).2.Conforming := by
  cases op with
  | establish url =>
    rw [snd_perform_establish]
    obtain ⟨stats, ⟨fault, heq⟩ | heq⟩ := establish_cases url e
    · rw [heq]
      exact h.count stats
    · rw [heq]
      exact (h.count stats).withConnection
  | disconnect c =>
    rw [snd_perform_disconnect]
    obtain ⟨stats, heq⟩ := disconnect_eq c e
    rw [heq]
    split
    · exact (h.count stats).without c
    · exact h.count stats
  | create c g name ps =>
    rw [snd_perform_create]
    exact h.create c g name ps
  | delete x =>
    rw [snd_perform_delete]
    rcases delete_cases x e with ⟨fault, heq⟩ | ⟨r, -, heq⟩
    · rw [heq]
      exact h
    · rw [heq]
      exact h.remove ..
  | rename x name =>
    rw [snd_perform_rename]
    rcases rename_cases x name e with ⟨fault, heq⟩ | ⟨r, -, -, heq⟩
    · rw [heq]
      exact h
    · rw [heq]
      exact h.rename ..
  | setProperties x ps =>
    rw [snd_perform_setProperties]
    exact h.setProperties (hissued x ps rfl) ps
  | render view =>
    rw [snd_perform_render]
    obtain ⟨stats, heq⟩ := render_eq view e
    rw [heq]
    exact h.count stats
  | interact view =>
    rw [snd_perform_interact]
    obtain ⟨stats, heq⟩ := interact_eq view e
    rw [heq]
    exact h.count stats
  | setVisibility source view visible =>
    rw [snd_perform_setVisibility] at hn ⊢
    exact h.setVisibility we hn
  | setRefusal reason => exact h.of_objects rfl h.objects
  | addDefinition d => exact Conforming.addDefinition h (hdefaults d rfl)
  | isAlive | isLive | registrationName | find | list | properties | cameraOf | definitions
  | representation | inventory => exact h

/-! ## Runs -/

/-- Properties are written by handles that were given out. -/
def WritesIssued : Engine → List Op → Prop
  | _, [] => True
  | e, op :: ops =>
    (∀ x ps, op = .setProperties x ps → e.Issued x) ∧ WritesIssued (perform op e).2 ops

theorem WritesIssued.cons {op : Op} {ops : List Op}
    (hop : ∀ x ps, op = .setProperties x ps → e.Issued x)
    (hops : (Engine.perform op e).2.WritesIssued ops) : e.WritesIssued (op :: ops) :=
  ⟨hop, hops⟩

/-- By induction over the run : as counters only grow, numbers were left before every step. -/
theorem Conforming.run (h : e.Conforming) (we : e.WellFormed) {ops : List Op}
    (hdefaults : ∀ d, Op.addDefinition d ∈ ops → d.DefaultsFit) (hissued : e.WritesIssued ops)
    (hn : (e.run ops).NumbersLeft) : (e.run ops).Conforming := by
  induction ops generalizing e with
  | nil => exact h
  | cons op ops ih =>
    have hop := changes_perform op e
    have hn' := hn.of_changes (changes_run (Engine.perform op e).2 ops)
    have hstep := h.perform we (fun d hd => hdefaults d (hd ▸ List.mem_cons_self ..))
      hissued.1 hn'
    exact ih hstep (we.changes hop hn') (fun d hd => hdefaults d (List.mem_cons_of_mem _ hd))
      hissued.2 hn

end Engine

/-- Whatever a run of the engine does, every object has the properties that the first
definition of its group and name declares, each once, with values that fit, as long as the
engine has numbers left for what it makes. The defaults of added definitions have to fit, and
properties have to be written by handles that were given out. -/
theorem objects_conform_run_new (ops : List Engine.Op)
    (hdefaults : ∀ d, Engine.Op.addDefinition d ∈ ops → d.DefaultsFit)
    (hissued : Engine.new.WritesIssued ops) (hn : (Engine.new.run ops).NumbersLeft)
    {c : ConnectionId} {id : UInt64} {r : Record}
    (hr : (Engine.new.run ops).object? c id = some r) :
    ∃ d, (Engine.new.run ops).definition? r.handle.group r.handle.definition = some d ∧
      d.Describes r.properties :=
  (Engine.conforming_new.run (Engine.wellFormed_ofCatalog builtinCatalog) hdefaults hissued
    hn).objects hr

/-- A definition that declares a name twice comes to the catalog, and another one of the same
name after it. An object is made from the first, its properties are written, and it is shown :
it and its representation have the properties that their definitions declare. -/
theorem objects_conform_repeated_names :
    let first : Definition := ⟨.sources, "Grid", "Grid", [.int "Size" 3, .float "Size" 1.0]⟩
    let second : Definition := ⟨.sources, "Grid", "Grid", [.reference "Input"]⟩
    let grid : Handle := ⟨1, ⟨1⟩, .sources, "Grid"⟩
    let view : Handle := ⟨2, ⟨1⟩, .views, "RenderView"⟩
    let ops : List Engine.Op :=
      [.addDefinition first, .addDefinition second, .establish "builtin:",
        .create ⟨1⟩ .sources "Grid" ∅, .create ⟨1⟩ .views "RenderView" ∅,
        .setProperties grid (OrderedMap.ofList [("Size", .int 5)]),
        .setVisibility grid view true]
    (∀ d, Engine.Op.addDefinition d ∈ ops → d.DefaultsFit) ∧ Engine.new.WritesIssued ops ∧
      (Engine.new.run ops).NumbersLeft ∧
      (∃ r, (Engine.new.run ops).record grid = .ok r ∧ first.Describes r.properties) ∧
      ∃ r, (Engine.new.run ops).object? ⟨1⟩ 4 = some r ∧ (Engine.new.run ops).Conforms r := by
  intro first second grid view ops
  have hdefaults : ∀ d, Engine.Op.addDefinition d ∈ ops → d.DefaultsFit := by
    intro d hd
    rcases List.mem_cons.mp hd with hfirst | hd
    · cases hfirst
      decide
    · rcases List.mem_cons.mp hd with hsecond | hd
      · cases hsecond
        decide
      · simp at hd
  have hbefore : (Engine.new.run (ops.take 5)).Issued grid := by
    have hmade : ((Engine.new.run (ops.take 5)).object? ⟨1⟩ 1).map Record.handle = some grid := by
      decide +kernel
    refine ⟨by decide +kernel, fun r hr => ?_⟩
    obtain ⟨r', hr', hhandle⟩ := Option.map_eq_some_iff.mp hmade
    exact Option.some.inj (hr.symm.trans hr') ▸ hhandle
  have hissued : Engine.new.WritesIssued ops := by
    refine .cons nofun (.cons nofun (.cons nofun (.cons nofun (.cons nofun
      (.cons ?_ (.cons nofun trivial))))))
    rintro x ps ⟨⟩
    exact hbefore
  have hn : (Engine.new.run ops).NumbersLeft := ⟨by decide +kernel, by decide +kernel⟩
  have hmade : ((Engine.new.run ops).object? ⟨1⟩ 1).map Record.handle = some grid := by decide +kernel
  have hshown : ((Engine.new.run ops).object? ⟨1⟩ 4).map Record.handle =
      some ⟨4, ⟨1⟩, .representations, "GeometryRepresentation"⟩ := by decide +kernel
  obtain ⟨r, hr, hhandle⟩ := Option.map_eq_some_iff.mp hmade
  obtain ⟨r', hr', -⟩ := Option.map_eq_some_iff.mp hshown
  have hfirst : (Engine.new.run ops).definition? .sources "Grid" = some first := by
    rw [show Engine.new.run ops = _ from Engine.run_append _ [.addDefinition first] ops.tail]
    exact (Engine.changes_run _ _).definition? rfl
  obtain ⟨d, hd, hdescribes⟩ := objects_conform_run_new ops hdefaults hissued hn hr
  rw [hhandle, hfirst] at hd
  obtain rfl := Option.some.inj hd
  exact ⟨hdefaults, hissued, hn, ⟨r, Engine.record_eq_ok_iff.mpr hr, hdescribes⟩, r', hr',
    objects_conform_run_new ops hdefaults hissued hn hr'⟩

end VizSession
