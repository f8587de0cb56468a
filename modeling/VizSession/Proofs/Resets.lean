import VizSession.Proofs.References
import VizSession.Proofs.PropertyChanges
import VizSession.Session.Run

/-!
# Resets

A property that is reset gets the default that the definition of its object declares for it
(`Session.resetProperty_eq`). The default is looked for along another way than the one that filled
it in when the object was made, and than the one that checks it now : among the definitions of the
group that the connection offers. All three come to the first declaration of the name in the
first definition of the group and the name (`Session.defaultOf?_eq`), which is why a default that
fits and refers to nothing is never refused.

Resetting one property after another leaves each with its default (`Session.resetEach_eq`). An
object has no other properties than the declared ones, so after that it has the values that a new
object of its definition has (`Session.resets_restore_defaults`), whatever was done to its
properties before.
-/

namespace VizSession

namespace Definition

/-- The default of a declared property; of two declarations of one name, the first counts. -/
def default? (d : Definition) (name : String) : Option Value :=
  (d.property? name).map PropertySpec.default

/-- The defaults fit the types that they are declared with, and none refers to an object. -/
def DefaultsSafe (d : Definition) : Prop :=
  d.DefaultsFit ∧ ∀ spec ∈ d.properties, spec.default.asProxy = none

instance : DecidablePred DefaultsSafe := fun d =>
  inferInstanceAs (Decidable
    (d.DefaultsFit ∧ ∀ spec ∈ d.properties, spec.default.asProxy = none))

end Definition

namespace Engine

variable {e e' e'' : Engine} {h : Handle} {d : Definition} {ps qs rs : Properties}

/-- A default that is safe is not refused. -/
theorem validate_default (hd : d.DefaultsSafe) {spec : PropertySpec} {name : String}
    (hspec : d.property? name = some spec) (c : ConnectionId) :
    e.validate c d (OrderedMap.ofList [(name, spec.default)]) = .ok () := by
  have hmem := List.mem_of_find?_eq_some hspec
  refine validate_eq_ok_iff.mpr ⟨Definition.admits_singleton hspec (hd.1 spec hmem), ?_⟩
  intro t ht
  have hnone := hd.2 spec hmem
  rw [Properties.mentions_singleton ht] at hnone
  cases hnone

/-! ## Rewriting twice -/

theorem rewritten_refl {r : Record} (hr : e.object? h.connection h.id = some r) :
    e.Rewritten h r.properties r.properties e := by
  obtain ⟨s, hs, hrecord⟩ := Option.bind_eq_some_iff.mp hr
  refine ⟨s, r, hs, hrecord, rfl, ?_⟩
  rw [OrderedMap.insert_of_find? hrecord, OrderedMap.insert_of_find? hs]

theorem Rewritten.trans (h₁ : e.Rewritten h ps qs e') (h₂ : e'.Rewritten h qs rs e'') :
    e.Rewritten h ps rs e'' := by
  obtain ⟨s, r, hs, hr, hps, rfl⟩ := h₁
  obtain ⟨s', r', hs', hr', -, rfl⟩ := h₂
  rw [OrderedMap.find?_insert, if_pos rfl] at hs'
  obtain rfl := Option.some.inj hs'
  rw [OrderedMap.find?_insert, if_pos rfl] at hr'
  obtain rfl := Option.some.inj hr'
  refine ⟨s, r, hs, hr, hps, ?_⟩
  simp only [OrderedMap.insert_insert]

theorem Rewritten.object? (hw : e.Rewritten h ps qs e') :
    ∃ r, e'.object? h.connection h.id = some r ∧ r.properties = qs :=
  properties_eq_ok_iff.mp hw.properties.2

theorem Rewritten.definition? (hw : e.Rewritten h ps qs e') (g : Group) (name : String) :
    e'.definition? g name = e.definition? g name := by
  obtain ⟨s, r, -, -, -, rfl⟩ := hw
  rfl

/-! ## New objects -/

/-- Made without properties, an object has the defaults of its definition and nothing else. -/
theorem exists_create_defaults {camera : Definition}
    (hcamera : e.definition? .cameras "Camera" = some camera) {c : ConnectionId} {g : Group}
    {name : String} (hc : e.isAlive c = true) (hd : e.definition? g name = some d) :
    ∃ made e' ps, create c g name ∅ e = (.ok made, e') ∧ e'.properties made = .ok ps ∧
      ∀ name, ps.find? name = d.default? name := by
  obtain ⟨s, hs⟩ := isAlive_iff.mp hc
  have hb : e.blueprint c g name ∅ = .ok d := by
    rw [blueprint, store_eq_ok_iff.mpr hs, definition_eq_ok_iff.mpr hd]
    rfl
  have hdefaults : ∀ name, (Properties.fillDefaults ∅ d.properties).find? name = d.default? name :=
    fun name => Properties.find?_fillDefaults ∅ d.properties name
  rw [create_of_blueprint hb, hcamera]
  split
  · exact ⟨_, _, _, rfl, properties_eq_ok_iff.mpr ⟨_, object?_addObject_self e c d ∅ hc, rfl⟩,
      hdefaults⟩
  · exact ⟨_, _, _, rfl, properties_eq_ok_iff.mpr ⟨_, object?_addView_self hc, rfl⟩, hdefaults⟩

/-! ## Objects that can be reset -/

/-- The object of the handle is there, with the properties of its definition, and all defaults
are safe. -/
structure Resettable (e : Engine) (h : Handle) : Prop where
  /-- The catalog is fit, and every object conforms to it. -/
  conforming : e.Conforming
  /-- No default refers to an object. -/
  plain : e.Plain
  /-- There is a definition of cameras. -/
  camera : ∃ d, e.definition? .cameras "Camera" = some d
  /-- The object is there under its handle. -/
  object : ∃ r, e.object? h.connection h.id = some r ∧ r.handle = h

theorem Plain.perform (hp : e.Plain) {op : Op}
    (hop : ∀ d, op = .addDefinition d → d.DefaultsSafe) : (perform op e).2.Plain := by
  rcases catalog_perform op e with hsame | ⟨d, rfl⟩
  · unfold Plain
    rw [hsame]
    exact hp
  · intro d' hd'
    rcases List.mem_append.mp hd' with hold | hnew
    · exact hp d' hold
    · exact List.mem_singleton.mp hnew ▸ (hop d rfl).2

theorem Plain.run (hp : e.Plain) {ops : List Op}
    (hops : ∀ d, Op.addDefinition d ∈ ops → d.DefaultsSafe) : (e.run ops).Plain := by
  induction ops generalizing e with
  | nil => exact hp
  | cons op ops ih =>
    exact ih (hp.perform fun d hd => hops d (hd ▸ List.mem_cons_self))
      fun d hd => hops d (List.mem_cons_of_mem _ hd)

theorem resettable_run_new {ops : List Op} (hops : ∀ d, Op.addDefinition d ∈ ops → d.DefaultsSafe)
    (hwrites : new.WritesIssued ops) (hn : (new.run ops).NumbersLeft)
    (hissued : (new.run ops).Issued h) (hlive : (new.run ops).isLive h = true) :
    (new.run ops).Resettable h where
  conforming := conforming_new.run (wellFormed_ofCatalog builtinCatalog)
    (fun d hd => (hops d hd).1) hwrites hn
  plain := plain_new.run hops
  camera := ⟨_, (changes_run new ops).definition? rfl⟩
  object := by
    obtain ⟨r, hr⟩ := isLive_iff.mp hlive
    exact ⟨r, hr, hissued.2 r hr⟩

/-- A change of the properties of the object, successful or not, keeps it such. -/
theorem Resettable.setProperties (hh : e.Resettable h) (ps : Properties) :
    (setProperties h ps e).2.Resettable h := by
  rcases setProperties_cases h ps e with ⟨fault, heq⟩ | ⟨r, d, hr, hd, hps, heq⟩
  · rw [heq]
    exact hh
  obtain ⟨r', hr', hhandle⟩ := hh.object
  obtain rfl := Option.some.inj (hr.symm.trans hr')
  rw [heq]
  refine ⟨Conforming.write hh.conforming fun r' hr' => ⟨d, ?_, (validate_eq_ok_iff.mp hps).1⟩,
    hh.plain, hh.camera, ⟨{ r with properties := r.properties.insertMany ps.entries }, ?_, hhandle⟩⟩
  · obtain rfl := Option.some.inj (hr.symm.trans hr')
    rw [hhandle, hd]
  · rw [object?_write, if_pos ⟨rfl, rfl⟩, hr, Option.map_some]

/-- The definition that the object goes by has safe defaults, and describes the object. -/
theorem Resettable.exists_definition (hh : e.Resettable h) : ∃ r d,
    e.object? h.connection h.id = some r ∧ e.definition? h.group h.definition = some d ∧
      d.DefaultsSafe ∧ d.Describes r.properties := by
  obtain ⟨r, hr, hhandle⟩ := hh.object
  obtain ⟨d, hd, hdescribes⟩ := hh.conforming.objects hr
  rw [hhandle] at hd
  have hmem := List.mem_of_find?_eq_some hd
  exact ⟨r, d, hr, hd, ⟨hh.conforming.defaults d hmem, hh.plain d hmem⟩, hdescribes⟩

end Engine

namespace Session

variable {s : Session} {h : Handle} {d : Definition} {r : Record}

/-! ## One reset -/

/-- The default is that of the definition that objects are made from. -/
theorem defaultOf?_eq (hc : s.engine.isAlive h.connection = true)
    (hd : s.engine.definition? h.group h.definition = some d) (name : String) :
    s.defaultOf? h name = d.default? name := by
  have hfound : (s.engine.definitions h.connection h.group).find?
      (fun d => d.name = h.definition) = some d := by
    rw [Engine.definitions, if_pos hc, List.find?_filter, ← hd, Engine.definition?]
    congr 1
    funext d'
    simp
  simp only [defaultOf?, hfound, Definition.default?, bind, Option.bind_some, pure]
  cases d.property? name <;> rfl

/-- A declared property gets its default. -/
theorem resetProperty_eq (hr : s.engine.object? h.connection h.id = some r)
    (hd : s.engine.definition? h.group h.definition = some d) (hsafe : d.DefaultsSafe)
    {name : String} {v : Value} (hv : d.default? name = some v) :
    ∃ e, resetProperty (some h) name s = (.ok v, { s with engine := e }) ∧
      s.engine.Rewritten h r.properties (r.properties.insert name v) e := by
  obtain ⟨spec, hspec, rfl⟩ := Option.map_eq_some_iff.mp hv
  have hdefault := defaultOf?_eq (Engine.isAlive_of_object? hr) hd name
  have hset := Engine.setProperties_eq hr hd (Engine.validate_default hsafe hspec h.connection)
  refine ⟨_, ?_, Engine.rewritten_write hr (OrderedMap.ofList [(name, spec.default)])⟩
  unfold resetProperty orActive
  rw [Step.bind_ok (Step.pure_apply h s), Step.bind_ok (Step.read_apply _ s), hdefault, hv]
  exact Step.bind_ok (onEngine_ok hset)

/-- What is not declared cannot be reset. -/
theorem resetProperty_undeclared (hc : s.engine.isAlive h.connection = true)
    (hd : s.engine.definition? h.group h.definition = some d) {name : String}
    (hname : d.default? name = none) : resetProperty (some h) name s =
      (.error (.engine (.unknownProperty h.definition name)), s) := by
  unfold resetProperty orActive
  rw [Step.bind_ok (Step.pure_apply h s), Step.bind_ok (Step.read_apply _ s),
    defaultOf?_eq hc hd name, hname]
  rfl

/-! ## All resets -/

/-- Resets properties of an object one after another; the answers are the defaults. -/
def resetEach (h : Handle) : List String → SessionStep (List Value)
  | [] => return []
  | name :: names => do
    let v ← resetProperty (some h) name
    return v :: (← resetEach h names)

/-- Properties that are reset have their defaults, whatever the order, and the others what they
had. -/
theorem resetEach_eq (hr : s.engine.object? h.connection h.id = some r)
    (hd : s.engine.definition? h.group h.definition = some d) (hsafe : d.DefaultsSafe)
    {names : List String} (hnames : ∀ name ∈ names, (d.default? name).isSome)
    (hkeys : ∀ name ∈ names, name ∈ r.properties.keys) :
    ∃ qs e, resetEach h names s = (.ok (names.filterMap d.default?), { s with engine := e }) ∧
      s.engine.Rewritten h r.properties qs e ∧
      (∀ name, qs.find? name =
        if name ∈ names then d.default? name else r.properties.find? name) ∧
      qs.keys = r.properties.keys := by
  induction names generalizing s r with
  | nil => exact ⟨_, _, rfl, Engine.rewritten_refl hr, fun name => (if_neg nofun).symm, rfl⟩
  | cons name names ih =>
    obtain ⟨v, hv⟩ := Option.isSome_iff_exists.mp (hnames name List.mem_cons_self)
    obtain ⟨e, hreset, hw⟩ := resetProperty_eq hr hd hsafe hv
    obtain ⟨r', hr', hps⟩ := hw.object?
    have hkeys' : r'.properties.keys = r.properties.keys := by
      rw [hps, OrderedMap.keys_insert, if_pos (hkeys name List.mem_cons_self)]
    obtain ⟨qs, e', hrest, hw', hfind, hqs⟩ := ih (s := { s with engine := e }) hr'
      ((hw.definition? ..).trans hd) (fun n hn => hnames n (List.mem_cons_of_mem _ hn))
      (fun n hn => hkeys' ▸ hkeys n (List.mem_cons_of_mem _ hn))
    refine ⟨qs, e', ?_, hw.trans (hps ▸ hw'), fun n => ?_, hqs.trans hkeys'⟩
    · rw [resetEach, Step.bind_ok hreset, Step.bind_ok hrest, List.filterMap_cons_some hv]
      rfl
    · rw [hfind, hps, OrderedMap.find?_insert]
      by_cases hn : n ∈ names
      · rw [if_pos hn, if_pos (List.mem_cons_of_mem _ hn)]
      · rw [if_neg hn]
        by_cases heq : name = n
        · rw [if_pos heq, if_pos (heq ▸ List.mem_cons_self), ← heq, hv]
        · rw [if_neg heq, if_neg]
          rw [List.mem_cons]
          exact fun hmem => hmem.elim (fun h => heq h.symm) hn

/-! ## Histories -/

/-- A call that is to change properties of the object, by the session or by its host. -/
inductive Op.Writes (h : Handle) : Op → Prop where
  | set (ps : Properties) : Writes h (.setProperties (some h) ps)
  | reset (name : String) : Writes h (.resetProperty (some h) name)
  | host (ps : Properties) : Writes h (.engine (.setProperties h ps))

/-- The engine sees such a call as a change of properties, or not at all. -/
theorem Op.Writes.engine {op : Op} (hop : op.Writes h) (s : Session) :
    (perform op s).2.engine = s.engine ∨
      ∃ ps, (perform op s).2.engine = (Engine.setProperties h ps s.engine).2 := by
  cases hop with
  | set ps =>
    have hset : (perform (.setProperties (some h) ps) s).2 =
        (Session.setProperties (some h) ps s).2 := Step.snd_bind_pure _ _ s
    have hengine := Step.snd_bind_pure (onEngine (Engine.setProperties h ps)) (fun _ => h) s
    exact Or.inr ⟨ps, by rw [hset]; exact congrArg Session.engine hengine⟩
  | reset name =>
    have hreset : (perform (.resetProperty (some h) name) s).2 =
        (Session.resetProperty (some h) name s).2 := Step.snd_bind_pure _ _ s
    rw [hreset]
    unfold Session.resetProperty orActive
    rw [Step.bind_ok (Step.pure_apply h s), Step.bind_ok (Step.read_apply _ s)]
    cases s.defaultOf? h name with
    | none => exact Or.inl rfl
    | some v =>
      have hengine := Step.snd_bind_pure
        (onEngine (Engine.setProperties h (OrderedMap.ofList [(name, v)]))) (fun _ => v) s
      exact Or.inr ⟨_, congrArg Session.engine hengine⟩
  | host ps =>
    exact Or.inr ⟨ps, Engine.snd_perform_setProperties (e := s.engine) h ps⟩

theorem resettable_run (hh : s.engine.Resettable h) {ops : List Op}
    (hops : ∀ op ∈ ops, op.Writes h) : (s.run ops).engine.Resettable h := by
  induction ops generalizing s with
  | nil => exact hh
  | cons op ops ih =>
    refine ih (s := (perform op s).2) ?_ fun op' hop' => hops op' (List.mem_cons_of_mem _ hop')
    rcases (hops op List.mem_cons_self).engine s with hsame | ⟨ps, hset⟩
    · rwa [hsame]
    · rw [hset]
      exact hh.setProperties ps

/-! ## Defaults restored -/

/-- Properties of the object, which are declared by the definition, can be given their defaults
again. -/
structure Resets (s : Session) (h : Handle) (d : Definition) : Prop where
  /-- Each declared property can be reset. The answer is the default, the property has it, and
  nothing else is changed. -/
  one : ∀ name ∈ d.properties.map PropertySpec.name, ∃ v ps qs e, d.default? name = some v ∧
    resetProperty (some h) name s = (.ok v, { s with engine := e }) ∧
    s.engine.Rewritten h ps qs e ∧ qs.find? name = some v ∧
    (∀ other, other ≠ name → qs.find? other = ps.find? other) ∧ qs.keys = ps.keys
  /-- Other properties cannot, and nothing is changed. -/
  undeclared : ∀ name ∉ d.properties.map PropertySpec.name, resetProperty (some h) name s =
    (.error (.engine (.unknownProperty h.definition name)), s)
  /-- When all declared properties are reset, in any order, the object has the values that a new
  object of the definition has. -/
  all : ∀ names, (∀ name, name ∈ names ↔ name ∈ d.properties.map PropertySpec.name) →
    ∃ ps qs e, resetEach h names s = (.ok (names.filterMap d.default?), { s with engine := e }) ∧
      s.engine.Rewritten h ps qs e ∧ ∃ made e' new,
        Engine.create h.connection h.group h.definition ∅ e = (.ok made, e') ∧
        e'.properties made = .ok new ∧ ∀ name, qs.find? name = new.find? name

/-- An object that can be reset has the declared properties and no others, so writing the default of
each leaves it with what a new object has. -/
theorem resets_of_resettable (hh : s.engine.Resettable h) :
    ∃ d, s.engine.definition? h.group h.definition = some d ∧ s.Resets h d := by
  obtain ⟨r, d, hr, hd, hsafe, hdescribes⟩ := hh.exists_definition
  have hdeclared : ∀ name, (d.default? name).isSome ↔ name ∈ d.properties.map PropertySpec.name :=
    fun name => by rw [Definition.default?, Option.isSome_map, Definition.isSome_property?]
  refine ⟨d, hd, ?_, ?_, ?_⟩
  · intro name hname
    obtain ⟨v, hv⟩ := Option.isSome_iff_exists.mp ((hdeclared name).mpr hname)
    obtain ⟨e, hreset, hw⟩ := resetProperty_eq hr hd hsafe hv
    refine ⟨v, _, _, e, hv, hreset, hw, ?_, fun other hother => ?_, ?_⟩
    · rw [OrderedMap.find?_insert, if_pos rfl]
    · rw [OrderedMap.find?_insert, if_neg (Ne.symm hother)]
    · rw [OrderedMap.keys_insert, if_pos ((hdescribes.names name).mpr hname)]
  · intro name hname
    refine resetProperty_undeclared (Engine.isAlive_of_object? hr) hd ?_
    rwa [← hdeclared, Option.not_isSome_iff_eq_none] at hname
  · intro names hnames
    obtain ⟨qs, e, hreset, hw, hfind, -⟩ := resetEach_eq hr hd hsafe
      (fun name hname => (hdeclared name).mpr ((hnames name).mp hname))
      fun name hname => (hdescribes.names name).mpr ((hnames name).mp hname)
    obtain ⟨r', hr', -⟩ := hw.object?
    obtain ⟨camera, hcamera⟩ := hh.camera
    obtain ⟨made, e', new, hmade, hnew, hdefaults⟩ := Engine.exists_create_defaults
      ((hw.definition? ..).trans hcamera) (Engine.isAlive_of_object? hr')
      ((hw.definition? ..).trans hd)
    refine ⟨_, qs, e, hreset, hw, made, e', new, hmade, hnew, fun name => ?_⟩
    rw [hfind, hdefaults]
    split
    · rfl
    · -- what is not declared the object does not have
      rename_i hname
      rw [hnames, ← hdescribes.names, OrderedMap.mem_keys_iff, Option.not_isSome_iff_eq_none]
        at hname
      have hnone : d.default? name = none := by
        rw [← Option.not_isSome_iff_eq_none, hdeclared, ← hdescribes.names,
          OrderedMap.mem_keys_iff, hname]
        exact Bool.false_ne_true
      rw [hname, hnone]

/-- Whatever was done before and whatever was written into its properties, the properties of an
object can be reset, one by one and all of them. The engine starts with the built-in catalog; the
defaults of added definitions fit their types and refer to nothing, and properties were written
by handles that were given out. -/
theorem resets_restore_defaults {ops : List Engine.Op}
    (hdefaults : ∀ d, Engine.Op.addDefinition d ∈ ops → d.DefaultsSafe)
    (hwrites : Engine.new.WritesIssued ops) (hn : (Engine.new.run ops).NumbersLeft)
    (hissued : (Engine.new.run ops).Issued h) (hlive : (Engine.new.run ops).isLive h = true)
    (hs : s.engine = Engine.new.run ops) {changes : List Op}
    (hchanges : ∀ op ∈ changes, op.Writes h) :
    ∃ d, (s.run changes).engine.definition? h.group h.definition = some d ∧
      (s.run changes).Resets h d := by
  have hh := Engine.resettable_run_new hdefaults hwrites hn hissued hlive
  exact resets_of_resettable (resettable_run (hs ▸ hh) hchanges)

/-- A definition that declares a name twice comes to the catalog, and another one of the same name
after it. An object is made and its size changed; a reset takes the size back to what the first
declaration of the first definition says. -/
theorem resets_restore_defaults_repeated_names :
    let first : Definition :=
      ⟨.sources, "Grid", "Grid", [.int "Size" 3, .float "Size" 1.0, .int "Depth" 2]⟩
    let second : Definition := ⟨.sources, "Grid", "Grid", [.int "Size" 7]⟩
    let grid : Handle := ⟨1, ⟨1⟩, .sources, "Grid"⟩
    let ops : List Engine.Op := [.addDefinition first, .addDefinition second,
      .establish "builtin:", .create ⟨1⟩ .sources "Grid" ∅]
    let s := new "" "" (Engine.new.run ops) .default
    let changes : List Op := [.setProperties (some grid) (OrderedMap.ofList [("Size", .int 5)])]
    (∀ d, Engine.Op.addDefinition d ∈ ops → d.DefaultsSafe) ∧ Engine.new.WritesIssued ops ∧
      (Engine.new.run ops).NumbersLeft ∧ (Engine.new.run ops).Issued grid ∧
      (Engine.new.run ops).isLive grid = true ∧ (∀ op ∈ changes, op.Writes grid) ∧
      (s.run changes).Resets grid first ∧
      (resetEach grid ["Depth", "Size"] (s.run changes)).1 = .ok [.int 2, .int 3] := by
  intro first second grid ops s changes
  have hdefaults : ∀ d, Engine.Op.addDefinition d ∈ ops → d.DefaultsSafe := by
    intro d hd
    have hadded : d = first ∨ d = second := by simpa [ops] using hd
    rcases hadded with rfl | rfl
    · decide
    · decide
  have hwrites : Engine.new.WritesIssued ops :=
    .cons nofun (.cons nofun (.cons nofun (.cons nofun trivial)))
  have hn : (Engine.new.run ops).NumbersLeft := ⟨by decide +kernel, by decide +kernel⟩
  have hlive : (Engine.new.run ops).isLive grid = true := by decide +kernel
  have hissued : (Engine.new.run ops).Issued grid :=
    Engine.issued_of_handle (by decide +kernel) (by decide +kernel)
  have hchanges : ∀ op ∈ changes, op.Writes grid := by
    intro op hop
    exact List.mem_singleton.mp hop ▸ .set _
  obtain ⟨d, hd, hresets⟩ := resets_restore_defaults hdefaults hwrites hn hissued hlive
    (s := s) rfl hchanges
  have hfirst : (s.run changes).engine.definition? .sources "Grid" = some first := by
    refine (changes_run s changes).definition? ?_
    rw [show s.engine = _ from Engine.run_append _ [.addDefinition first] ops.tail]
    exact (Engine.changes_run _ _).definition? rfl
  obtain rfl := Option.some.inj (hfirst.symm.trans hd)
  have hnames : first.properties.map PropertySpec.name = ["Size", "Size", "Depth"] := rfl
  obtain ⟨ps, qs, e, heach, -⟩ := hresets.all ["Depth", "Size"] fun name => by
    simp only [hnames, List.mem_cons, List.not_mem_nil, or_false]
    rw [← or_assoc, or_self, or_comm]
  exact ⟨hdefaults, hwrites, hn, hissued, hlive, hchanges, hresets, congrArg Prod.fst heach⟩

end Session

end VizSession
