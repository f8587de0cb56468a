import VizSession.Proofs.Conformance

/-!
# References between objects

An object refers to another one by a property that holds its handle. What a property refers to
is checked when it is written, and not again : a deletion takes along what attends the deleted
object, and leaves what refers to it as it is.

So a reference leads to an object of the same connection, and to one that is there, unless it
was deleted since (`Engine.Anchored.run`) : a reference that is new was checked
(`Edits.mentions_origin`), the target of an old one goes in a deletion, or with the connection
and everything on it (`isLive_perform_cases`), and what is gone stays away. An object whose
references all lead somewhere can be written back as it is, and no other
(`writeBack_eq_ok_iff`).
-/

namespace VizSession

/-- A reference that is there after properties were written was there or was written. -/
theorem Properties.mentions_insertMany {ps qs : Properties} {t : Handle}
    (h : Properties.Mentions (ps.insertMany qs.entries) t) : ps.Mentions t ∨ qs.Mentions t := by
  obtain ⟨name, h⟩ := h
  rcases OrderedMap.mem_of_find?_insertMany h with hold | hnew
  · exact Or.inl ⟨name, hold⟩
  · exact Or.inr ⟨name, OrderedMap.find?_eq_some_iff.mpr hnew⟩

theorem Properties.mentions_singleton {name : String} {v : Value} {t : Handle}
    (h : Properties.Mentions (OrderedMap.ofList [(name, v)]) t) : v = .proxy t := by
  obtain ⟨_, h⟩ := h
  have hmem := List.mem_singleton.mp (OrderedMap.mem_of_find?_ofList h)
  exact (Prod.mk.inj hmem).2.symm

namespace Engine

variable {e e' : Engine} {c : ConnectionId} {id : UInt64} {t : Handle}

/-! ## The catalog -/

/-- No default refers to an object. -/
def Plain (e : Engine) : Prop :=
  ∀ d ∈ e.catalog, ∀ spec ∈ d.properties, spec.default.asProxy = none

theorem plain_new : new.Plain := by
  unfold Plain
  decide

theorem Plain.of_change (hp : e'.Plain) (h : Change e e') : e.Plain :=
  fun d hd => hp d (h.catalog_subset hd)

/-- What a new object refers to was given. -/
theorem Plain.mentions_newRecord (hp : e.Plain) {g : Group} {name : String} {d : Definition}
    {ps : Properties} (hd : e.definition? g name = some d)
    (h : (e.newRecord c d ps).properties.Mentions t) : ps.Mentions t := by
  obtain ⟨name, h⟩ := h
  rw [newRecord, Properties.find?_fillDefaults, Option.or_eq_some_iff] at h
  rcases h with hgiven | ⟨-, hdefault⟩
  · exact ⟨name, hgiven⟩
  · obtain ⟨spec, hspec, hreference⟩ := Option.map_eq_some_iff.mp hdefault
    have hnone := hp d (List.mem_of_find?_eq_some hd) spec (List.mem_of_find?_eq_some hspec)
    rw [hreference] at hnone
    cases hnone

/-! ## Where references come from -/

/-- What an object refers to after an edit it referred to before, or it was there when the edit
wrote it, on the connection of the object. -/
theorem Edit.mentions_origin (h : Edit e e') (hp : e.Plain) {r' : Record}
    (hr : e'.object? c id = some r') (ht : r'.properties.Mentions t) :
    (∃ r, e.object? c id = some r ∧ r.properties.Mentions t) ∨
      t.connection = c ∧ e.isLive t = true := by
  cases h with
  | count | refuse | define => exact Or.inl ⟨r', hr, ht⟩
  | @make _ d ps hc hd hps =>
    rcases object?_of_addObject hc hr with hold | ⟨rfl, rfl, rfl⟩
    · exact Or.inl ⟨r', hold, ht⟩
    · exact Or.inr ((validate_eq_ok_iff.mp hps).2 t (hp.mentions_newRecord hd ht))
  | @equip c₀ owner r₀ d hown hd =>
    have hlive := isAlive_of_object? hown
    rw [addCamera, object?_linkCamera] at hr
    obtain ⟨r, hadd, hsame⟩ := eq_some_of_ite_map hr
    have ht' : r.properties.Mentions t := by
      rcases hsame with rfl | rfl
      · exact ht
      · exact ht
    rcases object?_of_addObject hlive hadd with hold | ⟨rfl, rfl, rfl⟩
    · exact Or.inl ⟨r, hold, ht'⟩
    · obtain ⟨_, hempty⟩ := hp.mentions_newRecord hd ht'
      cases hempty
  | @represent source view _ _ d hc hs hv hd =>
    rw [object?_addRepresentation e d view (isAlive_of_object? hs)] at hr
    split at hr
    · rename_i hnew
      obtain rfl := Option.some.inj hr
      obtain rfl := Value.proxy.inj
        (Properties.mentions_singleton (hp.mentions_newRecord hd ht))
      exact Or.inr ⟨hnew.1, isLive_of_object? hs⟩
    · exact Or.inl ⟨r', hr, ht⟩
  | rename =>
    rw [object?_rename] at hr
    obtain ⟨r, hold, rfl | rfl⟩ := eq_some_of_ite_map hr
    · exact Or.inl ⟨_, hold, ht⟩
    · exact Or.inl ⟨r, hold, ht⟩
  | @write h _ _ ps hlive hd hps =>
    rw [object?_write] at hr
    split at hr
    · rename_i hid
      obtain ⟨rfl, rfl⟩ := hid
      obtain ⟨r, hold, rfl⟩ := Option.map_eq_some_iff.mp hr
      rcases Properties.mentions_insertMany ht with hmentions | hwritten
      · exact Or.inl ⟨r, hold, hmentions⟩
      · exact Or.inr ((validate_eq_ok_iff.mp hps).2 t hwritten)
    · exact Or.inl ⟨r', hr, ht⟩
  | display =>
    rw [Engine.display, object?_write] at hr
    obtain ⟨r, hold, rfl | rfl⟩ := eq_some_of_ite_map hr
    · exact Or.inl ⟨_, hold, ht⟩
    · rcases Properties.mentions_insertMany ht with hmentions | hwritten
      · exact Or.inl ⟨r, hold, hmentions⟩
      · cases Properties.mentions_singleton hwritten

/-- An object that was there when an edit wrote a reference to it is there after all edits. -/
theorem Edits.mentions_origin (h : Edits e e') (we : e.WellFormed) (hn : e'.NumbersLeft)
    (hp : e'.Plain) {r' : Record} (hr : e'.object? c id = some r')
    (ht : r'.properties.Mentions t) :
    (∃ r, e.object? c id = some r ∧ r.properties.Mentions t) ∨
      t.connection = c ∧ e'.isLive t = true := by
  induction h generalizing r' with
  | refl => exact Or.inl ⟨r', hr, ht⟩
  | tail hedits hstep ih =>
    have hn' := hn.of_change (.edit hstep)
    have hp' := hp.of_change (.edit hstep)
    have hretains := hstep.retains (we.changes (Edits.changes hedits) hn') hn'
    rcases hstep.mentions_origin hp' hr ht with ⟨r, hr, ht⟩ | ⟨hc, hlive⟩
    · exact (ih hn' hp' hr ht).imp_right fun h => ⟨h.1, hretains.isLive h.2⟩
    · exact Or.inr ⟨hc, hretains.isLive hlive⟩

/-- After an operation an object refers to what it referred to before, or to an object that is
there, on its own connection : only edits write properties. -/
theorem mentions_perform_origin (we : e.WellFormed) {op : Op}
    (hn : (perform op e).2.NumbersLeft) (hp : (perform op e).2.Plain) {r' : Record}
    (hr : (perform op e).2.object? c id = some r') (ht : r'.properties.Mentions t) :
    (∃ r, e.object? c id = some r ∧ r.properties.Mentions t) ∨
      t.connection = c ∧ (perform op e).2.isLive t = true := by
  rcases perform_cases op e with h | ⟨url, stats, -, h⟩ | ⟨c', stats, -, hc, h⟩ |
    ⟨x, r, -, -, h⟩
  · exact h.mentions_origin we hn hp hr ht
  · rw [h, object?_withConnection] at hr
    split at hr
    · cases hr
    · exact Or.inl ⟨r', hr, ht⟩
  · rw [h, object?_without] at hr
    split at hr
    · cases hr
    · exact Or.inl ⟨r', hr, ht⟩
  · rw [h] at hr
    exact Or.inl ⟨r', ((object?_remove ..).mp hr).1, ht⟩

/-- An object goes in a deletion, or with its connection. -/
theorem isLive_perform_cases (we : e.WellFormed) {op : Op} (hn : (perform op e).2.NumbersLeft)
    (ht : e.isLive t = true) :
    (perform op e).2.isLive t = true ∨ (∃ x, op = .delete x) ∨
      (perform op e).2.isAlive t.connection = false := by
  have hn₀ := hn.of_changes (changes_perform op e)
  rcases perform_cases op e with h | ⟨url, stats, -, h⟩ | ⟨c', stats, -, hc, h⟩ |
    ⟨x, r, hop, -, -⟩
  · exact Or.inl ((h.retains we hn).isLive ht)
  · rw [h]
    have hcount : Change e { e with stats := stats } := .edit (.count e stats)
    exact Or.inl ((retains_withConnection (we.change hcount hn₀) hn₀).isLive ht)
  · rw [h]
    by_cases hsame : c' = t.connection
    · refine Or.inr (Or.inr (Bool.eq_false_iff.mpr fun halive => ?_))
      exact ((isAlive_without ..).mp halive).1 hsame
    · obtain ⟨r, hr⟩ := isLive_iff.mp ht
      refine Or.inl (isLive_iff.mpr ⟨r, ?_⟩)
      rw [object?_without, if_neg hsame]
      exact hr
  · exact Or.inr (Or.inl ⟨x, hop⟩)

/-! ## Runs -/

/-- What objects refer to is on their connection, and it is there. -/
def Anchored (e : Engine) : Prop :=
  ∀ c id r t, e.object? c id = some r → r.properties.Mentions t →
    t.connection = c ∧ e.isLive t = true

/-- In the course of the operations the object of the handle goes in a deletion. -/
def Deletes (e : Engine) (ops : List Op) (t : Handle) : Prop :=
  ∃ pre x post, ops = pre ++ Op.delete x :: post ∧ (e.run pre).isLive t = true ∧
    (perform (.delete x) (e.run pre)).2.isLive t = false

theorem Deletes.append {ops : List Op} (h : e.Deletes ops t) (rest : List Op) :
    e.Deletes (ops ++ rest) t := by
  obtain ⟨pre, x, post, rfl, hdeleted⟩ := h
  exact ⟨pre, x, post ++ rest, by simp, hdeleted⟩

/-- An object that goes in a deletion is gone at the end of the run. -/
theorem Deletes.isLive_eq_false {ops : List Op} (h : e.Deletes ops t) (we : e.WellFormed)
    (hn : (e.run ops).NumbersLeft) : (e.run ops).isLive t = false := by
  obtain ⟨pre, x, post, rfl, hlive, hgone⟩ := h
  have hsplit : e.run (pre ++ .delete x :: post) = (perform (.delete x) (e.run pre)).2.run post :=
    run_append e pre (.delete x :: post)
  rw [hsplit] at hn ⊢
  have hdelete := changes_perform (.delete x) (e.run pre)
  have hpost := changes_run (perform (.delete x) (e.run pre)).2 post
  have we' := we.changes (changes_run e pre) ((hn.of_changes hpost).of_changes hdelete)
  obtain ⟨r, hr⟩ := isLive_iff.mp hlive
  exact hpost.isLive_eq_false hn
    (Nat.lt_of_lt_of_le (we'.object_lt hr) hdelete.counters.1) hgone

/-- What an object refers to is on its connection, and it is there or was deleted. -/
theorem Anchored.run (ha : e.Anchored) (hp : e.Plain) (we : e.WellFormed) {ops : List Op}
    (hops : ∀ d, Op.addDefinition d ∉ ops) (hn : (e.run ops).NumbersLeft) {r : Record}
    (hr : (e.run ops).object? c id = some r) (ht : r.properties.Mentions t) :
    t.connection = c ∧ ((e.run ops).isLive t = true ∨ e.Deletes ops t) := by
  induction ops using List.reverseRecOn generalizing c id r with
  | nil =>
    obtain ⟨hc, hlive⟩ := ha c id r t hr ht
    exact ⟨hc, Or.inl hlive⟩
  | append_singleton ops op ih =>
    -- the operation wrote the reference, which was checked then, or it may have taken its target
    have hp' : (e.run (ops ++ [op])).Plain := by
      unfold Plain
      rw [catalog_run hops]
      exact hp
    have hrun : e.run (ops ++ [op]) = (Engine.perform op (e.run ops)).2 := run_append e ops [op]
    rw [hrun] at hn hr hp' ⊢
    have hn' := hn.of_changes (changes_perform op _)
    have we' := we.changes (changes_run e ops) hn'
    rcases mentions_perform_origin we' hn hp' hr ht with ⟨r₀, hr₀, ht₀⟩ | ⟨hc, hlive⟩
    · obtain ⟨hc, hlive | hdeleted⟩ :=
        ih (fun d hd => hops d (List.mem_append_left _ hd)) hn' hr₀ ht₀
      · refine ⟨hc, ?_⟩
        rcases isLive_perform_cases we' hn hlive with hstays | ⟨x, rfl⟩ | hended
        · exact Or.inl hstays
        · cases hafter : (Engine.perform (.delete x) (e.run ops)).2.isLive t with
          | true => exact Or.inl rfl
          | false => exact Or.inr ⟨ops, x, [], rfl, hlive, hafter⟩
        · -- the connection cannot have ended, since what refers to the target is on it
          rw [hc, isAlive_of_object? hr] at hended
          cases hended
      · exact ⟨hc, Or.inr (hdeleted.append [op])⟩
    · exact ⟨hc, Or.inl hlive⟩

/-- An object's own properties can be written back exactly when what they refer to is there, on
the connection of the object. -/
theorem Conforming.writeBack_eq_ok_iff (h : e.Conforming) {x : Handle} (hx : e.Issued x)
    {ps : Properties} (hps : e.properties x = .ok ps) :
    (Engine.setProperties x ps e).1 = .ok () ↔
      ∀ t, ps.Mentions t → t.connection = x.connection ∧ e.isLive t = true := by
  obtain ⟨r, hrecord, rfl⟩ := Step.ok_of_map hps
  have hr := record_eq_ok_iff.mp hrecord
  obtain ⟨d, hd, hdescribes⟩ := h.objects hr
  rw [hx.2 r hr] at hd
  constructor
  · intro hok
    rcases setProperties_cases x r.properties e with ⟨fault, heq⟩ | ⟨r', d', -, -, hvalid, -⟩
    · rw [heq] at hok
      cases hok
    · exact (validate_eq_ok_iff.mp hvalid).2
  · intro hrefs
    rw [setProperties_eq hr hd (validate_eq_ok_iff.mpr ⟨hdescribes.values, hrefs⟩)]

end Engine

/-- In a run with the built-in catalog, whatever it does, what an object refers to is on the
connection of the object, and it is there unless a deletion took it. Writing back the
properties of an object succeeds exactly when everything they refer to is there. Properties
have to be written by handles that were given out, and the engine has numbers left for what it
makes. -/
theorem references_run_new (ops : List Engine.Op) (hops : ∀ d, Engine.Op.addDefinition d ∉ ops)
    (hissued : Engine.new.WritesIssued ops) (hn : (Engine.new.run ops).NumbersLeft) :
    let e := Engine.new.run ops
    (∀ c id r t, e.object? c id = some r → r.properties.Mentions t →
      t.connection = c ∧ (e.isLive t = true ↔ ¬Engine.new.Deletes ops t)) ∧
    ∀ x ps, e.Issued x → e.properties x = .ok ps →
      ((Engine.setProperties x ps e).1 = .ok () ↔ ∀ t, ps.Mentions t → e.isLive t = true) := by
  intro e
  have we : Engine.new.WellFormed := Engine.wellFormed_ofCatalog builtinCatalog
  have hempty : Engine.new.Anchored := fun c id r t hr => by cases hr
  have hrefs : ∀ c id r t, e.object? c id = some r → r.properties.Mentions t →
      t.connection = c ∧ (e.isLive t = true ∨ Engine.new.Deletes ops t) :=
    fun c id r t hr ht => hempty.run Engine.plain_new we hops hn hr ht
  have hconform : e.Conforming :=
    Engine.conforming_new.run we (fun d hd => absurd hd (hops d)) hissued hn
  constructor
  · intro c id r t hr ht
    obtain ⟨hc, hthere⟩ := hrefs c id r t hr ht
    refine ⟨hc, fun hlive hdeleted => ?_, hthere.resolve_right⟩
    rw [hdeleted.isLive_eq_false we hn] at hlive
    cases hlive
  · intro x ps hx hps
    rw [hconform.writeBack_eq_ok_iff hx hps]
    refine ⟨fun h t ht => (h t ht).2, fun h t ht => ⟨?_, h t ht⟩⟩
    obtain ⟨r, hr, rfl⟩ := Step.ok_of_map hps
    exact (hrefs _ _ r t (Engine.record_eq_ok_iff.mp hr) ht).1

/-- A filter of a cone refers to the cone, also after another source was deleted, and its
properties can be written back. -/
theorem references_shrunk_cone :
    let sphere : Handle := ⟨1, ⟨1⟩, .sources, "SphereSource"⟩
    let cone : Handle := ⟨2, ⟨1⟩, .sources, "ConeSource"⟩
    let shrink : Handle := ⟨3, ⟨1⟩, .sources, "ShrinkFilter"⟩
    let ops : List Engine.Op :=
      [.establish "builtin:", .create ⟨1⟩ .sources "SphereSource" ∅,
        .create ⟨1⟩ .sources "ConeSource" ∅,
        .create ⟨1⟩ .sources "ShrinkFilter" (OrderedMap.ofList [("Input", .proxy cone)]),
        .delete sphere]
    let e := Engine.new.run ops
    (∀ d, Engine.Op.addDefinition d ∉ ops) ∧ Engine.new.WritesIssued ops ∧ e.NumbersLeft ∧
      e.Issued shrink ∧ ¬Engine.new.Deletes ops cone ∧
      ∃ ps, e.properties shrink = .ok ps ∧ ps.Mentions cone ∧
        (Engine.setProperties shrink ps e).1 = .ok () := by
  intro sphere cone shrink ops e
  have hops : ∀ d, Engine.Op.addDefinition d ∉ ops := by
    intro d hd
    simp [ops] at hd
  have hissued : Engine.new.WritesIssued ops :=
    .cons nofun (.cons nofun (.cons nofun (.cons nofun (.cons nofun trivial))))
  have hn : e.NumbersLeft := ⟨by decide, by decide⟩
  have hshrink : e.Issued shrink := ⟨by decide, fun r hr => by cases hr; rfl⟩
  let ps : Properties :=
    OrderedMap.ofList [("Input", .proxy cone), ("ShrinkFactor", .float 0.5)]
  have hps : e.properties shrink = .ok ps := rfl
  have hcone : ps.Mentions cone := ⟨"Input", rfl⟩
  have hlive : e.isLive cone = true := rfl
  obtain ⟨hrefs, hwrite⟩ := references_run_new ops hops hissued hn
  refine ⟨hops, hissued, hn, hshrink, ?_, ps, hps, hcone, ?_⟩
  · obtain ⟨r, hr, hown⟩ := Step.ok_of_map hps
    exact (hrefs _ _ r cone (Engine.record_eq_ok_iff.mp hr) (hown ▸ hcone)).2.mp hlive
  · refine (hwrite shrink ps hshrink hps).mpr ?_
    rintro t ⟨name, ht⟩
    have hmem := OrderedMap.mem_of_find?_ofList ht
    obtain ⟨-, rfl⟩ : name = "Input" ∧ t = cone := by simpa using hmem
    exact hlive

/-- A sphere is the input of a filter, and it is deleted. The filter refers to the sphere still,
and its own properties are refused when they are written back. -/
theorem deleted_input_stays_behind :
    let sphere : Handle := ⟨1, ⟨1⟩, .sources, "SphereSource"⟩
    let shrink : Handle := ⟨2, ⟨1⟩, .sources, "ShrinkFilter"⟩
    let ops : List Engine.Op :=
      [.establish "builtin:", .create ⟨1⟩ .sources "SphereSource" ∅,
        .create ⟨1⟩ .sources "ShrinkFilter" (OrderedMap.ofList [("Input", .proxy sphere)])]
    let e := (Engine.perform (.delete sphere) (Engine.new.run ops)).2
    (Engine.new.run ops).Issued sphere ∧
      ∃ r, e.record shrink = .ok r ∧ r.handle = shrink ∧ r.properties.Mentions sphere ∧
        e.isLive sphere = false ∧
        Engine.setProperties shrink r.properties e =
          (.error (.invalidProperty "Input" (.foreignObject sphere ⟨1⟩)), e) := by
  intro sphere shrink ops e
  have hissued : (Engine.new.run ops).Issued sphere :=
    ⟨by decide, fun r hr => by cases hr; rfl⟩
  exact ⟨hissued, _, rfl, rfl, ⟨"Input", rfl⟩, rfl, rfl⟩

end VizSession
