import VizSession.Proofs.Conformance
import VizSession.Proofs.Additions

/-!
# Changes of properties

Properties of an object are changed all or none. What a definition has against a value is said
beside the check by `Engine.Refuses`, case by case, and the first entry that is refused is the
fault of the whole call (`Engine.FirstRefused`, `validate_eq_error_iff`). A call for a new object
with the same properties makes the same checks in the same order, so one fails exactly as the
other does (`setProperties_error_iff`, `create_error_iff`).

A change that succeeds differs from the engine before in the properties of the object alone
(`Engine.Rewritten`), which have the given values under the given names and are otherwise as they
were. No property comes in addition : what is written is declared, and an object has all that its
definition declares (`Engine.Endowed`), in every state that operations lead to
(`endowed_of_reachable`). The whole is `properties_change_all_or_none`.
-/

namespace VizSession

namespace Engine

variable {e e' : Engine} {c : ConnectionId} {d : Definition} {h : Handle} {ps : Properties}
  {fault : EngineError}

/-! ## What is refused -/

/-- The definition refuses the value for the property, and this is why. -/
inductive Refuses (e : Engine) (c : ConnectionId) (d : Definition) (name : String) :
    Value → EngineError → Prop where
  /-- The property is not declared. -/
  | undeclared {v : Value} (hname : d.property? name = none) :
      Refuses e c d name v (.unknownProperty d.name name)
  /-- The value does not fit the type that the property is first declared with. -/
  | misfit {v : Value} {spec : PropertySpec} (hspec : d.property? name = some spec)
      (hv : spec.type.admits v = false) :
      Refuses e c d name v
        (.invalidProperty name (.typeMismatch spec.type.typeName v.typeName))
  /-- The value refers to an object of another connection, or to one that is not there. -/
  | foreign {t : Handle} {spec : PropertySpec} (hspec : d.property? name = some spec)
      (hv : spec.type.admits (.proxy t) = true) (ht : t.connection = c → e.isLive t = false) :
      Refuses e c d name (.proxy t) (.invalidProperty name (.foreignObject t c))

/-- Of the properties, in their order, some are accepted, and the next one is refused. -/
def FirstRefused (e : Engine) (c : ConnectionId) (d : Definition) (ps : Properties)
    (fault : EngineError) : Prop :=
  ∃ before name v after, ps.entries = before ++ (name, v) :: after ∧
    e.Refuses c d name v fault ∧ ∀ p ∈ before, ∀ f, ¬e.Refuses c d p.1 p.2 f

/-- The three reasons are those of the check of one property, which looks for them in this order. -/
theorem refuses_iff {name : String} {v : Value} :
    e.Refuses c d name v fault ↔ e.propertyFault? c d name v = some fault := by
  constructor
  · rintro (hname | ⟨hspec, hv⟩ | ⟨hspec, hv, ht⟩)
    · simp [propertyFault?, hname]
    · simp [propertyFault?, hspec, hv]
    · simpa [propertyFault?, hspec, hv, imp_iff_not_or] using ht
  · intro hfault
    unfold propertyFault? at hfault
    cases hspec : d.property? name with
    | none =>
      rw [hspec] at hfault
      exact Option.some.inj hfault ▸ .undeclared hspec
    | some spec =>
      cases hv : spec.type.admits v with
      | false =>
        simp only [hspec, hv, Bool.not_false, if_true, Option.some.injEq] at hfault
        exact hfault ▸ .misfit hspec hv
      | true =>
        simp only [hspec, hv, Bool.not_true, Bool.false_eq_true, if_false] at hfault
        cases v with
        | proxy t =>
          dsimp only at hfault
          split at hfault
          · rename_i ht
            refine Option.some.inj hfault ▸ .foreign hspec hv fun hc => ?_
            simpa [hc] using ht
          · cases hfault
        | _ => cases hfault

/-- The fault of properties is that of the first one that is refused. -/
theorem validate_eq_error_iff :
    e.validate c d ps = .error fault ↔ e.FirstRefused c d ps fault := by
  have hvalidate : e.validate c d ps = .error fault ↔
      ps.entries.findSome? (fun p => e.propertyFault? c d p.1 p.2) = some fault := by
    unfold validate
    cases ps.entries.findSome? fun p => e.propertyFault? c d p.1 p.2 <;> simp
  have hnone : ∀ p : String × Value, e.propertyFault? c d p.1 p.2 = none ↔
      ∀ f, ¬e.Refuses c d p.1 p.2 f := fun p => by
    simp [refuses_iff, Option.eq_none_iff_forall_ne_some]
  rw [hvalidate, List.findSome?_eq_some_iff]
  simp only [FirstRefused, refuses_iff, Prod.exists, hnone]

/-! ## Making and changing fail alike -/

/-- The checks before a change of properties are those before a creation. -/
theorem setProperties_error_iff (hlive : e.isLive h = true) :
    (setProperties h ps e).1 = .error fault ↔
      e.blueprint h.connection h.group h.definition ps = .error fault := by
  obtain ⟨r, hr⟩ := isLive_iff.mp hlive
  obtain ⟨s, hs, -⟩ := Option.bind_eq_some_iff.mp hr
  unfold setProperties blueprint
  rw [record_eq_ok_iff.mpr hr, store_eq_ok_iff.mpr hs]
  cases e.definition h.group h.definition with
  | error missing => simp [bind, Except.bind]
  | ok d =>
    cases hv : e.validate h.connection d ps <;> simp [bind, Except.bind, hv, pure, Except.pure]

/-- With a definition of cameras, nothing but the checks makes a creation fail. -/
theorem create_error_iff {camera : Definition}
    (hcamera : e.definition? .cameras "Camera" = some camera) {g : Group} {name : String} :
    (create c g name ps e).1 = .error fault ↔ e.blueprint c g name ps = .error fault := by
  cases hb : e.blueprint c g name ps with
  | error refusal => simp [create, hb]
  | ok d =>
    obtain ⟨made, e', hmade⟩ := exists_create_eq_ok hb fun hlacks => by
      rw [hlacks.camera] at hcamera
      cases hcamera
    simp [hmade]

theorem blueprint_error_iff (hc : e.isAlive c = true) {g : Group} {name : String}
    (hd : e.definition? g name = some d) :
    e.blueprint c g name ps = .error fault ↔ e.FirstRefused c d ps fault := by
  obtain ⟨s, hs⟩ := isAlive_iff.mp hc
  rw [← validate_eq_error_iff, blueprint, store_eq_ok_iff.mpr hs, definition_eq_ok_iff.mpr hd]
  cases hv : e.validate c d ps <;> simp [bind, Except.bind, hv, pure, Except.pure]

/-! ## What an object has -/

/-- The object has every property that its definition declares. -/
def Endows (e : Engine) (r : Record) : Prop :=
  ∃ d, e.definition? r.handle.group r.handle.definition = some d ∧
    ∀ spec ∈ d.properties, spec.name ∈ r.properties.keys

/-- Every object has every property that its definition declares. -/
def Endowed (e : Engine) : Prop := ∀ c id r, e.object? c id = some r → e.Endows r

theorem endows_newRecord {g : Group} {name : String} (hd : e.definition? g name = some d)
    (c : ConnectionId) (ps : Properties) : e.Endows (e.newRecord c d ps) := by
  obtain ⟨rfl, rfl⟩ := group_name_of_definition? hd
  exact ⟨d, hd, fun spec hspec =>
    Properties.mem_keys_fillDefaults.mpr (Or.inr ⟨spec, hspec, rfl⟩)⟩

/-- Definitions stay, and so does what an object has under its handle. -/
theorem Endows.mono {r r' : Record} (hr : e.Endows r) (hchange : Change e e')
    (hhandle : r'.handle = r.handle) (hkeys : r.properties.keys ⊆ r'.properties.keys) :
    e'.Endows r' := by
  obtain ⟨d, hd, hall⟩ := hr
  refine ⟨d, ?_, fun spec hspec => hkeys (hall spec hspec)⟩
  rw [hhandle]
  exact hchange.definition? hd

/-- An object that is there after an edit was there, with the same handle and no property more,
or it was made from a definition. -/
theorem Edit.endowed_origin (hedit : Edit e e') {id : UInt64} {r' : Record}
    (hr : e'.object? c id = some r') :
    ∃ r, r'.handle = r.handle ∧ r.properties.keys ⊆ r'.properties.keys ∧
      (e.object? c id = some r ∨
        ∃ g name d ps, e.definition? g name = some d ∧ r = e.newRecord c d ps) := by
  have hsame := fun r : Record => List.Subset.refl r.properties.keys
  have hwritten : ∀ (ps qs : Properties), ps.keys ⊆ (ps.insertMany qs.entries).keys :=
    fun ps qs name hname => OrderedMap.mem_keys_insertMany.mpr (Or.inl hname)
  cases hedit with
  | count | refuse | define => exact ⟨r', rfl, hsame r', Or.inl hr⟩
  | @make c₀ d ps hc hd hps =>
    rcases object?_of_addObject hc hr with hold | ⟨rfl, -, rfl⟩
    · exact ⟨r', rfl, hsame r', Or.inl hold⟩
    · exact ⟨_, rfl, hsame _, Or.inr ⟨_, _, d, ps, hd, rfl⟩⟩
  | @equip c₀ owner r₀ d hown hd =>
    rw [addCamera, object?_linkCamera] at hr
    obtain ⟨r, hadd, hlinked⟩ := eq_some_of_ite_map hr
    have hkeeps : r'.handle = r.handle ∧ r.properties.keys ⊆ r'.properties.keys := by
      rcases hlinked with rfl | rfl
      · exact ⟨rfl, hsame _⟩
      · exact ⟨rfl, hsame r⟩
    rcases object?_of_addObject (isAlive_of_object? hown) hadd with hold | ⟨rfl, -, rfl⟩
    · exact ⟨r, hkeeps.1, hkeeps.2, Or.inl hold⟩
    · exact ⟨_, hkeeps.1, hkeeps.2, Or.inr ⟨_, _, d, ∅, hd, rfl⟩⟩
  | @represent source view _ _ d hc hs hv hd =>
    rw [object?_addRepresentation e d view (isAlive_of_object? hs)] at hr
    split at hr
    · rename_i hnew
      obtain ⟨rfl, -⟩ := hnew
      obtain rfl := Option.some.inj hr
      exact ⟨_, rfl, hsame _, Or.inr ⟨_, _, d, _, hd, rfl⟩⟩
    · exact ⟨r', rfl, hsame r', Or.inl hr⟩
  | rename =>
    rw [object?_rename] at hr
    obtain ⟨r, hold, rfl | rfl⟩ := eq_some_of_ite_map hr
    · exact ⟨_, rfl, hsame _, Or.inl hold⟩
    · exact ⟨r, rfl, hsame r, Or.inl hold⟩
  | write =>
    rw [object?_write] at hr
    obtain ⟨r, hold, rfl | rfl⟩ := eq_some_of_ite_map hr
    · exact ⟨_, rfl, hsame _, Or.inl hold⟩
    · exact ⟨r, rfl, hwritten _ _, Or.inl hold⟩
  | display =>
    rw [Engine.display, object?_write] at hr
    obtain ⟨r, hold, rfl | rfl⟩ := eq_some_of_ite_map hr
    · exact ⟨_, rfl, hsame _, Or.inl hold⟩
    · exact ⟨r, rfl, hwritten _ _, Or.inl hold⟩

theorem Endowed.change (he : e.Endowed) (hchange : Change e e') : e'.Endowed := by
  intro c id r' hr
  rcases hchange.object_cases hr with hold | hedit
  · exact (he c id r' hold).mono hchange rfl (List.Subset.refl _)
  · obtain ⟨r, hhandle, hkeys, hold | ⟨g, name, d, ps, hd, rfl⟩⟩ := hedit.endowed_origin hr
    · exact (he c id r hold).mono hchange hhandle hkeys
    · exact (endows_newRecord hd c ps).mono hchange hhandle hkeys

theorem endowed_of_reachable (he : e.Reachable) : e.Endowed := by
  obtain ⟨catalog, ops, rfl⟩ := he
  refine (changes_run _ ops).keeps (fun e e' hstep (he : e.Endowed) => he.change hstep) ?_
  intro c id r hr
  cases hr

/-! ## What a change leaves -/

/-- Nothing differs but the properties of the object of the handle, which were `ps` and are `qs`.
The object keeps its place, its name and its camera. -/
def Rewritten (e : Engine) (h : Handle) (ps qs : Properties) (e' : Engine) : Prop :=
  ∃ s r, e.connections.find? h.connection = some s ∧ s.records.find? h.id = some r ∧
    r.properties = ps ∧
    e' = { e with
      connections := e.connections.insert h.connection
        { s with records := s.records.insert h.id { r with properties := qs } } }

theorem rewritten_write {r : Record} (hr : e.object? h.connection h.id = some r)
    (ps : Properties) : e.Rewritten h r.properties (r.properties.insertMany ps.entries)
      (e.updateStore h.connection fun s => s.write h.id ps) := by
  obtain ⟨s, hs, hrecord⟩ := Option.bind_eq_some_iff.mp hr
  refine ⟨s, r, hs, hrecord, rfl, ?_⟩
  rw [updateStore, OrderedMap.modify_eq_insert hs, Store.write, OrderedMap.modify_eq_insert hrecord]

/-- The two lists of properties are those that the object has before and after. -/
theorem Rewritten.properties {qs : Properties} (hw : e.Rewritten h ps qs e') :
    e.properties h = .ok ps ∧ e'.properties h = .ok qs := by
  obtain ⟨s, r, hs, hr, rfl, rfl⟩ := hw
  refine ⟨properties_eq_ok_iff.mpr ⟨r, Option.bind_eq_some_iff.mpr ⟨s, hs, hr⟩, rfl⟩,
    properties_eq_ok_iff.mpr ⟨{ r with properties := qs }, ?_, rfl⟩⟩
  simp [object?, Store.record?, OrderedMap.find?_insert]

/-- Properties of an object are changed all or none. -/
structure ChangesAllOrNone (e : Engine) (h : Handle) (ps : Properties) : Prop where
  /-- The change fails exactly if a new object cannot be made with the properties, and for the
  same reason. -/
  error_iff_create : ∀ fault, (setProperties h ps e).1 = .error fault ↔
    (create h.connection h.group h.definition ps e).1 = .error fault
  /-- That is what the definition has against the first property that it refuses. -/
  error_iff_first : ∀ fault, (setProperties h ps e).1 = .error fault ↔
    ∃ d, e.definition? h.group h.definition = some d ∧ e.FirstRefused h.connection d ps fault
  /-- Then nothing is changed. -/
  unchanged : ∀ fault, (setProperties h ps e).1 = .error fault → (setProperties h ps e).2 = e
  /-- Otherwise nothing but the properties of the object is changed : the given ones have the
  given values, the others theirs, and each has its place. -/
  changed : (setProperties h ps e).1 = .ok () → ∃ old new,
    e.Rewritten h old new (setProperties h ps e).2 ∧
      (∀ name, new.find? name = (ps.find? name).or (old.find? name)) ∧ new.keys = old.keys

/-- In every state that operations lead to from a catalog with a definition of cameras, the
properties of an object that is there are changed all or none. -/
theorem properties_change_all_or_none (he : e.Reachable) {camera : Definition}
    (hcamera : e.definition? .cameras "Camera" = some camera) (hissued : e.Issued h)
    (hlive : e.isLive h = true) (ps : Properties) : e.ChangesAllOrNone h ps := by
  obtain ⟨r, hr⟩ := isLive_iff.mp hlive
  obtain ⟨d, hd, hall⟩ := endowed_of_reachable he h.connection h.id r hr
  rw [hissued.2 r hr] at hd
  have hfirst : ∀ fault, (setProperties h ps e).1 = .error fault ↔
      e.FirstRefused h.connection d ps fault := fun fault =>
    (setProperties_error_iff hlive).trans (blueprint_error_iff (isAlive_of_object? hr) hd)
  constructor
  case error_iff_create =>
    exact fun fault => (setProperties_error_iff hlive).trans (create_error_iff hcamera).symm
  case error_iff_first =>
    intro fault
    rw [hfirst]
    refine ⟨fun h => ⟨d, hd, h⟩, ?_⟩
    rintro ⟨d', hd', h⟩
    exact Option.some.inj (hd.symm.trans hd') ▸ h
  case unchanged =>
    intro fault hfault
    rcases setProperties_cases h ps e with ⟨f, heq⟩ | ⟨r', d', -, -, -, heq⟩
    · rw [heq]
    · rw [heq] at hfault
      cases hfault
  case changed =>
    intro hok
    rcases setProperties_cases h ps e with ⟨f, heq⟩ | ⟨r', d', hr', hd', hps, heq⟩
    · rw [heq] at hok
      cases hok
    obtain rfl := Option.some.inj (hr.symm.trans hr')
    obtain rfl := Option.some.inj (hd.symm.trans hd')
    rw [heq]
    refine ⟨_, _, rewritten_write hr ps, OrderedMap.find?_insertMany_entries r.properties ps,
      OrderedMap.keys_insertMany_of_mem fun name hname => ?_⟩
    -- what is written is declared, so the object has it
    obtain ⟨v, hv⟩ := Option.isSome_iff_exists.mp (OrderedMap.mem_keys_iff.mp hname)
    obtain ⟨spec, hspec, -⟩ := (validate_eq_ok_iff.mp hps).1 name v hv
    have hname : spec.name = name := by simpa using List.find?_some hspec
    exact hname ▸ hall spec (List.mem_of_find?_eq_some hspec)

/-- A cone is to get a radius, which it would take, and then a resolution that is a text : it gets
neither, and a cone with them is refused for the same reason. Its height and its radius it gets
where they are. -/
theorem properties_change_all_or_none_cone :
    let e := new.run [.establish "builtin:", .create ⟨1⟩ .sources "ConeSource" ∅]
    let cone : Handle := ⟨1, ⟨1⟩, .sources, "ConeSource"⟩
    let bad : Properties := OrderedMap.ofList [("Radius", .float 2.0), ("Resolution", .text "many")]
    let good : Properties := OrderedMap.ofList [("Radius", .float 2.0), ("Height", .float 4.0)]
    let fault : EngineError := .invalidProperty "Resolution" (.typeMismatch "int" "string")
    e.Reachable ∧ (∃ camera, e.definition? .cameras "Camera" = some camera) ∧ e.Issued cone ∧
      e.isLive cone = true ∧ e.ChangesAllOrNone cone bad ∧ e.ChangesAllOrNone cone good ∧
      (setProperties cone bad e).1 = .error fault ∧
      (create ⟨1⟩ .sources "ConeSource" bad e).1 = .error fault ∧
      (setProperties cone good e).1 = .ok () := by
  intro e cone bad good fault
  have he : e.Reachable := ⟨builtinCatalog, _, rfl⟩
  obtain ⟨camera, hcamera⟩ : ∃ camera, e.definition? .cameras "Camera" = some camera := ⟨_, rfl⟩
  have hissued : e.Issued cone := issued_of_handle (by decide +kernel) (by decide +kernel)
  have hlive : e.isLive cone = true := rfl
  have hbad := properties_change_all_or_none he hcamera hissued hlive bad
  have hgood := properties_change_all_or_none he hcamera hissued hlive good
  have hfault : (setProperties cone bad e).1 = .error fault := rfl
  exact ⟨he, ⟨camera, hcamera⟩, hissued, hlive, hbad, hgood, hfault,
    (hbad.error_iff_create fault).mp hfault, rfl⟩

end Engine

end VizSession
