import VizSession.Proofs.Ownership
import VizSession.Proofs.StaleSlots

/-!
# Slots after a deletion

An object that is deleted leaves the slots, and with it the camera that it owns leaves the
camera slot (`Session.Ousts`); the other slots are to stay as they are (`Session.Minds`). For
connections, views and sources it is so. The camera slot is looked after by another question :
whether its camera is there at all (`dropLostCamera_eq`). That is the same as long as the slot
did not go stale before. But a camera that the host deleted, or whose connection it ended,
leaves the slot with the next deletion of whatever object, and then the slot does not read as
stale any more but as empty (`minds_camera_iff`, `camera_of_readsStale`).
-/

namespace VizSession

namespace Engine

variable {e : Engine} {h q : Handle}

/-- Nothing that was not there is there after a removal. -/
theorem isLive_of_isLive_remove {c : ConnectionId} {i : UInt64}
    (hq : (e.updateStore c fun s => s.remove i).isLive q = true) : e.isLive q = true := by
  obtain ⟨r, hr⟩ := isLive_iff.mp hq
  exact isLive_iff.mpr ⟨r, ((object?_remove ..).mp hr).1⟩

/-- The camera that an object owns goes with it. -/
theorem isLive_remove_of_owns (hc : q.connection = h.connection)
    (howns : e.Owns h.connection h.id q.id) :
    (e.updateStore h.connection fun s => s.remove h.id).isLive q = false := by
  refine Bool.eq_false_iff.mpr fun hlive => ?_
  obtain ⟨r, hr⟩ := isLive_iff.mp hlive
  exact ((object?_remove ..).mp hr).2 ⟨hc.symm, Or.inr (Or.inl howns)⟩

/-- A camera that another object owns, or none, stays. -/
theorem WellFormed.isLive_remove_of_camera (we : e.WellFormed) (hh : e.Issued h)
    (hq : e.Issued q) (hgroup : q.group = .cameras) (hne : q ≠ h)
    (howns : ¬(q.connection = h.connection ∧ e.Owns h.connection h.id q.id))
    (hlive : e.isLive q = true) :
    (e.updateStore h.connection fun s => s.remove h.id).isLive q = true := by
  obtain ⟨r, hr⟩ := isLive_iff.mp hlive
  refine isLive_iff.mpr ⟨r, (object?_remove ..).mpr ⟨hr, ?_⟩⟩
  rintro ⟨hc, hid | hcamera | ⟨pair, hk, -⟩⟩
  · -- an object has one handle only
    have hstored : e.object? h.connection h.id = some r := by rw [hc, ← hid]; exact hr
    exact hne ((hq.2 r hr).symm.trans (hh.2 r hstored))
  · exact howns ⟨hc.symm, hcamera⟩
  · -- what the table names is no camera
    rw [hc] at hk
    have hrepresentation := (we.tabled hk).2 r hr
    rw [hq.2 r hr, hgroup] at hrepresentation
    cases hrepresentation

end Engine

namespace Session

variable {s s' : Session} {h : Handle} {k : SlotKind} {o : Occupant}

/-! ## What leaves a slot -/

/-- What leaves a slot when the object is deleted : the object, and from the camera slot the
camera that it owns. -/
def Ousts (s : Session) (h : Handle) (k : SlotKind) (o : Occupant) : Prop :=
  o = .proxy h ∨ k = .camera ∧ ∃ q, o = .proxy q ∧ q.connection = h.connection ∧
    s.engine.Owns h.connection h.id q.id

/-- The slot was emptied if what it held had to leave, and left alone if not. -/
structure Minds (s s' : Session) (h : Handle) (k : SlotKind) : Prop where
  emptied : ∀ o, s.slots.peek k = some o → Ousts s h k o → s'.slots.peek k = none
  kept : (∀ o, s.slots.peek k = some o → ¬Ousts s h k o) → s'.slots.peek k = s.slots.peek k

/-- What a deletion does to the session. -/
structure Upkeep (s : Session) (h : Handle) : Prop where
  succeeds : (∃ s', delete h s = (.ok (), s')) ↔ s.engine.isLive h = true
  refused : ∀ fault s', delete h s = (.error fault, s') → s' = s
  /-- The engine deletes the object, and nothing but engine and slots is touched. -/
  engine : ∀ s', delete h s = (.ok (), s') → Engine.delete h s.engine = (.ok (), s'.engine) ∧
    s' = { s with engine := s'.engine, slots := s'.slots }
  others : ∀ s', delete h s = (.ok (), s') → ∀ k, k ≠ .camera → Minds s s' h k
  /-- The camera slot is minded unless it held another camera that is not there afterwards. -/
  camera : ∀ s', delete h s = (.ok (), s') → (Minds s s' h .camera ↔
    ∀ q, s.slots.camera = some q → ¬Ousts s h .camera (.proxy q) → s'.engine.isLive q = true)
  /-- A camera slot that was stale is empty. -/
  stale : ∀ s', delete h s = (.ok (), s') → s.ReadsStale .camera → s'.slots.camera = none

theorem peek_camera_eq_some {q : Handle} (hq : s.slots.camera = some q) :
    s.slots.peek .camera = some (.proxy q) := congrArg (Option.map Occupant.proxy) hq

theorem peek_camera_eq_none (hnone : s.slots.camera = none) : s.slots.peek .camera = none :=
  congrArg (Option.map Occupant.proxy) hnone

/-! ## A deletion that succeeds -/

section Deleted

variable (hdel : delete h s = (.ok (), s'))
include hdel

theorem eq_of_delete : ∃ r, s.engine.object? h.connection h.id = some r ∧
    s' = dropLostCamera
      { s with
        engine := s.engine.updateStore h.connection fun store => store.remove h.id
        slots := s.slots.forgetProxy h } := by
  rcases delete_cases h s with ⟨fault, heq⟩ | ⟨r, hr, heq⟩
  · rw [hdel] at heq
    cases heq
  · rw [hdel] at heq
    exact ⟨r, hr, congrArg Prod.snd heq⟩

theorem engine_of_delete :
    s'.engine = s.engine.updateStore h.connection fun store => store.remove h.id := by
  obtain ⟨r, -, rfl⟩ := eq_of_delete hdel
  rw [engine_dropLostCamera]

/-- The deleted object is not in a slot any more. -/
theorem peek_of_delete_iff (hk : k ≠ .camera) :
    s'.slots.peek k = some o ↔ s.slots.peek k = some o ∧ o ≠ .proxy h := by
  obtain ⟨r, -, rfl⟩ := eq_of_delete hdel
  rw [peek_dropLostCamera_of_ne hk, Slots.peek_forgetProxy, Option.filter_eq_some_iff,
    decide_eq_true_iff]

/-- Nor is it in the camera slot, nor is there any object in it that is gone. -/
theorem camera_of_delete_iff {q : Handle} : s'.slots.camera = some q ↔
    s.slots.camera = some q ∧ q ≠ h ∧ s'.engine.isLive q = true := by
  obtain ⟨r, -, rfl⟩ := eq_of_delete hdel
  rw [engine_dropLostCamera, dropLostCamera_eq]
  simp [Slots.forgetProxy, Option.filter_eq_some_iff]

/-- What has to leave leaves its slot. An owned camera is gone when the camera slot is looked at. -/
theorem peek_eq_none_of_ousts (ho : s.slots.peek k = some o) (hout : Ousts s h k o) :
    s'.slots.peek k = none := by
  refine Option.eq_none_iff_forall_ne_some.mpr fun o' ho' => ?_
  by_cases hk : k = .camera
  · subst hk
    obtain ⟨q, hq, rfl⟩ := Option.map_eq_some_iff.mp ho'
    obtain ⟨hold, hne, hlive⟩ := (camera_of_delete_iff hdel).mp hq
    obtain rfl := Option.some.inj ((peek_camera_eq_some hold).symm.trans ho)
    rcases hout with heq | ⟨-, q', heq, hc, howns⟩
    · exact hne (Occupant.proxy.inj heq)
    · obtain rfl := Occupant.proxy.inj heq
      rw [engine_of_delete hdel, Engine.isLive_remove_of_owns hc howns] at hlive
      cases hlive
  · obtain ⟨hold, hne⟩ := (peek_of_delete_iff hdel hk).mp ho'
    obtain rfl := Option.some.inj (hold.symm.trans ho)
    exact hout.elim hne fun hcamera => hk hcamera.1

theorem minds_of_ne (hk : k ≠ .camera) : Minds s s' h k where
  emptied _ := peek_eq_none_of_ousts hdel
  kept hstays := by
    refine Option.ext fun o => ?_
    rw [peek_of_delete_iff hdel hk]
    exact ⟨And.left, fun ho => ⟨ho, fun heq => hstays o ho (Or.inl heq)⟩⟩

/-- The camera slot is minded unless it held another camera that is not there afterwards. -/
theorem minds_camera_iff : Minds s s' h .camera ↔
    ∀ q, s.slots.camera = some q → ¬Ousts s h .camera (.proxy q) → s'.engine.isLive q = true := by
  constructor
  · intro hminds q hq hstays
    have hpeek := peek_camera_eq_some hq
    have hkept := hminds.kept fun o ho => Option.some.inj (hpeek.symm.trans ho) ▸ hstays
    obtain ⟨q', hq', heq⟩ := Option.map_eq_some_iff.mp (hkept.trans hpeek)
    obtain rfl := Occupant.proxy.inj heq
    exact ((camera_of_delete_iff hdel).mp hq').2.2
  · intro hlive
    refine ⟨fun o => peek_eq_none_of_ousts hdel, fun hstays => congrArg (Option.map _) ?_⟩
    refine Option.ext fun q => ?_
    rw [camera_of_delete_iff hdel]
    refine ⟨And.left, fun hq => ?_⟩
    have hout := hstays _ (peek_camera_eq_some hq)
    exact ⟨hq, fun heq => hout (Or.inl (congrArg _ heq)), hlive q hq hout⟩

/-- A camera slot that was stale is empty. -/
theorem camera_of_readsStale (hstale : s.ReadsStale .camera) : s'.slots.camera = none := by
  refine Option.eq_none_iff_forall_ne_some.mpr fun q hq => ?_
  obtain ⟨hold, -, hlive⟩ := (camera_of_delete_iff hdel).mp hq
  obtain ⟨o, ho, hgone⟩ := readsStale_iff.mp hstale
  obtain rfl := Option.some.inj ((peek_camera_eq_some hold).symm.trans ho)
  rw [engine_of_delete hdel] at hlive
  exact hgone (Engine.isLive_of_isLive_remove hlive)

/-- With handles that the engine gave out, the camera slot is minded if it was not stale. -/
theorem minds_camera_iff_of_issued (we : s.engine.WellFormed) (hh : s.engine.Issued h)
    (hissued : s.Holds HandleIssued) (hfits : ∀ o, s.slots.peek .camera = some o →
      Slots.Fits .camera o) : Minds s s' h .camera ↔
      (s.ReadsStale .camera → ∃ o, s.slots.peek .camera = some o ∧ Ousts s h .camera o) := by
  rw [minds_camera_iff hdel]
  constructor
  · intro hlive hstale
    by_contra hnone
    obtain ⟨o, ho, hgone⟩ := readsStale_iff.mp hstale
    obtain ⟨q, hq, rfl⟩ := Option.map_eq_some_iff.mp ho
    have hafter := hlive q hq fun hout => hnone ⟨_, ho, hout⟩
    rw [engine_of_delete hdel] at hafter
    exact hgone (Engine.isLive_of_isLive_remove hafter)
  · intro hstale q hq hstays
    have hpeek := peek_camera_eq_some hq
    have hbefore : s.engine.isLive q = true := by
      by_contra hgone
      obtain ⟨o, ho, hout⟩ := hstale (readsStale_iff.mpr ⟨_, hpeek, hgone⟩)
      exact hstays (Option.some.inj (hpeek.symm.trans ho) ▸ hout)
    rw [engine_of_delete hdel]
    refine we.isLive_remove_of_camera hh (hissued _ _ hpeek q rfl) ?_ ?_ ?_ hbefore
    · exact (Option.some.inj (hfits _ hpeek q rfl)).symm
    · exact fun heq => hstays (Or.inl (congrArg _ heq))
    · exact fun howns => hstays (Or.inr ⟨rfl, q, rfl, howns⟩)

end Deleted

theorem upkeep (s : Session) (h : Handle) : Upkeep s h where
  succeeds := by
    constructor
    · rintro ⟨s', hdel⟩
      obtain ⟨r, hr, -⟩ := eq_of_delete hdel
      exact Engine.isLive_of_object? hr
    · intro hlive
      obtain ⟨r, hr⟩ := Engine.isLive_iff.mp hlive
      exact ⟨_, Step.bind_ok (onEngine_ok (Engine.delete_eq hr))⟩
  refused fault s' hfails := by
    rcases delete_cases h s with ⟨fault', heq⟩ | ⟨r, -, heq⟩
    · rw [hfails] at heq
      exact congrArg Prod.snd heq
    · rw [hfails] at heq
      cases heq
  engine s' hdel := by
    obtain ⟨r, hr, heq⟩ := eq_of_delete hdel
    refine ⟨by rw [engine_of_delete hdel, Engine.delete_eq hr], ?_⟩
    rw [heq, dropLostCamera_eq]
  others s' hdel k hk := minds_of_ne hdel hk
  camera s' hdel := minds_camera_iff hdel
  stale s' hdel := camera_of_readsStale hdel

/-! ## Runs -/

/-- Whatever the state of the session, a deletion that is refused changes nothing, and one that
succeeds leaves all slots but the camera slot as it should; the camera slot loses a camera that
is not there. In a session over any reachable engine, with the host acting on the engine in
between, and slots set to handles that the engine gave out, the camera slot is left as it should
be exactly if it was not stale, or what went stale had to leave anyway. This holds as long as
the engine has numbers left for what it makes. -/
theorem slots_after_delete (s : Session) (h : Handle) :
    Upkeep s h ∧
    ∀ (e : Engine) (start : Session) (ops : List Op), e.Reachable → Starts e start →
      s = start.run ops → s.engine.NumbersLeft → start.SetsIssued ops → s.engine.Issued h →
        ∀ s', delete h s = (.ok (), s') → (Minds s s' h .camera ↔
          (s.ReadsStale .camera →
            ∃ o, s.slots.peek .camera = some o ∧ Ousts s h .camera o)) := by
  refine ⟨upkeep s h, ?_⟩
  rintro e start ops he hs rfl hn hsets hh s' hdel
  have we := Engine.wellFormed_of_reachable he
    (engine_of_starts hs ▸ hn.of_changes (changes_run start ops))
  have we₀ : start.engine.WellFormed := engine_of_starts hs ▸ we
  refine minds_camera_iff_of_issued hdel (wellFormed_run he hs hn) hh ?_ fun o ho => ?_
  · exact (holds_of_starts we hs).2.issued_run we₀ hn hsets
  · exact fits_run (fits_of_starts we hs) we₀ hn ho

/-- A view is made with its camera, the camera is made active, and a sphere is made and deleted.
The camera is active still. -/
theorem slots_after_delete_of_sphere :
    let camera : Handle := ⟨2, ⟨1⟩, .cameras, "Camera"⟩
    let sphere : Handle := ⟨3, ⟨1⟩, .sources, "SphereSource"⟩
    let start := new "" "" .new .default
    let ops : List Op := [.connect, .create .views "RenderView" ∅,
      .setActive .camera (.proxy camera), .create .sources "SphereSource" ∅]
    let s := start.run ops
    let s' := (delete sphere s).2
    Engine.new.Reachable ∧ Starts .new start ∧ s.engine.NumbersLeft ∧ start.SetsIssued ops ∧
      s.engine.Issued sphere ∧ delete sphere s = (.ok (), s') ∧ Minds s s' sphere .camera ∧
      s'.slots.camera = some camera := by
  intro camera sphere start ops s s'
  have he : Engine.new.Reachable := ⟨builtinCatalog, [], rfl⟩
  have hs : Starts .new start := ⟨"", "", .default, Or.inl rfl⟩
  have hn : s.engine.NumbersLeft := ⟨by decide +kernel, by decide +kernel⟩
  have hissued : ∀ {e : Engine} {h : Handle}, h.id.toNat < e.nextObject →
      (e.object? h.connection h.id).map Record.handle = some h → e.Issued h := by
    intro e h hid hcarried
    refine ⟨hid, fun r hr => ?_⟩
    rw [hr] at hcarried
    exact Option.some.inj hcarried
  have hsets : start.SetsIssued ops := by
    refine ⟨fun _ _ htakes => htakes.elim, ?_, ?_, ?_, trivial⟩
    · rintro k h ⟨name, hname⟩
      cases hname
    · rintro k h htakes -
      obtain rfl := Occupant.proxy.inj htakes
      exact hissued (by decide +kernel) (by decide +kernel)
    · rintro k h ⟨name, hname⟩
      cases hname
  have hsphere : s.engine.Issued sphere := hissued (by decide +kernel) (by decide +kernel)
  have hpair : ∀ {x : Except SessionError Unit × Session}, x.1 = .ok () → x = (.ok (), x.2) :=
    fun hx => Prod.ext hx rfl
  have hdel : delete sphere s = (.ok (), s') := hpair (by decide +kernel)
  have hcamera : s.slots.camera = some camera := by decide +kernel
  have hfresh : ¬s.ReadsStale .camera := by
    rw [readsStale_iff]
    rintro ⟨o, ho, hgone⟩
    obtain rfl := Option.some.inj ((peek_camera_eq_some hcamera).symm.trans ho)
    have hlive : s.engine.isLive camera = true := by decide +kernel
    exact hgone hlive
  refine ⟨he, hs, hn, hsets, hsphere, hdel, ?_, by decide +kernel⟩
  exact ((slots_after_delete s sphere).2 .new start ops he hs rfl hn hsets hsphere s' hdel).mpr
    fun hstale => absurd hstale hfresh

/-- The host deletes the camera that is active, and the slot reads as stale. When the session
deletes a cone, which owns no camera, the slot reads as empty. -/
theorem delete_of_cone_empties_camera_slot :
    let camera : Handle := ⟨2, ⟨1⟩, .cameras, "Camera"⟩
    let cone : Handle := ⟨3, ⟨1⟩, .sources, "ConeSource"⟩
    let s := (new "" "" .new .default).run [.connect, .create .views "RenderView" ∅,
      .setActive .camera (.proxy camera), .create .sources "ConeSource" ∅,
      .engine (.delete camera)]
    let s' := (delete cone s).2
    (delete cone s).1 = .ok () ∧ s.slots.camera = some camera ∧ s'.slots.camera = none ∧
      (active .camera s).1 = .error (.deleted .camera camera) ∧
      (active .camera s').1 = .ok none ∧ ¬Minds s s' cone .camera := by
  intro camera cone s s'
  have hcamera : s.slots.camera = some camera := by decide +kernel
  have hempty : s'.slots.camera = none := by decide +kernel
  refine ⟨by decide +kernel, hcamera, hempty, by decide +kernel, by decide +kernel,
    fun hminds => ?_⟩
  have hpeek := peek_camera_eq_some hcamera
  have howned : (s.engine.object? ⟨1⟩ 3).bind Record.camera = none := by decide +kernel
  have hkept := hminds.kept fun o ho => by
    obtain rfl := Option.some.inj (hpeek.symm.trans ho)
    rintro (heq | ⟨-, q, -, -, r, hr, howns⟩)
    · exact absurd heq (by decide)
    · rw [hr, Option.bind_some, howns] at howned
      cases howned
  cases (peek_camera_eq_none hempty).symm.trans (hkept.trans hpeek)

end Session

end VizSession
