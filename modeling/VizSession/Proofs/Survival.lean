import VizSession.Proofs.Numbering

/-!
# What outlives a change

An edit of an engine that has numbers left loses nothing : every connection stays alive,
and every object stays there with its handle (`Edits.retains`). The same holds of a new
connection (`retains_withConnection`), and of an object that is made and deleted again at
once (`retains_discard`) : a deletion takes the camera and the representations of an object
along, but those of an object that was just made are as new as the object.

A pair stays in the table as long as its two objects are there, whatever happens to its
representation (`Changes.tabled_kept`).
-/

namespace VizSession

namespace Engine

/-- Every connection and every object of the first engine is there in the second, the
object under its handle. -/
structure Retains (e e' : Engine) : Prop where
  /-- No connection ended. -/
  alive : ∀ {c}, e.isAlive c = true → e'.isAlive c = true
  /-- No object went. -/
  object : ∀ {c id r}, e.object? c id = some r →
    ∃ r', e'.object? c id = some r' ∧ r'.handle = r.handle

theorem Retains.refl (e : Engine) : Retains e e where
  alive h := h
  object h := ⟨_, h, rfl⟩

theorem Retains.trans {e e' e'' : Engine} (h : Retains e e') (h' : Retains e' e'') :
    Retains e e'' where
  alive hc := h'.alive (h.alive hc)
  object hr := by
    obtain ⟨r', hr', hhandle⟩ := h.object hr
    obtain ⟨r'', hr'', hhandle'⟩ := h'.object hr'
    exact ⟨r'', hr'', hhandle'.trans hhandle⟩

theorem Retains.isLive {e e' : Engine} (h : Retains e e') {x : Handle}
    (hx : e.isLive x = true) : e'.isLive x = true := by
  obtain ⟨r, hr⟩ := isLive_iff.mp hx
  obtain ⟨r', hr', -⟩ := h.object hr
  exact isLive_iff.mpr ⟨r', hr'⟩

/-! ## New numbers -/

/-- The number of an object that is there is not given out again. -/
theorem WellFormed.id_ne_next {e : Engine} (we : e.WellFormed) (hn : e.NumbersLeft)
    {c : ConnectionId} {id : UInt64} {r : Record} (hr : e.object? c id = some r) :
    .ofNat e.nextObject ≠ id := by
  rintro rfl
  exact hn.nextObject_not_lt (we.object_lt hr)

/-- Nor is the number of a connection that is alive. -/
theorem WellFormed.connection_ne_next {e : Engine} (we : e.WellFormed) (hn : e.NumbersLeft)
    {c : ConnectionId} (hc : e.isAlive c = true) : e.nextConnectionId ≠ c := by
  rintro rfl
  have hlt := we.connection_lt hc
  rw [hn.toNat_nextConnection] at hlt
  exact Nat.lt_irrefl _ hlt

theorem WellFormed.object?_addObject_old {e : Engine} (we : e.WellFormed) (hn : e.NumbersLeft)
    {c c' : ConnectionId} {id : UInt64} {r : Record} (hc : e.isAlive c = true)
    (hr : e.object? c' id = some r) (d : Definition) (ps : Properties) :
    (e.addObject c d ps).object? c' id = some r := by
  rw [object?_addObject e c d ps hc, if_neg fun h => we.id_ne_next hn hr h.2, hr]

/-- A write that changes one object where it is keeps every object. -/
theorem exists_of_ite_map {p : Prop} [Decidable p] {o : Option Record} {g : Record → Record}
    {r : Record} (hg : (g r).handle = r.handle) (h : o = some r) :
    ∃ r', (if p then o.map g else o) = some r' ∧ r'.handle = r.handle := by
  subst h
  split
  · exact ⟨g r, rfl, hg⟩
  · exact ⟨r, rfl, rfl⟩

/-! ## Edits and connections -/

/-- An edit loses nothing : a new object has a number that no other one has, and all other edits
change objects where they are. -/
theorem Edit.retains {e e' : Engine} (h : Edit e e') (we : e.WellFormed) (hn : e.NumbersLeft) :
    Retains e e' where
  alive hc := by rwa [h.isAlive]
  object {c id r} hr := by
    cases h with
    | count | refuse | define => exact ⟨r, hr, rfl⟩
    | make hc => exact ⟨r, we.object?_addObject_old hn hc hr .., rfl⟩
    | equip hown =>
      rw [addCamera, object?_linkCamera]
      exact exists_of_ite_map rfl
        (we.object?_addObject_old hn (isAlive_of_object? hown) hr ..)
    | @represent source view _ _ d _ hs =>
      rw [object?_addRepresentation e d view (isAlive_of_object? hs),
        if_neg fun h => we.id_ne_next hn hr h.2]
      exact ⟨r, hr, rfl⟩
    | rename =>
      rw [object?_rename]
      exact exists_of_ite_map rfl hr
    | write =>
      rw [object?_write]
      exact exists_of_ite_map rfl hr
    | display =>
      rw [Engine.display, object?_write]
      exact exists_of_ite_map rfl hr

/-- Edits lose nothing. -/
theorem Edits.retains {e e' : Engine} (h : Edits e e') (we : e.WellFormed)
    (hn : e'.NumbersLeft) : Retains e e' := by
  induction h with
  | refl => exact .refl e
  | tail hedits hstep ih =>
    have hn' := hn.of_change (.edit hstep)
    exact (ih hn').trans (hstep.retains (we.changes (Edits.changes hedits) hn') hn')

theorem retains_withConnection {e : Engine} (we : e.WellFormed) (hn : e.NumbersLeft) :
    Retains e e.withConnection where
  alive hc := (isAlive_withConnection ..).mpr (Or.inr hc)
  object {c id r} hr := by
    rw [object?_withConnection, if_neg (we.connection_ne_next hn (isAlive_of_object? hr))]
    exact ⟨r, hr, rfl⟩

/-! ## Pairs -/

/-- A pair leaves the table only with one of its objects. -/
theorem Change.tabled_kept {e e' : Engine} (h : Change e e') {c : ConnectionId}
    {pair : UInt64 × UInt64} {k : UInt64} (hk : e.tabled? c pair = some k) {r r' : Record}
    (hs : e'.object? c pair.1 = some r) (hv : e'.object? c pair.2 = some r') :
    e'.tabled? c pair = some k := by
  cases h with
  | edit h =>
    rcases h.tabled_cases with hsame | ⟨source, view, _, _, d, -, hsource, -, -, hnone, rfl⟩
    · rw [hsame, hk]
    · rw [tabled?_addRepresentation e d view (isAlive_of_object? hsource), if_neg, hk]
      rintro ⟨rfl, rfl⟩
      rw [hnone] at hk
      cases hk
  | connect =>
    rw [object?_withConnection] at hs
    split at hs
    · cases hs
    · rename_i hc
      rw [tabled?_withConnection, if_neg hc, hk]
  | disconnect =>
    rw [object?_without] at hs
    split at hs
    · cases hs
    · rename_i hc
      rw [tabled?_without, if_neg hc, hk]
  | remove =>
    rw [object?_remove] at hs hv
    refine (tabled?_remove ..).mpr ⟨hk, fun ⟨hc, hinvolves⟩ => ?_⟩
    rw [Store.involves, Bool.or_eq_true, beq_iff_eq, beq_iff_eq] at hinvolves
    rcases hinvolves with hid | hid
    · exact hs.2 ⟨hc, Or.inl hid⟩
    · exact hv.2 ⟨hc, Or.inl hid⟩

/-- A pair keeps its representation as long as its source and its view are there. They were there
all along, as nothing comes back. -/
theorem Changes.tabled_kept {e e' : Engine} (h : Changes e e') (hn : e'.NumbersLeft)
    (we : e.WellFormed) {c : ConnectionId} {pair : UInt64 × UInt64} {k : UInt64}
    (hk : e.tabled? c pair = some k) {r r' : Record} (hs : e'.object? c pair.1 = some r)
    (hv : e'.object? c pair.2 = some r') : e'.tabled? c pair = some k := by
  induction h generalizing r r' with
  | refl => exact hk
  | tail hchanges hstep ih =>
    have hn' := hn.of_change hstep
    have hcounters := (Changes.counters hchanges).1
    obtain ⟨hlt, hlt'⟩ := we.pair_lt hk
    obtain ⟨r₁, hs₁, -⟩ := hstep.kept hn' (Nat.lt_of_lt_of_le hlt hcounters) hs
    obtain ⟨r₂, hv₂, -⟩ := hstep.kept hn' (Nat.lt_of_lt_of_le hlt' hcounters) hv
    exact hstep.tabled_kept (ih hn' hs₁ hv₂) hs hv

/-! ## Objects made and deleted at once -/

/-- A new object is there under the handle that was given out for it. The camera that it may
have has a new number too, and the table did not change. -/
theorem create_ok {e e' : Engine} (we : e.WellFormed) (hn : e'.NumbersLeft) {c : ConnectionId}
    {g : Group} {name : String} {ps : Properties} {h : Handle}
    (hmade : create c g name ps e = (.ok h, e')) :
    h = ⟨.ofNat e.nextObject, c, g, name⟩ ∧
      (∃ r, e'.object? c h.id = some r ∧ r.handle = h ∧
        ∀ k, r.camera = some k → e.nextObject < k.toNat) ∧
      ∀ c' pair, e'.tabled? c' pair = e.tabled? c' pair := by
  rcases create_cases c g name ps e with ⟨fault, heq⟩ | ⟨d, hc, hd, hps, hcase⟩
  · rw [heq] at hmade
    cases hmade
  obtain ⟨rfl, rfl⟩ := group_name_of_definition? hd
  rcases hcase with ⟨-, heq⟩ | ⟨-, -, fault, heq⟩ | ⟨-, camera, -, heq⟩
  · rw [heq] at hmade
    cases hmade
    refine ⟨rfl, ⟨_, object?_addObject_self e c d ps hc, rfl, fun k hk => ?_⟩, by simp⟩
    cases hk
  · rw [heq] at hmade
    cases hmade
  · rw [heq] at hmade
    cases hmade
    have hmake : Change e (e.addObject c d ps) := .edit (.make hc hd hps)
    have hn' : (e.addObject c d ps).NumbersLeft :=
      ⟨Nat.lt_of_le_of_lt (Nat.le_succ _) hn.1, hn.2⟩
    have hold := (we.change hmake (hn'.of_change hmake)).object?_addObject_old hn'
      (by simpa using hc) (object?_addObject_self e c d ps hc) camera ∅
    refine ⟨rfl, ⟨{ e.newRecord c d ps with camera := some (.ofNat (e.nextObject + 1)) },
      ?_, rfl, fun k hk => ?_⟩, by simp⟩
    · rw [addCamera, object?_linkCamera, if_pos ⟨rfl, rfl⟩, hold]
      rfl
    · obtain rfl : .ofNat (e.nextObject + 1) = k := Option.some.inj hk
      have hnext := hn'.toNat_nextObject
      rw [nextObject_addObject] at hnext
      rw [hnext]
      exact Nat.lt_succ_self _

/-- The handle of a new object was given out. -/
theorem issued_of_create {e e' : Engine} (we : e.WellFormed) (hn : e'.NumbersLeft)
    {c : ConnectionId} {g : Group} {name : String} {ps : Properties} {h : Handle}
    (hmade : create c g name ps e = (.ok h, e')) : e'.Issued h := by
  obtain ⟨-, ⟨r, hr, rfl, -⟩, -⟩ := create_ok we hn hmade
  have hedits := edits_create c g name ps e
  rw [hmade] at hedits
  exact (we.changes hedits.changes hn).issued_handle hr

/-- Everything that was there before an object was made is there after the object was
deleted again. -/
theorem retains_discard {e e' : Engine} (we : e.WellFormed) (hn : e'.NumbersLeft)
    {c : ConnectionId} {g : Group} {name : String} {ps : Properties} {h : Handle}
    (hmade : create c g name ps e = (.ok h, e')) : Retains e (delete h e').2 := by
  have hedits := edits_create c g name ps e
  rw [hmade] at hedits
  have hretains := hedits.retains we hn
  obtain ⟨rfl, ⟨rh, hrh, -, hcamera⟩, htable⟩ := create_ok we hn hmade
  rcases delete_cases ⟨.ofNat e.nextObject, c, g, name⟩ e' with ⟨fault, hdel⟩ | ⟨r₀, -, hdel⟩
  · rw [hdel]
    exact hretains
  rw [hdel]
  have hn₀ := hn.of_changes hedits.changes
  refine ⟨fun hc => by simpa using hretains.alive hc, fun {c' id r} hr => ?_⟩
  obtain ⟨r', hr', hhandle⟩ := hretains.object hr
  refine ⟨r', (object?_remove ..).mpr ⟨hr', ?_⟩, hhandle⟩
  rintro ⟨rfl, rfl | ⟨rh', hrh', hk⟩ | ⟨pair, hk, hinvolves⟩⟩
  · exact we.id_ne_next hn₀ hr rfl
  · obtain rfl := Option.some.inj (hrh.symm.trans hrh')
    exact Nat.lt_asymm (hcamera id hk) (we.object_lt hr)
  · rw [htable] at hk
    obtain ⟨h₁, h₂⟩ := we.pair_lt hk
    rw [Store.involves, Bool.or_eq_true, beq_iff_eq, beq_iff_eq] at hinvolves
    rcases hinvolves with heq | heq
    · rw [heq] at h₁
      exact hn₀.nextObject_not_lt h₁
    · rw [heq] at h₂
      exact hn₀.nextObject_not_lt h₂

end Engine

end VizSession
