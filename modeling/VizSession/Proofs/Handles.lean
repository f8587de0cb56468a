import VizSession.Proofs.Creations

/-!
# Handles that were given out

Whatever answer gives out a handle (`Engine.Reply.given`), the object is there afterwards
under this very handle (`Engine.carries_of_reply`) : it was made just now, or it was looked
up, and every object is stored under its own handle. So a handle that a run gave out
(`Engine.GivesOut`) is one that the engine issued, and stays one.

From this and from the counting of what a run makes, `Engine.neverReuses` reads off what a
run promises to whoever keeps its handles : numbers differ, an object is what its handle says,
and what is gone stays away (`Engine.NeverReuses`).
-/

namespace VizSession

/-- The handles that an answer gives out. -/
def Engine.Reply.given : Engine.Reply → List Handle
  | .handle h => [h]
  | .handle? h => h.toList
  | .handles hs => hs
  | .inventory ls => ls.map Listing.handle
  | .done | .truth _ | .connection _ | .text _ | .properties _ | .definitions _ => []

namespace Engine

variable {e e' : Engine}

/-! ## Answers -/

/-- The object is there, under this very handle. -/
def Carries (e : Engine) (h : Handle) : Prop :=
  ∃ r, e.object? h.connection h.id = some r ∧ r.handle = h

theorem Keyed.carries (he : e.Keyed) {c : ConnectionId} {id : UInt64} {r : Record}
    (hr : e.object? c id = some r) : e.Carries r.handle := by
  obtain ⟨hid, hc⟩ := he c id r hr
  exact ⟨r, by rw [hid, hc, hr], rfl⟩

theorem WellFormed.issued_of_carries (we : e.WellFormed) {h : Handle} (hh : e.Carries h) :
    e.Issued h := by
  obtain ⟨r, hr, rfl⟩ := hh
  exact we.issued_handle hr

theorem Keyed.carries_of_mem_ofGroup (he : e.Keyed) {c : ConnectionId} {s : Store}
    (hs : e.connections.find? c = some s) {g : Group} {r : Record} (hr : r ∈ s.ofGroup g) :
    e.Carries r.handle := by
  obtain ⟨⟨id, r⟩, hmem, rfl⟩ := List.mem_map.mp (List.mem_of_mem_filter hr)
  have hrec : s.record? id = some r := OrderedMap.find?_eq_some_iff.mpr hmem
  exact he.carries (Option.bind_eq_some_iff.mpr ⟨s, hs, hrec⟩)

theorem Keyed.carries_of_find? (he : e.Keyed) {c : ConnectionId} {g : Group} {name : String}
    {h : Handle} (hh : e.find? c g name = some h) : e.Carries h := by
  unfold find? at hh
  split at hh
  · rename_i s hs
    obtain ⟨r, hr, rfl⟩ := Option.map_eq_some_iff.mp hh
    exact he.carries_of_mem_ofGroup hs (List.mem_of_find?_eq_some hr)
  · cases hh

theorem Keyed.carries_of_mem_list (he : e.Keyed) {c : ConnectionId} {g : Group} {h : Handle}
    (hh : h ∈ e.list c g) : e.Carries h := by
  unfold list at hh
  split at hh
  · rename_i s hs
    obtain ⟨r, hr, rfl⟩ := List.mem_map.mp hh
    exact he.carries_of_mem_ofGroup hs hr
  · cases hh

/-- The camera of a view is the object, on its connection, whose number the view has. -/
theorem cameraOf_eq_ok_iff {view h : Handle} : e.cameraOf view = .ok h ↔
    view.group = .views ∧ ∃ r k r', e.object? view.connection view.id = some r ∧
      r.camera = some k ∧ e.object? view.connection k = some r' ∧ r'.handle = h := by
  constructor
  · intro hh
    unfold cameraOf at hh
    split at hh
    · cases hh
    rename_i hgroup
    cases hs : e.store view.connection with
    | error fault => simp [hs, bind, Except.bind] at hh
    | ok s =>
      cases hr : e.record view with
      | error fault => simp [hs, hr, bind, Except.bind] at hh
      | ok r =>
        simp only [hs, hr, bind, Except.bind] at hh
        split at hh
        · cases hh
        · rename_i k hk
          split at hh
          · cases hh
          · rename_i r' hr'
            exact ⟨of_not_not hgroup, r, k, r', record_eq_ok_iff.mp hr, hk,
              Option.bind_eq_some_iff.mpr ⟨s, store_eq_ok_iff.mp hs, hr'⟩, Except.ok.inj hh⟩
  · rintro ⟨hgroup, r, k, r', hr, hk, hr', rfl⟩
    obtain ⟨s, hs, hr'⟩ := Option.bind_eq_some_iff.mp hr'
    unfold cameraOf
    rw [if_neg (not_not_intro hgroup), store_eq_ok_iff.mpr hs, record_eq_ok_iff.mpr hr]
    simp only [bind, Except.bind, hk, hr']

theorem Keyed.carries_of_cameraOf (he : e.Keyed) {view h : Handle}
    (hh : e.cameraOf view = .ok h) : e.Carries h := by
  obtain ⟨-, r, k, r', -, -, hr', rfl⟩ := cameraOf_eq_ok_iff.mp hh
  exact he.carries hr'

theorem live_of_representation {source view : Handle} {found : Option Handle}
    (hh : e.representation source view = .ok found) :
    (∃ r, e.object? source.connection source.id = some r) ∧
      ∃ r, e.object? view.connection view.id = some r := by
  cases hs : e.record source with
  | error fault => simp [representation, hs, bind, Except.bind] at hh
  | ok r =>
    cases hv : e.record view with
    | error fault => simp [representation, hs, hv, bind, Except.bind] at hh
    | ok r' => exact ⟨⟨r, record_eq_ok_iff.mp hs⟩, r', record_eq_ok_iff.mp hv⟩

theorem Keyed.carries_of_representation (he : e.Keyed) {source view h : Handle}
    (hh : e.representation source view = .ok (some h)) : e.Carries h := by
  obtain ⟨⟨r, hs⟩, r', hv⟩ := live_of_representation hh
  rw [representation_eq hs hv] at hh
  obtain ⟨rep, hrep, rfl⟩ := Option.map_eq_some_iff.mp (Except.ok.inj hh)
  obtain ⟨k, -, hrep⟩ := Option.bind_eq_some_iff.mp hrep
  exact he.carries hrep

theorem Keyed.carries_of_mem_inventory (he : e.Keyed) {l : Listing} (hl : l ∈ e.inventory) :
    e.Carries l.handle := by
  obtain ⟨⟨c, s⟩, hs, hl⟩ := List.mem_flatMap.mp hl
  obtain ⟨g, -, hl⟩ := List.mem_flatMap.mp hl
  obtain ⟨r, hr, rfl⟩ := List.mem_map.mp hl
  exact he.carries_of_mem_ofGroup (OrderedMap.find?_eq_some_iff.mpr hs) hr

/-- The representation that is answered carries the handle, also when it was made by the call. -/
theorem Keyed.carries_of_setVisibility (he : e.Keyed) {source view h : Handle} {visible : Bool}
    (hh : setVisibility source view visible e = (.ok h, e')) : e'.Carries h := by
  have hdisplay : ∀ {e : Engine} {c : ConnectionId} {k : UInt64} {r : Record}, e.Keyed →
      e.object? c k = some r → (e.display c k visible).Carries r.handle := by
    intro e c k r he hr
    obtain ⟨hid, hc⟩ := he c k r hr
    obtain ⟨r', hr', hhandle⟩ :
        ∃ r', (e.display c k visible).object? c k = some r' ∧ r'.handle = r.handle := by
      rw [display, object?_write]
      exact exists_of_ite_map rfl hr
    exact ⟨r', by rw [hid, hc, hr'], hhandle⟩
  rcases setVisibility_cases source view visible e with ⟨fault, heq⟩ |
    ⟨r, r', hc, hs, hv, ⟨k, rep, hk, hrep, heq⟩ | ⟨d, hp, hd, heq⟩⟩
  · rw [heq] at hh
    cases hh
  · rw [heq] at hh
    cases hh
    exact hdisplay he hrep
  · rw [heq] at hh
    cases hh
    exact hdisplay (he.change (.edit (.represent hc hs hv hd hp)))
      (object?_addRepresentation_self e d view (isAlive_of_object? hs))

/-- What an answer gives out is there afterwards, under the handle that is given out. -/
theorem carries_of_reply (we : e.WellFormed) {op : Op} (hn : (perform op e).2.NumbersLeft)
    {reply : Reply} (hreply : (perform op e).1 = .ok reply) {h : Handle}
    (hh : h ∈ reply.given) : (perform op e).2.Carries h := by
  have he := we.keyed
  cases op with
  | create c g name ps =>
    obtain ⟨h', hmade, rfl⟩ := Step.ok_of_bind_pure hreply
    obtain rfl := List.mem_singleton.mp hh
    rw [snd_perform_create] at hn ⊢
    obtain ⟨rfl, ⟨r, hr, hhandle, -⟩, -⟩ := create_ok we hn (Prod.ext hmade rfl)
    exact ⟨r, hr, hhandle⟩
  | setVisibility source view visible =>
    obtain ⟨h', hmade, rfl⟩ := Step.ok_of_bind_pure hreply
    obtain rfl := List.mem_singleton.mp hh
    rw [snd_perform_setVisibility]
    exact he.carries_of_setVisibility (Prod.ext hmade rfl)
  | find c g name =>
    obtain rfl := Except.ok.inj hreply
    exact he.carries_of_find? (Option.mem_toList.mp hh)
  | list c g =>
    obtain rfl := Except.ok.inj hreply
    exact he.carries_of_mem_list hh
  | cameraOf view =>
    obtain ⟨camera, hcamera, rfl⟩ := Step.ok_of_map hreply
    obtain rfl := List.mem_singleton.mp hh
    exact he.carries_of_cameraOf hcamera
  | representation source view =>
    obtain ⟨found, hfound, rfl⟩ := Step.ok_of_map hreply
    obtain rfl := Option.mem_toList.mp hh
    exact he.carries_of_representation hfound
  | inventory =>
    obtain rfl := Except.ok.inj hreply
    obtain ⟨l, hl, rfl⟩ := List.mem_map.mp hh
    exact he.carries_of_mem_inventory hl
  | isAlive | isLive | definitions =>
    obtain rfl := Except.ok.inj hreply
    cases hh
  | registrationName | properties =>
    obtain ⟨a, -, rfl⟩ := Step.ok_of_map hreply
    cases hh
  | establish | disconnect | delete | rename | setProperties | render | interact =>
    obtain ⟨a, -, rfl⟩ := Step.ok_of_bind_pure hreply
    cases hh
  | setRefusal | addDefinition =>
    obtain rfl := Except.ok.inj hreply
    cases hh

/-! ## Runs of the engine -/

/-- In the course of the operations an answer gave out the handle. -/
def GivesOut (e : Engine) (ops : List Op) (h : Handle) : Prop :=
  ∃ pre op post reply, ops = pre ++ op :: post ∧ (perform op (e.run pre)).1 = .ok reply ∧
    h ∈ reply.given

/-- What an answer gave out carried its handle then, and it is not replaced later. -/
theorem GivesOut.issued {ops : List Op} {h : Handle} (hh : e.GivesOut ops h)
    (we : e.WellFormed) (hn : (e.run ops).NumbersLeft) : (e.run ops).Issued h := by
  obtain ⟨pre, op, post, reply, rfl, hreply, hgiven⟩ := hh
  have hsplit : e.run (pre ++ op :: post) = (perform op (e.run pre)).2.run post :=
    run_append e pre (op :: post)
  rw [hsplit] at hn ⊢
  have hop := changes_perform op (e.run pre)
  have hpost := changes_run (perform op (e.run pre)).2 post
  have hn' := hn.of_changes hpost
  have we' := we.changes (changes_run e pre) (hn'.of_changes hop)
  have hcarries := carries_of_reply we' hn' hreply hgiven
  exact ((we'.changes hop hn').issued_of_carries hcarries).changes hpost hn

/-- What a run gives out it gives out once : numbers differ, an object is what its handle
says, and what is gone stays away. -/
structure NeverReuses (e : Engine) (ops : List Op) : Prop where
  /-- No two objects that the run makes have the same number, on whatever connections. -/
  objects : ((e.creations ops).map Prod.snd).Nodup
  /-- No two connections that it makes are the same. -/
  connections : (e.establishments ops).Nodup
  /-- What the answer of an operation says was made was not there before. -/
  makes : ∀ {pre op post p}, ops = pre ++ op :: post → Makes (e.run pre) op p →
    p ∈ newObjects (e.run pre) (perform op (e.run pre)).2
  /-- Nor was a connection that an answer says was made. -/
  establishes : ∀ {pre url post c}, ops = pre ++ .establish url :: post →
    (establish url (e.run pre)).1 = .ok c →
    c ∈ newConnections (e.run pre) (perform (.establish url) (e.run pre)).2
  /-- The object of a handle that was given out carries that handle. -/
  carries : ∀ {h r}, e.GivesOut ops h → (e.run ops).record h = .ok r → r.handle = h
  /-- An object whose handle was given out and that is gone stays away. -/
  object_gone : ∀ {pre post h}, ops = pre ++ post → e.GivesOut pre h →
    (e.run pre).isLive h = false → (e.run ops).isLive h = false
  /-- A connection that was made and ended stays ended. -/
  connection_gone : ∀ {pre post c}, ops = pre ++ post → c ∈ e.establishments pre →
    (e.run pre).isAlive c = false → (e.run ops).isAlive c = false

/-- Every part follows from the counters, which only go up : what is made has a number that was not
given out before, and under a number that was given out nothing is made. -/
theorem neverReuses (he : e.Reachable) {ops : List Op} (hn : (e.run ops).NumbersLeft) :
    e.NeverReuses ops where
  objects := nodup_creations he hn
  connections := nodup_establishments he hn
  makes := by
    rintro pre op post p rfl hmakes
    rw [run_append] at hn
    have hn' := hn.of_changes (changes_run (perform op (e.run pre)).2 post)
    exact hmakes.mem_newObjects
      (wellFormed_of_reachable (he.run pre) (hn'.of_changes (changes_perform op _))) hn'
  establishes := by
    rintro pre url post c rfl hmade
    rw [run_append] at hn
    have hn' := hn.of_changes (changes_run (e.run pre) (.establish url :: post))
    exact mem_newConnections_of_establish (wellFormed_of_reachable (he.run pre) hn') hn' hmade
  carries hgiven hr := by
    have we := wellFormed_of_reachable he (hn.of_changes (changes_run e ops))
    exact (hgiven.issued we hn).2 _ (record_eq_ok_iff.mp hr)
  object_gone := by
    rintro pre post h rfl hgiven hgone
    rw [run_append] at hn ⊢
    have hpost := changes_run (e.run pre) post
    have hn' := hn.of_changes hpost
    have we := wellFormed_of_reachable he (hn'.of_changes (changes_run e pre))
    exact hpost.isLive_eq_false hn (hgiven.issued we hn').1 hgone
  connection_gone := by
    rintro pre post c rfl hmade hgone
    rw [run_append] at hn ⊢
    have hpost := changes_run (e.run pre) post
    have hlt := counts_newConnections.lt_of_mem_brought he (hn.of_changes hpost) hmade
    refine Bool.eq_false_iff.mpr fun halive => Bool.eq_false_iff.mp hgone ?_
    exact hpost.alive_kept hn hlt halive

end Engine

end VizSession
