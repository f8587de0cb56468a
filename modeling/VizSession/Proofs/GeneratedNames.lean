import VizSession.Proofs.Additions
import VizSession.Proofs.NameForms

/-!
# Generated names

The engine names a new object after the label of its definition : the label without its blanks,
and a number behind it. The number is one more than how many names were generated from that text
on the connection (`Engine.namesFrom`), and those counts only go on, also when objects are
renamed or deleted. They stay below the number of the next object
(`Engine.namesFrom_lt_nextObject`).

So in a run every object has the name that a renaming of the run gave it (`Engine.Retitled`), or
one of those counted for its label (`Engine.Accounted`, `accounted_run`). The name of a new object
is not among the counted ones of its own text. It can be taken all the same : by a renaming, or
because the text of another label is the same but for digits at the end
(`Text.generated_eq_cases`), as `A` and `A1` are. What is found under the name is then the older
object (`generated_names_of_run`).
-/

namespace VizSession

/-! ## Texts and numbers -/

namespace Text

/-- The name with a number that is generated from a label. -/
def generated (label : String) (n : Nat) : String := squeeze label ++ Decimal.natural n

/-- The second text is the first one with digits behind it, at least one. -/
def AddsDigits (s t : String) : Prop :=
  ∃ ds, ds ≠ [] ∧ (∀ c ∈ ds, c.isDigit = true) ∧ t.toList = s.toList ++ ds

theorem toList_generated (label : String) (n : Nat) :
    (generated label n).toList = (squeeze label).toList ++ Decimal.digits n := by
  simp [generated, Decimal.natural]

/-- A text that ends in what some digits begin with is the other text, or it has digits more. -/
theorem eq_or_addsDigits {s t : String} {ds : List Char} {n n' : Nat}
    (htext : t.toList = s.toList ++ ds) (hdigits : Decimal.digits n = ds ++ Decimal.digits n') :
    (s = t ∧ n = n') ∨ AddsDigits s t := by
  cases ds with
  | nil =>
    have hn := congrArg Decimal.ofDigits hdigits
    rw [List.nil_append, Decimal.ofDigits_digits, Decimal.ofDigits_digits] at hn
    exact Or.inl ⟨String.toList_inj.mp (by rw [htext, List.append_nil]), hn⟩
  | cons d ds =>
    refine Or.inr ⟨d :: ds, List.cons_ne_nil _ _, fun c hc => ?_, htext⟩
    exact Decimal.isDigit_of_mem_digits (hdigits ▸ List.mem_append_left _ hc)

/-- Two generated names are the same if text and number are, or one of the texts has digits that
the number of the other name begins with. -/
theorem generated_eq_cases {label label' : String} {n n' : Nat}
    (h : generated label n = generated label' n') :
    (squeeze label = squeeze label' ∧ n = n') ∨
      AddsDigits (squeeze label) (squeeze label') ∨
      AddsDigits (squeeze label') (squeeze label) := by
  have hchars := congrArg String.toList h
  rw [toList_generated, toList_generated] at hchars
  rcases List.append_eq_append_iff.mp hchars with ⟨ds, htext, hdigits⟩ | ⟨ds, htext, hdigits⟩
  · exact (eq_or_addsDigits htext hdigits).imp_right Or.inl
  · exact (eq_or_addsDigits htext hdigits).imp (fun h => ⟨h.1.symm, h.2.symm⟩) Or.inr

end Text

namespace Engine

variable {e e' : Engine} {c : ConnectionId} {d : Definition}
  {given : ConnectionId → UInt64 → String → Prop}

/-! ## Counting names -/

/-- How many names were generated from a text on a connection. -/
def namesFrom (e : Engine) (c : ConnectionId) (text : String) : Nat :=
  ((e.connections.find? c).getD .empty).count text

theorem namesFrom_congr (h : e'.connections.find? c = e.connections.find? c) (text : String) :
    e'.namesFrom c text = e.namesFrom c text := by
  unfold namesFrom
  rw [h]

theorem name_newRecord (e : Engine) (c : ConnectionId) (d : Definition) (ps : Properties) :
    (e.newRecord c d ps).name =
      Text.generated d.label (e.namesFrom c (Text.squeeze d.label) + 1) := rfl

/-- A write that leaves the counters of names alone. -/
theorem namesFrom_updateStore {f : Store → Store} (hf : ∀ s, (f s).counters = s.counters)
    (e : Engine) (c c' : ConnectionId) (text : String) :
    (e.updateStore c f).namesFrom c' text = e.namesFrom c' text := by
  unfold namesFrom
  rw [find?_updateStore]
  split
  · cases e.connections.find? c' with
    | none => rfl
    | some s => simp [Store.count, hf]
  · rfl

/-- A new object adds one to the names from the text of its label on its connection, and to no other
count. -/
theorem namesFrom_addObject (hc : e.isAlive c = true) (d : Definition) (ps : Properties)
    (c' : ConnectionId) (text : String) :
    (e.addObject c d ps).namesFrom c' text =
      if c = c' ∧ Text.squeeze d.label = text then e.namesFrom c' text + 1
      else e.namesFrom c' text := by
  obtain ⟨s, hs⟩ := isAlive_iff.mp hc
  show (e.updateStore c _).namesFrom c' text = _
  unfold namesFrom
  rw [find?_updateStore]
  by_cases hcc : c = c'
  · subst hcc
    rw [if_pos rfl, hs]
    simp only [Option.map_some, Option.getD_some, Store.count, Store.add, OrderedMap.find?_insert,
      true_and]
    split
    · rename_i htext
      rw [htext]
      rfl
    · rfl
  · rw [if_neg hcc, if_neg fun h => hcc h.1]

theorem namesFrom_le_addObject (hc : e.isAlive c = true) (d : Definition) (ps : Properties)
    (c' : ConnectionId) (text : String) :
    e.namesFrom c' text ≤ (e.addObject c d ps).namesFrom c' text := by
  rw [namesFrom_addObject hc]
  split
  · exact Nat.le_succ _
  · exact Nat.le_refl _

theorem namesFrom_addObject_le (hc : e.isAlive c = true) (d : Definition) (ps : Properties)
    (c' : ConnectionId) (text : String) :
    (e.addObject c d ps).namesFrom c' text ≤ e.namesFrom c' text + 1 := by
  rw [namesFrom_addObject hc]
  split
  · exact Nat.le_refl _
  · exact Nat.le_succ _

/-- What is written into a camera or the table counts no name, so both are counted as objects. -/
theorem namesFrom_addCamera (e : Engine) (c c' : ConnectionId) (owner : UInt64) (d : Definition)
    (text : String) :
    (e.addCamera c owner d).namesFrom c' text = (e.addObject c d ∅).namesFrom c' text :=
  namesFrom_updateStore (f := fun s => s.linkCamera owner (e.nextHandle c d).id) (fun _ => rfl)
    (e.addObject c d ∅) c c' text

theorem namesFrom_addRepresentation (e : Engine) (source view : Handle) (d : Definition)
    (c : ConnectionId) (text : String) :
    (e.addRepresentation source view d).namesFrom c text =
      (e.addObject source.connection d (inputOf source)).namesFrom c text :=
  namesFrom_updateStore
    (f := fun s => s.represent source.id view.id (e.nextHandle source.connection d).id)
    (fun _ => rfl) (e.addObject source.connection d (inputOf source)) source.connection c text

/-- A connection starts without counts, and the counts of the others stay. -/
theorem namesFrom_withConnection_le (e : Engine) (c : ConnectionId) (text : String) :
    e.withConnection.namesFrom c text ≤ e.namesFrom c text := by
  unfold namesFrom
  rw [show e.withConnection.connections.find? c = _ from OrderedMap.find?_insert ..]
  split
  · exact Nat.zero_le _
  · exact Nat.le_refl _

theorem namesFrom_without_le (e : Engine) (c c' : ConnectionId) (text : String) :
    (e.without c).namesFrom c' text ≤ e.namesFrom c' text := by
  unfold namesFrom
  rw [show (e.without c).connections.find? c' = _ from OrderedMap.find?_erase ..]
  split
  · exact Nat.zero_le _
  · exact Nat.le_refl _

/-- A change generates no more names than it uses numbers of objects. -/
theorem Change.namesFrom_le (h : Change e e') (c : ConnectionId) (text : String) :
    e'.namesFrom c text + e.nextObject ≤ e.namesFrom c text + e'.nextObject := by
  have hwrite : ∀ {f : Store → Store}, (∀ s, (f s).counters = s.counters) → ∀ c',
      (e.updateStore c' f).namesFrom c text + e.nextObject ≤ e.namesFrom c text + e.nextObject :=
    fun hf c' => Nat.le_of_eq (by rw [namesFrom_updateStore hf])
  have hadds : ∀ {c'}, e.isAlive c' = true → ∀ d ps,
      (e.addObject c' d ps).namesFrom c text + e.nextObject ≤
        e.namesFrom c text + (e.nextObject + 1) := by
    intro c' hc d ps
    have hle := namesFrom_addObject_le hc d ps c text
    omega
  cases h with
  | edit h =>
    cases h with
    | count | refuse | define => exact Nat.le_refl _
    | @make c' d ps hc => exact hadds hc d ps
    | @equip c' owner r d hr =>
      show _ ≤ _ + (e.nextObject + 1)
      rw [namesFrom_addCamera]
      exact hadds (isAlive_of_object? hr) d ∅
    | @represent source view r r' d hc hs =>
      show _ ≤ _ + (e.nextObject + 1)
      rw [namesFrom_addRepresentation]
      exact hadds (isAlive_of_object? hs) d (inputOf source)
    | @rename c' id r name => exact hwrite (f := fun s => s.rename id name) (fun _ => rfl) c'
    | @write h r d ps => exact hwrite (f := fun s => s.write h.id ps) (fun _ => rfl) h.connection
    | @display c' pair k r visible =>
      exact hwrite (f := fun s => s.write k (OrderedMap.ofList [("Visibility", .bool visible)]))
        (fun _ => rfl) c'
  | connect => exact Nat.add_le_add_right (namesFrom_withConnection_le e c text) _
  | @disconnect c' => exact Nat.add_le_add_right (namesFrom_without_le e c' c text) _
  | @remove c' id => exact hwrite (f := fun s => s.remove id) (fun _ => rfl) c'

/-- The count of the names from a text stays below the number of the next object. So a counter of as
many bits as that number has has not overflowed while numbers are left. -/
theorem namesFrom_lt_nextObject (he : e.Reachable) (c : ConnectionId) (text : String) :
    e.namesFrom c text < e.nextObject := by
  obtain ⟨catalog, ops, rfl⟩ := he
  refine (changes_run _ ops).keeps
    (P := fun e => e.namesFrom c text < e.nextObject) (fun e e' hstep he => ?_) Nat.zero_lt_one
  have hle := hstep.namesFrom_le c text
  omega

/-- The name is one of those that were generated from the label on the connection. -/
def Counted (e : Engine) (c : ConnectionId) (label name : String) : Prop :=
  ∃ n, n ≤ e.namesFrom c (Text.squeeze label) ∧ name = Text.generated label n

/-! ## Where names come from -/

/-- Every object has a definition, and its name was given to it, or generated from the label of
the definition. -/
def Accounted (given : ConnectionId → UInt64 → String → Prop) (e : Engine) : Prop :=
  ∀ c id r, e.object? c id = some r →
    ∃ d, e.definition? r.handle.group r.handle.definition = some d ∧
      (given c id r.name ∨ e.Counted c d.label r.name)

namespace Accounted

theorem mono (h : e.Accounted given) {given' : ConnectionId → UInt64 → String → Prop}
    (hgiven : ∀ c id name, given c id name → given' c id name) : e.Accounted given' := by
  intro c id r hr
  obtain ⟨d, hd, hname⟩ := h c id r hr
  exact ⟨d, hd, hname.imp_left (hgiven c id r.name)⟩

/-- Nothing new is there, what is there has its name from before, and the counts went on. -/
theorem of_object (h : e.Accounted given)
    (hdefinition : ∀ g name d, e.definition? g name = some d → e'.definition? g name = some d)
    (hobject : ∀ {c id r'}, e'.object? c id = some r' →
      (∃ r, e.object? c id = some r ∧ r.handle = r'.handle ∧ r.name = r'.name) ∧
        ∀ text, e.namesFrom c text ≤ e'.namesFrom c text) : e'.Accounted given := by
  intro c id r' hr'
  obtain ⟨⟨r, hr, hhandle, hname⟩, hcounts⟩ := hobject hr'
  obtain ⟨d, hd, hcase⟩ := h c id r hr
  rw [← hhandle, ← hname]
  exact ⟨d, hdefinition _ _ d hd, hcase.imp_right fun ⟨n, hn, heq⟩ =>
    ⟨n, Nat.le_trans hn (hcounts _), heq⟩⟩

/-- An object was changed where it is, but for its handle and its name. -/
theorem of_modify (h : e.Accounted given) {f : Store → Store} {i : UInt64} {g : Record → Record}
    (hf : ∀ s j, (f s).record? j = if i = j then (s.record? j).map g else s.record? j)
    (hcounters : ∀ s, (f s).counters = s.counters) (hhandle : ∀ r, (g r).handle = r.handle)
    (hname : ∀ r, (g r).name = r.name) (c : ConnectionId) :
    (e.updateStore c f).Accounted given := by
  refine h.of_object (fun _ _ _ hd => hd) fun {c' id r'} hr' => ⟨?_, fun text => ?_⟩
  · rw [object?_updateStore_modify e c c' hf] at hr'
    obtain ⟨r, hr, rfl | rfl⟩ := eq_some_of_ite_map hr'
    · exact ⟨_, hr, rfl, rfl⟩
    · exact ⟨r, hr, (hhandle r).symm, (hname r).symm⟩
  · exact Nat.le_of_eq (namesFrom_updateStore hcounters e c c' text).symm

theorem count (h : e.Accounted given) (stats : Stats) :
    Accounted given { e with stats := stats } := h

theorem addDefinition (h : e.Accounted given) (d : Definition) :
    (e.addDefinition d).Accounted given :=
  h.of_object (fun _ _ _ => (Change.edit (.define e d)).definition?) fun hr =>
    ⟨⟨_, hr, rfl, rfl⟩, fun _ => Nat.le_refl _⟩

theorem withConnection (h : e.Accounted given) : e.withConnection.Accounted given := by
  refine h.of_object (fun _ _ _ hd => hd) fun {c id r} hr => ?_
  rw [object?_withConnection] at hr
  split at hr
  · cases hr
  · rename_i hc
    exact ⟨⟨r, hr, rfl, rfl⟩, fun text => Nat.le_of_eq
      (namesFrom_congr ((OrderedMap.find?_insert ..).trans (if_neg hc)) text).symm⟩

theorem without (h : e.Accounted given) (c : ConnectionId) : (e.without c).Accounted given := by
  refine h.of_object (fun _ _ _ hd => hd) fun {c' id r} hr => ?_
  rw [object?_without] at hr
  split at hr
  · cases hr
  · rename_i hc
    exact ⟨⟨r, hr, rfl, rfl⟩, fun text => Nat.le_of_eq
      (namesFrom_congr ((OrderedMap.find?_erase ..).trans (if_neg hc)) text).symm⟩

theorem remove (h : e.Accounted given) (c : ConnectionId) (id : UInt64) :
    (e.updateStore c fun s => s.remove id).Accounted given :=
  h.of_object (fun _ _ _ hd => hd) fun {c' j r} hr =>
    ⟨⟨r, ((object?_remove e c c' id j r).mp hr).1, rfl, rfl⟩, fun text => Nat.le_of_eq
      (namesFrom_updateStore (f := fun s => s.remove id) (fun _ => rfl) e c c' text).symm⟩

theorem write (h : e.Accounted given) (c : ConnectionId) (id : UInt64) (ps : Properties) :
    (e.updateStore c fun s => s.write id ps).Accounted given :=
  h.of_modify (fun s j => s.record?_write id j ps) (fun _ => rfl) (fun _ => rfl) (fun _ => rfl) c

/-- A renaming gives its name. -/
theorem rename (h : e.Accounted given) {c : ConnectionId} {id : UInt64} {name : String}
    (hgiven : given c id name) : (e.updateStore c fun s => s.rename id name).Accounted given := by
  intro c' j r' hr'
  have hcounts : ∀ text,
      (e.updateStore c fun s => s.rename id name).namesFrom c' text = e.namesFrom c' text :=
    namesFrom_updateStore (f := fun s => s.rename id name) (fun _ => rfl) e c c'
  rw [object?_rename] at hr'
  split at hr'
  · rename_i hsame
    obtain ⟨rfl, rfl⟩ := hsame
    obtain ⟨r, hr, rfl⟩ := Option.map_eq_some_iff.mp hr'
    obtain ⟨d, hd, -⟩ := h c id r hr
    exact ⟨d, hd, Or.inl hgiven⟩
  · unfold Counted
    simp only [hcounts]
    exact h c' j r' hr'

/-- The name of a new object is the last one counted for its label. -/
theorem addObject (h : e.Accounted given) (hc : e.isAlive c = true)
    (hd : e.definition? d.group d.name = some d) (ps : Properties) :
    (e.addObject c d ps).Accounted given := by
  intro c' id r hr
  rcases object?_of_addObject hc hr with hold | ⟨rfl, rfl, rfl⟩
  · obtain ⟨d', hd', hname⟩ := h c' id r hold
    exact ⟨d', hd', hname.imp_right fun ⟨n, hn, heq⟩ =>
      ⟨n, Nat.le_trans hn (namesFrom_le_addObject hc d ps c' _), heq⟩⟩
  · refine ⟨d, hd, Or.inr ⟨_, ?_, name_newRecord e c d ps⟩⟩
    rw [namesFrom_addObject hc, if_pos ⟨rfl, rfl⟩]

theorem addCamera (h : e.Accounted given) (hc : e.isAlive c = true)
    (hd : e.definition? d.group d.name = some d) (owner : UInt64) :
    (e.addCamera c owner d).Accounted given :=
  (h.addObject hc hd ∅).of_modify (fun s j => s.record?_linkCamera owner _ j) (fun _ => rfl)
    (fun _ => rfl) (fun _ => rfl) c

theorem addRepresentation (h : e.Accounted given) {source : Handle}
    (hc : e.isAlive source.connection = true) (hd : e.definition? d.group d.name = some d)
    (view : Handle) : (e.addRepresentation source view d).Accounted given := by
  have hadd := h.addObject hc hd (inputOf source)
  refine hadd.of_object (fun _ _ _ hd => hd) fun {c' id r} hr => ⟨⟨r, ?_, rfl, rfl⟩, fun text => ?_⟩
  · have hsame := object?_updateStore_of_eq
      (f := fun s => s.represent source.id view.id (e.nextHandle source.connection d).id)
      (e.addObject source.connection d (inputOf source)) source.connection c' (fun _ _ => rfl) id
    exact hsame.symm.trans hr
  · exact Nat.le_of_eq (namesFrom_addRepresentation e source view d c' text).symm

theorem create (h : e.Accounted given) (c : ConnectionId) (g : Group) (name : String)
    (ps : Properties) : (create c g name ps e).2.Accounted given := by
  rcases create_cases c g name ps e with ⟨fault, heq⟩ | ⟨d, hc, hd, -, hcase⟩
  · rw [heq]
    exact h
  obtain ⟨rfl, rfl⟩ := group_name_of_definition? hd
  have hadd := h.addObject hc hd ps
  rcases hcase with ⟨-, heq⟩ | ⟨-, -, fault, heq⟩ | ⟨-, camera, hcamera, heq⟩
  · rw [heq]
    exact hadd
  · rw [heq]
    exact hadd
  · rw [heq]
    obtain ⟨hgroup, hname⟩ := group_name_of_definition? hcamera
    exact hadd.addCamera (by simpa using hc) (hgroup ▸ hname ▸ hcamera) _

theorem setVisibility (h : e.Accounted given) (source view : Handle) (visible : Bool) :
    (setVisibility source view visible e).2.Accounted given := by
  rcases setVisibility_cases source view visible e with ⟨fault, heq⟩ |
    ⟨r, r', -, hs, -, ⟨k, rep, -, -, heq⟩ | ⟨d, -, hd, heq⟩⟩
  · rw [heq]
    exact h
  · rw [heq]
    exact h.write _ _ _
  · rw [heq]
    obtain ⟨hgroup, hname⟩ := group_name_of_definition? hd
    exact (h.addRepresentation (isAlive_of_object? hs) (hgroup ▸ hname ▸ hd) view).write _ _ _

/-- Names are accounted for after an operation, if the name that it gives is. -/
theorem perform (h : e.Accounted given) {op : Op}
    (hgiven : ∀ x name, op = .rename x name → (Engine.rename x name e).1 = .ok () →
      given x.connection x.id name) : (perform op e).2.Accounted given := by
  cases op with
  | establish url =>
    rw [snd_perform_establish]
    obtain ⟨stats, ⟨fault, heq⟩ | heq⟩ := establish_cases url e
    · rw [heq]
      exact h.count stats
    · rw [heq]
      exact (h.count stats).withConnection
  | disconnect c =>
    rw [snd_perform_disconnect]
    obtain ⟨stats, heq⟩ := disconnect_eq c e
    rw [heq]
    split
    · exact (h.count stats).without c
    · exact h.count stats
  | create c g name ps =>
    rw [snd_perform_create]
    exact h.create c g name ps
  | delete x =>
    rw [snd_perform_delete]
    rcases delete_cases x e with ⟨fault, heq⟩ | ⟨r, -, heq⟩
    · rw [heq]
      exact h
    · rw [heq]
      exact h.remove _ _
  | rename x name =>
    rw [snd_perform_rename]
    rcases rename_cases x name e with ⟨fault, heq⟩ | ⟨r, -, -, heq⟩
    · rw [heq]
      exact h
    · rw [heq]
      exact Accounted.rename h (hgiven x name rfl (by rw [heq]))
  | setProperties x ps =>
    rw [snd_perform_setProperties]
    rcases setProperties_cases x ps e with ⟨fault, heq⟩ | ⟨r, d, -, -, -, heq⟩
    · rw [heq]
      exact h
    · rw [heq]
      exact h.write _ _ _
  | render view =>
    rw [snd_perform_render]
    obtain ⟨stats, heq⟩ := render_eq view e
    rw [heq]
    exact h.count stats
  | interact view =>
    rw [snd_perform_interact]
    obtain ⟨stats, heq⟩ := interact_eq view e
    rw [heq]
    exact h.count stats
  | setVisibility source view visible =>
    rw [snd_perform_setVisibility]
    exact h.setVisibility source view visible
  | setRefusal => exact h
  | addDefinition d => exact Accounted.addDefinition h d
  | isAlive | isLive | registrationName | find | list | properties | cameraOf | definitions
  | representation | inventory => exact h

end Accounted

/-! ## Runs -/

/-- In the course of the operations the object was renamed to the name. -/
def Retitled (e : Engine) (ops : List Op) (c : ConnectionId) (id : UInt64) (name : String) :
    Prop :=
  ∃ before x, before ++ [.rename x name] <+: ops ∧ x.connection = c ∧ x.id = id ∧
    (rename x name (e.run before)).1 = .ok ()

/-- Whatever operations do, every object has a name that one of them gave to it, or one of those
counted for its label. -/
theorem accounted_run (catalog : List Definition) (ops : List Op) :
    ((ofCatalog catalog).run ops).Accounted ((ofCatalog catalog).Retitled ops) := by
  induction ops using List.reverseRecOn with
  | nil => exact fun c id r hr => by cases hr
  | append_singleton ops op ih =>
    have hrun : (ofCatalog catalog).run (ops ++ [op]) =
        (perform op ((ofCatalog catalog).run ops)).2 := run_append _ ops [op]
    rw [hrun]
    refine (ih.mono ?_).perform ?_
    · rintro c id name ⟨before, x, hbefore, hx⟩
      exact ⟨before, x, hbefore.trans (List.prefix_append ..), hx⟩
    · rintro x name rfl hok
      exact ⟨ops, x, List.prefix_rfl, rfl, rfl, hok⟩

/-! ## The name of a new object -/

/-- What the name of the object `h` says, which was made from the definition `d` when operations
had led from the engine `e₀` to `e`, and is there in `e'`. -/
structure NamesAnew (e₀ : Engine) (ops : List Op) (e' : Engine) (h : Handle) (d : Definition)
    (name : String) : Prop where
  registered : e'.registrationName h = .ok name
  generated : name = Text.generated d.label
    ((e₀.run ops).namesFrom h.connection (Text.squeeze d.label) + 1)
  /-- Another object of the group has the name only if it was renamed to it, or its label gives
  the same text but for digits at the end. -/
  shared : ∀ x ∈ e'.list h.connection h.group, x ≠ h → e'.registrationName x = .ok name →
    e₀.Retitled ops x.connection x.id name ∨
      ∃ d', e'.definition? x.group x.definition = some d' ∧
        (Text.AddsDigits (Text.squeeze d.label) (Text.squeeze d'.label) ∨
          Text.AddsDigits (Text.squeeze d'.label) (Text.squeeze d.label))
  /-- What was found under the name is found still, and if there was nothing, the new object. -/
  found : e'.find? h.connection h.group name =
    ((e₀.run ops).find? h.connection h.group name).or (some h)

section Made

variable {g : Group} {name : String} {ps : Properties} {h x : Handle} {r : Record}
  {cameras : List Record} {ops : List Op} {e₀ : Engine}

/-- An object of the group of a new object was there before, or it is the new one. -/
theorem Made.mem_records_cases (h : Made e e' c d ps r cameras) {y : Record}
    (hy : y ∈ e'.records c) (hgroup : y.handle.group = d.group) : y ∈ e.records c ∨ y = r := by
  rw [h.gains.here, List.mem_append, List.mem_cons] at hy
  refine hy.imp_right fun hnew => hnew.resolve_right fun hcamera => ?_
  have hnone := h.brings.filter_group
  rw [List.filter_eq_nil_iff] at hnone
  exact hnone y hcamera (decide_eq_true hgroup)

/-- A name that was generated before is not the next one of its text : the texts differ. -/
theorem Counted.addsDigits {d' : Definition}
    (h : e.Counted c d'.label (Text.generated d.label (e.namesFrom c (Text.squeeze d.label) + 1))) :
    Text.AddsDigits (Text.squeeze d.label) (Text.squeeze d'.label) ∨
      Text.AddsDigits (Text.squeeze d'.label) (Text.squeeze d.label) := by
  obtain ⟨n, hn, heq⟩ := h
  refine (Text.generated_eq_cases heq).resolve_left fun ⟨htext, hnumber⟩ => ?_
  rw [← htext, ← hnumber] at hn
  exact Nat.not_succ_le_self _ hn

/-- What was made has the next generated name of its label. Every other object is accounted for, so
one of that name was renamed to it, or has it from another text. -/
theorem Made.namesAnew (h : Made (e₀.run ops) e' c d ps r cameras)
    (hname : r.name = ((e₀.run ops).newRecord c d ps).name)
    (hk : (e₀.run ops).Keyed) (hk' : e'.Keyed)
    (haccounted : (e₀.run ops).Accounted (e₀.Retitled ops)) :
    NamesAnew e₀ ops e' r.handle d r.name := by
  have hc : r.handle.connection = c := by rw [h.handle]; rfl
  have hgroup : r.handle.group = d.group := by rw [h.handle]; rfl
  rw [name_newRecord] at hname
  refine ⟨?_, by rw [hc, hname], fun x hx hne hsame => ?_, ?_⟩
  · exact registrationName_eq_ok_iff.mpr ⟨r, hc.symm ▸ h.object? hk', rfl⟩
  · rw [hc, hgroup, list_eq] at hx
    obtain ⟨y, hy, rfl⟩ := List.mem_map.mp hx
    obtain ⟨hy, hygroup⟩ := List.mem_filter.mp hy
    have hobject' := hk'.mem_records.mp hy
    have hyc : y.handle.connection = c := (hk' _ _ _ hobject').2
    have hyname : y.name = r.name := by
      obtain ⟨y', hy', hsame⟩ := registrationName_eq_ok_iff.mp hsame
      rw [hyc, hobject'] at hy'
      rw [Option.some.inj hy', hsame]
    have hold := (h.mem_records_cases hy (of_decide_eq_true hygroup)).resolve_right
      fun heq => hne (congrArg Record.handle heq)
    obtain ⟨d', hd', hcase⟩ := haccounted _ _ _ (hk.mem_records.mp hold)
    rw [hyname, hname] at hcase
    refine hcase.imp (fun hgiven => ?_) fun hcounted => ⟨d', ?_, hcounted.addsDigits⟩
    · rwa [hyc, hname]
    · rw [definition?, h.gains.catalog]
      exact hd'
  · rw [hc, hgroup, h.gains.find? h.brings hgroup, if_pos rfl]

end Made

/-- Whatever operations came before, the name of a new object is that of no other object of its
group on the connection, unless the other one was renamed to it, or its label gives the same text
but for digits at the end. Under the name the new object is found unless an older one is, as long
as the engine has numbers left for what it makes. The counts behind the names have no bound of
their own, but every one is below the number of the next object (`namesFrom_lt_nextObject`). -/
theorem generated_names_of_run (catalog : List Definition) (ops : List Op) {c : ConnectionId}
    {g : Group} {name : String} {ps : Properties} {h : Handle} {e' : Engine}
    (hmade : create c g name ps ((ofCatalog catalog).run ops) = (.ok h, e'))
    (hn : e'.NumbersLeft) : ∃ d title, h.connection = c ∧ h.group = g ∧
      ((ofCatalog catalog).run ops).definition? g name = some d ∧
      NamesAnew (ofCatalog catalog) ops e' h d title := by
  have hchanges : Changes ((ofCatalog catalog).run ops) e' := by
    have hedits := (edits_create c g name ps ((ofCatalog catalog).run ops)).changes
    rwa [hmade] at hedits
  have we := wellFormed_of_reachable ⟨catalog, ops, rfl⟩ (hn.of_changes hchanges)
  obtain ⟨d, r, cameras, hd, rfl, hname, hnew⟩ := made_of_create we hn hmade
  obtain ⟨rfl, rfl⟩ := group_name_of_definition? hd
  refine ⟨d, r.name, by rw [hnew.handle]; rfl, by rw [hnew.handle]; rfl, hd, ?_⟩
  exact hnew.namesAnew hname we.keyed (we.changes hchanges hn).keyed (accounted_run catalog ops)

/-- Two labels are the same but for a digit at the end. An object of the longer one is made first,
and the eleventh of the other gets its name, under which the first is found. -/
theorem generated_names_label_with_digit :
    let catalog : List Definition := [⟨.sources, "A", "A", []⟩, ⟨.sources, "B", "A 1", []⟩]
    let ops : List Op := [.establish "builtin:", .create ⟨1⟩ .sources "B" ∅] ++
      List.replicate 10 (.create ⟨1⟩ .sources "A" ∅)
    let e := (ofCatalog catalog).run ops
    let made := create ⟨1⟩ .sources "A" ∅ e
    let first : Handle := ⟨1, ⟨1⟩, .sources, "B"⟩
    let last : Handle := ⟨12, ⟨1⟩, .sources, "A"⟩
    made = (.ok last, made.2) ∧ made.2.NumbersLeft ∧
      NamesAnew (ofCatalog catalog) ops made.2 last ⟨.sources, "A", "A", []⟩ "A11" ∧
      made.2.registrationName first = .ok "A11" ∧
      made.2.find? ⟨1⟩ .sources "A11" = some first := by
  intro catalog ops e made first last
  have hpair : ∀ {x : Except EngineError Handle × Engine}, x.1 = .ok last → x = (.ok last, x.2) :=
    fun hx => Prod.ext hx rfl
  have hmade : made = (.ok last, made.2) := hpair (by decide +kernel)
  have hn : made.2.NumbersLeft := ⟨by decide +kernel, by decide +kernel⟩
  have hlast : made.2.registrationName last = .ok "A11" := by decide +kernel
  obtain ⟨d, title, -, -, hd, hnames⟩ := generated_names_of_run catalog ops hmade hn
  have hfirst : e.definition? .sources "A" = some ⟨.sources, "A", "A", []⟩ :=
    (changes_run (ofCatalog catalog) ops).definition? rfl
  obtain rfl := Option.some.inj (hfirst.symm.trans hd)
  obtain rfl := Except.ok.inj (hlast.symm.trans hnames.registered)
  have hbefore : e.find? ⟨1⟩ .sources "A11" = some first := by decide +kernel
  have hfound : made.2.find? ⟨1⟩ .sources "A11" =
      (e.find? ⟨1⟩ .sources "A11").or (some last) := hnames.found
  rw [hbefore] at hfound
  exact ⟨hmade, hn, hnames, by decide +kernel, hfound⟩

/-- A sphere is renamed to the name that the next sphere gets, and it is found under the name. -/
theorem new_sphere_shares_name :
    let first : Handle := ⟨1, ⟨1⟩, .sources, "SphereSource"⟩
    let second : Handle := ⟨2, ⟨1⟩, .sources, "SphereSource"⟩
    let e := (ofCatalog builtinCatalog).run [.establish "builtin:",
      .create ⟨1⟩ .sources "SphereSource" ∅, .rename first "Sphere2"]
    let made := create ⟨1⟩ .sources "SphereSource" ∅ e
    made.1 = .ok second ∧ made.2.registrationName second = .ok "Sphere2" ∧
      made.2.registrationName first = .ok "Sphere2" ∧
      made.2.find? ⟨1⟩ .sources "Sphere2" = some first ∧ first ≠ second := by
  intro first second e made
  exact ⟨rfl, by decide +kernel, by decide +kernel, by decide +kernel, by decide⟩

end Engine

end VizSession
