import VizSession.Wire
import VizSession.Proofs.JsonTexts

/-!
# Data that is read back

Each type of the data model is written as a text from which the data is read
(`data_round_trips`), whatever the numbers of 64 bits, the texts and the order of the names.

Texts and JSON values are apart. What is written is plain (`plain_toJson`), so the text of it is
read as the JSON value it was written from, and what is left is to read the data from that value
(`ofJson?_toJson`). Two things can keep that from succeeding. Lists may nest too deep, as each
takes two levels of the bound. And a float may not be read as itself (`Json.ReadsBack`) : its
digits are the shortest that tell it from its neighbours, but the reader rounds more than once and
can end at a neighbour all the same. Where there are values, reading succeeds exactly if every
float among them is read as itself (`ofJson?_toJson_iff`), by recursion on the value.
-/

namespace VizSession

open Json (Plain text record)

/-! ## Nesting and floats -/

namespace Value

mutual

/-- How deep lists nest in a value. -/
def nesting : Value → Nat
  | list items => nestingOfList items + 1
  | _ => 0

def nestingOfList : List Value → Nat
  | [] => 0
  | v :: vs => max (nesting v) (nestingOfList vs)

end

mutual

/-- The floats in a value. -/
def floats : Value → List Float
  | float x => [x]
  | vec xs => xs
  | list items => floatsOfList items
  | _ => []

def floatsOfList : List Value → List Float
  | [] => []
  | v :: vs => floats v ++ floatsOfList vs

end

end Value

/-- The floats in the values of properties. -/
def Properties.floats (ps : Properties) : List Float := ps.entries.flatMap fun p => p.2.floats

/-- The floats in the defaults of a definition. -/
def Definition.floats (d : Definition) : List Float :=
  d.properties.flatMap fun s => s.default.floats

/-- The float is written as a number that is read as the same float. What is not finite is
written as null, which is no float. -/
def Json.ReadsBack (x : Float) : Prop := (Json.ofFloat x).float? = some x

instance (x : Float) : Decidable (Json.ReadsBack x) := inferInstanceAs (Decidable (_ = _))

/-- The float is written as `7e+23` and read as 7 times a rounded `10 ^ 23`. -/
example : ¬Json.ReadsBack 7e23 := by decide +kernel

/-! ## What is written is plain -/

section Plain

@[simp] theorem Json.plain_text (s : String) : Plain (text s) := .text s

@[simp] theorem Json.plain_tagged {name : String} {body : Json} (h : Plain body) :
    Plain (.tagged name body) :=
  .record fun m hm => by rwa [List.mem_singleton.mp hm]

@[simp] theorem Json.plain_ofUInt64 (n : UInt64) : Plain (.ofUInt64 n) :=
  .number (Numeral.wellFormed_digits false n.toNat)

@[simp] theorem Json.plain_ofInt64 (n : Int64) : Plain (.ofInt64 n) :=
  .number (Numeral.wellFormed_digits _ _)

@[simp] theorem Json.plain_ofFloat (x : Float) : Plain (.ofFloat x) := by
  unfold Json.ofFloat
  split
  · rename_i n hn
    exact .number (Numeral.wellFormed_of_ofFloat? hn)
  · exact .null

@[simp] theorem Json.plain_map {α : Type} {f : α → Json} (h : ∀ a, Plain (f a)) (as : List α) :
    Plain (.array (as.map f)) :=
  .array (List.forall_mem_map.mpr fun a _ => h a)

@[simp] theorem ConnectionId.plain_toJson (c : ConnectionId) : Plain c.toJson :=
  Json.plain_ofUInt64 c.raw

@[simp] theorem Group.plain_toJson (g : Group) : Plain g.toJson := .text g.word

@[simp] theorem Handle.plain_toJson (h : Handle) : Plain h.toJson := .record (by simp)

mutual

@[simp] theorem Value.plain_toJson : ∀ v : Value, Plain v.toJson
  | .float x => Json.plain_tagged (Json.plain_ofFloat x)
  | .int n => Json.plain_tagged (Json.plain_ofInt64 n)
  | .bool b => Json.plain_tagged (.bool b)
  | .text s => Json.plain_tagged (.text s)
  | .vec xs => Json.plain_tagged (Json.plain_map Json.plain_ofFloat xs)
  | .proxy h => Json.plain_tagged h.plain_toJson
  | .list items => Json.plain_tagged (.array (Value.plain_listToJson items))
  | .unset => .text "None"

theorem Value.plain_listToJson : ∀ vs : List Value, ∀ j ∈ listToJson vs, Plain j
  | [], _, h => absurd h List.not_mem_nil
  | v :: vs, j, h => by
    rcases List.mem_cons.mp h with rfl | h
    · exact v.plain_toJson
    · exact Value.plain_listToJson vs j h

end

@[simp] theorem ValueType.plain_toJson (t : ValueType) : Plain t.toJson := by
  cases t with
  | float | int | bool | text | proxy => exact .text _
  | vec length => exact Json.plain_tagged (.record (by simp))
  | choice options => exact Json.plain_tagged (.record (by simp))

@[simp] theorem Properties.plain_toJson (ps : Properties) : Plain ps.toJson :=
  .record (List.forall_mem_map.mpr fun p _ => p.2.plain_toJson)

theorem Properties.plain_toRecord (ps : Properties) : Plain ps.toRecord := .record (by simp)

@[simp] theorem PropertySpec.plain_toJson (s : PropertySpec) : Plain s.toJson :=
  .record (by simp)

theorem Definition.plain_toJson (d : Definition) : Plain d.toJson := .record (by simp)

theorem Occupant.plain_toJson (o : Occupant) : Plain o.toJson := by
  cases o with
  | connection c => exact Json.plain_tagged c.plain_toJson
  | proxy h => exact Json.plain_tagged h.plain_toJson

@[simp] theorem Slots.plain_slotJson (h : Option Handle) : Plain (slotJson h) := by
  cases h with
  | none => exact .null
  | some h => exact h.plain_toJson

theorem Slots.plain_toJson (s : Slots) : Plain s.toJson := by
  obtain ⟨connection, view, source, camera⟩ := s
  cases connection with
  | none => exact .record (by simp [Plain.null])
  | some c => exact .record (by simp)

theorem ExportList.plain_toJson (l : ExportList) : Plain l.toJson := .record (by simp)

theorem MergeReport.plain_toJson (r : MergeReport) : Plain r.toJson := by
  have hfailed (f : String × String) : Plain (.array [text f.1, text f.2]) := .array (by simp)
  exact .record (by simp [hfailed])

end Plain

/-! ## Reading the parts -/

/-- A list is read back exactly if each of its elements is. -/
theorem mapM_map_eq_some_self_iff {α β : Type} {f : α → β} {g : β → Option α} (as : List α) :
    (as.map f).mapM g = some as ↔ ∀ a ∈ as, g (f a) = some a := by
  induction as with
  | nil => exact iff_of_true rfl nofun
  | cons a as ih =>
    rw [List.map_cons, List.mapM_cons, List.forall_mem_cons, ← ih]
    cases g (f a) with
    | none => simp
    | some b => cases (as.map f).mapM g <;> simp

theorem bind_some_eq_some_iff {α β : Type} {f : α → β} (hf : Function.Injective f) {o : Option α}
    {a : α} : (o.bind fun a => some (f a)) = some (f a) ↔ o = some a := by
  cases o with
  | none => exact iff_of_false nofun nofun
  | some b => exact Option.some_inj.trans (hf.eq_iff.trans Option.some_inj.symm)

namespace Json

theorem entries?_record (members : List (String × Json)) (depth : Nat) :
    (record members).entries? (depth + 1) = some (depth, members) := by
  have hnamed : (members.map fun m => (some m.1, m.2)).mapM
      (fun m : Option String × Json => m.1.map fun name => (name, m.2)) = some members :=
    (mapM_map_eq_some_self_iff members).mpr fun _ _ => rfl
  show (do
    let named ← (members.map fun m => (some m.1, m.2)).mapM
      fun m : Option String × Json => m.1.map fun name => (name, m.2)
    return (depth, named) : Option (Nat × List (String × Json))) = some (depth, members)
  rw [hnamed]
  rfl

/-- The fields of a record are looked for among its members. -/
theorem fields?_record (names : List String) (missing depth : Nat)
    (members : List (String × Json)) :
    (record members).fields? names missing (depth + 1) =
      (names.mapM (field? members)).map fun fields => (depth, fields) := by
  have hentries := entries?_record members depth
  unfold record at hentries ⊢
  cases hfields : names.mapM (field? members) <;> simp [fields?, hentries, hfields]

theorem uint64?_ofUInt64 (n : UInt64) : (ofUInt64 n).uint64? = some n := Numeral.uint64?_ofNat n

theorem int64?_ofInt64 (n : Int64) : (ofInt64 n).int64? = some n := Numeral.int64?_ofInt n

end Json

theorem ConnectionId.ofJson?_toJson (c : ConnectionId) : ofJson? c.toJson = some c :=
  congrArg (Option.map mk) (Json.uint64?_ofUInt64 c.raw)

theorem Group.ofJson?_toJson (g : Group) (depth : Nat) : ofJson? depth g.toJson = some g := by
  cases g <;> rfl

theorem Handle.ofJson?_toJson (h : Handle) (depth : Nat) :
    ofJson? (depth + 1) h.toJson = some h := by
  show (do return ⟨← (Json.ofUInt64 h.id).uint64?, ← ConnectionId.ofJson? h.connection.toJson,
    ← Group.ofJson? depth h.group.toJson, ← (text h.definition).text?⟩ : Option Handle) = some h
  rw [Json.uint64?_ofUInt64, ConnectionId.ofJson?_toJson, Group.ofJson?_toJson]
  rfl

/-! ## Values -/

namespace Value

open Json (ReadsBack)

mutual

/-- A value is read back exactly if its floats are, as long as its lists do not nest too deep :
every list takes two levels, and what is in the innermost one two more. -/
theorem ofJson?_toJson_iff : ∀ (v : Value) (depth : Nat), 2 * v.nesting + 2 ≤ depth →
    (ofJson? depth v.toJson = some v ↔ ∀ x ∈ v.floats, ReadsBack x)
  | .float x, depth + 2, _ => by
    show ((Json.ofFloat x).float?.bind fun x => some (float x)) = some (float x) ↔
      ∀ y ∈ [x], ReadsBack y
    rw [bind_some_eq_some_iff fun _ _ h => float.inj h, List.forall_mem_singleton]
    rfl
  | .int n, depth + 2, _ => by
    show ((Json.ofInt64 n).int64?.bind fun n => some (int n)) = some (int n) ↔ _
    rw [Json.int64?_ofInt64]
    exact iff_of_true rfl nofun
  | .bool b, depth + 2, _ => iff_of_true rfl nofun
  | .text s, depth + 2, _ => iff_of_true rfl nofun
  | .vec xs, depth + 2, _ => by
    show (((xs.map Json.ofFloat).mapM Json.float?).bind fun xs => some (vec xs)) = some (vec xs) ↔
      ∀ x ∈ xs, ReadsBack x
    rw [bind_some_eq_some_iff fun _ _ h => vec.inj h]
    exact mapM_map_eq_some_self_iff xs
  | .proxy h, depth + 2, _ => by
    show ((Handle.ofJson? (depth + 1) h.toJson).bind fun h => some (proxy h)) = some (proxy h) ↔ _
    rw [Handle.ofJson?_toJson]
    exact iff_of_true rfl nofun
  | .list items, depth + 2, h => by
    rw [nesting] at h
    show ((listOfJson? depth (listToJson items)).bind fun items => some (list items)) =
      some (list items) ↔ ∀ x ∈ floatsOfList items, ReadsBack x
    rw [bind_some_eq_some_iff fun _ _ h => list.inj h]
    exact listOfJson?_listToJson_iff items depth (by omega)
  | .unset, depth + 2, _ => iff_of_true rfl nofun

theorem listOfJson?_listToJson_iff : ∀ (vs : List Value) (depth : Nat),
    2 * nestingOfList vs + 2 ≤ depth →
      (listOfJson? depth (listToJson vs) = some vs ↔ ∀ x ∈ floatsOfList vs, ReadsBack x)
  | [], _, _ => iff_of_true rfl nofun
  | v :: vs, depth, h => by
    rw [nestingOfList] at h
    have hv := ofJson?_toJson_iff v depth (by omega)
    have hvs := listOfJson?_listToJson_iff vs depth (by omega)
    rw [floatsOfList, List.forall_mem_append, ← hv, ← hvs]
    show ((ofJson? depth v.toJson).bind fun v => (listOfJson? depth (listToJson vs)).bind fun vs =>
      some (v :: vs)) = some (v :: vs) ↔ _
    cases ofJson? depth v.toJson with
    | none => simp
    | some u => cases listOfJson? depth (listToJson vs) <;> simp

end

end Value

/-! ## Types, properties and definitions -/

theorem ValueType.ofJson?_toJson (t : ValueType) (depth : Nat) :
    ofJson? (depth + 3) t.toJson = some t := by
  cases t with
  | float | int | bool | text | proxy => rfl
  | vec length =>
    show ((Json.ofUInt64 length).uint64?.bind fun length => some (vec length)) = _
    rw [Json.uint64?_ofUInt64]
    rfl
  | choice options =>
    have hoptions : (options.map Json.text).mapM Json.text? = some options :=
      (mapM_map_eq_some_self_iff options).mpr fun _ _ => rfl
    show (((options.map Json.text).mapM Json.text?).bind fun options => some (choice options)) = _
    rw [hoptions]
    rfl

namespace Properties

/-- Reading what stands under names leaves the names alone. -/
theorem keys_of_mapM {read : Json → Option Value} {members : List (String × Json)}
    {entries : List (String × Value)}
    (h : (members.mapM fun m => (read m.2).bind fun v => some (m.1, v)) = some entries) :
    entries.map Prod.fst = members.map Prod.fst := by
  induction members generalizing entries with
  | nil =>
    obtain rfl := Option.some.inj h
    rfl
  | cons m ms ih =>
    simp only [List.mapM_cons, bind, Option.bind_eq_some_iff, pure, Option.some.injEq] at h
    obtain ⟨-, ⟨v, -, rfl⟩, es, hes, rfl⟩ := h
    rw [List.map_cons, List.map_cons, ih hes]

theorem ofJson?_record (members : List (String × Json)) (depth : Nat) :
    ofJson? (depth + 1) (record members) =
      (members.mapM fun m => (Value.ofJson? depth m.2).bind fun v => some (m.1, v)).bind
        fun entries => some (.ofList entries) := by
  unfold ofJson?
  rw [Json.entries?_record]
  rfl

/-- Properties are read back exactly if their values are : no name comes twice, so all of them
keep their places. -/
theorem ofJson?_toJson_iff (ps : Properties) (depth : Nat)
    (h : ∀ p ∈ ps.entries, 2 * p.2.nesting + 2 ≤ depth) :
    ofJson? (depth + 1) ps.toJson = some ps ↔
      ∀ x ∈ ps.floats, Json.ReadsBack x := by
  have hvalues : ((ps.entries.map fun p => (p.1, p.2.toJson)).mapM fun m =>
      (Value.ofJson? depth m.2).bind fun v => some (m.1, v)) = some ps.entries ↔
        ∀ x ∈ ps.floats, Json.ReadsBack x := by
    rw [mapM_map_eq_some_self_iff, floats, List.forall_mem_flatMap]
    refine forall₂_congr fun p hp => ?_
    rw [← Value.ofJson?_toJson_iff p.2 depth (h p hp)]
    exact bind_some_eq_some_iff fun _ _ heq => (Prod.mk.inj heq).2
  rw [toJson, ofJson?_record, ← hvalues]
  constructor
  · intro h
    obtain ⟨entries, hentries, hps⟩ := Option.bind_eq_some_iff.mp h
    have hkeys : entries.map Prod.fst = ps.entries.map Prod.fst :=
      (keys_of_mapM hentries).trans List.map_map
    have hsame : ps.entries = entries := by
      rw [← Option.some.inj hps]
      exact OrderedMap.entries_ofList (hkeys ▸ ps.nodup)
    rw [hentries, hsame]
  · intro h
    rw [h]
    exact congrArg some (OrderedMap.ofList_entries ps)

theorem ofRecord?_toRecord_iff (ps : Properties) (depth : Nat)
    (h : ∀ p ∈ ps.entries, 2 * p.2.nesting + 2 ≤ depth) :
    ofRecord? (depth + 2) ps.toRecord = some ps ↔
      ∀ x ∈ ps.floats, Json.ReadsBack x :=
  ofJson?_toJson_iff ps depth h

end Properties

theorem PropertySpec.ofJson?_toJson_iff (s : PropertySpec) (depth : Nat)
    (h : 2 * s.default.nesting + 3 ≤ depth) :
    ofJson? (depth + 1) s.toJson = some s ↔ ∀ x ∈ s.default.floats, Json.ReadsBack x := by
  obtain ⟨depth, rfl⟩ := Nat.exists_eq_add_of_le' (Nat.le_trans (Nat.le_add_left 3 _) h)
  rw [← Value.ofJson?_toJson_iff s.default (depth + 3) (by omega)]
  show ((ValueType.ofJson? (depth + 3) s.type.toJson).bind fun type =>
    (Value.ofJson? (depth + 3) s.default.toJson).bind fun default =>
      some (⟨s.name, type, default⟩ : PropertySpec)) = some s ↔ _
  rw [ValueType.ofJson?_toJson]
  exact bind_some_eq_some_iff (f := fun default => (⟨s.name, s.type, default⟩ : PropertySpec))
    fun _ _ heq => (PropertySpec.mk.inj heq).2.2

theorem Definition.ofJson?_toJson_iff (d : Definition) (depth : Nat)
    (h : ∀ s ∈ d.properties, 2 * s.default.nesting + 3 ≤ depth) :
    ofJson? (depth + 3) d.toJson = some d ↔ ∀ x ∈ d.floats, Json.ReadsBack x := by
  have hspecs : (d.properties.map PropertySpec.toJson).mapM (PropertySpec.ofJson? (depth + 1)) =
      some d.properties ↔ ∀ x ∈ d.floats, Json.ReadsBack x := by
    rw [mapM_map_eq_some_self_iff, floats, List.forall_mem_flatMap]
    exact forall₂_congr fun s hs => s.ofJson?_toJson_iff depth (h s hs)
  rw [← hspecs]
  show ((Group.ofJson? (depth + 2) d.group.toJson).bind fun group =>
    ((d.properties.map PropertySpec.toJson).mapM (PropertySpec.ofJson? (depth + 1))).bind
      fun specs => some (⟨group, d.name, d.label, specs⟩ : Definition)) = some d ↔ _
  rw [Group.ofJson?_toJson]
  exact bind_some_eq_some_iff (f := fun specs => (⟨d.group, d.name, d.label, specs⟩ : Definition))
    fun _ _ heq => (Definition.mk.inj heq).2.2.2

/-! ## Active objects and exported names -/

theorem Occupant.ofJson?_toJson (o : Occupant) (depth : Nat) :
    ofJson? (depth + 2) o.toJson = some o := by
  cases o with
  | connection c =>
    show ((ConnectionId.ofJson? c.toJson).bind fun c => some (connection c)) = _
    rw [ConnectionId.ofJson?_toJson]
    rfl
  | proxy h =>
    show ((Handle.ofJson? (depth + 1) h.toJson).bind fun h => some (proxy h)) = _
    rw [Handle.ofJson?_toJson]
    rfl

namespace Slots

theorem slot?_slotJson (h : Option Handle) (depth : Nat) :
    slot? (Handle.ofJson? (depth + 1)) (some (slotJson h)) = some h := by
  cases h with
  | none => rfl
  | some h => exact congrArg (Option.map some) (h.ofJson?_toJson depth)

theorem ofJson?_toJson (s : Slots) (depth : Nat) : ofJson? (depth + 2) s.toJson = some s := by
  obtain ⟨connection, view, source, camera⟩ := s
  have hview := slot?_slotJson view depth
  have hsource := slot?_slotJson source depth
  have hcamera := slot?_slotJson camera depth
  cases connection with
  | none =>
    show (do return ⟨none, ← slot? (Handle.ofJson? (depth + 1)) (some (slotJson view)),
      ← slot? (Handle.ofJson? (depth + 1)) (some (slotJson source)),
      ← slot? (Handle.ofJson? (depth + 1)) (some (slotJson camera))⟩ : Option Slots) = _
    rw [hview, hsource, hcamera]
    rfl
  | some c =>
    show (do return ⟨← (ConnectionId.ofJson? c.toJson).map some,
      ← slot? (Handle.ofJson? (depth + 1)) (some (slotJson view)),
      ← slot? (Handle.ofJson? (depth + 1)) (some (slotJson source)),
      ← slot? (Handle.ofJson? (depth + 1)) (some (slotJson camera))⟩ : Option Slots) = _
    rw [c.ofJson?_toJson, hview, hsource, hcamera]
    rfl

end Slots

theorem mapM_text? (names : List String) : (names.map text).mapM Json.text? = some names :=
  (mapM_map_eq_some_self_iff names).mpr fun _ _ => rfl

theorem ExportList.ofJson?_toJson (l : ExportList) (depth : Nat) :
    ofJson? (depth + 2) l.toJson = some l := by
  show (((l.names.map text).mapM Json.text?).bind fun names => some (ofNames names)) = some l
  rw [mapM_text?]
  exact congrArg some l.ofNames_names

theorem MergeReport.ofJson?_toJson (r : MergeReport) (depth : Nat) :
    ofJson? (depth + 3) r.toJson = some r := by
  have hfailed : (r.failed.map fun f => Json.array [text f.1, text f.2]).mapM
      (failureOfJson? (depth + 1)) = some r.failed :=
    (mapM_map_eq_some_self_iff r.failed).mpr fun _ _ => rfl
  show (do return ⟨← (r.added.map text).mapM Json.text?, ← (r.skipped.map text).mapM Json.text?,
    ← (r.failed.map fun f => Json.array [text f.1, text f.2]).mapM
      (failureOfJson? (depth + 1))⟩ : Option MergeReport) = some r
  rw [mapM_text?, mapM_text?, hfailed]
  rfl

/-! ## Round trips -/

namespace Json

/-- A piece of data is read from the text it is written as. -/
def RoundTrips {α : Type} (write : α → Json) (read : Nat → Json → Option α) (a : α) : Prop :=
  decode? read (write a).compact = some a

theorem roundTrips_iff {α : Type} {write : α → Json} {read : Nat → Json → Option α} {a : α}
    (h : Plain (write a)) : RoundTrips write read a ↔ read depthLimit (write a) = some a := by
  unfold RoundTrips decode?
  rw [h.parse?_compact]
  rfl

end Json

open Json (RoundTrips ReadsBack roundTrips_iff)

/-- What is written of each type of the data model is read back. Lists may nest up to 60 levels in
values. -/
structure DataRoundTrips : Prop where
  properties : ∀ ps : Properties, (∀ p ∈ ps.entries, p.2.nesting ≤ 60) →
    (RoundTrips Properties.toJson Properties.ofJson? ps ↔ ∀ x ∈ ps.floats, ReadsBack x)
  /-- Properties as they stand in other data. -/
  record : ∀ ps : Properties, (∀ p ∈ ps.entries, p.2.nesting ≤ 60) →
    (RoundTrips Properties.toRecord Properties.ofRecord? ps ↔ ∀ x ∈ ps.floats, ReadsBack x)
  value : ∀ v : Value, v.nesting ≤ 60 →
    (RoundTrips Value.toJson Value.ofJson? v ↔ ∀ x ∈ v.floats, ReadsBack x)
  spec : ∀ s : PropertySpec, s.default.nesting ≤ 60 →
    (RoundTrips PropertySpec.toJson PropertySpec.ofJson? s ↔ ∀ x ∈ s.default.floats, ReadsBack x)
  definition : ∀ d : Definition, (∀ s ∈ d.properties, s.default.nesting ≤ 60) →
    (RoundTrips Definition.toJson Definition.ofJson? d ↔ ∀ x ∈ d.floats, ReadsBack x)
  type : ∀ t : ValueType, RoundTrips ValueType.toJson ValueType.ofJson? t
  handle : ∀ h : Handle, RoundTrips Handle.toJson Handle.ofJson? h
  occupant : ∀ o : Occupant, RoundTrips Occupant.toJson Occupant.ofJson? o
  slots : ∀ s : Slots, RoundTrips Slots.toJson Slots.ofJson? s
  exports : ∀ l : ExportList, RoundTrips ExportList.toJson ExportList.ofJson? l
  report : ∀ r : MergeReport, RoundTrips MergeReport.toJson MergeReport.ofJson? r

/-- Whatever is written of the data model as a text is read from that text : always where it
holds no values, and else exactly if every float among the values is read as itself. -/
theorem data_round_trips : DataRoundTrips where
  properties ps h := by
    rw [roundTrips_iff ps.plain_toJson]
    exact ps.ofJson?_toJson_iff 126 fun p hp => by have := h p hp; omega
  record ps h := by
    rw [roundTrips_iff ps.plain_toRecord]
    exact ps.ofRecord?_toRecord_iff 125 fun p hp => by have := h p hp; omega
  value v h := by
    rw [roundTrips_iff v.plain_toJson]
    exact v.ofJson?_toJson_iff 127 (by omega)
  spec s h := by
    rw [roundTrips_iff s.plain_toJson]
    exact s.ofJson?_toJson_iff 126 (by omega)
  definition d h := by
    rw [roundTrips_iff d.plain_toJson]
    exact d.ofJson?_toJson_iff 124 fun s hs => by have := h s hs; omega
  type t := (roundTrips_iff t.plain_toJson).mpr (t.ofJson?_toJson 124)
  handle h := (roundTrips_iff h.plain_toJson).mpr (h.ofJson?_toJson 126)
  occupant o := (roundTrips_iff o.plain_toJson).mpr (o.ofJson?_toJson 125)
  slots s := (roundTrips_iff s.plain_toJson).mpr (s.ofJson?_toJson 125)
  exports l := (roundTrips_iff l.plain_toJson).mpr (l.ofJson?_toJson 125)
  report r := (roundTrips_iff r.plain_toJson).mpr (r.ofJson?_toJson 124)

/-- Properties with a value of each kind, among them the ends of the integers and characters that
have to be escaped. -/
def mixedProperties : Properties :=
  .ofList
    [("radius", .float 0.5), ("lowest", .int (-9223372036854775808)), ("on", .bool true),
      ("quote \"", .text "\\ \n \t \x00 \x7f é \u2028 😀"), ("center", .vec [0.0, -1.5, 1e-7]),
      ("Input", .proxy ⟨18446744073709551615, ⟨2⟩, .lookupTables, "Reader"⟩),
      ("", .list [.list [.unset, .list []], .int 9223372036854775807]), ("nothing", .unset)]

/-- The floats of the mixed properties are read back, and so are the properties. -/
theorem data_round_trips_mixed_properties :
    (∀ p ∈ mixedProperties.entries, p.2.nesting ≤ 60) ∧
      (∀ x ∈ mixedProperties.floats, ReadsBack x) ∧
      RoundTrips Properties.toJson Properties.ofJson? mixedProperties := by
  have hnesting : ∀ p ∈ mixedProperties.entries, p.2.nesting ≤ 60 := by decide
  have hfloats : ∀ x ∈ mixedProperties.floats, ReadsBack x := by decide +kernel
  exact ⟨hnesting, hfloats, (data_round_trips.properties mixedProperties hnesting).mpr hfloats⟩

end VizSession
