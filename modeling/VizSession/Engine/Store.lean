import VizSession.Properties
import VizSession.Text.CharClass

/-!
# The objects of one connection

A `Store` holds the objects of one connection in the order of their creation, the table
of representations and the counters behind generated names. Its writes are the few below;
every operation of the engine on a connection is made of them.

A representation belongs to a pair of a source and a view. Removing an object takes its
camera along, and the representations of every pair it is part of (`remove`).

A store is seen through the look-up of its objects and the look-up in its table. For each
write there is a lemma on either (`record?_add`, `find?_represent`, ...); the look-up a
write leaves alone is a `simp` lemma.
-/

namespace VizSession

/-- What the engine knows about an object. -/
structure Record where
  /-- The handle that was issued for it. -/
  handle : Handle
  /-- The name it is registered under. -/
  name : String
  /-- Its properties. -/
  properties : Properties
  /-- The camera it owns, if it is a view. -/
  camera : Option UInt64

/-- The objects of a connection. -/
structure Store where
  /-- The objects by number, in the order of their creation. -/
  records : OrderedMap UInt64 Record
  /-- The representation of each pair of a source and a view that has one. -/
  representations : OrderedMap (UInt64 × UInt64) UInt64
  /-- How many names were generated from each base, counted without a bound as the calls of
  the engine are (`Stats`). -/
  counters : OrderedMap String Nat

namespace Store

/-- A store without objects. -/
def empty : Store := ⟨∅, ∅, ∅⟩

instance : Inhabited Store := ⟨empty⟩

/-- The object of a number. -/
def record? (s : Store) (id : UInt64) : Option Record := s.records.find? id

/-- The objects of a group, in the order of their creation. -/
def ofGroup (s : Store) (g : Group) : List Record :=
  s.records.values.filter fun r => r.handle.group = g

/-- How often names were generated from a base. -/
def count (s : Store) (base : String) : Nat := (s.counters.find? base).getD 0

/-- The name that is generated next for a label : the label without blanks and a number. -/
def nextName (s : Store) (label : String) : String :=
  let base := Text.squeeze label
  base ++ Decimal.natural (s.count base + 1)

/-- Adds an object, with a name generated from a label. -/
def add (s : Store) (h : Handle) (label : String) (ps : Properties) : Store :=
  let base := Text.squeeze label
  { s with
    records := s.records.insert h.id ⟨h, s.nextName label, ps, none⟩
    counters := s.counters.insert base (s.count base + 1) }

/-- Makes an object the camera of another one. -/
def linkCamera (s : Store) (owner camera : UInt64) : Store :=
  { s with records := s.records.modify owner fun r => { r with camera := some camera } }

/-- Gives an object another name. -/
def rename (s : Store) (id : UInt64) (name : String) : Store :=
  { s with records := s.records.modify id fun r => { r with name := name } }

/-- Writes properties of an object, leaving its other properties alone. -/
def write (s : Store) (id : UInt64) (ps : Properties) : Store :=
  { s with
    records := s.records.modify id fun r =>
      { r with properties := r.properties.insertMany ps.entries } }

/-- Makes an object the representation of a pair. -/
def represent (s : Store) (source view representation : UInt64) : Store :=
  { s with representations := s.representations.insert (source, view) representation }

/-- Whether an object is part of a pair. -/
def involves (id : UInt64) (pair : UInt64 × UInt64) : Bool := pair.1 == id || pair.2 == id

/-- The representations of the pairs that an object is part of. -/
def dependents (s : Store) (id : UInt64) : List UInt64 :=
  (s.representations.filter fun pair _ => involves id pair).values

/-- The objects that go along with an object : its camera and the representations that
depend on it. -/
def attendants (s : Store) (id : UInt64) : List UInt64 :=
  ((s.record? id).bind Record.camera).toList ++ s.dependents id

/-- Removes an object with the camera it owns and the representations that depend on it. -/
def remove (s : Store) (id : UInt64) : Store :=
  { s with
    records := (s.attendants id).foldl OrderedMap.erase (s.records.erase id)
    representations := s.representations.filter fun pair _ => !involves id pair }

/-! ## The two look-ups after each write -/

theorem record?_add (s : Store) (h : Handle) (label : String) (ps : Properties) (id : UInt64) :
    (s.add h label ps).record? id =
      if h.id = id then some ⟨h, s.nextName label, ps, none⟩ else s.record? id :=
  OrderedMap.find?_insert ..

theorem record?_linkCamera (s : Store) (owner camera id : UInt64) :
    (s.linkCamera owner camera).record? id =
      if owner = id then (s.record? id).map fun r => { r with camera := some camera }
      else s.record? id :=
  OrderedMap.find?_modify ..

theorem record?_rename (s : Store) (i id : UInt64) (name : String) :
    (s.rename i name).record? id =
      if i = id then (s.record? id).map fun r => { r with name := name } else s.record? id :=
  OrderedMap.find?_modify ..

theorem record?_write (s : Store) (i id : UInt64) (ps : Properties) :
    (s.write i ps).record? id =
      if i = id then
        (s.record? id).map fun r => { r with properties := r.properties.insertMany ps.entries }
      else s.record? id :=
  OrderedMap.find?_modify ..

@[simp] theorem record?_represent (s : Store) (source view k id : UInt64) :
    (s.represent source view k).record? id = s.record? id := rfl

/-- An object goes with its attendants, and nothing else goes. -/
theorem record?_remove (s : Store) (id j : UInt64) :
    (s.remove id).record? j = if j ∈ id :: s.attendants id then none else s.record? j :=
  OrderedMap.find?_foldl_erase s.records (id :: s.attendants id) j

@[simp] theorem representations_add (s : Store) (h : Handle) (label : String) (ps : Properties) :
    (s.add h label ps).representations = s.representations := rfl

@[simp] theorem representations_linkCamera (s : Store) (owner camera : UInt64) :
    (s.linkCamera owner camera).representations = s.representations := rfl

@[simp] theorem representations_rename (s : Store) (id : UInt64) (name : String) :
    (s.rename id name).representations = s.representations := rfl

@[simp] theorem representations_write (s : Store) (id : UInt64) (ps : Properties) :
    (s.write id ps).representations = s.representations := rfl

theorem find?_represent (s : Store) (source view k : UInt64) (pair : UInt64 × UInt64) :
    (s.represent source view k).representations.find? pair =
      if (source, view) = pair then some k else s.representations.find? pair :=
  OrderedMap.find?_insert ..

/-- The pairs an object is part of go with it. -/
theorem find?_remove (s : Store) (id : UInt64) (pair : UInt64 × UInt64) :
    (s.remove id).representations.find? pair =
      (s.representations.find? pair).filter fun _ => !involves id pair :=
  OrderedMap.find?_filter ..

theorem mem_dependents {s : Store} {id k : UInt64} :
    k ∈ s.dependents id ↔
      ∃ pair, s.representations.find? pair = some k ∧ involves id pair = true := by
  simp only [dependents, OrderedMap.values, OrderedMap.filter, List.mem_map, List.mem_filter,
    OrderedMap.find?_eq_some_iff]
  constructor
  · rintro ⟨⟨pair, k⟩, ⟨hmem, hinv⟩, rfl⟩
    exact ⟨pair, hmem, hinv⟩
  · rintro ⟨pair, hmem, hinv⟩
    exact ⟨(pair, k), ⟨hmem, hinv⟩, rfl⟩

theorem mem_attendants {s : Store} {id k : UInt64} :
    k ∈ s.attendants id ↔
      (∃ r, s.record? id = some r ∧ r.camera = some k) ∨
        ∃ pair, s.representations.find? pair = some k ∧ involves id pair = true := by
  simp only [attendants, List.mem_append, Option.mem_toList,
    Option.bind_eq_some_iff, mem_dependents]

end Store

end VizSession
