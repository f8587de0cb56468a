import VizSession.Catalog
import VizSession.Engine.Store
import VizSession.Error
import VizSession.Step

/-!
# The engine

An `Engine` serves connections to one address and keeps the objects that live on them.
Numbers of connections and objects are counted on across connections; what a connection or
a handle carries of its number are the lowest 64 bits. All counts are natural numbers : that
numbers are left is said where it matters, and that no count of calls has outgrown the word
of a machine is understood throughout.

Objects are found by the connection and the number in a handle; what else the handle says
is believed where the operation needs it. Properties are validated against the first
definition with the group and the name, one after another, and the first fault is
reported (`validate`); what is refused changes nothing but the counters of calls. A new
view gets a camera of its own.
-/

namespace VizSession

/-- How often the engine was called. The counts have no bound here. In a counter of a machine
word they are what is said of them as long as it has not overflowed. -/
structure Stats where
  /-- Calls for a connection, refused ones included. -/
  establishCalls : Nat
  /-- Calls to end a connection, failed ones included. -/
  disconnectCalls : Nat
  /-- Rendered views. -/
  renders : Nat
  /-- Interactions with a view. -/
  interactions : Nat
deriving DecidableEq

/-- The engine and all objects in it. -/
structure Engine where
  /-- The live connections with their objects, in the order they were made. -/
  connections : OrderedMap ConnectionId Store
  /-- The definitions objects can be made from. -/
  catalog : List Definition
  /-- The number of the next connection. -/
  nextConnection : Nat
  /-- The number of the next object. -/
  nextObject : Nat
  /-- Why connections are refused at the moment, if they are. -/
  refusal : Option String
  /-- How often the engine was called. -/
  stats : Stats

namespace Engine

/-- The address that is served. -/
def servedUrl : String := "builtin:"

/-- An engine with a catalog and no connections. -/
def ofCatalog (catalog : List Definition) : Engine := ⟨∅, catalog, 1, 1, none, ⟨0, 0, 0, 0⟩⟩

/-- The engine with the built-in catalog. -/
def new : Engine := ofCatalog builtinCatalog

instance : Inhabited Engine := ⟨new⟩

/-! ## Looking up -/

/-- Whether a connection is there. -/
def isAlive (e : Engine) (c : ConnectionId) : Bool := e.connections.contains c

/-- The objects of a connection. -/
def store (e : Engine) (c : ConnectionId) : Except EngineError Store :=
  match e.connections.find? c with
  | some s => .ok s
  | none => .error (.unknownConnection c)

/-- What is known about the object of a handle. -/
def record (e : Engine) (h : Handle) : Except EngineError Record := do
  match (← e.store h.connection).record? h.id with
  | some r => .ok r
  | none => .error (.proxyNotFound h.id)

/-- Whether the object of a handle is there. -/
def isLive (e : Engine) (h : Handle) : Bool := (e.record h).isOk

/-- The first definition of a group with a name. -/
def definition? (e : Engine) (g : Group) (name : String) : Option Definition :=
  e.catalog.find? fun d => d.group = g ∧ d.name = name

/-- The first definition of a group with a name. -/
def definition (e : Engine) (g : Group) (name : String) : Except EngineError Definition :=
  match e.definition? g name with
  | some d => .ok d
  | none => .error (.unknownDefinition g name)

/-- The name an object is registered under. -/
def registrationName (e : Engine) (h : Handle) : Except EngineError String :=
  (e.record h).map Record.name

/-- The properties of an object. -/
def properties (e : Engine) (h : Handle) : Except EngineError Properties :=
  (e.record h).map Record.properties

/-- The objects of a group on a connection, in the order of their creation. -/
def list (e : Engine) (c : ConnectionId) (g : Group) : List Handle :=
  match e.connections.find? c with
  | some s => (s.ofGroup g).map Record.handle
  | none => []

/-- The object of a group that is registered under a name; of several, the oldest. -/
def find? (e : Engine) (c : ConnectionId) (g : Group) (name : String) : Option Handle :=
  match e.connections.find? c with
  | some s => ((s.ofGroup g).find? fun r => r.name = name).map Record.handle
  | none => none

/-- The definitions of a group, as a live connection offers them. -/
def definitions (e : Engine) (c : ConnectionId) (g : Group) : List Definition :=
  if e.isAlive c then e.catalog.filter fun d => d.group = g else []

/-- The camera that a view owns. -/
def cameraOf (e : Engine) (view : Handle) : Except EngineError Handle :=
  if view.group ≠ .views then .error (.wrongGroup .views view.group)
  else do
    let s ← e.store view.connection
    let r ← e.record view
    match r.camera with
    | none => .error (.proxyNotFound view.id)
    | some camera =>
      match s.record? camera with
      | none => .error (.proxyNotFound camera)
      | some r => .ok r.handle

/-- The representation of a source in a view, if they have one that is still there. The
pair is looked up on the connection of the source. -/
def representation (e : Engine) (source view : Handle) :
    Except EngineError (Option Handle) := do
  let _ ← e.record source
  let _ ← e.record view
  let s ← e.store source.connection
  return ((s.representations.find? (source.id, view.id)).bind s.record?).map Record.handle

/-! ## Validation -/

/-- Why a definition refuses a value for a property, if it does. -/
def propertyFault? (e : Engine) (c : ConnectionId) (d : Definition) (name : String)
    (value : Value) : Option EngineError :=
  match d.property? name with
  | none => some (.unknownProperty d.name name)
  | some spec =>
    if !spec.type.admits value then
      some (.invalidProperty name (.typeMismatch spec.type.typeName value.typeName))
    else
      match value with
      | .proxy target =>
        if target.connection ≠ c ∨ !e.isLive target then
          some (.invalidProperty name (.foreignObject target c))
        else none
      | _ => none

/-- Validates properties against a definition; the first fault is reported. -/
def validate (e : Engine) (c : ConnectionId) (d : Definition) (ps : Properties) :
    Except EngineError Unit :=
  match ps.entries.findSome? fun p => e.propertyFault? c d p.1 p.2 with
  | some fault => .error fault
  | none => .ok ()

/-! ## Connections -/

/-- The connection that is made next. -/
def nextConnectionId (e : Engine) : ConnectionId := ⟨.ofNat e.nextConnection⟩

/-- The engine with one more connection. -/
def withConnection (e : Engine) : Engine :=
  { e with
    connections := e.connections.insert e.nextConnectionId .empty
    nextConnection := e.nextConnection + 1 }

/-- The engine without a connection and the objects on it. -/
def without (e : Engine) (c : ConnectionId) : Engine :=
  { e with connections := e.connections.erase c }

/-- Makes a connection. -/
def establish (url : String) : Step Engine EngineError ConnectionId := fun e =>
  let e := { e with stats.establishCalls := e.stats.establishCalls + 1 }
  match e.refusal with
  | some reason => (.error (.connectionFailed url (.refused reason)), e)
  | none =>
    if url ≠ servedUrl then (.error (.connectionFailed url (.unserved servedUrl)), e)
    else (.ok e.nextConnectionId, e.withConnection)

/-- Ends a connection; all objects on it go. -/
def disconnect (c : ConnectionId) : Step Engine EngineError Unit := fun e =>
  let e := { e with stats.disconnectCalls := e.stats.disconnectCalls + 1 }
  if e.isAlive c then (.ok (), e.without c)
  else (.error (.unknownConnection c), e)

/-- Refuses connections from now on, or accepts them again. -/
def setRefusal (reason : Option String) (e : Engine) : Engine := { e with refusal := reason }

/-- Adds a definition at the end of the catalog. -/
def addDefinition (d : Definition) (e : Engine) : Engine :=
  { e with catalog := e.catalog ++ [d] }

/-! ## Objects -/

/-- Changes the objects of a connection. -/
def updateStore (e : Engine) (c : ConnectionId) (f : Store → Store) : Engine :=
  { e with connections := e.connections.modify c f }

/-- The handle of the object that is made next. -/
def nextHandle (e : Engine) (c : ConnectionId) (d : Definition) : Handle :=
  ⟨.ofNat e.nextObject, c, d.group, d.name⟩

/-- Makes an object from a definition; properties that are not given get their defaults. -/
def addObject (e : Engine) (c : ConnectionId) (d : Definition) (ps : Properties) : Engine :=
  let h := e.nextHandle c d
  let e := e.updateStore c fun s => s.add h d.label (ps.fillDefaults d.properties)
  { e with nextObject := e.nextObject + 1 }

/-- Makes a camera from a definition, all its properties being defaults, for the object that
is to own it. -/
def addCamera (e : Engine) (c : ConnectionId) (owner : UInt64) (d : Definition) : Engine :=
  (e.addObject c d ∅).updateStore c fun s => s.linkCamera owner (e.nextHandle c d).id

/-- Makes the representation of a pair from a definition. It shows its source. -/
def addRepresentation (e : Engine) (source view : Handle) (d : Definition) : Engine :=
  let c := source.connection
  (e.addObject c d (OrderedMap.ofList [("Input", .proxy source)])).updateStore c fun s =>
    s.represent source.id view.id (e.nextHandle c d).id

/-- What a new object is made from, if its properties are valid. -/
def blueprint (e : Engine) (c : ConnectionId) (g : Group) (name : String) (ps : Properties) :
    Except EngineError Definition := do
  let _ ← e.store c
  let d ← e.definition g name
  e.validate c d ps
  return d

/-- Makes an object. A view gets a camera, unless the catalog has no definition of one :
then the call fails, though the view is there. -/
def create (c : ConnectionId) (g : Group) (name : String) (ps : Properties) :
    Step Engine EngineError Handle := fun e =>
  match e.blueprint c g name ps with
  | .error fault => (.error fault, e)
  | .ok d =>
    let h := e.nextHandle c d
    let e := e.addObject c d ps
    if g ≠ .views then (.ok h, e)
    else
      match e.definition .cameras "Camera" with
      | .error fault => (.error fault, e)
      | .ok camera => (.ok h, e.addCamera c h.id camera)

/-- Deletes an object, with its camera and the representations that depend on it. -/
def delete (h : Handle) : Step Engine EngineError Unit := fun e =>
  match e.record h with
  | .error fault => (.error fault, e)
  | .ok _ => (.ok (), e.updateStore h.connection fun s => s.remove h.id)

/-- Gives an object another name, which has to be free of control characters. -/
def rename (h : Handle) (name : String) : Step Engine EngineError Unit := fun e =>
  if Text.hasControl name then
    (.error (.invalidProperty "registrationName" .controlCharacters), e)
  else
    match e.record h with
    | .error fault => (.error fault, e)
    | .ok _ => (.ok (), e.updateStore h.connection fun s => s.rename h.id name)

/-- Changes properties of an object, all of them or none. -/
def setProperties (h : Handle) (ps : Properties) : Step Engine EngineError Unit := fun e =>
  let check := do
    let _ ← e.record h
    let d ← e.definition h.group h.definition
    e.validate h.connection d ps
  match check with
  | .error fault => (.error fault, e)
  | .ok () => (.ok (), e.updateStore h.connection fun s => s.write h.id ps)

/-! ## Rendering -/

/-- Renders a view. -/
def render (view : Handle) : Step Engine EngineError Unit := fun e =>
  if view.group ≠ .views then (.error (.wrongGroup .views view.group), e)
  else
    match e.record view with
    | .error fault => (.error fault, e)
    | .ok _ => (.ok (), { e with stats.renders := e.stats.renders + 1 })

/-- Renders a view and lets the user interact with it. -/
def interact (view : Handle) : Step Engine EngineError Unit := do
  render view
  Step.update fun e => { e with stats.interactions := e.stats.interactions + 1 }

/-- The number of the representation of a pair, which is made if the table has none. -/
def ensureRepresentation (source view : Handle) : Step Engine EngineError UInt64 := fun e =>
  match e.store source.connection with
  | .error fault => (.error fault, e)
  | .ok s =>
    match s.representations.find? (source.id, view.id) with
    | some id => (.ok id, e)
    | none =>
      match e.definition .representations "GeometryRepresentation" with
      | .error fault => (.error fault, e)
      | .ok d =>
        (.ok (e.nextHandle source.connection d).id, e.addRepresentation source view d)

/-- Shows or hides what a representation draws. -/
def display (e : Engine) (c : ConnectionId) (representation : UInt64) (visible : Bool) : Engine :=
  e.updateStore c fun s =>
    s.write representation (OrderedMap.ofList [("Visibility", .bool visible)])

/-- Shows or hides a source in a view of its connection; the answer is the representation
of the pair. -/
def setVisibility (source view : Handle) (visible : Bool) :
    Step Engine EngineError Handle := do
  if source.connection ≠ view.connection then
    Step.fail (.differentConnections source view)
  else
    let _ ← Step.query fun e : Engine => e.record source
    let _ ← Step.query fun e : Engine => e.record view
    let id ← ensureRepresentation source view
    let s ← Step.query fun e : Engine => e.store source.connection
    match s.record? id with
    | none => Step.fail (.proxyNotFound id)
    | some r =>
      Step.update fun e => e.display source.connection id visible
      return r.handle

end Engine

end VizSession
