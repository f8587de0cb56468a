import VizSession.Engine

/-!
# Runs of the engine

Every operation of the engine as data (`Engine.Op`), with its answer (`Engine.Reply`).
`perform` is the one step behind each operation, and `Engine.Reachable` says that a state
comes about by operations from an engine with some catalog.
-/

namespace VizSession

/-- What an inventory tells about an object. -/
structure Listing where
  /-- The handle of the object. -/
  handle : Handle
  /-- The name it is registered under. -/
  name : String
  /-- Its properties. -/
  properties : Properties
  /-- The number of its camera, if it is a view that has one. -/
  camera : Option UInt64

namespace Engine

/-- The inventory of all objects, by connection, group and creation. -/
def inventory (e : Engine) : List Listing :=
  e.connections.entries.flatMap fun (_, s) =>
    Group.all.flatMap fun g =>
      (s.ofGroup g).map fun r =>
        { handle := r.handle
          name := r.name
          properties := r.properties
          camera := (e.cameraOf r.handle).toOption.map Handle.id }

/-- An operation of the engine. -/
inductive Op where
  | establish (url : String)
  | disconnect (connection : ConnectionId)
  | isAlive (connection : ConnectionId)
  | create (connection : ConnectionId) (group : Group) (name : String) (properties : Properties)
  | delete (handle : Handle)
  | isLive (handle : Handle)
  | registrationName (handle : Handle)
  | rename (handle : Handle) (name : String)
  | find (connection : ConnectionId) (group : Group) (name : String)
  | list (connection : ConnectionId) (group : Group)
  | properties (handle : Handle)
  | setProperties (handle : Handle) (properties : Properties)
  | cameraOf (view : Handle)
  | definitions (connection : ConnectionId) (group : Group)
  | render (view : Handle)
  | interact (view : Handle)
  | representation (source view : Handle)
  | setVisibility (source view : Handle) (visible : Bool)
  | setRefusal (reason : Option String)
  | addDefinition (definition : Definition)
  | inventory

/-- An answer of the engine. -/
inductive Reply where
  | done
  | truth (b : Bool)
  | connection (c : ConnectionId)
  | handle (h : Handle)
  | handle? (h : Option Handle)
  | handles (hs : List Handle)
  | text (s : String)
  | properties (ps : Properties)
  | definitions (ds : List Definition)
  | inventory (ls : List Listing)

/-- Carries out an operation. -/
def perform : Op → Step Engine EngineError Reply
  | .establish url => return .connection (← establish url)
  | .disconnect c => do disconnect c; return .done
  | .isAlive c => Step.read fun e => .truth (e.isAlive c)
  | .create c g name ps => return .handle (← create c g name ps)
  | .delete h => do delete h; return .done
  | .isLive h => Step.read fun e => .truth (e.isLive h)
  | .registrationName h => Step.query fun e => (e.registrationName h).map .text
  | .rename h name => do rename h name; return .done
  | .find c g name => Step.read fun e => .handle? (e.find? c g name)
  | .list c g => Step.read fun e => .handles (e.list c g)
  | .properties h => Step.query fun e => (e.properties h).map .properties
  | .setProperties h ps => do setProperties h ps; return .done
  | .cameraOf view => Step.query fun e => (e.cameraOf view).map .handle
  | .definitions c g => Step.read fun e => .definitions (e.definitions c g)
  | .render view => do render view; return .done
  | .interact view => do interact view; return .done
  | .representation source view => Step.query fun e => (e.representation source view).map .handle?
  | .setVisibility source view visible => return .handle (← setVisibility source view visible)
  | .setRefusal reason => do Step.update (setRefusal reason); return .done
  | .addDefinition d => do Step.update (addDefinition d); return .done
  | .inventory => Step.read fun e => .inventory e.inventory

/-- The engine after operations, whether they succeed or fail. -/
def run (e : Engine) (ops : List Op) : Engine := ops.foldl (fun e op => (perform op e).2) e

/-- The states that operations lead to from an engine with some catalog. -/
def Reachable (e : Engine) : Prop := ∃ catalog ops, e = (ofCatalog catalog).run ops

end Engine

end VizSession
