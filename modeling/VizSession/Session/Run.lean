import VizSession.Engine.Run
import VizSession.Session.Invoke

/-!
# Runs of a session

Every method of a session as data (`Session.Op`), with its answer (`Session.Reply`).
`perform` is the one step behind each method. A host may also act on the engine directly,
which is an operation of its own (`Session.Op.engine`), and exchange the configuration.
-/

namespace VizSession.Session

/-- A method of a session with its arguments. -/
inductive Op where
  | start
  | connect
  | disconnect
  | reset
  | active (kind : SlotKind)
  | setActive (kind : SlotKind) (occupant : Occupant)
  | clearActive (kind : SlotKind)
  | activeConnection
  | activeProxy (kind : SlotKind)
  | cameraOf (view : Handle)
  | activeViewOrCreate
  | create (group : Group) (name : String) (properties : Properties)
  | delete (handle : Handle)
  | rename (handle : Handle) (name : String)
  | registrationName (handle : Handle)
  | find (group : Group) (name : String)
  | findViewOrCreate (name definition : String)
  | list (group : Group)
  | setProperties (handle : Option Handle) (properties : Properties)
  | getProperty (handle : Option Handle) (name : String)
  | resetProperty (handle : Option Handle) (name : String)
  | getRepresentation (source view : Option Handle)
  | showSource (source view : Option Handle)
  | hideSource (source view : Option Handle)
  | render (view : Option Handle)
  | renderAllViews
  | interact (view : Option Handle)
  | extendExports (names : List String)
  | registerPlugin (plugin : Plugin)
  | loadPlugin (plugin : Plugin)
  | extendNamespace (plugins : List Plugin)
  | invoke (name : String) (args : Args)
  | dispatch (name : String) (args : Args)
  | setConfig (config : Config)
  | engine (op : Engine.Op)

/-- An answer of a session. -/
inductive Reply where
  | done
  | count (n : Nat)
  | connection (c : ConnectionId)
  | connection? (c : Option ConnectionId)
  | handle (h : Handle)
  | handle? (h : Option Handle)
  | handles (hs : List Handle)
  | occupant? (o : Option Occupant)
  | cleared (o : Option Occupant)
  | text (s : String)
  | value (v : Value)
  | startup (outcome : Startup)
  | merged (report : MergeReport)
  | registered (report : Registration)
  | extended (report : ExtensionReport)

/-- Lets the host act on the engine; the answer is that of the engine. -/
def hostCall (op : Engine.Op) (s : Session) : Except EngineError Engine.Reply × Session :=
  let (r, e) := Engine.perform op s.engine
  (r, { s with engine := e })

/-- Carries out a method. What the engine answers to its host is no answer of the session. -/
def perform : Op → SessionStep Reply
  | .start => return .startup (← start)
  | .connect => return .connection (← connect)
  | .disconnect => do disconnect; return .done
  | .reset => return .connection (← reset)
  | .active k => return .occupant? (← active k)
  | .setActive k o => do setActive k o; return .done
  | .clearActive k => return .cleared (← clearActive k)
  | .activeConnection => return .connection? (← activeConnection)
  | .activeProxy k => return .handle? (← activeProxy k)
  | .cameraOf view => return .handle (← cameraOf view)
  | .activeViewOrCreate => return .handle (← activeViewOrCreate)
  | .create g name ps => return .handle (← create g name ps)
  | .delete h => do delete h; return .done
  | .rename h name => do rename h name; return .done
  | .registrationName h => return .text (← registrationName h)
  | .find g name => return .handle? (← find g name)
  | .findViewOrCreate name definition => return .handle (← findViewOrCreate name definition)
  | .list g => return .handles (← list g)
  | .setProperties h ps => return .handle (← setProperties h ps)
  | .getProperty h name => return .value (← getProperty h name)
  | .resetProperty h name => return .value (← resetProperty h name)
  | .getRepresentation source view => return .handle (← getRepresentation source view)
  | .showSource source view => return .handle (← showSource source view)
  | .hideSource source view => return .handle (← hideSource source view)
  | .render view => return .handle (← render view)
  | .renderAllViews => return .count (← renderAllViews)
  | .interact view => return .handle (← interact view)
  | .extendExports names => fun s =>
    let (report, s) := s.extendExports names
    (.ok (.merged report), s)
  | .registerPlugin p => return .registered (← registerPlugin p)
  | .loadPlugin p => return .extended (← loadPlugin p)
  | .extendNamespace ps => fun s =>
    let (report, s) := s.extendNamespace ps
    (.ok (.extended report), s)
  | .invoke name args => return .value (← invoke name args)
  | .dispatch name args => return .value (← dispatch name args)
  | .setConfig config => do
    Step.update fun s => { s with config := config }
    return .done
  | .engine op => do
    Step.update fun s => (s.hostCall op).2
    return .done

/-- The session after methods, whether they succeed or fail. -/
def run (s : Session) (ops : List Op) : Session := ops.foldl (fun s op => (perform op s).2) s

end VizSession.Session
