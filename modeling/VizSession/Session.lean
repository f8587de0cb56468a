import VizSession.Builtin
import VizSession.Config
import VizSession.Registry
import VizSession.Slots

/-!
# Sessions

A `Session` is an engine together with what a script builds up around it : the active
objects, the exported names, the contributed functions and the constructors made from the
definitions of the engine. Nothing is shared between two sessions.

Its methods are steps on the session (`SessionStep`). A method may act on the engine
(`onEngine`), on the slots, which are checked against the engine (`onSlots`), or on the
rest. This module holds the start, the connections and the active objects; the others
build on it.
-/

namespace VizSession

/-- A scripting session over an engine. -/
structure Session where
  /-- What identifies the session. -/
  id : String
  /-- When the session was made. -/
  createdAt : String
  /-- The engine the session works on. -/
  engine : Engine
  /-- How the session connects, and what it may do of its own accord. -/
  config : Config
  /-- What is active. -/
  slots : Slots
  /-- The names that scripts can call. -/
  exports : ExportList
  /-- The functions that plugins contributed. -/
  registry : Registry
  /-- The constructors, by name, with the definition each makes objects from. -/
  constructors : OrderedMap String Definition

/-- A method of sessions. -/
abbrev SessionStep (α : Type) := Step Session SessionError α

namespace Session

/-- The registry in which all built-in names are reserved. -/
def initialRegistry : Registry :=
  Builtin.names.foldl (fun r name => (r.reserve name "the session builtins").2) .empty

/-- A session in which nothing is active. -/
def new (id createdAt : String) (engine : Engine) (config : Config) : Session :=
  ⟨id, createdAt, engine, config, .empty, Builtin.exports, initialRegistry, ∅⟩

/-- Runs a step of the engine. -/
def onEngine {α : Type} (x : Step Engine EngineError α) : SessionStep α :=
  Step.within Session.engine (fun e s => { s with engine := e }) .engine x

/-- Runs a step of the slots that sees the engine. -/
def onSlots {α : Type} (x : Engine → Step Slots SessionError α) : SessionStep α := fun s =>
  let (r, slots) := x s.engine s.slots
  (r, { s with slots := slots })

/-- Changes the slots. -/
def updateSlots (f : Slots → Slots) : SessionStep Unit :=
  Step.update fun s => { s with slots := f s.slots }

theorem onEngine_ok {α : Type} {x : Step Engine EngineError α} {s : Session} {a : α} {e : Engine}
    (h : x s.engine = (.ok a, e)) : onEngine x s = (.ok a, { s with engine := e }) :=
  Step.within_ok h

theorem onEngine_error {α : Type} {x : Step Engine EngineError α} {s : Session}
    {fault : EngineError} {e : Engine} (h : x s.engine = (.error fault, e)) :
    onEngine x s = (.error (.engine fault), { s with engine := e }) :=
  Step.within_error h

/-- Asks the engine a question. -/
def askEngine {α : Type} (f : Engine → Except EngineError α) : SessionStep α :=
  onEngine (Step.query f)

/-! ## Active objects -/

/-- What is active as a kind, checked against the engine. -/
def active (k : SlotKind) : SessionStep (Option Occupant) :=
  Step.query fun s => s.slots.get k s.engine

/-- The active connection. -/
def activeConnection : SessionStep (Option ConnectionId) := do
  return (← active .connection).bind Occupant.connection?

/-- The active object of a kind. -/
def activeProxy (k : SlotKind) : SessionStep (Option Handle) := do
  return (← active k).bind Occupant.proxy?

/-- Makes something active. -/
def setActive (k : SlotKind) (o : Occupant) : SessionStep Unit := onSlots (Slots.set k o)

/-- Empties the slot of a kind; the answer is what it held. -/
def clearActive (k : SlotKind) : SessionStep (Option Occupant) := do
  let held ← Step.read fun s => s.slots.peek k
  updateSlots fun slots => slots.clear k
  return held

/-- The active connection, without which the method fails. -/
def requireConnection : SessionStep ConnectionId := do
  match ← activeConnection with
  | some c => return c
  | none => Step.fail .noActiveConnection

/-- The given object, or else the active one of a kind, without which the method fails. -/
def orActive (k : SlotKind) : Option Handle → SessionStep Handle
  | some h => return h
  | none => do
    match ← activeProxy k with
    | some h => return h
    | none => Step.fail (.noActive k)

/-! ## Connections -/

/-- Ends a connection, if it is alive, and empties every slot that belongs to it. -/
def leave (c : ConnectionId) : SessionStep Unit := do
  if ← Step.read fun s => s.engine.isAlive c then
    onEngine (Engine.disconnect c)
  updateSlots fun slots => slots.forgetConnection c

/-- Makes a connection to the configured address and makes it active. -/
def join : SessionStep ConnectionId := do
  let url ← Step.read fun s => s.config.url
  let c ← onEngine (Engine.establish url)
  setActive .connection (.connection c)
  return c

/-- Makes a connection and makes it active. A session has one active connection at a time :
the previous one is left first. -/
def connect : SessionStep ConnectionId := do
  match ← Step.read fun s => s.slots.connection with
  | some previous => leave previous
  | none => pure ()
  join

/-- Leaves the active connection. -/
def disconnect : SessionStep Unit := do
  match ← Step.read fun s => s.slots.connection with
  | some c => leave c
  | none => Step.fail .noActiveConnection

/-- Leaves the active connection, if there is one, and makes a new one. -/
def reset : SessionStep ConnectionId := do
  if (← Step.read fun s => s.slots.connection).isSome then
    disconnect
  connect

/-- A session inside a host that owns a connection already. -/
def embedded (id createdAt : String) (engine : Engine) (config : Config) (c : ConnectionId) :
    Except SessionError Session :=
  match setActive .connection (.connection c) (new id createdAt engine config) with
  | (.ok (), s) => .ok s
  | (.error fault, _) => .error fault

end Session

end VizSession
