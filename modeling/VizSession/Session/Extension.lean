import VizSession.Session.Objects

/-!
# Extending a session

What a session exports grows by plugins and by the definitions of the engine. Every
definition of a source or a view on the active connection gives a constructor, named
after its label, unless the label has no identifier in it or the identifier is the name of
a built-in function. The names of constructors are reserved, so a contributed function
under such a name is dropped.

`extendNamespace` brings everything in at once : constructors, the functions registered
earlier, and the plugins given.
-/

namespace VizSession

/-- What came of extending a session. -/
structure ExtensionReport where
  /-- The names that were offered for export. -/
  exports : MergeReport
  /-- The plugins that were scanned, and the names they lost. -/
  sweep : SweepReport
deriving DecidableEq

/-- What starting a session did. -/
inductive Startup where
  /-- A satellite starts nothing. -/
  | satellite
  /-- No connection was active, so one was made. -/
  | connected (c : ConnectionId)
  /-- A host owns the connection, so only the exports were extended. -/
  | extended (report : ExtensionReport)
deriving DecidableEq

namespace Session

/-! ## Names and plugins -/

/-- Offers names for export. -/
def extendExports (names : List String) (s : Session) : MergeReport × Session :=
  let (report, exports) := s.exports.merge names
  (report, { s with exports := exports })

/-- Scans a plugin without exporting its names. -/
def registerPlugin (p : Plugin) : SessionStep Registration :=
  Step.within Session.registry (fun r s => { s with registry := r }) (.registration p.name)
    (Registry.register p)

/-- Scans a plugin and exports its names. -/
def loadPlugin (p : Plugin) : SessionStep ExtensionReport := do
  let registration ← registerPlugin p
  fun s =>
    let (report, s) := s.extendExports registration.names
    (.ok ⟨report, registration.toSweep⟩, s)

/-! ## Constructors -/

/-- The definitions that constructors are made from : sources, then views, of the active
connection. Without a live one there are none. -/
def constructible (s : Session) : List Definition :=
  match s.slots.liveConnection s.engine with
  | .ok c => s.engine.definitions c .sources ++ s.engine.definitions c .views
  | .error _ => []

/-- The name of the constructor of a definition, if it has one. -/
def constructorName? (d : Definition) : Option String :=
  (ExportName.ofLabel? d.label).filter fun name => !Builtin.names.contains name

/-- Makes the constructor of a definition. -/
def addConstructor (s : Session) (name : String) (d : Definition) : Session :=
  { s with
    registry := (s.registry.reserve name s!"the constructor for '{d.name}'").2
    constructors := s.constructors.insert name d }

/-- The function that loses its name to the constructor of a definition, with the reason. -/
def replaced (s : Session) (name : String) (d : Definition) : List (String × String) :=
  if s.registry.entries.contains name then
    [(name, s!"replaced by the constructor for '{d.name}'")]
  else []

/-- Makes the constructors of definitions. The answer gives their names and the contributed
functions that lost theirs. -/
def addConstructors (s : Session) :
    List Definition → (List String × List (String × String)) × Session
  | [] => (([], []), s)
  | d :: ds =>
    match constructorName? d with
    | none => s.addConstructors ds
    | some name =>
      let ((names, lost), s') := (s.addConstructor name d).addConstructors ds
      ((name :: names, s.replaced name d ++ lost), s')

/-! ## Extending and starting -/

/-- Exports the constructors of the active connection, the functions registered earlier,
and those of the given plugins. A plugin that cannot be scanned is reported. -/
def extendNamespace (plugins : List Plugin) (s : Session) : ExtensionReport × Session :=
  let ((names, lost), s) := s.addConstructors s.constructible
  let (constructors, s) := s.extendExports names
  let (earlier, s) := s.extendExports s.registry.names
  let (sweep, registry) := s.registry.registerAll plugins
  let (contributed, s) := { s with registry := registry }.extendExports sweep.names
  (⟨constructors ++ earlier ++ contributed, ⟨[], [], lost, []⟩ ++ sweep⟩, s)

/-- Starts the session : a satellite does nothing, a session without an active connection
connects, and one inside a host extends its exports. -/
def start : SessionStep Startup := do
  if ← Step.read fun s => s.config.satellite then return .satellite
  match ← activeConnection with
  | none => return .connected (← connect)
  | some _ => fun s =>
    let (report, s) := s.extendNamespace []
    (.ok (.extended report), s)

end Session

end VizSession
