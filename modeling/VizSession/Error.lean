import VizSession.SlotKind

/-!
# What can go wrong

Each layer has its own type of failures, whose constructors are the causes : `CallError`
for contributed functions, `EngineError` for the engine, `SessionError` for the session,
`ConfigError` for configurations. `message` is the one place where a cause gets its words.
-/

namespace VizSession

/-- Why a contributed function or a plugin fails. -/
inductive CallError where
  /-- The plugin could not be scanned. -/
  | introspection (plugin message : String)
  /-- An argument was not given. -/
  | missingArgument (name : String)
  /-- An argument is of the wrong type. -/
  | typeMismatch (name expected : String)
  /-- Anything else the function reports. -/
  | failed (message : String)
deriving DecidableEq

/-- The words for a failed call. -/
def CallError.message : CallError → String
  | introspection plugin message => s!"Namespace '{plugin}' could not be scanned: {message}"
  | missingArgument name => s!"Missing required argument: {name}"
  | typeMismatch name expected => s!"Argument '{name}' has the wrong type: expected {expected}"
  | failed message => message

/-- Why a connection is not made. -/
inductive ConnectionFault where
  /-- The engine refuses connections, for this reason. -/
  | refused (reason : String)
  /-- The engine does not serve such addresses, only this one. -/
  | unserved (served : String)
deriving DecidableEq

/-- The words for a connection that was not made. -/
def ConnectionFault.message : ConnectionFault → String
  | refused reason => reason
  | unserved served => s!"local engine only serves '{served}'"

/-- Why a property does not take a value. -/
inductive PropertyFault where
  /-- The declared type does not admit it. -/
  | typeMismatch (expected found : String)
  /-- It refers to an object that is not there, or not on this connection. -/
  | foreignObject (target : Handle) (connection : ConnectionId)
  /-- As a name it is blank. -/
  | blankName
  /-- As a name it holds control characters. -/
  | controlCharacters
deriving DecidableEq

/-- The words for a refused value. -/
def PropertyFault.message : PropertyFault → String
  | typeMismatch expected found => s!"expected {expected}, got {found}"
  | foreignObject target connection => s!"{target.label} is not an object of {connection.label}"
  | blankName => "name is empty"
  | controlCharacters => "name contains control characters"

/-- Why the engine fails. -/
inductive EngineError where
  /-- No connection could be made to the address. -/
  | connectionFailed (url : String) (fault : ConnectionFault)
  /-- There is no such connection. -/
  | unknownConnection (connection : ConnectionId)
  /-- The group has no definition of that name. -/
  | unknownDefinition (group : Group) (name : String)
  /-- The definition does not declare the property. -/
  | unknownProperty (definition property : String)
  /-- The property does not take the value. -/
  | invalidProperty (property : String) (fault : PropertyFault)
  /-- There is no object of that number. -/
  | proxyNotFound (id : UInt64)
  /-- The object is of another group than the operation works on. -/
  | wrongGroup (expected found : Group)
  /-- A source cannot be drawn in a view of another connection. -/
  | differentConnections (source view : Handle)
deriving DecidableEq

/-- The words for a failure of the engine. -/
def EngineError.message : EngineError → String
  | connectionFailed url fault => s!"Failed to connect to '{url}': {fault.message}"
  | unknownConnection connection => s!"Connection {connection.label} does not exist"
  | unknownDefinition group name => s!"No definition '{name}' in group '{group.name}'"
  | unknownProperty definition property => s!"'{definition}' has no property '{property}'"
  | invalidProperty property fault =>
    s!"Invalid value for property '{property}': {fault.message}"
  | proxyNotFound id => "Proxy " ++ Decimal.natural id.toNat ++ " not found"
  | wrongGroup expected found =>
    s!"Expected a proxy from group '{expected.name}', got '{found.name}'"
  | differentConnections source view =>
    s!"Rendering failed: {source.label} and {view.label} live on different connections"

/-- Why a session fails. -/
inductive SessionError where
  /-- No connection is active. -/
  | noActiveConnection
  /-- Nothing of the kind is active. -/
  | noActive (kind : SlotKind)
  /-- The connection of the active object is gone. -/
  | staleReference (kind : SlotKind) (connection : ConnectionId)
  /-- The active object is gone, though its connection is not. -/
  | deleted (kind : SlotKind) (handle : Handle)
  /-- The object belongs to another connection than the active one. -/
  | wrongConnection (kind : SlotKind) (expected found : ConnectionId)
  /-- Objects of the group cannot be active as that kind. -/
  | kindMismatch (kind : SlotKind) (group : Group)
  /-- A connection cannot be active as that kind. -/
  | notAProxy (kind : SlotKind)
  /-- There is no such kind. -/
  | unknownKind (word : String)
  /-- There is no such connection. -/
  | unknownConnection (connection : ConnectionId)
  /-- No function of that name is exported. -/
  | unknownFunction (name : String)
  /-- The called function failed. -/
  | call (name : String) (cause : CallError)
  /-- The plugin could not be registered. -/
  | registration (plugin : String) (cause : CallError)
  /-- The engine failed. -/
  | engine (cause : EngineError)
deriving DecidableEq

/-- The words for a failure of a session. -/
def SessionError.message : SessionError → String
  | noActiveConnection => "No active connection"
  | noActive kind => s!"No active {kind.name}"
  | staleReference kind connection =>
    s!"Active {kind.name} refers to connection {connection.label}, which no longer exists"
  | deleted kind handle => s!"Active {kind.name} {handle.label} no longer exists"
  | wrongConnection kind expected found =>
    s!"Cannot make {kind.name} active: it belongs to connection {found.label}, " ++
      s!"active connection is {expected.label}"
  | kindMismatch kind group =>
    s!"Cannot make a proxy from group '{group.name}' the active {kind.name}"
  | notAProxy kind => s!"Cannot make a connection the active {kind.name}"
  | unknownKind word =>
    s!"Unknown active object kind: '{word}' (expected connection, view, source or camera)"
  | unknownConnection connection => s!"Unknown connection: {connection.label}"
  | unknownFunction name => s!"Unknown function: {name}"
  | call name cause => s!"Call to '{name}' failed: {cause.message}"
  | registration plugin cause => s!"Cannot register namespace '{plugin}': {cause.message}"
  | engine cause => s!"Engine error: {cause.message}"

/-- Why there is no configuration. -/
inductive ConfigError where
  /-- The file is not there, cannot be read, or is not text. -/
  | unreadable
  /-- The text is no TOML document of a configuration. -/
  | malformedToml
  /-- The text is no JSON value of a configuration. -/
  | malformedJson
  /-- The default view is a label, having blanks in it, where the name of a definition
  belongs. -/
  | labelAsView (view : String)
  /-- The field is blank. -/
  | missingField (field : String)
deriving DecidableEq

/-- The words for a failure of a configuration whose text was understood; the others speak
of a file or a place in a text, which is not kept. -/
def ConfigError.message : ConfigError → Option String
  | unreadable | malformedToml | malformedJson => none
  | labelAsView view => some <|
    "Invalid configuration: Value out of range: " ++
      s!"default_view '{view}' must be a definition name, not a label"
  | missingField field => some s!"Invalid configuration: Missing field: {field}"

end VizSession
