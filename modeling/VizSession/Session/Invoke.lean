import VizSession.Session.Extension

/-!
# Calling functions by name

Scripts call everything by name. An exported name has one provider : a constructor, a
contributed function, or a built-in function (`provide`).

A call of a built-in function is bound first : each parameter gets the keyword of its name
or what stands at its position, and the other keywords are left over (`Builtin.bind`). The
function sees nothing else of the arguments, so it cannot matter which way a parameter was
given. Connections cross this boundary as integers.
-/

namespace VizSession

/-- A call of a built-in function with its arguments bound to the parameters. -/
structure BoundCall where
  /-- The called function. -/
  callee : Builtin
  /-- The arguments of the parameters that were given. -/
  given : Properties
  /-- The keywords that are no parameters. -/
  rest : Properties

/-- Binds arguments to the parameters of a function. -/
def Builtin.bind (b : Builtin) (args : Args) : BoundCall where
  callee := b
  given := OrderedMap.ofList <|
    b.params.zipIdx.filterMap fun p => (args.lookup? p.1 p.2).map fun v => (p.1, v)
  rest := args.keywords.without b.params

namespace BoundCall

/-! ## Arguments of a bound call -/

/-- A failure of the called function. -/
def failure (c : BoundCall) (cause : CallError) : SessionError := .call c.callee.name cause

/-- The argument of a parameter that takes a text. -/
def text (c : BoundCall) (param : String) : Except SessionError String :=
  match c.given.find? param with
  | none => .error (c.failure (.missingArgument param))
  | some (.text s) => .ok s
  | some _ => .error (c.failure (.typeMismatch param "string"))

/-- The argument of a parameter that takes an object, or nothing for the active one. -/
def proxy? (c : BoundCall) (param : String) : Except SessionError (Option Handle) :=
  match c.given.find? param with
  | none | some .unset => .ok none
  | some (.proxy h) => .ok (some h)
  | some _ => .error (c.failure (.typeMismatch param "proxy"))

/-- The argument of a parameter that takes an object. -/
def proxy (c : BoundCall) (param : String) : Except SessionError Handle := do
  match ← c.proxy? param with
  | some h => .ok h
  | none => .error (c.failure (.missingArgument param))

/-- The argument of a parameter that takes a connection : a positive integer. -/
def connection (c : BoundCall) (param : String) : Except SessionError ConnectionId :=
  match c.given.find? param with
  | none => .error (c.failure (.missingArgument param))
  | some (.int n) =>
    if 0 < n then .ok ⟨n.toUInt64⟩
    else .error (c.failure (.typeMismatch param "connection id"))
  | some _ => .error (c.failure (.typeMismatch param "connection id"))

/-- The argument of a parameter that takes a kind of active objects. -/
def kind (c : BoundCall) (param : String) : Except SessionError SlotKind := do
  let word ← c.text param
  match SlotKind.ofName? word with
  | some k => .ok k
  | none => .error (.unknownKind word)

/-- The argument of a parameter that takes something to make active : an integer is a
connection, all else an object. -/
def occupant (c : BoundCall) (param : String) : Except SessionError Occupant :=
  match c.given.find? param with
  | some (.int _) => (c.connection param).map .connection
  | _ => (c.proxy param).map .proxy

/-- The argument of a parameter that takes the name of a group, ASCII case aside. -/
def group (c : BoundCall) (param : String) : Except SessionError Group := do
  let word ← c.text param
  match Group.all.find? fun g => g.name = word.toLower with
  | some g => .ok g
  | none => .error (c.failure (.typeMismatch param "proxy group name"))

end BoundCall

namespace Session

/-! ## Answers as values -/

/-- A connection as a value. -/
def connectionValue (c : ConnectionId) : Value := .int c.raw.toInt64

/-- An object, or none, as a value. -/
def proxyValue : Option Handle → Value
  | some h => .proxy h
  | none => .unset

/-- What is active as a value. -/
def occupantValue : Option Occupant → Value
  | some (.connection c) => connectionValue c
  | some (.proxy h) => .proxy h
  | none => .unset

/-- Objects as a value. -/
def listValue (hs : List Handle) : Value := .list (hs.map .proxy)

/-- A number of things as a value. -/
def countValue (n : Nat) : Value := .int (.ofNat n)

/-- What starting did as a value. -/
def startupValue : Startup → Value
  | .satellite => .text "satellite"
  | .connected _ => .text "connected"
  | .extended _ => .text "extended"

/-! ## Built-in functions -/

/-- Makes the object active that a parameter gives. -/
def setActiveFrom (k : SlotKind) (c : BoundCall) (param : String) : SessionStep Value := do
  let h ← Step.ofExcept (c.proxy param)
  setActive k (.proxy h)
  return .unset

/-- Carries out a bound call of a built-in function. -/
def call (c : BoundCall) : SessionStep Value :=
  match c.callee with
  | .extendNamespace => fun s =>
    let (report, s) := s.extendNamespace []
    (.ok (countValue report.exports.added.length), s)
  | .connect => return connectionValue (← connect)
  | .disconnect => do disconnect; return .unset
  | .resetSession => return connectionValue (← reset)
  | .start => return startupValue (← start)
  | .getActive => do
    let k ← Step.ofExcept (c.kind "kind")
    return occupantValue (← active k)
  | .setActive => do
    let k ← Step.ofExcept (c.kind "kind")
    let o ← Step.ofExcept (c.occupant "object")
    setActive k o
    return .unset
  | .getActiveConnection => return ((← activeConnection).map connectionValue).getD .unset
  | .getActiveView => return proxyValue (← activeProxy .view)
  | .getActiveSource => return proxyValue (← activeProxy .source)
  | .getActiveCamera => return proxyValue (← activeProxy .camera)
  | .setActiveConnection => do
    let connection ← Step.ofExcept (c.connection "connection")
    setActive .connection (.connection connection)
    return .unset
  | .setActiveView => setActiveFrom .view c "view"
  | .setActiveSource => setActiveFrom .source c "source"
  | .setActiveCamera => setActiveFrom .camera c "camera"
  | .getActiveViewOrCreate => return .proxy (← activeViewOrCreate)
  | .cameraForView => do
    let view ← orActive .view (← Step.ofExcept (c.proxy? "view"))
    return .proxy (← cameraOf view)
  | .create => do
    let g ← Step.ofExcept (c.group "group")
    let name ← Step.ofExcept (c.text "xml_name")
    return .proxy (← create g name c.rest)
  | .createSource => do
    let name ← Step.ofExcept (c.text "xml_name")
    return .proxy (← create .sources name c.rest)
  | .createView => do
    let name ← Step.ofExcept (c.text "xml_name")
    return .proxy (← create .views name c.rest)
  | .delete => do
    delete (← Step.ofExcept (c.proxy "proxy"))
    return .unset
  | .rename => do
    let h ← Step.ofExcept (c.proxy "proxy")
    let name ← Step.ofExcept (c.text "name")
    rename h name
    return .unset
  | .findSource => do
    let name ← Step.ofExcept (c.text "name")
    return proxyValue (← find .sources name)
  | .findView => do
    let name ← Step.ofExcept (c.text "name")
    return proxyValue (← find .views name)
  | .findViewOrCreate => do
    let name ← Step.ofExcept (c.text "name")
    let definition ←
      if c.given.contains "xml_name" then Step.ofExcept (c.text "xml_name")
      else Step.read fun s => s.config.defaultView
    return .proxy (← findViewOrCreate name definition)
  | .getSources => return listValue (← list .sources)
  | .getViews => return listValue (← list .views)
  | .setProperties => do
    let h ← Step.ofExcept (c.proxy? "proxy")
    return .proxy (← setProperties h c.rest)
  | .getProperty => do
    let name ← Step.ofExcept (c.text "name")
    let h ← Step.ofExcept (c.proxy? "proxy")
    getProperty h name
  | .resetProperty => do
    let name ← Step.ofExcept (c.text "name")
    let h ← Step.ofExcept (c.proxy? "proxy")
    resetProperty h name
  | .getRepresentation => do
    let source ← Step.ofExcept (c.proxy? "source")
    let view ← Step.ofExcept (c.proxy? "view")
    return .proxy (← getRepresentation source view)
  | .render => do
    let view ← Step.ofExcept (c.proxy? "view")
    return .proxy (← render view)
  | .renderAllViews => return countValue (← renderAllViews)
  | .interact => do
    let view ← Step.ofExcept (c.proxy? "view")
    return .proxy (← interact view)
  | .showSource => do
    let source ← Step.ofExcept (c.proxy? "source")
    let view ← Step.ofExcept (c.proxy? "view")
    return .proxy (← showSource source view)
  | .hideSource => do
    let source ← Step.ofExcept (c.proxy? "source")
    let view ← Step.ofExcept (c.proxy? "view")
    return .proxy (← hideSource source view)
  | .loadPlugin => Step.fail <| c.failure <|
    .failed "plugins are loaded from the host with SessionContext::load_plugin"

/-! ## Providers of exported names -/

/-- Makes an object by its constructor. Keywords are properties. A definition that takes an
input gets the first positional object as its input, or else the active source, unless a
keyword gives it. -/
def construct (d : Definition) (args : Args) : SessionStep Handle := do
  if d.takesInput && !args.keywords.contains "Input" then
    let input ← match args.positional.head?.bind Value.asProxy with
      | some h => pure (some h)
      | none => activeProxy .source
    match input with
    | some h => create d.group d.name (args.keywords.insert "Input" (.proxy h))
    | none => create d.group d.name args.keywords
  else create d.group d.name args.keywords

/-- Calls an exported function : a constructor, a contributed function, or whatever else
provides the name. -/
def provide (otherwise : String → Args → SessionStep Value) (name : String) (args : Args) :
    SessionStep Value := fun s =>
  if !s.exports.contains name then (.error (.unknownFunction name), s)
  else
    match s.constructors.find? name with
    | some d => (do return .proxy (← construct d args) : SessionStep Value) s
    | none =>
      match s.registry.callable? name with
      | some c => ((c.run args).mapError (.call name), s)
      | none => otherwise name args s

/-- Calls the built-in function of a name. -/
def callBuiltin (name : String) (args : Args) : SessionStep Value :=
  match Builtin.ofName? name with
  | some b => call (b.bind args)
  | none => Step.fail (.unknownFunction name)

/-- What is left of the arguments once the name of the function to call is taken out. -/
def forwarded (args : Args) : Args where
  positional := if args.keywords.contains "name" then args.positional else args.positional.drop 1
  keywords := args.keywords.without ["name"]

/-- Calls the exported function that the arguments name, with the rest of them. Naming the
forwarding function itself fails, so a call is forwarded once at most. -/
def forward (args : Args) : SessionStep Value :=
  match args.text "name" 0 with
  | .error cause => Step.fail (.call Builtin.forwarding cause)
  | .ok target =>
    if target = Builtin.forwarding then
      Step.fail (.call Builtin.forwarding (.failed "cannot invoke 'invoke' by name"))
    else provide callBuiltin target (forwarded args)

/-- Calls what the session itself provides under a name. -/
def dispatch (name : String) (args : Args) : SessionStep Value :=
  if name = Builtin.forwarding then forward args else callBuiltin name args

/-- Calls an exported function. -/
def invoke (name : String) (args : Args) : SessionStep Value := provide dispatch name args

end Session

end VizSession
