import VizSession.Session

/-!
# Objects of a session

Making, finding, naming, changing and deleting objects on the active connection, and
showing and rendering them. A new source or view becomes active. Where no object is given
the active one is meant, and a view that is needed is made if the configuration says so.
-/

namespace VizSession.Session

/-! ## Making and deleting -/

/-- The keyword that names a new object. -/
def nameKeyword : String := "registrationName"

/-- The name asked for a new object, which has to be a text that is not blank. -/
def requestedName (ps : Properties) : Except SessionError (Option String) :=
  match ps.find? nameKeyword with
  | none => .ok none
  | some (.text name) =>
    if Text.isBlankText name then .error (.engine (.invalidProperty nameKeyword .blankName))
    else .ok (some name)
  | some _ => .error (.call "create" (.typeMismatch nameKeyword "string"))

/-- Names a new object. If the engine refuses the name, the object is deleted again. -/
def nameOrDiscard (h : Handle) (name : String) : SessionStep Unit := fun s =>
  match Engine.rename h name s.engine with
  | (.ok (), e) => (.ok (), { s with engine := e })
  | (.error fault, e) => (.error (.engine fault), { s with engine := (Engine.delete h e).2 })

/-- Makes a new view or source active. -/
def activateNew (h : Handle) : Group → SessionStep Unit
  | .views => setActive .view (.proxy h)
  | .sources => setActive .source (.proxy h)
  | _ => pure ()

/-- Gives a new object the name that was asked for, if any, and makes it active. -/
def settle (h : Handle) (g : Group) (requested : Option String) : SessionStep Handle := do
  match requested with
  | some name => nameOrDiscard h name
  | none => pure ()
  activateNew h g
  return h

/-- Makes an object on the active connection. -/
def create (g : Group) (name : String) (ps : Properties) : SessionStep Handle := do
  let c ← requireConnection
  let requested ← Step.ofExcept (requestedName ps)
  let h ← onEngine (Engine.create c g name (ps.erase nameKeyword))
  settle h g requested

/-- Empties the camera slot if its camera is not there any more. -/
def dropLostCamera (s : Session) : Session :=
  match s.slots.camera with
  | some camera =>
    if s.engine.isLive camera then s else { s with slots := s.slots.clear .camera }
  | none => s

/-- Deletes an object. Slots that hold it are emptied, and the camera slot if the camera
went with the object. -/
def delete (h : Handle) : SessionStep Unit := do
  onEngine (Engine.delete h)
  updateSlots fun slots => slots.forgetProxy h
  Step.update dropLostCamera

/-- Gives an object another name. -/
def rename (h : Handle) (name : String) : SessionStep Unit := onEngine (Engine.rename h name)

/-- The name an object is registered under. -/
def registrationName (h : Handle) : SessionStep String :=
  askEngine fun e => e.registrationName h

/-! ## Finding -/

/-- The object of a group that is registered under a name. -/
def find (g : Group) (name : String) : SessionStep (Option Handle) := do
  let c ← requireConnection
  Step.read fun s => s.engine.find? c g name

/-- The objects of a group. -/
def list (g : Group) : SessionStep (List Handle) := do
  let c ← requireConnection
  Step.read fun s => s.engine.list c g

/-- The view of a name, which is made if there is none. -/
def findViewOrCreate (name definition : String) : SessionStep Handle := do
  match ← find .views name with
  | some view => return view
  | none => create .views definition (OrderedMap.ofList [(nameKeyword, .text name)])

/-- The camera that a view owns. -/
def cameraOf (view : Handle) : SessionStep Handle := askEngine fun e => e.cameraOf view

/-- The active view, which is made if there is none and the configuration allows it. -/
def activeViewOrCreate : SessionStep Handle := do
  match ← activeProxy .view with
  | some view => return view
  | none =>
    let config ← Step.read Session.config
    if config.autoCreateView then create .views config.defaultView ∅
    else Step.fail (.noActive .view)

/-- The given view, or else the active one, which is made if there is none. -/
def orActiveView : Option Handle → SessionStep Handle
  | some view => return view
  | none => activeViewOrCreate

/-! ## Properties -/

/-- Changes properties of an object; the answer is the object. -/
def setProperties (h : Option Handle) (ps : Properties) : SessionStep Handle := do
  let h ← orActive .source h
  onEngine (Engine.setProperties h ps)
  return h

/-- The value of a property. -/
def getProperty (h : Option Handle) (name : String) : SessionStep Value := do
  let h ← orActive .source h
  match (← askEngine fun e => e.properties h).find? name with
  | some v => return v
  | none => Step.fail (.engine (.unknownProperty h.definition name))

/-- The default that the definition of an object declares for a property. The definition
is looked for among those that the connection of the object offers. -/
def defaultOf? (s : Session) (h : Handle) (name : String) : Option Value := do
  let d ← (s.engine.definitions h.connection h.group).find? fun d => d.name = h.definition
  return (← d.property? name).default

/-- Gives a property its default again; the answer is the default. -/
def resetProperty (h : Option Handle) (name : String) : SessionStep Value := do
  let h ← orActive .source h
  match ← Step.read fun s => s.defaultOf? h name with
  | none => Step.fail (.engine (.unknownProperty h.definition name))
  | some v =>
    onEngine (Engine.setProperties h (OrderedMap.ofList [(name, v)]))
    return v

/-! ## Showing and rendering -/

/-- The representation of a source in a view. A source that was never shown there gets a
hidden one. -/
def getRepresentation (source view : Option Handle) : SessionStep Handle := do
  let source ← orActive .source source
  let view ← orActiveView view
  match ← askEngine fun e => e.representation source view with
  | some h => return h
  | none => onEngine (Engine.setVisibility source view false)

/-- Shows a source in a view. -/
def showSource (source view : Option Handle) : SessionStep Handle := do
  let source ← orActive .source source
  let view ← orActiveView view
  onEngine (Engine.setVisibility source view true)

/-- Hides a source in a view; no view is made for that. -/
def hideSource (source view : Option Handle) : SessionStep Handle := do
  let source ← orActive .source source
  let view ← orActive .view view
  onEngine (Engine.setVisibility source view false)

/-- Renders a view; the answer is the view. -/
def render (view : Option Handle) : SessionStep Handle := do
  let view ← orActiveView view
  onEngine (Engine.render view)
  return view

/-- Renders views one after another. -/
def renderEach : List Handle → SessionStep Unit
  | [] => pure ()
  | view :: views => do
    onEngine (Engine.render view)
    renderEach views

/-- Renders all views on the active connection; the answer is how many there are. -/
def renderAllViews : SessionStep Nat := do
  let views ← list .views
  renderEach views
  return views.length

/-- Lets the user interact with a view; the answer is the view. -/
def interact (view : Option Handle) : SessionStep Handle := do
  let view ← orActiveView view
  onEngine (Engine.interact view)
  return view

end VizSession.Session
