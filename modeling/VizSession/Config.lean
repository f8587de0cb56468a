import VizSession.Error
import VizSession.Text.CharClass

/-!
# Configurations

How a session connects and whether it may make a view of its own accord. A configuration
is valid when its texts are not blank and the default view has no blank in it, which tells
the name of a definition from its label.
-/

namespace VizSession

/-- The configuration of a session. -/
structure Config where
  /-- The address to connect to. -/
  url : String
  /-- Whether a view may be made when one is needed and none is active. -/
  autoCreateView : Bool
  /-- The definition of the view that is made then. -/
  defaultView : String
  /-- Whether the session is a satellite of another one and starts nothing. -/
  satellite : Bool
deriving DecidableEq

namespace Config

/-- The configuration used where nothing else is said. -/
def default : Config := ⟨"builtin:", true, "RenderView", false⟩

instance : Inhabited Config := ⟨default⟩

/-- The first reason against a configuration. -/
def fault? (c : Config) : Option ConfigError :=
  if Text.isBlankText c.url then some (.missingField "connection_url")
  else if Text.isBlankText c.defaultView then some (.missingField "default_view")
  else if Text.hasBlank c.defaultView then some (.labelAsView c.defaultView)
  else none

/-- The configuration itself, if it is valid. -/
def validate (c : Config) : Except ConfigError Config :=
  match c.fault? with
  | some fault => .error fault
  | none => .ok c

end Config

end VizSession
