import VizSession.Config.Forms

/-!
# Configuration files

A configuration file is a TOML document in UTF-8. A session looks for one at a standard
place under the home directory, and goes on with the default configuration if there is
none there. A file that is named has to be there.
-/

namespace VizSession

/-- What is found under the name of a file. -/
inductive File where
  /-- There is no such file. -/
  | absent
  /-- There is one, but it cannot be read. -/
  | unreadable
  /-- There is one with this content. -/
  | content (bytes : ByteArray)

namespace Config

/-- The place of the standard configuration file under the home directory. -/
def standardPath : String := ".implore/simple.toml"

/-- The configuration in a file. -/
def load : File → Except ConfigError Config
  | .content bytes =>
    match String.fromUTF8? bytes with
    | some s => ofTomlText s
    | none => .error .unreadable
  | _ => .error .unreadable

/-- The configuration in what is found at the standard place. -/
def loadStandard : File → Except ConfigError Config
  | .absent => .ok default
  | file => load file

end Config

end VizSession
