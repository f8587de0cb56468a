import VizSession.Handle

/-!
# The kinds of active objects

A session remembers one active object of each of four kinds. A script names a kind by its
word in any mixture of ASCII upper and lower case, and `proxy` is another word for source.
-/

namespace VizSession

/-- What can be active in a session. -/
inductive SlotKind where
  | connection
  | view
  | source
  | camera
deriving DecidableEq

namespace SlotKind

/-- All kinds. -/
def all : List SlotKind := [connection, view, source, camera]

/-- The word for a kind. -/
def name : SlotKind → String
  | connection => "connection"
  | view => "view"
  | source => "source"
  | camera => "camera"

/-- The group an object has to be in to be active as this kind; a connection is in none. -/
def group? : SlotKind → Option Group
  | connection => none
  | view => some .views
  | source => some .sources
  | camera => some .cameras

/-- The kind a word stands for, ASCII case aside. -/
def ofName? (s : String) : Option SlotKind :=
  let word := s.toLower
  if word = "connection" then some connection
  else if word = "view" then some view
  else if word = "source" ∨ word = "proxy" then some source
  else if word = "camera" then some camera
  else none

end SlotKind

end VizSession
