import VizSession.Decimal

/-!
# Connections, groups and handles

What the engine gives out to name its objects : a `ConnectionId` for a connection and a
`Handle` for an object on one. A handle is data and can be written by anyone, so holding
one says nothing about the object being there.
-/

namespace VizSession

/-- The number of a connection. -/
structure ConnectionId where
  /-- The number itself. -/
  raw : UInt64
deriving DecidableEq

/-- A connection as it is shown, such as `cs1`. -/
def ConnectionId.label (c : ConnectionId) : String := "cs" ++ Decimal.natural c.raw.toNat

/-- The groups under which the engine registers its objects. -/
inductive Group where
  | sources
  | views
  | cameras
  | representations
  | lookupTables
  | layouts
deriving DecidableEq

namespace Group

/-- All groups, in the order in which they are listed. -/
def all : List Group := [sources, views, cameras, representations, lookupTables, layouts]

/-- The name of a group. -/
def name : Group → String
  | sources => "sources"
  | views => "views"
  | cameras => "cameras"
  | representations => "representations"
  | lookupTables => "lookup_tables"
  | layouts => "layouts"

theorem mem_all (g : Group) : g ∈ all := by cases g <;> decide

end Group

/-- A reference to an object of the engine. -/
structure Handle where
  /-- The number of the object, unique across connections. -/
  id : UInt64
  /-- The connection the object lives on. -/
  connection : ConnectionId
  /-- The group the object is registered in. -/
  group : Group
  /-- The name of the definition the object was made from. -/
  definition : String
deriving DecidableEq

/-- A handle as it is shown, such as `SphereSource#1@cs1`. -/
def Handle.label (h : Handle) : String :=
  h.definition ++ "#" ++ Decimal.natural h.id.toNat ++ "@" ++ h.connection.label

end VizSession
