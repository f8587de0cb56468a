/-!
# TOML documents

A TOML document is a table : names with values, among them further tables. A table can be
opened in four ways (`Opening`), and the way decides what may be added to it later. Kept
are texts, truth values and the structure; a number or a moment in time is checked when
it is read, and then known to be one and no more (`Node.other`).
-/

namespace VizSession.Toml

/-- How a table came to be. -/
inductive Opening where
  /-- It has a section of its own. -/
  | header
  /-- The header of a section named it on the way to its own table. -/
  | implied
  /-- A dotted key named it on the way to its last part. -/
  | dotted
  /-- It was written as a value, in braces. -/
  | inline
deriving DecidableEq

/-- What stands under a name. -/
inductive Node where
  /-- A text. -/
  | text (s : String)
  /-- A truth value. -/
  | bool (b : Bool)
  /-- A number or a moment in time. -/
  | other
  /-- An array written as a value. -/
  | array (items : List Node)
  /-- A table. -/
  | table (opening : Opening) (entries : List (String × Node))
  /-- Tables of repeated sections; the last one can still grow. -/
  | tables (earlier : List (List (String × Node))) (last : List (String × Node))

instance : Inhabited Node := ⟨.other⟩

/-- The names of a table in order of arrival, with what stands under them. -/
abbrev Table := List (String × Node)

/-- A key together with the keys of the tables around it, the outermost first. -/
structure Path where
  /-- The keys of the tables around it. -/
  parents : List String
  /-- The key itself. -/
  key : String
deriving DecidableEq

/-- A section : its header, and the values it puts into its table. -/
structure Section where
  /-- Whether the section adds a table to the earlier ones of its name. -/
  repeated : Bool
  /-- The name of its table. -/
  path : Path
  /-- The values in the section. -/
  pairs : List (Path × Node)

/-- What a document consists of : values, and then sections with more of them. -/
structure Document where
  /-- The values in front of the first section. -/
  pairs : List (Path × Node)
  /-- The sections. -/
  sections : List Section

end VizSession.Toml
