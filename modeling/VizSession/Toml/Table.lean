import VizSession.OrderedMap
import VizSession.Toml

/-!
# Growing tables

No name of a table is given twice, and a table that is complete is not reopened.

A dotted key opens the tables on its way, or goes through those that dotted keys opened
before; it never enters a table that has a section of its own, or one in braces. A header
may go through everything but braces, opens what is missing, and may take over a table
that other headers only went through. Where sections repeat, both go to the last table.

The table in which a dotted key ends must be one that dotted keys opened : those that
headers went through can be passed on the way to deeper ones, but take no values.
-/

namespace VizSession.Toml

open OrderedMap (lookup? write)

/-- Adds a value under a key, after the keys of the tables on the way to it. -/
def insert? (key : String) (value : Node) : List String → Table → Option Table
  | [], t => if (lookup? key t).isSome then none else some (t ++ [(key, value)])
  | k :: ks, t =>
    match lookup? k t with
    | none => (insert? key value ks []).map fun c => t ++ [(k, .table .dotted c)]
    | some (.table .dotted c) =>
      (insert? key value ks c).map fun c => write k (.table .dotted c) t
    | some (.table .implied c) =>
      if ks = [] then none
      else (insert? key value ks c).map fun c => write k (.table .implied c) t
    | some (.tables earlier last) =>
      if ks = [] then none
      else (insert? key value ks last).map fun last => write k (.tables earlier last) t
    | some _ => none

/-- Adds values one after another. -/
def fill? (t : Table) (pairs : List (Path × Node)) : Option Table :=
  pairs.foldlM (fun t p => insert? p.1.key p.2 p.1.parents t) t

/-- Changes the table that the keys of a header lead to, opening those that are missing. -/
def within? (change : Table → Option Table) : List String → Table → Option Table
  | [], t => change t
  | k :: ks, t =>
    match lookup? k t with
    | none => (within? change ks []).map fun c => t ++ [(k, .table .implied c)]
    | some (.table .inline _) => none
    | some (.table opening c) =>
      (within? change ks c).map fun c => write k (.table opening c) t
    | some (.tables earlier last) =>
      (within? change ks last).map fun last => write k (.tables earlier last) t
    | some _ => none

/-- Opens the table of a section. -/
def open? (key : String) (pairs : List (Path × Node)) (t : Table) : Option Table :=
  match lookup? key t with
  | none => (fill? [] pairs).map fun c => t ++ [(key, .table .header c)]
  | some (.table .implied c) => (fill? c pairs).map fun c => write key (.table .header c) t
  | some _ => none

/-- Opens one more table of a repeated section. -/
def repeat? (key : String) (pairs : List (Path × Node)) (t : Table) : Option Table :=
  match lookup? key t with
  | none => (fill? [] pairs).map fun last => t ++ [(key, .tables [] last)]
  | some (.tables earlier last) =>
    (fill? [] pairs).map fun next => write key (.tables (earlier ++ [last]) next) t
  | some _ => none

/-- Adds a section to the table of a document. -/
def addSection? (t : Table) (s : Section) : Option Table :=
  within? (if s.repeated then repeat? s.path.key s.pairs else open? s.path.key s.pairs)
    s.path.parents t

/-- The table that a document describes, if its parts go together. -/
def Document.table? (d : Document) : Option Table := do
  d.sections.foldlM addSection? (← fill? [] d.pairs)

end VizSession.Toml
