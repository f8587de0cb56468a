import VizSession.ExportName
import VizSession.Plugin
import VizSession.Step

/-!
# The registry of contributed functions

Every registered name has one function. Names that the session provides itself are
reserved : a plugin cannot take them, and reserving a name drops the function that was
registered under it. Between plugins the latest registration wins.

Scanning a plugin enrolls its functions one at a time (`enroll`) and reports the names
taken, the names taken over from another plugin and the names refused. A plugin that
cannot be scanned changes nothing (`register_error`); a sweep over several plugins goes on
to the next (`registerAll`).
-/

namespace VizSession

/-- A name whose function moved from one plugin to another. -/
structure Rebinding where
  /-- The name. -/
  name : String
  /-- The plugin that had it. -/
  previous : String
  /-- The plugin that has it now. -/
  plugin : String
deriving DecidableEq

/-- What came of scanning one plugin. -/
structure Registration where
  /-- The names taken, in the order contributed, each once. -/
  names : List String
  /-- The names taken over from another plugin. -/
  rebound : List Rebinding
  /-- The names refused because they are reserved, with the reason. -/
  rejected : List (String × String)
deriving DecidableEq

/-- What came of scanning several plugins. -/
structure SweepReport where
  /-- The names taken, in the order of the scans. -/
  names : List String
  /-- The names taken over from another plugin. -/
  rebound : List Rebinding
  /-- The names refused or replaced, with the reason. -/
  rejected : List (String × String)
  /-- The plugins that could not be scanned, with the cause. -/
  failed : List (String × CallError)
deriving DecidableEq

namespace Registration

/-- Nothing scanned. -/
def empty : Registration := ⟨[], [], []⟩

/-- The sweep over the one scanned plugin. -/
def toSweep (r : Registration) : SweepReport := ⟨r.names, r.rebound, r.rejected, []⟩

end Registration

namespace SweepReport

/-- The sweep over no plugins. -/
def empty : SweepReport := ⟨[], [], [], []⟩

/-- One sweep followed by another. -/
def append (r s : SweepReport) : SweepReport :=
  ⟨r.names ++ s.names, r.rebound ++ s.rebound, r.rejected ++ s.rejected, r.failed ++ s.failed⟩

instance : Append SweepReport := ⟨append⟩

/-- Whether every plugin was scanned and no name refused. -/
def isClean (r : SweepReport) : Bool := r.failed.isEmpty && r.rejected.isEmpty

end SweepReport

/-- A registered function and the plugin it came from. -/
structure Entry where
  /-- The plugin that contributed the function. -/
  plugin : String
  /-- The function. -/
  callable : Callable

/-- The functions contributed so far, by exported name. -/
structure Registry where
  /-- The registered names, in the order of their first registration. -/
  entries : OrderedMap String Entry
  /-- The plugins scanned so far, each once. -/
  plugins : List String
  /-- The reserved names, with a description of the owner. -/
  reserved : OrderedMap String String

namespace Registry

/-- The registry that knows no names. -/
def empty : Registry := ⟨∅, [], ∅⟩

instance : Inhabited Registry := ⟨empty⟩

/-! ## Looking up -/

/-- The function registered under a name. -/
def callable? (r : Registry) (name : String) : Option Callable :=
  (r.entries.find? name).map Entry.callable

/-- The plugin that contributed the function under a name. -/
def origin? (r : Registry) (name : String) : Option String :=
  (r.entries.find? name).map Entry.plugin

/-- The description of the function under a name. -/
def description? (r : Registry) (name : String) : Option String :=
  (r.callable? name).map Callable.description

/-- The owner a name is reserved for. -/
def owner? (r : Registry) (name : String) : Option String := r.reserved.find? name

/-- The registered names in the order of their first registration. -/
def names (r : Registry) : List String := r.entries.keys

/-! ## Reserving and registering -/

/-- Reserves a name. A function registered under it is dropped; the answer is the plugin
that function came from. -/
def reserve (r : Registry) (name owner : String) : Option String × Registry :=
  (r.origin? name,
    { r with reserved := r.reserved.insert name owner, entries := r.entries.erase name })

/-- Whether a function of a plugin takes over its name from another plugin. -/
def rebinding? (r : Registry) (plugin name : String) : Option Rebinding :=
  match r.origin? name with
  | none => none
  | some previous => if previous = plugin then none else some ⟨name, previous, plugin⟩

/-- Enrolls one function of a plugin, noting in the registration what came of it. -/
def enroll (plugin : String) (state : Registration × Registry) (c : Callable) :
    Registration × Registry :=
  let (report, r) := state
  if !ExportName.isPublic c.name then state
  else
    match r.owner? c.name with
    | some owner =>
      ({ report with rejected := report.rejected ++ [(c.name, s!"provided by {owner}")] }, r)
    | none =>
      ({ report with
          names := if c.name ∈ report.names then report.names else report.names ++ [c.name]
          rebound := report.rebound ++ (r.rebinding? plugin c.name).toList },
        { r with entries := r.entries.insert c.name ⟨plugin, c⟩ })

/-- Notes that a plugin was scanned. -/
def markScanned (r : Registry) (plugin : String) : Registry :=
  if plugin ∈ r.plugins then r else { r with plugins := r.plugins ++ [plugin] }

/-- Scans a plugin and enrolls its functions. -/
def register (p : Plugin) : Step Registry CallError Registration := fun r =>
  match p.contributions with
  | .error e => (.error e, r)
  | .ok callables =>
    let (report, r') := callables.foldl (enroll p.name) (.empty, r)
    (.ok report, r'.markScanned p.name)

/-- Scans plugins one after another, whether they can be scanned or not. -/
def registerAll (r : Registry) : List Plugin → SweepReport × Registry
  | [] => (.empty, r)
  | p :: ps =>
    let (result, r') := register p r
    let report := match result with
      | .ok registration => registration.toSweep
      | .error e => ⟨[], [], [], [(p.name, e)]⟩
    let (rest, r'') := r'.registerAll ps
    (report ++ rest, r'')

/-- A function is private, or its name is reserved, or it is registered. -/
theorem enroll_cases (plugin : String) (report : Registration) (r : Registry) (c : Callable) :
    (ExportName.isPublic c.name = false ∧ enroll plugin (report, r) c = (report, r)) ∨
      (∃ owner, ExportName.isPublic c.name = true ∧ r.owner? c.name = some owner ∧
        enroll plugin (report, r) c = ({ report with
          rejected := report.rejected ++ [(c.name, s!"provided by {owner}")] }, r)) ∨
      (ExportName.isPublic c.name = true ∧ r.owner? c.name = none ∧
        enroll plugin (report, r) c =
          ({ report with
              names := if c.name ∈ report.names then report.names else report.names ++ [c.name]
              rebound := report.rebound ++ (r.rebinding? plugin c.name).toList },
            { r with entries := r.entries.insert c.name ⟨plugin, c⟩ })) := by
  cases hpublic : ExportName.isPublic c.name with
  | false => exact Or.inl ⟨rfl, by simp [enroll, hpublic]⟩
  | true =>
    cases howner : r.owner? c.name with
    | some owner => exact Or.inr (Or.inl ⟨owner, rfl, rfl, by simp [enroll, hpublic, howner]⟩)
    | none => exact Or.inr (Or.inr ⟨rfl, rfl, by simp [enroll, hpublic, howner]⟩)

theorem register_error {p : Plugin} {e : CallError} (h : p.contributions = .error e)
    (r : Registry) : register p r = (.error e, r) := by
  simp [register, h]

/-- A change to a registry. -/
inductive Op where
  /-- A name is reserved for an owner. -/
  | reserve (name owner : String)
  /-- A plugin is scanned. -/
  | register (plugin : Plugin)
  /-- Several plugins are scanned. -/
  | registerAll (plugins : List Plugin)

/-- The registry after a change. -/
def apply (r : Registry) : Op → Registry
  | .reserve name owner => (r.reserve name owner).2
  | .register p => (register p r).2
  | .registerAll ps => (r.registerAll ps).2

/-- The registry after a history of changes. -/
def applyAll (r : Registry) (history : List Op) : Registry := history.foldl apply r

end Registry

end VizSession
