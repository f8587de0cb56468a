import VizSession.ExportList

/-!
# The built-in functions

The functions that every session exports under names of its own, with the names of the
parameters each takes. One more name, `invoke`, calls another exported function and is no
`Builtin`, so that what it forwards to never forwards again.
-/

namespace VizSession

/-- A function of the session that is called by name. -/
inductive Builtin where
  | extendNamespace
  | connect
  | disconnect
  | resetSession
  | start
  | getActive
  | setActive
  | getActiveConnection
  | getActiveView
  | getActiveSource
  | getActiveCamera
  | setActiveConnection
  | setActiveView
  | setActiveSource
  | setActiveCamera
  | getActiveViewOrCreate
  | cameraForView
  | create
  | createSource
  | createView
  | delete
  | rename
  | findSource
  | findView
  | findViewOrCreate
  | getSources
  | getViews
  | setProperties
  | getProperty
  | resetProperty
  | getRepresentation
  | render
  | renderAllViews
  | interact
  | showSource
  | hideSource
  | loadPlugin
deriving DecidableEq

namespace Builtin

/-- All built-in functions in the order of their export. -/
def all : List Builtin :=
  [extendNamespace, connect, disconnect, resetSession, start, getActive, setActive,
    getActiveConnection, getActiveView, getActiveSource, getActiveCamera, setActiveConnection,
    setActiveView, setActiveSource, setActiveCamera, getActiveViewOrCreate, cameraForView, create,
    createSource, createView, delete, rename, findSource, findView, findViewOrCreate, getSources,
    getViews, setProperties, getProperty, resetProperty, getRepresentation, render, renderAllViews,
    interact, showSource, hideSource, loadPlugin]

/-- The name a function is exported under. -/
def name : Builtin → String
  | extendNamespace => "extend_namespace"
  | connect => "connect"
  | disconnect => "disconnect"
  | resetSession => "reset_session"
  | start => "initialize"
  | getActive => "get_active"
  | setActive => "set_active"
  | getActiveConnection => "get_active_connection"
  | getActiveView => "get_active_view"
  | getActiveSource => "get_active_source"
  | getActiveCamera => "get_active_camera"
  | setActiveConnection => "set_active_connection"
  | setActiveView => "set_active_view"
  | setActiveSource => "set_active_source"
  | setActiveCamera => "set_active_camera"
  | getActiveViewOrCreate => "get_active_view_or_create"
  | cameraForView => "camera_for_view"
  | create => "create"
  | createSource => "create_source"
  | createView => "create_view"
  | delete => "delete"
  | rename => "rename"
  | findSource => "find_source"
  | findView => "find_view"
  | findViewOrCreate => "find_view_or_create"
  | getSources => "get_sources"
  | getViews => "get_views"
  | setProperties => "set_properties"
  | getProperty => "get_property"
  | resetProperty => "reset_property"
  | getRepresentation => "get_representation"
  | render => "render"
  | renderAllViews => "render_all_views"
  | interact => "interact"
  | showSource => "show"
  | hideSource => "hide"
  | loadPlugin => "load_plugin"

/-- The parameters of a function by position. Keywords under other names are properties of
an object, where the function takes such, and are ignored elsewhere. -/
def params : Builtin → List String
  | getActive => ["kind"]
  | setActive => ["kind", "object"]
  | setActiveConnection => ["connection"]
  | setActiveView => ["view"]
  | setActiveSource => ["source"]
  | setActiveCamera => ["camera"]
  | cameraForView => ["view"]
  | create => ["group", "xml_name"]
  | createSource => ["xml_name"]
  | createView => ["xml_name"]
  | delete => ["proxy"]
  | rename => ["proxy", "name"]
  | findSource => ["name"]
  | findView => ["name"]
  | findViewOrCreate => ["name", "xml_name"]
  | setProperties => ["proxy"]
  | getProperty => ["name", "proxy"]
  | resetProperty => ["name", "proxy"]
  | getRepresentation => ["source", "view"]
  | render => ["view"]
  | interact => ["view"]
  | showSource => ["source", "view"]
  | hideSource => ["source", "view"]
  | _ => []

/-- The function exported under a name. -/
def ofName? (s : String) : Option Builtin := all.find? fun b => b.name = s

theorem mem_all (b : Builtin) : b ∈ all := by cases b <;> decide

/-- The name that calls another exported function. -/
def forwarding : String := "invoke"

/-- The names that every session exports from the start. -/
def names : List String := all.map name ++ [forwarding]

/-- The export list that every session starts with. -/
def exports : ExportList := .ofNames names

end Builtin

end VizSession
