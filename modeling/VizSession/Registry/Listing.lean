import VizSession.Registry
import VizSession.Text.Quoted

/-!
# Listing a registry

A registry as it is shown in diagnostics : the registered names, the scanned plugins and
the reserved names, each in the order of their arrival.
-/

namespace VizSession.Registry

/-- A registry as it is shown. -/
def listing (r : Registry) : String :=
  "NamespaceRegistry \x7b names: " ++ Text.quotedList r.names ++
    ", namespaces: " ++ Text.quotedList r.plugins ++
    ", reserved: " ++ Text.quotedList r.reserved.keys ++ " \x7d"

end VizSession.Registry
