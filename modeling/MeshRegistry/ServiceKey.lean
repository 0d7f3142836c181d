import MeshRegistry.Text.Blank
import MeshRegistry.Address.Socket

/-!
# Service keys

A service is known by its name, its environment and its frontend port, joined by dashes.  A label
that holds blanks only counts as missing.
-/

namespace MeshRegistry

/-- The key of a service; two endpoints with one key replace each other. -/
structure ServiceKey where
  text : String
deriving DecidableEq, Repr, Inhabited

namespace ServiceKey

def unknownLabel : String := "unknown"

/-- The label itself, unless it is missing. -/
def labelOrUnknown (label : String) : String :=
  if Text.allBlank label.toList then unknownLabel else label

def ofLabels (service environment : String) (port : Port) : ServiceKey :=
  ⟨labelOrUnknown service ++ "-" ++ labelOrUnknown environment ++ "-" ++ port.toNat.repr⟩

end ServiceKey

end MeshRegistry
