import Telemetry.Registry.Snapshot

/-!
Questions about a registry whose names are given and answered as text.
-/

namespace Telemetry.Registry

/--
Snapshots of what has the dotted name or lies below it; of everything if the name is empty, and of
nothing if it is not a name.
-/
def readText (r : Registry) (base : String) : Table String Snapshot × Registry :=
  if base = "" then r.readEverything
  else match MetricName.parse base with
    | .ok n => r.readFrom n
    | .error _ => (.empty, r)

def sortedTexts (ns : List MetricName) : List String :=
  (Table.ofList (ns.map fun n => (n.text, ()))).keys

/-- The full names from `base` on, in the order of texts. -/
def textsFrom (r : Registry) (base : MetricName) : List String := sortedTexts (r.namesFrom base)

def allTexts (r : Registry) : List String := sortedTexts r.nameList

end Telemetry.Registry
