/-!
The values of a YAML document. Maps keep the order of their entries.
-/

namespace Telemetry

inductive Yaml
  | null
  /-- A scalar that does not fit its tag, or a reference within the node it names. -/
  | bad
  | bool (b : Bool)
  | int (i : Int)
  /-- A number that is no integer of 64 bits, as it is written. -/
  | real (text : String)
  | string (text : String)
  | list (items : List Yaml)
  | map (entries : List (Yaml × Yaml))
deriving BEq, Repr, Inhabited

namespace Yaml

/-- Whether an integer fits into 64 bits with a sign. -/
def fitsInt64 (i : Int) : Bool := Int64.minValue.toInt ≤ i && i ≤ Int64.maxValue.toInt

def hasKey (entries : List (Yaml × Yaml)) (k : Yaml) : Bool := entries.any (·.1 == k)

/-- Replaces the value of a key that is there already, and moves the entry to the end. -/
def insertLast (entries : List (Yaml × Yaml)) (k v : Yaml) : List (Yaml × Yaml) :=
  entries.filter (fun e => !(e.1 == k)) ++ [(k, v)]

end Yaml

end Telemetry
