/-!
Values that are read from metrics.
-/

namespace Telemetry

inductive Reading
  | null
  | bool (b : Bool)
  | int (i : Int)
  | float (x : Float)
  | text (s : String)
  | list (rs : List Reading)
  | fields (fs : List (String × Reading))

namespace Reading

instance : Inhabited Reading := ⟨.null⟩

/-- A number, or null if `x` is not finite. -/
def ofFloat (x : Float) : Reading := if x.isFinite then .float x else .null

end Reading

end Telemetry
