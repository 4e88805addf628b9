import Telemetry.Registry.Basic
import Telemetry.Rule.List

/-!
Metrics whose names hold something from outside. They are created when they are first needed, and
go without if the name is taken by a metric of another kind, so that what is measured never fails.
-/

namespace Telemetry

/-- The metric with the name and kind, unless there is one of another kind or no such name. -/
def Registry.metricIfFree (r : Registry) (name : Except NameError MetricName) (kind : Kind) :
    Option MetricId × Registry :=
  match name with
  | .error e => (none, r.skip (.invalidName e))
  | .ok name =>
    match r.typed name kind with
    | (.ok id, r) => (some id, r)
    | (.error e, r) => (none, r.skip (.registry e))

/-- Records an event, if there is a metric for it. -/
def Registry.recordIn (r : Registry) (id? : Option MetricId) (e : Event) : Registry :=
  match id? with
  | none => r
  | some id => r.record id e

namespace Component

/-- How an address is written. -/
def address (host : String) (port : Nat) : String := host ++ ":" ++ toString port

end Component

end Telemetry
