import Telemetry.Component.Dynamic

/-!
Requests of the hypertext protocol: by method, by monitored path and by the class of the answer.
-/

namespace Telemetry.Component

def httpMethods : List String :=
  ["get", "head", "post", "put", "delete", "connect", "options", "trace", "patch"]

/-- The nodes of the standard methods. -/
def methodNodes : List Node := httpMethods.map fun m => Node.escape (m ++ "-requests")

/-- The node of a method, in any case of its letters. Only the standard methods have one. -/
def methodNode? (method : String) : Option Node :=
  (httpMethods.find? (· == method.toLower)).map fun m => Node.escape (m ++ "-requests")

theorem mem_methodNodes {method : String} {n : Node} (h : n ∈ methodNode? method) :
    n ∈ methodNodes := by
  obtain ⟨m, hm, rfl⟩ := Option.map_eq_some_iff.mp h
  exact List.mem_map_of_mem (List.mem_of_find?_eq_some hm)

/-- The five classes of answers. -/
def responseNames : List String :=
  ["responses-1xx", "responses-2xx", "responses-3xx", "responses-4xx", "responses-5xx"]

/-- Registers a metric for each class of answers. -/
def responseMetrics (base : MetricName) (kind : Kind) : Setup (List MetricId) :=
  responseNames.mapM fun name => Setup.metric base name kind

/-- The metric for the class of a status, which its hundreds tell. -/
def responseMetric? (responses : List MetricId) (status : Nat) : Option MetricId :=
  if status / 100 = 0 then none else responses[status / 100 - 1]?

/-- A request that is not yet answered. -/
structure Request where
  method : Option Node
  uri : Option Node
  start : Nanos
  standard : ∀ n ∈ method, n ∈ methodNodes

namespace Request

def begin [Pattern.Engine] (rules : RuleList) (method uri : String) (now : Nanos) : Request :=
  ⟨methodNode? method, rules.node? uri, now, fun _ => mem_methodNodes⟩

/-- Records the time since the start, also under the method and under the path. -/
def finish (q : Request) (base : MetricName) (requests : MetricId) (r : Registry) : Registry :=
  let d := Event.duration (r.now.since q.start)
  let r := r.record requests d
  match q.method with
  | none => r
  | some method =>
    let name := base.child method
    let (timer, r) := r.metricIfFree (.ok name) .throughputTimer
    let r := r.recordIn timer d
    match q.uri with
    | none => r
    | some uri =>
      let (timer, r) := r.metricIfFree (.ok (name.child uri)) .throughputTimer
      r.recordIn timer d

end Request

end Telemetry.Component
