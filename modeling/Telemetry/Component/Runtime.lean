import Telemetry.Component.Dynamic

/-!
The measures of a runtime as a whole. They stand directly under the root, among other components.
-/

namespace Telemetry.Component

structure Runtime where
  base : MetricName
  verticles : MetricId

namespace Runtime

def new (root : MetricName) (eventLoops workers : Nat) : Setup Runtime := do
  let _ ← Setup.gauge root "event-loop-size" (.fixed (.int eventLoops))
  let _ ← Setup.gauge root "worker-pool-size" (.fixed (.int workers))
  let verticles ← Setup.metric root "verticles" .counter
  return ⟨root, verticles⟩

/-- Shows the address in a cluster. -/
def setCluster (c : Runtime) (host : String) (port : Nat) : Setup Unit := do
  let _ ← Setup.gauge c.base "cluster-host" (.fixed (.text host))
  let _ ← Setup.gauge c.base "cluster-port" (.fixed (.int port))

/-- Counts `n` more verticles of a name. -/
def deploy (c : Runtime) (name : String) (n : Int64) (r : Registry) : Registry :=
  let r := r.record c.verticles (.add n)
  let (own, r) := r.metricIfFree (composeDynamic c.base "verticles" name) .counter
  r.recordIn own (.add n)

def verticleDeployed (c : Runtime) (name : String) (r : Registry) : Registry := c.deploy name 1 r

def verticleUndeployed (c : Runtime) (name : String) (r : Registry) : Registry :=
  c.deploy name (-1) r

def ownNames : List String :=
  ["event-loop-size", "worker-pool-size", "cluster-host", "cluster-port", "verticles"]

/-- Removes the own metrics, and leaves other components below the same root. -/
def close (c : Runtime) (r : Registry) : Nat × Registry :=
  ownNames.foldl (fun (n, r) path =>
    match compose c.base path with
    | .ok name =>
      let (k, r) := r.remove name
      (n + k, r)
    | .error _ => (n, r)) (0, r)

end Runtime

end Telemetry.Component
