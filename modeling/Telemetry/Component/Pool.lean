import Telemetry.Component.Dynamic

/-!
The measures of a pool of workers or connections and of the tasks that wait for it.
-/

namespace Telemetry.Component

structure Pool where
  base : MetricName
  queueDelay : MetricId
  queueSize : MetricId
  usage : MetricId
  inUse : MetricId

/-- A task in the queue. -/
structure Task where
  submitted : Nanos

/-- A task that has something of the pool. -/
structure Usage where
  start : Nanos

namespace Pool

/-- The size of a pool is shown if it is known, that is, not 0. -/
def new (root : MetricName) (type name : String) (maxSize : Nat) : Setup Pool := do
  let base := (← Setup.name root "pool").below [type, name]
  let queueDelay ← Setup.metric base "queue-delay" .timer
  let queueSize ← Setup.metric base "queue-size" .counter
  let usage ← Setup.metric base "usage" .timer
  let inUse ← Setup.metric base "in-use" .counter
  if 0 < maxSize then
    let _ ← Setup.gauge base "max-pool-size" (.fixed (.int maxSize))
    let _ ← Setup.gauge base "pool-ratio" (.share inUse (Rounding.double maxSize))
  return ⟨base, queueDelay, queueSize, usage, inUse⟩

def submitted (c : Pool) (r : Registry) : Task × Registry :=
  (⟨r.now⟩, r.record c.queueSize (.add 1))

def rejected (c : Pool) (r : Registry) : Registry := r.record c.queueSize (.add (-1))

/-- A task leaves the queue. -/
def begin (c : Pool) (t : Task) (r : Registry) : Usage × Registry :=
  (⟨r.now⟩, r.recordAll [(c.queueSize, .add (-1)),
    (c.queueDelay, .duration (r.now.since t.submitted)), (c.inUse, .add 1)])

def finish (c : Pool) (u : Usage) (r : Registry) : Registry :=
  r.recordAll [(c.inUse, .add (-1)), (c.usage, .duration (r.now.since u.start))]

def close (c : Pool) (r : Registry) : Nat × Registry := r.remove c.base

end Pool

end Telemetry.Component
