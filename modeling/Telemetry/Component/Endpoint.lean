import Telemetry.Component.Dynamic

/-!
The measures of the requests that a client has queued for one endpoint or sent to it.
-/

namespace Telemetry.Component

structure Endpoint where
  base : MetricName
  queueDelay : MetricId
  queueSize : MetricId
  openSockets : MetricId
  usage : MetricId
  inUse : MetricId
  /-- The time to the first byte. -/
  ttfb : MetricId

/-- A request that waits for a connection. -/
structure QueuedRequest where
  start : Nanos

/-- A request that was sent. -/
structure SentRequest where
  start : Nanos

namespace Endpoint

def new (base : MetricName) : Setup Endpoint := do
  let queueDelay ← Setup.metric base "queue-delay" .timer
  let queueSize ← Setup.metric base "queue-size" .counter
  let openSockets ← Setup.metric base "open-netsockets" .counter
  let usage ← Setup.metric base "usage" .timer
  let inUse ← Setup.metric base "in-use" .counter
  let ttfb ← Setup.metric base "ttfb" .timer
  return ⟨base, queueDelay, queueSize, openSockets, usage, inUse, ttfb⟩

def enqueue (c : Endpoint) (r : Registry) : QueuedRequest × Registry :=
  (⟨r.now⟩, r.record c.queueSize (.add 1))

def dequeue (c : Endpoint) (q : QueuedRequest) (r : Registry) : Registry :=
  r.recordAll [(c.queueSize, .add (-1)), (c.queueDelay, .duration (r.now.since q.start))]

def connected (c : Endpoint) (r : Registry) : Registry := r.record c.openSockets (.add 1)

def disconnected (c : Endpoint) (r : Registry) : Registry := r.record c.openSockets (.add (-1))

def requestBegin (c : Endpoint) (r : Registry) : SentRequest × Registry :=
  (⟨r.now⟩, r.record c.inUse (.add 1))

/-- The first byte of the response is there. -/
def responseBegin (c : Endpoint) (q : SentRequest) (r : Registry) : Registry :=
  r.record c.ttfb (.duration (r.now.since q.start))

def responseEnd (c : Endpoint) (q : SentRequest) (r : Registry) : Registry :=
  r.recordAll [(c.inUse, .add (-1)), (c.usage, .duration (r.now.since q.start))]

def close (c : Endpoint) (r : Registry) : Nat × Registry := r.remove c.base

end Endpoint

end Telemetry.Component
