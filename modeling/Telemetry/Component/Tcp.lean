import Telemetry.Component.Dynamic

/-!
The measures of the sockets of a server or a client.
-/

namespace Telemetry.Component

structure Tcp where
  base : MetricName
  openSockets : MetricId
  connections : MetricId
  exceptions : MetricId
  bytesRead : MetricId
  bytesWritten : MetricId

/-- A connected socket. -/
structure Socket where
  remote : Option MetricId
  start : Nanos

/-- Where a client measures: clients that have an identity are kept apart. -/
def clientBase (root : MetricName) (path : String) (id? : Option String) : Setup MetricName := do
  let base ← Setup.name root path
  match id? with
  | none | some "" => return base
  | some id => return base.childOf id

namespace Tcp

def new (base : MetricName) : Setup Tcp := do
  let openSockets ← Setup.metric base "open-netsockets" .counter
  let connections ← Setup.metric base "connections" .timer
  let exceptions ← Setup.metric base "exceptions" .counter
  let bytesRead ← Setup.metric base "bytes-read" .histogram
  let bytesWritten ← Setup.metric base "bytes-written" .histogram
  return ⟨base, openSockets, connections, exceptions, bytesRead, bytesWritten⟩

def server (root : MetricName) (host : String) (port : Nat) : Setup Tcp := do
  new ((← Setup.name root "net.servers").childOf (address host port))

def client (root : MetricName) (id? : Option String) : Setup Tcp := do
  new (← clientBase root "net.clients" id?)

def connected (c : Tcp) (remote : String) (r : Registry) : Socket × Registry :=
  let r := r.record c.openSockets (.add 1)
  let (own, r) := r.metricIfFree (composeDynamic c.base "open-netsockets" remote) .counter
  (⟨own, r.now⟩, r.recordIn own (.add 1))

def disconnected (c : Tcp) (s : Socket) (r : Registry) : Registry :=
  let r := (r.record c.openSockets (.add (-1))).recordIn s.remote (.add (-1))
  r.record c.connections (.duration (r.now.since s.start))

def received (c : Tcp) (bytes : UInt64) (r : Registry) : Registry :=
  r.record c.bytesRead (.value bytes)

def sent (c : Tcp) (bytes : UInt64) (r : Registry) : Registry :=
  r.record c.bytesWritten (.value bytes)

def exceptionOccurred (c : Tcp) (r : Registry) : Registry := r.record c.exceptions (.add 1)

def close (c : Tcp) (r : Registry) : Nat × Registry := r.remove c.base

end Tcp

end Telemetry.Component
