import Telemetry.Component.Dynamic

/-!
The measures of datagram sockets. All of them share three metrics; a socket that listens has one
more to itself.
-/

namespace Telemetry.Component

/-- Where a socket listens. -/
structure Listening where
  host : String
  port : Nat
  bytesRead : MetricId

structure Datagram where
  base : MetricName
  sockets : MetricId
  exceptions : MetricId
  bytesWritten : MetricId
  listening : Option Listening

namespace Datagram

def new (root : MetricName) : Setup Datagram := do
  let base ← Setup.name root "datagram"
  let sockets ← Setup.metric base "sockets" .counter
  let exceptions ← Setup.metric base "exceptions" .counter
  let bytesWritten ← Setup.metric base "bytes-written" .histogram
  Setup.record sockets (.add 1)
  return ⟨base, sockets, exceptions, bytesWritten, none⟩

/-- What is below this name, a socket that listens there has to itself. -/
def ownBase (c : Datagram) (host : String) (port : Nat) : MetricName :=
  c.base.childOf (address host port)

/-- Only the first address that can be measured counts. -/
def listen (c : Datagram) (host : String) (port : Nat) (r : Registry) : Datagram × Registry :=
  match c.listening with
  | some _ => (c, r)
  | none =>
    let (bytesRead, r) := r.metricIfFree (compose (c.ownBase host port) "bytes-read") .histogram
    ({ c with listening := bytesRead.map fun id => ⟨host, port, id⟩ }, r)

/-- Nothing is recorded for a socket that does not listen. -/
def received (c : Datagram) (bytes : UInt64) (r : Registry) : Registry :=
  r.recordIn (c.listening.map Listening.bytesRead) (.value bytes)

def sent (c : Datagram) (bytes : UInt64) (r : Registry) : Registry :=
  r.record c.bytesWritten (.value bytes)

def exceptionOccurred (c : Datagram) (r : Registry) : Registry := r.record c.exceptions (.add 1)

/-- Removes what the socket has to itself. -/
def close (c : Datagram) (r : Registry) : Nat × Registry :=
  let r := r.record c.sockets (.add (-1))
  match c.listening with
  | none => (0, r)
  | some l => r.remove (c.ownBase l.host l.port)

end Datagram

end Telemetry.Component
