import Telemetry.Component.Dynamic

/-!
The measures of an event bus: messages by direction and origin, and how long handlers take.
-/

namespace Telemetry.Component

/-- A throughput in all, and apart for local and remote messages. -/
structure Traffic where
  all : MetricId
  near : MetricId
  far : MetricId

namespace Traffic

def new (base : MetricName) (path : String) : Setup Traffic := do
  let all ← Setup.metric base path .throughputMeter
  let near ← Setup.metric base (path ++ "-local") .throughputMeter
  let far ← Setup.metric base (path ++ "-remote") .throughputMeter
  return ⟨all, near, far⟩

def side (t : Traffic) (isLocal : Bool) : MetricId := if isLocal then t.near else t.far

def mark (t : Traffic) (isLocal : Bool) (n : UInt64) : List (MetricId × Event) :=
  [(t.all, .mark n), (t.side isLocal, .mark n)]

end Traffic

variable [Pattern.Engine]

structure EventBus where
  base : MetricName
  rules : RuleList
  handlers : MetricId
  bytesRead : MetricId
  bytesWritten : MetricId
  pending : MetricId
  pendingLocal : MetricId
  pendingRemote : MetricId
  received : Traffic
  delivered : Traffic
  sent : Traffic
  published : Traffic
  replyFailures : MetricId

/-- A registered handler, with a timer if its address is monitored. -/
structure Handler where
  address : String
  timer : Option MetricId

def Handler.isMonitored (h : Handler) : Bool := h.timer.isSome

/-- A message that is being handled. -/
structure Handling where
  start : Nanos

namespace EventBus

def new (root : MetricName) (rules : RuleList) : Setup EventBus := do
  let base ← Setup.name root "eventbus"
  let handlers ← Setup.metric base "handlers" .counter
  let bytesRead ← Setup.metric base "messages.bytes-read" .meter
  let bytesWritten ← Setup.metric base "messages.bytes-written" .meter
  let pending ← Setup.metric base "messages.pending" .counter
  let pendingLocal ← Setup.metric base "messages.pending-local" .counter
  let pendingRemote ← Setup.metric base "messages.pending-remote" .counter
  let received ← Traffic.new base "messages.received"
  let delivered ← Traffic.new base "messages.delivered"
  let sent ← Traffic.new base "messages.sent"
  let published ← Traffic.new base "messages.published"
  let replyFailures ← Setup.metric base "messages.reply-failures" .meter
  return ⟨base, rules, handlers, bytesRead, bytesWritten, pending, pendingLocal, pendingRemote,
    received, delivered, sent, published, replyFailures⟩

def pendingSide (c : EventBus) (isLocal : Bool) : MetricId :=
  if isLocal then c.pendingLocal else c.pendingRemote

def handlerRegistered (c : EventBus) (address : String) (r : Registry) : Handler × Registry :=
  let r := r.record c.handlers (.add 1)
  match c.rules.node? address with
  | none => (⟨address, none⟩, r)
  | some node =>
    let (timer, r) := r.metricIfFree ((compose c.base "handlers").map (·.child node)) .timer
    (⟨address, timer⟩, r)

def handlerUnregistered (c : EventBus) (r : Registry) : Registry :=
  r.record c.handlers (.add (-1))

def messageSent (c : EventBus) (publish isLocal : Bool) (r : Registry) : Registry :=
  r.recordAll ((if publish then c.published else c.sent).mark isLocal 1)

/-- A message came in that goes to a number of handlers, possibly to none. -/
def messageReceived (c : EventBus) (isLocal : Bool) (handlers : UInt64) (r : Registry) : Registry :=
  let r := r.recordAll
    ([(c.pending, .add handlers.toInt64), (c.pendingSide isLocal, .add handlers.toInt64)] ++
      c.received.mark isLocal 1)
  if handlers = 0 then r else r.recordAll (c.delivered.mark isLocal handlers)

def beginHandleMessage (c : EventBus) (isLocal : Bool) (r : Registry) : Handling × Registry :=
  (⟨r.now⟩, r.recordAll [(c.pending, .add (-1)), (c.pendingSide isLocal, .add (-1))])

def endHandleMessage (h : Handler) (m : Handling) (r : Registry) : Registry :=
  r.recordIn h.timer (.duration (r.now.since m.start))

def messageRead (c : EventBus) (bytes : UInt64) (r : Registry) : Registry :=
  r.record c.bytesRead (.mark bytes)

def messageWritten (c : EventBus) (bytes : UInt64) (r : Registry) : Registry :=
  r.record c.bytesWritten (.mark bytes)

def replyFailure (c : EventBus) (r : Registry) : Registry := r.record c.replyFailures (.mark 1)

def close (c : EventBus) (r : Registry) : Nat × Registry := r.remove c.base

end EventBus

end Telemetry.Component
