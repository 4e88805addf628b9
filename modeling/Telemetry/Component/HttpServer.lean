import Telemetry.Component.Request
import Telemetry.Component.Tcp

/-!
The measures of a server of the hypertext protocol.
-/

namespace Telemetry.Component

variable [Pattern.Engine]

structure HttpServer where
  tcp : Tcp
  rules : RuleList
  requests : MetricId
  responses : List MetricId
  openWebSockets : MetricId

/-- An open web socket. -/
structure WebSocket where
  remote : Option MetricId

namespace HttpServer

def base (c : HttpServer) : MetricName := c.tcp.base

def new (root : MetricName) (host : String) (port : Nat) (rules : RuleList) :
    Setup HttpServer := do
  let base := (← Setup.name root "http.servers").childOf (address host port)
  let requests ← Setup.metric base "requests" .throughputTimer
  let responses ← responseMetrics base .throughputMeter
  let openWebSockets ← Setup.metric base "open-websockets" .counter
  let tcp ← Tcp.new base
  return ⟨tcp, rules, requests, responses, openWebSockets⟩

def requestBegin (c : HttpServer) (method uri : String) (r : Registry) : Request :=
  .begin c.rules method uri r.now

def responseEnd (c : HttpServer) (q : Request) (status : Nat) (r : Registry) : Registry :=
  (q.finish c.base c.requests r).recordIn (responseMetric? c.responses status) (.mark 1)

def webSocketConnected (c : HttpServer) (remote : String) (r : Registry) : WebSocket × Registry :=
  let r := r.record c.openWebSockets (.add 1)
  let (own, r) := r.metricIfFree (composeDynamic c.base "open-websockets" remote) .counter
  (⟨own⟩, r.recordIn own (.add 1))

def webSocketDisconnected (c : HttpServer) (w : WebSocket) (r : Registry) : Registry :=
  (r.record c.openWebSockets (.add (-1))).recordIn w.remote (.add (-1))

def close (c : HttpServer) (r : Registry) : Nat × Registry := c.tcp.close r

end HttpServer

end Telemetry.Component
