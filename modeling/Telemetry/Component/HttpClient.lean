import Telemetry.Component.Endpoint
import Telemetry.Component.Request
import Telemetry.Component.Tcp

/-!
The measures of a client of the hypertext protocol and of its connection pool.
-/

namespace Telemetry.Component

variable [Pattern.Engine]

structure HttpClient where
  tcp : Tcp
  uriRules : RuleList
  endpointRules : RuleList
  requests : MetricId
  responses : List MetricId
  openWebSockets : MetricId

namespace HttpClient

def base (c : HttpClient) : MetricName := c.tcp.base

def new (root : MetricName) (id? : Option String) (maxPoolSize : Nat)
    (uriRules endpointRules : RuleList) : Setup HttpClient := do
  let base ← clientBase root "http.clients" id?
  let requests ← Setup.metric base "requests" .throughputTimer
  let responses ← responseMetrics base .meter
  let openWebSockets ← Setup.metric base "open-websockets" .counter
  let tcp ← Tcp.new base
  let _ ← Setup.gauge base "connections.max-pool-size" (.fixed (.int maxPoolSize))
  let _ ← Setup.gauge base "connections.pool-ratio"
    (.share tcp.openSockets (Rounding.double maxPoolSize))
  return ⟨tcp, uriRules, endpointRules, requests, responses, openWebSockets⟩

/-- Measures endpoints of one node. -/
def newEndpoint (c : HttpClient) (node : Node) : Setup Endpoint := do
  let base ← Setup.name c.base "endpoint"
  Endpoint.new (base.child node)

/-- The measures of an endpoint, if it is monitored and all their names are free. -/
def endpoint (c : HttpClient) (host : String) (port : Nat) (r : Registry) :
    Option Endpoint × Registry :=
  match c.endpointRules.node? (address host port) with
  | none => (none, r)
  | some node =>
    match (c.newEndpoint node).run r with
    | (.ok e, r) => (some e, r)
    | (.error e, r) => (none, r.skip e)

def requestBegin (c : HttpClient) (method uri : String) (r : Registry) : Request :=
  .begin c.uriRules method uri r.now

def responseEnd (c : HttpClient) (q : Request) (status : Nat) (r : Registry) : Registry :=
  (q.finish c.base c.requests r).recordIn (responseMetric? c.responses status) (.mark 1)

def webSocketConnected (c : HttpClient) (r : Registry) : Registry :=
  r.record c.openWebSockets (.add 1)

def webSocketDisconnected (c : HttpClient) (r : Registry) : Registry :=
  r.record c.openWebSockets (.add (-1))

def close (c : HttpClient) (r : Registry) : Nat × Registry := c.tcp.close r

end HttpClient

end Telemetry.Component
