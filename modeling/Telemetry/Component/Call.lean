import Telemetry.Component.Basic

/-!
Everything that can be told to a component. What a call hands out, a later call may take back.
-/

namespace Telemetry.Component

variable [Pattern.Engine]

namespace Runtime

inductive Call
  | verticleDeployed (name : String)
  | verticleUndeployed (name : String)

def call (c : Runtime) : Call → Registry → Registry
  | .verticleDeployed name => c.verticleDeployed name
  | .verticleUndeployed name => c.verticleUndeployed name

end Runtime

namespace EventBus

inductive Call
  | handlerRegistered (address : String)
  | handlerUnregistered
  | messageSent (publish isLocal : Bool)
  | messageReceived (isLocal : Bool) (handlers : UInt64)
  | beginHandleMessage (isLocal : Bool)
  | endHandleMessage (h : Handler) (m : Handling)
  | messageRead (bytes : UInt64)
  | messageWritten (bytes : UInt64)
  | replyFailure

def call (c : EventBus) : Call → Registry → Registry
  | .handlerRegistered address => fun r => (c.handlerRegistered address r).2
  | .handlerUnregistered => c.handlerUnregistered
  | .messageSent publish isLocal => c.messageSent publish isLocal
  | .messageReceived isLocal handlers => c.messageReceived isLocal handlers
  | .beginHandleMessage isLocal => fun r => (c.beginHandleMessage isLocal r).2
  | .endHandleMessage h m => endHandleMessage h m
  | .messageRead bytes => c.messageRead bytes
  | .messageWritten bytes => c.messageWritten bytes
  | .replyFailure => c.replyFailure

end EventBus

namespace Tcp

inductive Call
  | connected (remote : String)
  | disconnected (s : Socket)
  | received (bytes : UInt64)
  | sent (bytes : UInt64)
  | exceptionOccurred

def call (c : Tcp) : Call → Registry → Registry
  | .connected remote => fun r => (c.connected remote r).2
  | .disconnected s => c.disconnected s
  | .received bytes => c.received bytes
  | .sent bytes => c.sent bytes
  | .exceptionOccurred => c.exceptionOccurred

end Tcp

namespace HttpServer

inductive Call
  | socket (call : Tcp.Call)
  | responseEnd (q : Request) (status : Nat)
  | webSocketConnected (remote : String)
  | webSocketDisconnected (w : WebSocket)

def call (c : HttpServer) : Call → Registry → Registry
  | .socket call => c.tcp.call call
  | .responseEnd q status => c.responseEnd q status
  | .webSocketConnected remote => fun r => (c.webSocketConnected remote r).2
  | .webSocketDisconnected w => c.webSocketDisconnected w

end HttpServer

namespace HttpClient

inductive Call
  | socket (call : Tcp.Call)
  | responseEnd (q : Request) (status : Nat)
  | webSocketConnected
  | webSocketDisconnected

def call (c : HttpClient) : Call → Registry → Registry
  | .socket call => c.tcp.call call
  | .responseEnd q status => c.responseEnd q status
  | .webSocketConnected => c.webSocketConnected
  | .webSocketDisconnected => c.webSocketDisconnected

end HttpClient

namespace Endpoint

inductive Call
  | enqueue
  | dequeue (q : QueuedRequest)
  | connected
  | disconnected
  | requestBegin
  | responseBegin (q : SentRequest)
  | responseEnd (q : SentRequest)

def call (c : Endpoint) : Call → Registry → Registry
  | .enqueue => fun r => (c.enqueue r).2
  | .dequeue q => c.dequeue q
  | .connected => c.connected
  | .disconnected => c.disconnected
  | .requestBegin => fun r => (c.requestBegin r).2
  | .responseBegin q => c.responseBegin q
  | .responseEnd q => c.responseEnd q

end Endpoint

namespace Datagram

inductive Call
  | listen (host : String) (port : Nat)
  | received (bytes : UInt64)
  | sent (bytes : UInt64)
  | exceptionOccurred

def call (c : Datagram) : Call → Registry → Datagram × Registry
  | .listen host port => c.listen host port
  | .received bytes => fun r => (c, c.received bytes r)
  | .sent bytes => fun r => (c, c.sent bytes r)
  | .exceptionOccurred => fun r => (c, c.exceptionOccurred r)

end Datagram

namespace Pool

inductive Call
  | submitted
  | rejected
  | begin (t : Task)
  | finish (u : Usage)

def call (c : Pool) : Call → Registry → Registry
  | .submitted => fun r => (c.submitted r).2
  | .rejected => c.rejected
  | .begin t => fun r => (c.begin t r).2
  | .finish u => c.finish u

end Pool

inductive Call
  | runtime (call : Runtime.Call)
  | eventBus (call : EventBus.Call)
  | tcp (call : Tcp.Call)
  | httpServer (call : HttpServer.Call)
  | httpClient (call : HttpClient.Call)
  | endpoint (call : Endpoint.Call)
  | datagram (call : Datagram.Call)
  | pool (call : Pool.Call)

/-- A call that is not meant for the component does nothing. -/
def call (c : Component) (k : Call) (r : Registry) : Component × Registry :=
  match c, k with
  | .runtime c, .runtime k => (.runtime c, c.call k r)
  | .eventBus c, .eventBus k => (.eventBus c, c.call k r)
  | .tcp c, .tcp k => (.tcp c, c.call k r)
  | .httpServer c, .httpServer k => (.httpServer c, c.call k r)
  | .httpClient c, .httpClient k => (.httpClient c, c.call k r)
  | .endpoint c, .endpoint k => (.endpoint c, c.call k r)
  | .datagram c, .datagram k => let (c, r) := c.call k r; (.datagram c, r)
  | .pool c, .pool k => (.pool c, c.call k r)
  | c, _ => (c, r)

end Telemetry.Component
