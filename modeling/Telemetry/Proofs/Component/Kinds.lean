import Telemetry.Component.Site
import Telemetry.Proofs.Component.Layout

/-!
The layout of each component, and that it keeps to it.
-/

namespace Telemetry.Component

open Registry (Uses)
open Setup (Within)

variable {base : MetricName} {r r' : Registry}

@[simp] theorem clientId?_none : clientId? none = none := rfl

@[simp] theorem clientId?_empty : clientId? (some "") = none := rfl

theorem within_clientBase {S : Schema} {root : MetricName} {path : String} (vs : List String)
    (h : compose root path = .ok (root.below vs)) (id? : Option String) :
    Within S (· = root.below (vs ++ (clientId? id?).toList)) (clientBase root path id?) := by
  refine .bind (.name h) ?_
  rintro _ rfl
  split
  · exact .pure (by simp)
  · exact .pure (by simp)
  · next id hid =>
    have named : clientId? (some id) = some id := by
      simpa [clientId?] using hid
    exact .pure (by rw [named, MetricName.below_childOf]; rfl)

namespace Tcp

def layout : Layout
  | ["open-netsockets"] | ["open-netsockets", _] => some .counter
  | ["connections"] => some .timer
  | ["exceptions"] => some .counter
  | ["bytes-read"] | ["bytes-written"] => some .histogram
  | _ => none

theorem within_new (base : MetricName) :
    Within (layout.schema base) (·.base = base) (new base) := by
  refine .bind (.metric rfl (by decide)) fun openSockets _ => ?_
  refine .bind (.metric rfl (by decide)) fun connections _ => ?_
  refine .bind (.metric rfl (by decide)) fun exceptions _ => ?_
  refine .bind (.metric rfl (by decide)) fun bytesRead _ => ?_
  refine .bind (.metric rfl (by decide)) fun bytesWritten _ => ?_
  exact .pure rfl

theorem within_server (root : MetricName) (host : String) (port : Nat) :
    Within (layout.schema (root.below ["net", "servers", address host port]))
      (·.base = root.below ["net", "servers", address host port]) (server root host port) := by
  refine .bind (.name (n := root.below ["net", "servers"]) rfl) ?_
  rintro _ rfl
  rw [MetricName.below_childOf]
  exact within_new _

theorem within_client (root : MetricName) (id? : Option String) :
    Within (layout.schema (root.below (["net", "clients"] ++ (clientId? id?).toList)))
      (·.base = root.below (["net", "clients"] ++ (clientId? id?).toList)) (client root id?) := by
  refine .bind (within_clientBase ["net", "clients"] rfl id?) ?_
  rintro _ rfl
  exact within_new _

theorem uses_call (c : Tcp) (k : Call) (r : Registry) :
    Uses (layout.schema c.base) r (c.call k r) := by
  cases k with
  | connected remote =>
    have counted := Uses.refl.record (S := layout.schema c.base) (r := r) c.openSockets (.add 1)
    exact (counted.dynamic "open-netsockets" (.escape remote) .counter rfl (by decide)).recordIn _ _
  | disconnected s => exact ((Uses.refl.record _ _).recordIn _ _).record _ _
  | received bytes => exact .record .refl _ _
  | sent bytes => exact .record .refl _ _
  | exceptionOccurred => exact .record .refl _ _

end Tcp

namespace Endpoint

def layout : Layout
  | ["queue-delay"] | ["usage"] | ["ttfb"] => some .timer
  | ["queue-size"] | ["open-netsockets"] | ["in-use"] => some .counter
  | _ => none

theorem within_new (base : MetricName) :
    Within (layout.schema base) (·.base = base) (new base) := by
  refine .bind (.metric rfl (by decide)) fun queueDelay _ => ?_
  refine .bind (.metric rfl (by decide)) fun queueSize _ => ?_
  refine .bind (.metric rfl (by decide)) fun openSockets _ => ?_
  refine .bind (.metric rfl (by decide)) fun usage _ => ?_
  refine .bind (.metric rfl (by decide)) fun inUse _ => ?_
  refine .bind (.metric rfl (by decide)) fun ttfb _ => ?_
  exact .pure rfl

theorem uses_call (S : Schema) (c : Endpoint) (k : Call) (r : Registry) :
    Uses S r (c.call k r) := by
  cases k with
  | enqueue => exact .record .refl _ _
  | dequeue q => exact .recordAll .refl _
  | connected => exact .record .refl _ _
  | disconnected => exact .record .refl _ _
  | requestBegin => exact .record .refl _ _
  | responseBegin q => exact .record .refl _ _
  | responseEnd q => exact .recordAll .refl _

end Endpoint

/-! ### Requests -/

def methodTexts : List String := httpMethods.map (· ++ "-requests")

theorem text_mem_methodTexts {n : Node} (h : n ∈ methodNodes) : n.text ∈ methodTexts := by
  revert n
  decide

/-- Requests and responses, the latter of a kind that depends on the side. -/
def httpLayout (response : Kind) : Layout
  | ["requests"] => some .throughputTimer
  | ["open-websockets"] => some .counter
  | [t] =>
    if t ∈ responseNames then some response
    else if t ∈ methodTexts then some .throughputTimer
    else none
  | [t, _] => if t ∈ methodTexts then some .throughputTimer else none
  | _ => none

theorem httpLayout_method (response : Kind) {t : String} (h : t ∈ methodTexts) :
    httpLayout response [t] = some .throughputTimer := by
  cases response <;> revert t <;> decide

theorem httpLayout_path (response : Kind) {t : String} (h : t ∈ methodTexts) (uri : String) :
    httpLayout response [t, uri] = some .throughputTimer := by
  rw [httpLayout, if_pos h]

theorem httpLayout_eq_none_of_tcp {ts : List String} {kind : Kind} (response : Kind)
    (h : Tcp.layout ts = some kind) : httpLayout response ts = none := by
  unfold Tcp.layout at h
  split at h <;> cases h <;> rfl

theorem within_responseMetrics {L : Layout} {kind : Kind} (base : MetricName)
    (h : ∀ name ∈ responseNames, L.kindBelow name [] = some kind) (plain : kind ≠ .gauge) :
    Within (L.schema base) (fun _ => True) (responseMetrics base kind) :=
  .mapM fun name hn => .metric (h name hn) plain

theorem Request.uses_finish (q : Request) (base : MetricName) (requests : MetricId)
    (response : Kind) (r : Registry) :
    Uses ((httpLayout response).schema base) r (q.finish base requests r) := by
  have timed := Uses.refl.record (S := (httpLayout response).schema base) (r := r) requests
    (.duration (r.now.since q.start))
  unfold finish
  split
  · exact timed
  · next method hm =>
    have known := text_mem_methodTexts (q.standard method hm)
    have standard : (httpLayout response).schema base (base.join (.ofNode method)) =
        some .throughputTimer := by
      rw [Layout.schema_join]
      exact httpLayout_method response known
    have own := timed.metricIfFree standard (by decide)
    split
    · exact own.recordIn _ _
    · next uri _ =>
      have path : (httpLayout response).schema base ((base.join (.ofNode method)).child uri) =
          some .throughputTimer := by
        rw [MetricName.child_join, Layout.schema_join]
        exact httpLayout_path response known uri.text
      exact ((own.recordIn _ _).metricIfFree path (by decide)).recordIn _ _

/-- The layout of a side: its sockets, its requests and what it has of its own. -/
def sideLayout (response : Kind) (own : Layout) : Layout := fun ts =>
  (Tcp.layout ts).or ((httpLayout response ts).or (own ts))

theorem tcp_sub_sideLayout (response : Kind) (own : Layout) :
    Tcp.layout.Sub (sideLayout response own) := by
  intro ts kind h
  rw [sideLayout, h, Option.some_or]

theorem http_sub_sideLayout (response : Kind) (own : Layout) :
    (httpLayout response).Sub (sideLayout response own) := by
  intro ts kind h
  cases ht : Tcp.layout ts with
  | none => rw [sideLayout, ht, Option.none_or, h, Option.some_or]
  | some kind' => simp [httpLayout_eq_none_of_tcp _ ht] at h

namespace HttpServer

def layout : Layout := sideLayout .throughputMeter fun
  | ["open-websockets", _] => some .counter
  | _ => none

variable [Pattern.Engine]

theorem within_new (root : MetricName) (host : String) (port : Nat) (rules : RuleList) :
    Within (layout.schema (root.below ["http", "servers", address host port]))
      (·.base = root.below ["http", "servers", address host port]) (new root host port rules) := by
  refine .bind (.name (n := root.below ["http", "servers"]) rfl) ?_
  rintro _ rfl
  rw [MetricName.below_childOf]
  refine .bind (.metric rfl (by decide)) fun requests _ => ?_
  refine .bind (within_responseMetrics _ (by decide) (by decide)) fun responses _ => ?_
  refine .bind (.metric rfl (by decide)) fun openWebSockets _ => ?_
  refine .bind ((Tcp.within_new _).mono ((tcp_sub_sideLayout _ _).schema _)) fun tcp h => ?_
  exact .pure h

theorem uses_call (c : HttpServer) (k : Call) (r : Registry) :
    Uses (layout.schema c.base) r (c.call k r) := by
  cases k with
  | socket k => exact (c.tcp.uses_call k r).mono ((tcp_sub_sideLayout _ _).schema _)
  | responseEnd q status =>
    have finished := q.uses_finish c.base c.requests .throughputMeter r
    exact (finished.mono ((http_sub_sideLayout _ _).schema _)).recordIn _ _
  | webSocketConnected remote =>
    have counted := Uses.refl.record (S := layout.schema c.base) (r := r) c.openWebSockets (.add 1)
    exact (counted.dynamic "open-websockets" (.escape remote) .counter rfl (by decide)).recordIn _ _
  | webSocketDisconnected w => exact (Uses.refl.record _ _).recordIn _ _

end HttpServer

namespace HttpClient

def layout : Layout := sideLayout .meter fun
  | "endpoint" :: _ :: ts => Endpoint.layout ts
  | ["connections", "max-pool-size"] | ["connections", "pool-ratio"] => some .gauge
  | _ => none

theorem layout_endpoint (node : String) (ts : List String) :
    layout ("endpoint" :: node :: ts) = Endpoint.layout ts := by
  cases ts <;> rfl

theorem endpoint_sub_layout (base : MetricName) (node : Node) :
    (Endpoint.layout.schema ((base.below ["endpoint"]).child node)).Sub (layout.schema base) := by
  have split : (base.below ["endpoint"]).child node = base.join ⟨[.escape "endpoint", node]⟩ :=
    MetricName.child_join base ⟨[.escape "endpoint"]⟩ node
  rw [split]
  exact Layout.schema_join_sub base fun ts _ h => (layout_endpoint node.text ts).trans h

variable [Pattern.Engine]

theorem within_new (root : MetricName) (id? : Option String) (maxPoolSize : Nat)
    (uriRules endpointRules : RuleList) :
    Within (layout.schema (root.below (["http", "clients"] ++ (clientId? id?).toList)))
      (·.base = root.below (["http", "clients"] ++ (clientId? id?).toList))
      (new root id? maxPoolSize uriRules endpointRules) := by
  refine .bind (within_clientBase ["http", "clients"] rfl id?) ?_
  rintro _ rfl
  refine .bind (.metric rfl (by decide)) fun requests _ => ?_
  refine .bind (within_responseMetrics _ (by decide) (by decide)) fun responses _ => ?_
  refine .bind (.metric rfl (by decide)) fun openWebSockets _ => ?_
  refine .bind ((Tcp.within_new _).mono ((tcp_sub_sideLayout _ _).schema _)) fun tcp h => ?_
  refine .bind (.gauge rfl _) fun _ _ => ?_
  refine .bind (.gauge rfl _) fun _ _ => ?_
  exact .pure h

theorem uses_call (c : HttpClient) (k : Call) (r : Registry) :
    Uses (layout.schema c.base) r (c.call k r) := by
  cases k with
  | socket k => exact (c.tcp.uses_call k r).mono ((tcp_sub_sideLayout _ _).schema _)
  | responseEnd q status =>
    have finished := q.uses_finish c.base c.requests .meter r
    exact (finished.mono ((http_sub_sideLayout _ _).schema _)).recordIn _ _
  | webSocketConnected => exact .record .refl _ _
  | webSocketDisconnected => exact .record .refl _ _

/-- Endpoints of one node keep to themselves. -/
theorem within_newEndpoint_below (c : HttpClient) (node : Node) :
    Within (Endpoint.layout.schema ((c.base.below ["endpoint"]).child node))
      (·.base = (c.base.below ["endpoint"]).child node) (c.newEndpoint node) := by
  refine .bind (.name (n := c.base.below ["endpoint"]) rfl) ?_
  rintro _ rfl
  exact Endpoint.within_new _

theorem within_newEndpoint (c : HttpClient) (node : Node) :
    Within (layout.schema c.base) (·.base = (c.base.below ["endpoint"]).child node)
      (c.newEndpoint node) :=
  (c.within_newEndpoint_below node).mono (endpoint_sub_layout c.base node)

theorem uses_endpoint (c : HttpClient) (host : String) (port : Nat) (r : Registry) :
    Uses (layout.schema c.base) r (c.endpoint host port r).2 := by
  unfold endpoint
  split
  · exact .refl
  · next node _ =>
    have hw := c.within_newEndpoint node
    have used := hw.uses r
    split
    · next e r' he =>
      rw [he] at used
      exact used
    · next e r' he =>
      rw [he] at used
      refine used.skip (fun hr => ?_) e
      obtain ⟨a, ha⟩ := hw.ok r hr
      rw [he] at ha
      cases ha

theorem exists_run_of_endpoint {c : HttpClient} {host : String} {port : Nat} {e : Endpoint}
    (h : (c.endpoint host port r).1 = some e) :
    ∃ node, (c.newEndpoint node).run r = (.ok e, (c.endpoint host port r).2) := by
  unfold endpoint at h ⊢
  split at h
  · cases h
  · next node _ =>
    split at h
    · next e' r' he =>
      cases h
      exact ⟨node, he⟩
    · cases h

theorem base_of_endpoint {c : HttpClient} {host : String} {port : Nat} {r : Registry} {e : Endpoint}
    (h : (c.endpoint host port r).1 = some e) :
    ∃ node, e.base = (c.base.below ["endpoint"]).child node := by
  obtain ⟨node, he⟩ := exists_run_of_endpoint h
  exact ⟨node, (c.within_newEndpoint node).post r e (by rw [he])⟩

end HttpClient

namespace EventBus

def layout : Layout
  | ["handlers"] => some .counter
  | ["handlers", _] => some .timer
  | ["messages", "bytes-read"] | ["messages", "bytes-written"]
  | ["messages", "reply-failures"] => some .meter
  | ["messages", "pending"] | ["messages", "pending-local"]
  | ["messages", "pending-remote"] => some .counter
  | ["messages", "received"] | ["messages", "received-local"] | ["messages", "received-remote"]
  | ["messages", "delivered"] | ["messages", "delivered-local"] | ["messages", "delivered-remote"]
  | ["messages", "sent"] | ["messages", "sent-local"] | ["messages", "sent-remote"]
  | ["messages", "published"] | ["messages", "published-local"]
  | ["messages", "published-remote"] => some .throughputMeter
  | _ => none

theorem within_traffic {path : String} (all : layout.kindBelow path [] = some .throughputMeter)
    (near : layout.kindBelow (path ++ "-local") [] = some .throughputMeter)
    (far : layout.kindBelow (path ++ "-remote") [] = some .throughputMeter) :
    Within (layout.schema base) (fun _ => True) (Traffic.new base path) := by
  refine .bind (.metric all (by decide)) fun _ _ => ?_
  refine .bind (.metric near (by decide)) fun _ _ => ?_
  refine .bind (.metric far (by decide)) fun _ _ => ?_
  exact .pure trivial

variable [Pattern.Engine]

theorem within_new (root : MetricName) (rules : RuleList) :
    Within (layout.schema (root.below ["eventbus"])) (·.base = root.below ["eventbus"])
      (new root rules) := by
  refine .bind (.name (n := root.below ["eventbus"]) rfl) ?_
  rintro _ rfl
  refine .bind (.metric rfl (by decide)) fun handlers _ => ?_
  refine .bind (.metric rfl (by decide)) fun bytesRead _ => ?_
  refine .bind (.metric rfl (by decide)) fun bytesWritten _ => ?_
  refine .bind (.metric rfl (by decide)) fun pending _ => ?_
  refine .bind (.metric rfl (by decide)) fun pendingLocal _ => ?_
  refine .bind (.metric rfl (by decide)) fun pendingRemote _ => ?_
  refine .bind (within_traffic rfl rfl rfl) fun received _ => ?_
  refine .bind (within_traffic rfl rfl rfl) fun delivered _ => ?_
  refine .bind (within_traffic rfl rfl rfl) fun sent _ => ?_
  refine .bind (within_traffic rfl rfl rfl) fun published _ => ?_
  refine .bind (.metric rfl (by decide)) fun replyFailures _ => ?_
  exact .pure rfl

theorem uses_handlerRegistered (c : EventBus) (address : String) (r : Registry) :
    Uses (layout.schema c.base) r (c.handlerRegistered address r).2 := by
  have counted := Uses.refl.record (S := layout.schema c.base) (r := r) c.handlers (.add 1)
  unfold handlerRegistered
  split
  · exact counted
  · next node _ => exact counted.dynamic "handlers" node .timer rfl (by decide)

theorem uses_messageReceived (S : Schema) (c : EventBus) (isLocal : Bool) (handlers : UInt64)
    (r : Registry) : Uses S r (c.messageReceived isLocal handlers r) := by
  unfold messageReceived
  split
  · exact .recordAll .refl _
  · exact (Uses.refl.recordAll _).recordAll _

theorem uses_call (c : EventBus) (k : Call) (r : Registry) :
    Uses (layout.schema c.base) r (c.call k r) := by
  cases k with
  | handlerRegistered address => exact c.uses_handlerRegistered address r
  | handlerUnregistered => exact .record .refl _ _
  | messageSent publish isLocal => exact .recordAll .refl _
  | messageReceived isLocal handlers => exact c.uses_messageReceived _ isLocal handlers r
  | beginHandleMessage isLocal => exact .recordAll .refl _
  | endHandleMessage h m => exact .recordIn .refl _ _
  | messageRead bytes => exact .record .refl _ _
  | messageWritten bytes => exact .record .refl _ _
  | replyFailure => exact .record .refl _ _

end EventBus

namespace Pool

def layout : Layout
  | ["queue-delay"] | ["usage"] => some .timer
  | ["queue-size"] | ["in-use"] => some .counter
  | ["max-pool-size"] | ["pool-ratio"] => some .gauge
  | _ => none

theorem within_new (root : MetricName) (type name : String) (maxSize : Nat) :
    Within (layout.schema (root.below ["pool", type, name]))
      (·.base = root.below ["pool", type, name]) (new root type name maxSize) := by
  refine .bind (.name (n := root.below ["pool"]) rfl) ?_
  rintro _ rfl
  rw [MetricName.below_below]
  refine .bind (.metric rfl (by decide)) fun queueDelay _ => ?_
  refine .bind (.metric rfl (by decide)) fun queueSize _ => ?_
  refine .bind (.metric rfl (by decide)) fun usage _ => ?_
  refine .bind (.metric rfl (by decide)) fun inUse _ => ?_
  split
  · refine .bind (.gauge rfl _) fun _ _ => ?_
    refine .bind (.gauge rfl _) fun _ _ => ?_
    exact .pure rfl
  · exact .pure rfl

theorem uses_call (S : Schema) (c : Pool) (k : Call) (r : Registry) : Uses S r (c.call k r) := by
  cases k with
  | submitted => exact .record .refl _ _
  | rejected => exact .record .refl _ _
  | begin t => exact .recordAll .refl _
  | finish u => exact .recordAll .refl _

end Pool

namespace Datagram

def sharedLayout : Layout
  | ["sockets"] | ["exceptions"] => some .counter
  | ["bytes-written"] => some .histogram
  | _ => none

def ownLayout : Layout
  | [_, "bytes-read"] => some .histogram
  | _ => none

def layout : Layout := fun ts => (sharedLayout ts).or (ownLayout ts)

theorem shared_sub_layout : sharedLayout.Sub layout := by
  intro ts kind h
  rw [layout, h, Option.some_or]

theorem within_new (root : MetricName) :
    Within (sharedLayout.schema (root.below ["datagram"])) (·.base = root.below ["datagram"])
      (new root) := by
  refine .bind (.name (n := root.below ["datagram"]) rfl) ?_
  rintro _ rfl
  refine .bind (.metric rfl (by decide)) fun sockets _ => ?_
  refine .bind (.metric rfl (by decide)) fun exceptions _ => ?_
  refine .bind (.metric rfl (by decide)) fun bytesWritten _ => ?_
  refine .bind (.record sockets (.add 1)) fun _ _ => ?_
  exact .pure rfl

theorem layout_own (t : String) : layout [t, "bytes-read"] = some .histogram := by
  simp [layout, sharedLayout, ownLayout]

/-- The one metric that a listening socket has to itself. -/
theorem compose_ownBase (c : Datagram) (host : String) (port : Nat) :
    compose (c.ownBase host port) "bytes-read" =
      .ok (c.base.below [address host port, "bytes-read"]) := by
  have (b : MetricName) : compose b "bytes-read" = .ok (b.below ["bytes-read"]) := rfl
  rw [this]
  exact congrArg Except.ok (MetricName.below_below c.base [address host port] ["bytes-read"])

theorem uses_listen (c : Datagram) (host : String) (port : Nat) (r : Registry) :
    Uses (layout.schema c.base) r (c.listen host port r).2 := by
  have own : layout.schema c.base (c.base.below [address host port, "bytes-read"]) =
      some .histogram := by
    rw [MetricName.below_eq_join, Layout.schema_join]
    exact layout_own _
  unfold listen
  rw [compose_ownBase]
  split
  · exact .refl
  · exact Uses.refl.metricIfFree own (by decide)

theorem uses_call (c : Datagram) (k : Call) (r : Registry) :
    Uses (layout.schema c.base) r (c.call k r).2 := by
  cases k with
  | listen host port => exact c.uses_listen host port r
  | received bytes => exact .recordIn .refl _ _
  | sent bytes => exact .record .refl _ _
  | exceptionOccurred => exact .record .refl _ _

theorem base_call (c : Datagram) (k : Call) (r : Registry) : (c.call k r).1.base = c.base := by
  cases k with
  | listen host port =>
    rw [call, listen]
    split <;> rfl
  | _ => rfl

theorem listening_call (c : Datagram) (k : Call) (r : Registry) {l : Listening}
    (h : c.listening = some l) : (c.call k r).1.listening = some l := by
  cases k with
  | listen host port =>
    rw [call, listen]
    split
    · exact h
    · next hn => simp [hn] at h
  | _ => exact h

end Datagram

namespace Runtime

def layout : Layout
  | ["event-loop-size"] | ["worker-pool-size"] | ["cluster-host"] | ["cluster-port"] => some .gauge
  | ["verticles"] | ["verticles", _] => some .counter
  | _ => none

theorem within_new (root : MetricName) (eventLoops workers : Nat) :
    Within (layout.schema root) (·.base = root) (new root eventLoops workers) := by
  refine .bind (.gauge rfl _) fun _ _ => ?_
  refine .bind (.gauge rfl _) fun _ _ => ?_
  refine .bind (.metric rfl (by decide)) fun verticles _ => ?_
  exact .pure rfl

theorem within_setCluster (c : Runtime) (host : String) (port : Nat) :
    Within (layout.schema c.base) (fun _ => True) (c.setCluster host port) := by
  refine .bind (.gauge rfl _) fun _ _ => ?_
  refine .bind (.gauge rfl _) fun _ _ => ?_
  exact .pure trivial

theorem uses_deploy (c : Runtime) (name : String) (n : Int64) (r : Registry) :
    Uses (layout.schema c.base) r (c.deploy name n r) := by
  have counted := Uses.refl.record (S := layout.schema c.base) (r := r) c.verticles (.add n)
  exact (counted.dynamic "verticles" (.escape name) .counter rfl (by decide)).recordIn _ _

theorem uses_call (c : Runtime) (k : Call) (r : Registry) :
    Uses (layout.schema c.base) r (c.call k r) := by
  cases k with
  | verticleDeployed name => exact c.uses_deploy name 1 r
  | verticleUndeployed name => exact c.uses_deploy name (-1) r

end Runtime

end Telemetry.Component
