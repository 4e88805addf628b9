import Telemetry.Proofs.Component.Kinds

/-!
Recorders of a site. Whatever is done with one, it goes on to fit its plan, and the registry is used
by the layout of the plan only.
-/

namespace Telemetry

open Registry (Uses)
open Setup (Within)

variable [Pattern.Engine]

namespace Plan

/-- The texts of the base below the root. -/
def path : Plan → List String
  | .runtime .. => []
  | .eventBus _ => ["eventbus"]
  | .netServer host port => ["net", "servers", Component.address host port]
  | .netClient id? => ["net", "clients"] ++ (clientId? id?).toList
  | .httpServer host port _ => ["http", "servers", Component.address host port]
  | .httpClient id? .. => ["http", "clients"] ++ (clientId? id?).toList
  | .datagram => ["datagram"]
  | .pool type name _ => ["pool", type, name]

def base (root : MetricName) (p : Plan) : MetricName := root.below p.path

def layout : Plan → Layout
  | .runtime .. => Component.Runtime.layout
  | .eventBus _ => Component.EventBus.layout
  | .netServer .. | .netClient _ => Component.Tcp.layout
  | .httpServer .. => Component.HttpServer.layout
  | .httpClient .. => Component.HttpClient.layout
  | .datagram => Component.Datagram.layout
  | .pool .. => Component.Pool.layout

def schema (root : MetricName) (p : Plan) : Schema := p.layout.schema (p.base root)

/-- The components that a plan leads to. -/
inductive Fits (root : MetricName) : Plan → Component → Prop
  | runtime {eventLoops workers c} (h : c.base = base root (.runtime eventLoops workers)) :
    Fits root (.runtime eventLoops workers) (.runtime c)
  | eventBus {rules c} (h : c.base = base root (.eventBus rules)) :
    Fits root (.eventBus rules) (.eventBus c)
  | netServer {host port c} (h : c.base = base root (.netServer host port)) :
    Fits root (.netServer host port) (.tcp c)
  | netClient {id? c} (h : c.base = base root (.netClient id?)) :
    Fits root (.netClient id?) (.tcp c)
  | httpServer {host port rules c} (h : c.base = base root (.httpServer host port rules)) :
    Fits root (.httpServer host port rules) (.httpServer c)
  | httpClient {id? n uris endpoints c}
    (h : c.base = base root (.httpClient id? n uris endpoints)) :
    Fits root (.httpClient id? n uris endpoints) (.httpClient c)
  | endpoint {id? n uris endpoints} {c : Component.Endpoint} (node : Node)
    (h : c.base = ((base root (.httpClient id? n uris endpoints)).below ["endpoint"]).child node) :
    Fits root (.httpClient id? n uris endpoints) (.endpoint c)
  | datagram {c} (h : c.base = base root .datagram) : Fits root .datagram (.datagram c)
  | pool {type name n c} (h : c.base = base root (.pool type name n)) :
    Fits root (.pool type name n) (.pool c)

variable {root : MetricName} {p : Plan}

theorem base_runtime (root : MetricName) (eventLoops workers : Nat) :
    base root (.runtime eventLoops workers) = root := MetricName.below_nil root

theorem within_build (root : MetricName) (p : Plan) :
    Within (p.schema root) (p.Fits root) (p.build root) := by
  cases p with
  | runtime eventLoops workers =>
    have hb := base_runtime root eventLoops workers
    rw [schema, hb]
    exact .map (Component.Runtime.within_new root eventLoops workers) fun c hc =>
      .runtime (hc.trans hb.symm)
  | eventBus rules => exact .map (Component.EventBus.within_new root rules) fun c => .eventBus
  | netServer host port =>
    exact .map (Component.Tcp.within_server root host port) fun c => .netServer
  | netClient id? => exact .map (Component.Tcp.within_client root id?) fun c => .netClient
  | httpServer host port rules =>
    exact .map (Component.HttpServer.within_new root host port rules) fun c => .httpServer
  | httpClient id? n uris endpoints =>
    exact .map (Component.HttpClient.within_new root id? n uris endpoints) fun c => .httpClient
  | datagram =>
    have shared := Component.Datagram.shared_sub_layout.schema (base root .datagram)
    exact .map ((Component.Datagram.within_new root).mono shared) fun c => .datagram
  | pool type name n => exact .map (Component.Pool.within_new root type name n) fun c => .pool

namespace Fits

theorem call {c : Component} (h : p.Fits root c) (k : Component.Call) (r : Registry) :
    p.Fits root (c.call k r).1 ∧ Uses (p.schema root) r (c.call k r).2 := by
  cases h with
  | runtime h =>
    cases k with
    | runtime k => exact ⟨.runtime h, (Component.Runtime.uses_call _ k r).rebase h⟩
    | _ => exact ⟨.runtime h, .refl⟩
  | eventBus h =>
    cases k with
    | eventBus k => exact ⟨.eventBus h, (Component.EventBus.uses_call _ k r).rebase h⟩
    | _ => exact ⟨.eventBus h, .refl⟩
  | netServer h =>
    cases k with
    | tcp k => exact ⟨.netServer h, (Component.Tcp.uses_call _ k r).rebase h⟩
    | _ => exact ⟨.netServer h, .refl⟩
  | netClient h =>
    cases k with
    | tcp k => exact ⟨.netClient h, (Component.Tcp.uses_call _ k r).rebase h⟩
    | _ => exact ⟨.netClient h, .refl⟩
  | httpServer h =>
    cases k with
    | httpServer k => exact ⟨.httpServer h, (Component.HttpServer.uses_call _ k r).rebase h⟩
    | _ => exact ⟨.httpServer h, .refl⟩
  | httpClient h =>
    cases k with
    | httpClient k => exact ⟨.httpClient h, (Component.HttpClient.uses_call _ k r).rebase h⟩
    | _ => exact ⟨.httpClient h, .refl⟩
  | endpoint node h =>
    cases k with
    | endpoint k => exact ⟨.endpoint node h, Component.Endpoint.uses_call _ _ k r⟩
    | _ => exact ⟨.endpoint node h, .refl⟩
  | @datagram c h =>
    cases k with
    | datagram k =>
      exact ⟨.datagram ((c.base_call k r).trans h), (Component.Datagram.uses_call _ k r).rebase h⟩
    | _ => exact ⟨.datagram h, .refl⟩
  | pool h =>
    cases k with
    | pool k => exact ⟨.pool h, Component.Pool.uses_call _ _ k r⟩
    | _ => exact ⟨.pool h, .refl⟩

end Fits

end Plan

namespace Recorder

variable {root : MetricName} {x : Recorder}

def Fits (root : MetricName) (x : Recorder) : Prop := x.plan.Fits root x.component

theorem Fits.within_setCluster (h : x.Fits root) (host : String) (port : Nat) :
    Within (x.plan.schema root) (fun _ => True) (x.setCluster host port) := by
  obtain ⟨p, c⟩ := x
  cases h with
  | runtime h => exact (Component.Runtime.within_setCluster _ host port).rebase h
  | _ => exact .pure trivial

theorem Fits.endpoint (h : x.Fits root) (host : String) (port : Nat) (r : Registry) :
    (∀ e ∈ (x.endpoint host port r).1, e.plan = x.plan ∧ e.Fits root) ∧
      Uses (x.plan.schema root) r (x.endpoint host port r).2 := by
  obtain ⟨p, c⟩ := x
  cases h with
  | @httpClient _ _ _ _ c h =>
    refine ⟨fun y hy => ?_, (c.uses_endpoint host port r).rebase h⟩
    obtain ⟨e, he, rfl⟩ := Option.map_eq_some_iff.mp hy
    obtain ⟨node, hn⟩ := Component.HttpClient.base_of_endpoint he
    exact ⟨rfl, .endpoint node (hn.trans (by rw [h]))⟩
  | _ => exact ⟨fun _ he => (by cases he), .refl⟩

theorem Fits.call (h : x.Fits root) (k : Component.Call) (r : Registry) :
    (x.call k r).1.Fits root ∧ Uses (x.plan.schema root) r (x.call k r).2 :=
  Plan.Fits.call h k r

end Recorder

end Telemetry
