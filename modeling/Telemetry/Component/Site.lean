import Telemetry.Component.Call
import Telemetry.Registry.Snapshot

/-!
Programs that measure into one registry: they set up components below one root, call them in any
order and close them.
-/

namespace Telemetry

variable [Pattern.Engine]

/-- A component to be set up. -/
inductive Plan
  | runtime (eventLoops workers : Nat)
  | eventBus (rules : RuleList)
  | netServer (host : String) (port : Nat)
  | netClient (id? : Option String)
  | httpServer (host : String) (port : Nat) (rules : RuleList)
  | httpClient (id? : Option String) (maxPoolSize : Nat) (uriRules endpointRules : RuleList)
  | datagram
  | pool (type name : String) (maxSize : Nat)

/-- The identity of a client that has one. The empty text is none. -/
def clientId? (id? : Option String) : Option String := id?.filter (· ≠ "")

namespace Plan

def build (root : MetricName) : Plan → Setup Component
  | .runtime eventLoops workers => .runtime <$> Component.Runtime.new root eventLoops workers
  | .eventBus rules => .eventBus <$> Component.EventBus.new root rules
  | .netServer host port => .tcp <$> Component.Tcp.server root host port
  | .netClient id? => .tcp <$> Component.Tcp.client root id?
  | .httpServer host port rules => .httpServer <$> Component.HttpServer.new root host port rules
  | .httpClient id? maxPoolSize uriRules endpointRules =>
    .httpClient <$> Component.HttpClient.new root id? maxPoolSize uriRules endpointRules
  | .datagram => .datagram <$> Component.Datagram.new root
  | .pool type name maxSize => .pool <$> Component.Pool.new root type name maxSize

end Plan

/-- What tells components apart that measure below one root. -/
inductive Identity
  | runtime
  | eventBus
  | netServer (host : String) (port : Nat)
  | netClient (id : String)
  | httpServer (host : String) (port : Nat)
  | httpClient (id : String)
  | datagram (host : String) (port : Nat)
  | pool (type name : String)
deriving DecidableEq

/-- A component with the plan it comes from; an endpoint comes from the plan of its client. -/
structure Recorder where
  plan : Plan
  component : Component

namespace Recorder

/-- Clients without an id have no identity, nor have datagram sockets that do not listen. -/
def identity? (x : Recorder) : Option Identity :=
  match x.plan with
  | .runtime .. => some .runtime
  | .eventBus _ => some .eventBus
  | .netServer host port => some (.netServer host port)
  | .netClient id? => (clientId? id?).map .netClient
  | .httpServer host port _ => some (.httpServer host port)
  | .httpClient id? .. => (clientId? id?).map .httpClient
  | .datagram =>
    match x.component with
    | .datagram c => c.listening.map fun l => .datagram l.host l.port
    | _ => none
  | .pool type name _ => some (.pool type name)

/-- Only a runtime can be in a cluster. -/
def setCluster (x : Recorder) (host : String) (port : Nat) : Setup Unit :=
  match x.component with
  | .runtime c => c.setCluster host port
  | _ => return

/-- Only clients of the hypertext protocol have endpoints. -/
def endpoint (x : Recorder) (host : String) (port : Nat) (r : Registry) :
    Option Recorder × Registry :=
  match x.component with
  | .httpClient c =>
    let (e?, r) := c.endpoint host port r
    (e?.map fun e => ⟨x.plan, .endpoint e⟩, r)
  | _ => (none, r)

def call (x : Recorder) (k : Component.Call) (r : Registry) : Recorder × Registry :=
  let (c, r) := x.component.call k r
  (⟨x.plan, c⟩, r)

end Recorder

structure Site where
  registry : Registry
  recorders : List Recorder

namespace Site

def empty (c : Clock) : Site := ⟨.withClock c, []⟩

/-- Recorders are told by their positions, in the order in which they came up. -/
inductive Action
  | build (plan : Plan)
  | setCluster (i : Nat) (host : String) (port : Nat)
  | endpoint (i : Nat) (host : String) (port : Nat)
  | call (i : Nat) (k : Component.Call)
  | close (i : Nat)
  | remove (base : MetricName)
  | read (base : MetricName)
  | elapse (move : Clock → Clock)

def build (root : MetricName) (s : Site) (p : Plan) : Except MeasureError Unit × Site :=
  match (p.build root).run s.registry with
  | (.ok c, r) => (.ok (), ⟨r, s.recorders ++ [⟨p, c⟩]⟩)
  | (.error e, r) => (.error e, ⟨r, s.recorders⟩)

/-- Tells what failed, if anything did. What is asked of no recorder is done. -/
def step (root : MetricName) (s : Site) : Action → Except MeasureError Unit × Site
  | .build p => s.build root p
  | .setCluster i host port =>
    match s.recorders[i]? with
    | none => (.ok (), s)
    | some x =>
      let (result, r) := (x.setCluster host port).run s.registry
      (result, { s with registry := r })
  | .endpoint i host port =>
    match s.recorders[i]? with
    | none => (.ok (), s)
    | some x =>
      let (e?, r) := x.endpoint host port s.registry
      (.ok (), ⟨r, s.recorders ++ e?.toList⟩)
  | .call i k =>
    match s.recorders[i]? with
    | none => (.ok (), s)
    | some x =>
      let (x, r) := x.call k s.registry
      (.ok (), ⟨r, s.recorders.set i x⟩)
  | .close i =>
    match s.recorders[i]? with
    | none => (.ok (), s)
    | some x => (.ok (), { s with registry := (x.component.close s.registry).2 })
  | .remove base => (.ok (), { s with registry := (s.registry.remove base).2 })
  | .read base => (.ok (), { s with registry := (s.registry.readFrom base).2 })
  | .elapse move => (.ok (), { s with registry := s.registry.withTime move })

def run (root : MetricName) (s : Site) (actions : List Action) : Site :=
  actions.foldl (fun s a => (s.step root a).2) s

end Site

end Telemetry
