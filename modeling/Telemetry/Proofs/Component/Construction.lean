import Telemetry.Component.Site
import Telemetry.Proofs.Component.Enrollment
import Telemetry.Proofs.Component.Handles
import Telemetry.Proofs.Component.Recorder

/-!
How components come up: each asks for its metrics in a fixed order, of which only a new gauge may
depend on the metrics before it. So all that enrollment does holds of every constructor.
-/

namespace Telemetry

namespace Setup

variable {α : Type} {base : MetricName} {ids : List MetricId} {ds : List Demand} {m : Setup α}
  {f : List MetricId → Setup α} {path : String} {texts : List String} {kind : Kind}

theorem name_eq {n : MetricName} (h : compose base path = .ok n) :
    Setup.name base path = pure n := by
  funext r
  change ((compose base path).mapError MeasureError.invalidName, r) = _
  rw [h]
  rfl

theorem metric_eq_ask (hc : compose base path = .ok (base.below texts)) (h : kind ≠ .gauge)
    (ids : List MetricId) :
    Setup.metric base path kind = (Demand.plain texts kind h).ask base ids := by
  rw [Setup.metric, name_eq hc, pure_bind]
  funext r
  change ((r.typed _ kind).1.mapError MeasureError.registry, (r.typed _ kind).2) = _
  rw [Registry.typed_eq, Registry.getOrCreate, Demand.ask, Demand.plain]
  simp only [Option.some_get]
  rfl

theorem gauge_eq_ask (hc : compose base path = .ok (base.below texts))
    (g : List MetricId → Gauge) (ids : List MetricId) :
    Setup.gauge base path (g ids) = (Demand.gauge texts g).ask base ids := by
  rw [Setup.gauge, name_eq hc, pure_bind]
  funext r
  change ((r.getOrAddGauge _ _).1.mapError MeasureError.registry, (r.getOrAddGauge _ _).2) = _
  rw [Registry.getOrAddGauge_eq]
  rfl

/-- After the metrics `ids` the steps ask for `ds`, and then go on as `f` says for all of them. -/
def Enrolls (base : MetricName) (ids : List MetricId) (ds : List Demand) (m : Setup α)
    (f : List MetricId → Setup α) : Prop := m = enroll base ds ids >>= f

namespace Enrolls

theorem done (h : m = f ids) : Enrolls base ids [] m f := by
  rw [Enrolls, enroll, pure_bind, h]

theorem ask {d : Demand} {k : MetricId → Setup α}
    (rest : ∀ id, Enrolls base (ids ++ [id]) ds (k id) f) :
    Enrolls base ids (d :: ds) (d.ask base ids >>= k) f := by
  rw [Enrolls, enroll, bind_assoc]
  exact congrArg (d.ask base ids >>= ·) (funext rest)

theorem metric {k : MetricId → Setup α} (hc : compose base path = .ok (base.below texts))
    (h : kind ≠ .gauge) (rest : ∀ id, Enrolls base (ids ++ [id]) ds (k id) f) :
    Enrolls base ids (.plain texts kind h :: ds) (Setup.metric base path kind >>= k) f := by
  rw [metric_eq_ask hc h ids]
  exact ask rest

theorem gauge {k : MetricId → Setup α} {g : List MetricId → Gauge} {value : Gauge}
    (hc : compose base path = .ok (base.below texts)) (hg : value = g ids)
    (rest : ∀ id, Enrolls base (ids ++ [id]) ds (k id) f) :
    Enrolls base ids (.gauge texts g :: ds) (Setup.gauge base path value >>= k) f := by
  rw [hg, gauge_eq_ask hc g ids]
  exact ask rest

theorem map {β : Type} (g : α → β) (h : Enrolls base ids ds m f) :
    Enrolls base ids ds (g <$> m) fun ids => g <$> f ids := by
  rw [Enrolls, h, map_bind]

/-- Metrics of one kind, one for each path. -/
theorem metrics {k : List MetricId → Setup α} (h : kind ≠ .gauge) {paths : List String}
    (hc : ∀ path ∈ paths, compose base path = .ok (base.below [path]))
    (rest : ∀ new, new.length = paths.length → Enrolls base (ids ++ new) ds (k new) f) :
    Enrolls base ids (paths.map (fun path => .plain [path] kind h) ++ ds)
      (paths.mapM (fun path => Setup.metric base path kind) >>= k) f := by
  induction paths generalizing ids k with
  | nil => simpa using rest [] rfl
  | cons path paths ih =>
    rw [List.forall_mem_cons] at hc
    simp only [List.mapM_cons, bind_assoc, pure_bind]
    refine metric hc.1 h fun id => ih hc.2 fun new length => ?_
    simpa using rest (id :: new) (congrArg Nat.succ length)

section Runs

open Registry (Provides)

variable {r r' : Registry} {make : List MetricId → α}
  {entry : List MetricId → List (MetricId × Event)}
  (h : Enrolls base [] ds m fun ids r => (.ok (make ids), r.recordAll (entry ids)))
include h

theorem run (r : Registry) :
    m.run r = match (enroll base ds []).run r with
      | (.ok ids, r') => (.ok (make ids), r'.recordAll (entry ids))
      | (.error e, r') => (.error e, r') := by
  rw [h, run_bind]
  rcases (enroll base ds []).run r with ⟨_ | ids, r'⟩ <;> rfl

/-- On metrics that are there, the same is made without a new one. -/
theorem run_of_holds (there : List.Forall₂ (fun d id => r.Holds (d.name base) d.kind id) ds ids) :
    m.run r = (.ok (make ids), r.recordAll (entry ids)) := by
  rw [h.run, run_enroll_of_holds there []]
  rfl

theorem run_of_accepted (distinct : (ds.map Demand.path).Nodup)
    (accepted : ∀ d ∈ ds, ¬r.Refuses (d.name base) d.kind) :
    ∃ ids r₁, m.run r = (.ok (make ids), r₁.recordAll (entry ids)) ∧ Provides base ds r r₁ ∧
      List.Forall₂ (fun d id => r₁.Holds (d.name base) d.kind id) ds ids := by
  obtain ⟨ids, r₁, hrun, provides, holds⟩ := run_enroll_of_accepted distinct accepted []
  refine ⟨ids, r₁, ?_, provides, holds⟩
  rw [h.run, hrun]
  rfl

theorem run_of_refused (distinct : (ds.map Demand.path).Nodup) {before after : List Demand}
    {d : Demand} {registered : Kind} {id : MetricId} (split : ds = before ++ d :: after)
    (accepted : ∀ e ∈ before, ¬r.Refuses (e.name base) e.kind)
    (hid : r.id? (d.name base) = some id) (hk : r.kind? id = some registered)
    (hne : registered ≠ d.kind) :
    ∃ r', m.run r =
        (.error (.registry (.kindMismatch (d.name base) registered d.kind)), r') ∧
      Provides base before r r' := by
  have distinct : (before.map Demand.path).Nodup := by
    rw [split, List.map_append] at distinct
    exact distinct.of_append_left
  obtain ⟨r', hrun, provides⟩ := run_enroll_of_refused after distinct accepted hid hk hne []
  refine ⟨r', ?_, provides⟩
  rw [h.run, split, hrun]

theorem exists_of_run (distinct : (ds.map Demand.path).Nodup) {c : α} (hr : m.run r = (.ok c, r')) :
    ∃ ids r₁, Provides base ds r r₁ ∧
      List.Forall₂ (fun d id => r₁.Holds (d.name base) d.kind id) ds ids ∧
      c = make ids ∧ r' = r₁.recordAll (entry ids) := by
  rcases accepted_or_refused base r ds with
    accepted | ⟨before, d, after, split, accepted, id, registered, hid, hk, hne⟩
  · obtain ⟨ids, r₁, hrun, provides, holds⟩ := h.run_of_accepted distinct accepted
    cases hrun.symm.trans hr
    exact ⟨ids, r₁, provides, holds, rfl, rfl⟩
  · obtain ⟨r₁, hrun, -⟩ := h.run_of_refused distinct split accepted hid hk hne
    cases hrun.symm.trans hr

end Runs

end Enrolls

end Setup

namespace Component

open Registry (Provides)
open Setup (Enrolls)

/-! ### What each component asks for -/

section Constructors

variable {α : Type} {base root : MetricName} {ids : List MetricId} {ds : List Demand}
  {f : List MetricId → Setup α}

def Tcp.demands : List Demand :=
  [.counter ["open-netsockets"], .timer ["connections"], .counter ["exceptions"],
    .histogram ["bytes-read"], .histogram ["bytes-written"]]

theorem Tcp.enrolls_new {k : Tcp → Setup α}
    (rest : ∀ openSockets connections exceptions bytesRead bytesWritten,
      Enrolls base (ids ++ [openSockets, connections, exceptions, bytesRead, bytesWritten]) ds
        (k ⟨base, openSockets, connections, exceptions, bytesRead, bytesWritten⟩) f) :
    Enrolls base ids (demands ++ ds) (new base >>= k) f := by
  simp only [new, bind_assoc, pure_bind]
  refine .metric rfl (by decide) fun openSockets => ?_
  refine .metric rfl (by decide) fun connections => ?_
  refine .metric rfl (by decide) fun exceptions => ?_
  refine .metric rfl (by decide) fun bytesRead => ?_
  refine .metric rfl (by decide) fun bytesWritten => ?_
  simpa using rest openSockets connections exceptions bytesRead bytesWritten

def Endpoint.demands : List Demand :=
  [.timer ["queue-delay"], .counter ["queue-size"], .counter ["open-netsockets"],
    .timer ["usage"], .counter ["in-use"], .timer ["ttfb"]]

/-- What servers and clients ask for, with the demand that each class of responses makes. -/
def sideDemands (response : List String → Demand) : List Demand :=
  .throughputTimer ["requests"] :: (responseNames.map (fun name => response [name]) ++
    .counter ["open-websockets"] :: Tcp.demands)

def HttpServer.demands : List Demand := sideDemands .throughputMeter

/-- The share is that of the open sockets, which are asked for after the seven metrics of requests. -/
def HttpClient.demands (maxPoolSize : Nat) : List Demand :=
  sideDemands .meter ++
    [.gauge ["connections", "max-pool-size"] fun _ => .fixed (.int maxPoolSize),
      .gauge ["connections", "pool-ratio"] fun ids =>
        .share (ids.getD 7 0) (Rounding.double maxPoolSize)]

def Traffic.demands (word : String) : List Demand :=
  [.throughputMeter ["messages", word], .throughputMeter ["messages", word ++ "-local"],
    .throughputMeter ["messages", word ++ "-remote"]]

theorem Traffic.enrolls_new {k : Traffic → Setup α} {word path : String}
    (all : compose base path = .ok (base.below ["messages", word]))
    (near : compose base (path ++ "-local") = .ok (base.below ["messages", word ++ "-local"]))
    (far : compose base (path ++ "-remote") = .ok (base.below ["messages", word ++ "-remote"]))
    (rest : ∀ all near far, Enrolls base (ids ++ [all, near, far]) ds (k ⟨all, near, far⟩) f) :
    Enrolls base ids (demands word ++ ds) (new base path >>= k) f := by
  simp only [new, bind_assoc, pure_bind]
  refine .metric all (by decide) fun all => ?_
  refine .metric near (by decide) fun near => ?_
  refine .metric far (by decide) fun far => ?_
  simpa using rest all near far

def EventBus.demands : List Demand :=
  [.counter ["handlers"], .meter ["messages", "bytes-read"], .meter ["messages", "bytes-written"],
    .counter ["messages", "pending"], .counter ["messages", "pending-local"],
    .counter ["messages", "pending-remote"]] ++
  (Traffic.demands "received" ++ (Traffic.demands "delivered" ++ (Traffic.demands "sent" ++
    (Traffic.demands "published" ++ [.meter ["messages", "reply-failures"]]))))

def Runtime.demands (eventLoops workers : Nat) : List Demand :=
  [.gauge ["event-loop-size"] fun _ => .fixed (.int eventLoops),
    .gauge ["worker-pool-size"] fun _ => .fixed (.int workers), .counter ["verticles"]]

def Datagram.demands : List Demand :=
  [.counter ["sockets"], .counter ["exceptions"], .histogram ["bytes-written"]]

/-- The share is that of the tasks in use, the fourth metric. -/
def Pool.demands (maxSize : Nat) : List Demand :=
  [.timer ["queue-delay"], .counter ["queue-size"], .timer ["usage"], .counter ["in-use"]] ++
    if 0 < maxSize then
      [.gauge ["max-pool-size"] fun _ => .fixed (.int maxSize),
        .gauge ["pool-ratio"] fun ids => .share (ids.getD 3 0) (Rounding.double maxSize)]
    else []

/-! ### Components from the metrics that they asked for -/

def Tcp.ofIds (base : MetricName) (ids : List MetricId) : Tcp :=
  ⟨base, ids.getD 0 0, ids.getD 1 0, ids.getD 2 0, ids.getD 3 0, ids.getD 4 0⟩

def Endpoint.ofIds (base : MetricName) (ids : List MetricId) : Endpoint :=
  ⟨base, ids.getD 0 0, ids.getD 1 0, ids.getD 2 0, ids.getD 3 0, ids.getD 4 0, ids.getD 5 0⟩

def HttpServer.ofIds [Pattern.Engine] (base : MetricName) (rules : RuleList)
    (ids : List MetricId) : HttpServer :=
  ⟨.ofIds base (ids.drop 7), rules, ids.getD 0 0, (ids.drop 1).take 5, ids.getD 6 0⟩

def HttpClient.ofIds [Pattern.Engine] (base : MetricName) (uriRules endpointRules : RuleList)
    (ids : List MetricId) : HttpClient :=
  ⟨.ofIds base (ids.drop 7), uriRules, endpointRules, ids.getD 0 0, (ids.drop 1).take 5,
    ids.getD 6 0⟩

def Traffic.ofIds (ids : List MetricId) : Traffic := ⟨ids.getD 0 0, ids.getD 1 0, ids.getD 2 0⟩

def EventBus.ofIds [Pattern.Engine] (base : MetricName) (rules : RuleList) (ids : List MetricId) :
    EventBus :=
  ⟨base, rules, ids.getD 0 0, ids.getD 1 0, ids.getD 2 0, ids.getD 3 0, ids.getD 4 0, ids.getD 5 0,
    .ofIds (ids.drop 6), .ofIds (ids.drop 9), .ofIds (ids.drop 12), .ofIds (ids.drop 15),
    ids.getD 18 0⟩

def Runtime.ofIds (base : MetricName) (ids : List MetricId) : Runtime := ⟨base, ids.getD 2 0⟩

def Datagram.ofIds (base : MetricName) (ids : List MetricId) : Datagram :=
  ⟨base, ids.getD 0 0, ids.getD 1 0, ids.getD 2 0, none⟩

def Pool.ofIds (base : MetricName) (ids : List MetricId) : Pool :=
  ⟨base, ids.getD 0 0, ids.getD 1 0, ids.getD 2 0, ids.getD 3 0⟩

theorem Tcp.new_eq (base : MetricName) :
    Enrolls base [] demands (new base) fun ids => pure (.ofIds base ids) := by
  rw [← bind_pure (new base), ← List.append_nil demands]
  exact enrolls_new fun _ _ _ _ _ => .done rfl

theorem Endpoint.new_eq (base : MetricName) :
    Enrolls base [] demands (new base) fun ids => pure (.ofIds base ids) := by
  refine .metric rfl (by decide) fun queueDelay => ?_
  refine .metric rfl (by decide) fun queueSize => ?_
  refine .metric rfl (by decide) fun openSockets => ?_
  refine .metric rfl (by decide) fun usage => ?_
  refine .metric rfl (by decide) fun inUse => ?_
  refine .metric rfl (by decide) fun ttfb => ?_
  exact .done rfl

theorem enrolls_side {kind : Kind} (h : kind ≠ .gauge)
    {k : MetricId → List MetricId → MetricId → Tcp → Setup α}
    (rest : ∀ requests r₁ r₂ r₃ r₄ r₅ openWebSockets openSockets connections exceptions bytesRead
        bytesWritten,
      Enrolls base [requests, r₁, r₂, r₃, r₄, r₅, openWebSockets, openSockets, connections,
          exceptions, bytesRead, bytesWritten] ds
        (k requests [r₁, r₂, r₃, r₄, r₅] openWebSockets
          ⟨base, openSockets, connections, exceptions, bytesRead, bytesWritten⟩) f) :
    Enrolls base [] (sideDemands (Demand.plain · kind h) ++ ds)
      (do
        let requests ← Setup.metric base "requests" .throughputTimer
        let responses ← responseMetrics base kind
        let openWebSockets ← Setup.metric base "open-websockets" .counter
        let tcp ← Tcp.new base
        k requests responses openWebSockets tcp) f := by
  rw [sideDemands, List.cons_append, List.append_assoc]
  refine .metric rfl (by decide) fun requests => ?_
  refine .metrics h (compose_responseNames base) fun responses length => ?_
  match responses, length with
  | [r₁, r₂, r₃, r₄, r₅], _ =>
    refine .metric rfl (by decide) fun openWebSockets => ?_
    exact Tcp.enrolls_new (rest requests r₁ r₂ r₃ r₄ r₅ openWebSockets)

theorem HttpServer.new_eq [Pattern.Engine] (root : MetricName) (host : String) (port : Nat)
    (rules : RuleList) :
    Enrolls (root.below ["http", "servers", address host port]) [] demands
      (new root host port rules) fun ids =>
        pure (.ofIds (root.below ["http", "servers", address host port]) rules ids) := by
  rw [new, Setup.name_eq (n := root.below ["http", "servers"]) rfl, pure_bind,
    MetricName.below_childOf, demands, ← List.append_nil (sideDemands _)]
  exact enrolls_side (by decide) fun _ _ _ _ _ _ _ _ _ _ _ _ => .done rfl

theorem clientBase_eq {path : String} (vs : List String)
    (h : compose root path = .ok (root.below vs)) (id? : Option String) :
    clientBase root path id? = pure (root.below (vs ++ (clientId? id?).toList)) := by
  rw [clientBase, Setup.name_eq h, pure_bind]
  split
  · simp
  · simp
  · next id hid =>
    have named : clientId? (some id) = some id := by
      simpa [clientId?] using hid
    rw [named, MetricName.below_childOf]
    rfl

theorem Tcp.server_eq (root : MetricName) (host : String) (port : Nat) :
    server root host port = new (root.below ["net", "servers", address host port]) := by
  rw [server, Setup.name_eq (n := root.below ["net", "servers"]) rfl, pure_bind,
    MetricName.below_childOf]
  rfl

theorem Tcp.client_eq (root : MetricName) (id? : Option String) :
    client root id? = new (root.below (["net", "clients"] ++ (clientId? id?).toList)) := by
  rw [client, clientBase_eq ["net", "clients"] rfl, pure_bind]

theorem HttpClient.new_eq [Pattern.Engine] (root : MetricName) (id? : Option String)
    (maxPoolSize : Nat) (uriRules endpointRules : RuleList) :
    Enrolls (root.below (["http", "clients"] ++ (clientId? id?).toList)) [] (demands maxPoolSize)
      (new root id? maxPoolSize uriRules endpointRules) fun ids =>
        pure (.ofIds (root.below (["http", "clients"] ++ (clientId? id?).toList)) uriRules
          endpointRules ids) := by
  rw [new, clientBase_eq ["http", "clients"] rfl, pure_bind]
  refine enrolls_side (by decide) fun _ _ _ _ _ _ _ _ _ _ _ _ => ?_
  refine .gauge rfl rfl fun _ => ?_
  refine .gauge rfl rfl fun _ => ?_
  exact .done rfl

theorem EventBus.new_eq [Pattern.Engine] (root : MetricName) (rules : RuleList) :
    Enrolls (root.below ["eventbus"]) [] demands (new root rules) fun ids =>
      pure (.ofIds (root.below ["eventbus"]) rules ids) := by
  rw [new, Setup.name_eq (n := root.below ["eventbus"]) rfl, pure_bind]
  refine .metric rfl (by decide) fun handlers => ?_
  refine .metric rfl (by decide) fun bytesRead => ?_
  refine .metric rfl (by decide) fun bytesWritten => ?_
  refine .metric rfl (by decide) fun pending => ?_
  refine .metric rfl (by decide) fun pendingLocal => ?_
  refine .metric rfl (by decide) fun pendingRemote => ?_
  refine Traffic.enrolls_new rfl rfl rfl fun _ _ _ => ?_
  refine Traffic.enrolls_new rfl rfl rfl fun _ _ _ => ?_
  refine Traffic.enrolls_new rfl rfl rfl fun _ _ _ => ?_
  refine Traffic.enrolls_new rfl rfl rfl fun _ _ _ => ?_
  refine .metric rfl (by decide) fun replyFailures => ?_
  simp only [List.nil_append, List.cons_append]
  exact .done rfl

theorem Runtime.new_eq (root : MetricName) (eventLoops workers : Nat) :
    Enrolls root [] (demands eventLoops workers) (new root eventLoops workers) fun ids =>
      pure (.ofIds root ids) := by
  refine .gauge rfl rfl fun _ => ?_
  refine .gauge rfl rfl fun _ => ?_
  refine .metric rfl (by decide) fun verticles => ?_
  exact .done rfl

/-- A new socket is counted once all metrics are there. -/
theorem Datagram.new_eq (root : MetricName) :
    Enrolls (root.below ["datagram"]) [] demands (new root) fun ids => do
      Setup.record (ids.getD 0 0) (.add 1)
      return .ofIds (root.below ["datagram"]) ids := by
  rw [new, Setup.name_eq (n := root.below ["datagram"]) rfl, pure_bind]
  refine .metric rfl (by decide) fun sockets => ?_
  refine .metric rfl (by decide) fun exceptions => ?_
  refine .metric rfl (by decide) fun bytesWritten => ?_
  exact .done rfl

theorem Pool.new_eq (root : MetricName) (type name : String) (maxSize : Nat) :
    Enrolls (root.below ["pool", type, name]) [] (demands maxSize) (new root type name maxSize)
      fun ids => pure (.ofIds (root.below ["pool", type, name]) ids) := by
  rw [new, Setup.name_eq (n := root.below ["pool"]) rfl, pure_bind, MetricName.below_below, demands]
  refine .metric rfl (by decide) fun queueDelay => ?_
  refine .metric rfl (by decide) fun queueSize => ?_
  refine .metric rfl (by decide) fun usage => ?_
  refine .metric rfl (by decide) fun inUse => ?_
  split
  · refine .gauge rfl rfl fun _ => ?_
    refine .gauge rfl rfl fun _ => ?_
    exact .done rfl
  · exact .done rfl

end Constructors

/-! ### All constructors -/

/-- A component to be made: by a plan below a root, or of the kinds that others are made of at a base
that is given. -/
inductive Blueprint [Pattern.Engine]
  | plan (root : MetricName) (p : Plan)
  | sockets (base : MetricName)
  | endpoint (base : MetricName)

namespace Blueprint

variable [Pattern.Engine]

def build : Blueprint → Setup Component
  | .plan root p => p.build root
  | .sockets base => .tcp <$> Tcp.new base
  | .endpoint base => .endpoint <$> Endpoint.new base

def base : Blueprint → MetricName
  | .plan root p => p.base root
  | .sockets base | .endpoint base => base

/-- The static names of a component with their kinds, in the order in which they are asked for. -/
def demands : Blueprint → List Demand
  | .plan _ (.runtime eventLoops workers) => Runtime.demands eventLoops workers
  | .plan _ (.eventBus _) => EventBus.demands
  | .plan _ (.netServer ..) | .plan _ (.netClient _) | .sockets _ => Tcp.demands
  | .plan _ (.httpServer ..) => HttpServer.demands
  | .plan _ (.httpClient _ maxPoolSize _ _) => HttpClient.demands maxPoolSize
  | .plan _ .datagram => Datagram.demands
  | .plan _ (.pool _ _ maxSize) => Pool.demands maxSize
  | .endpoint _ => Endpoint.demands

/-- The component that has the given metrics. -/
def ofIds (b : Blueprint) (ids : List MetricId) : Component :=
  match b with
  | .plan _ (.runtime ..) => .runtime (.ofIds b.base ids)
  | .plan _ (.eventBus rules) => .eventBus (.ofIds b.base rules ids)
  | .plan _ (.netServer ..) | .plan _ (.netClient _) | .sockets _ => .tcp (.ofIds b.base ids)
  | .plan _ (.httpServer _ _ rules) => .httpServer (.ofIds b.base rules ids)
  | .plan _ (.httpClient _ _ uriRules endpointRules) =>
    .httpClient (.ofIds b.base uriRules endpointRules ids)
  | .plan _ .datagram => .datagram (.ofIds b.base ids)
  | .plan _ (.pool ..) => .pool (.ofIds b.base ids)
  | .endpoint _ => .endpoint (.ofIds b.base ids)

/-- What is recorded once all metrics are there: a datagram socket is counted. -/
def entry (b : Blueprint) (ids : List MetricId) : List (MetricId × Event) :=
  match b with
  | .plan _ .datagram => [(ids.getD 0 0, .add 1)]
  | _ => []

theorem distinct_demands (b : Blueprint) : (b.demands.map Demand.path).Nodup := by
  match b with
  | .plan _ (.runtime ..) =>
    change ((Runtime.demands 0 0).map Demand.path).Nodup
    decide
  | .plan _ (.eventBus _) =>
    change (EventBus.demands.map Demand.path).Nodup
    decide
  | .plan _ (.netServer ..) | .plan _ (.netClient _) | .sockets _ =>
    change (Tcp.demands.map Demand.path).Nodup
    decide
  | .plan _ (.httpServer ..) =>
    change (HttpServer.demands.map Demand.path).Nodup
    decide
  | .plan _ (.httpClient ..) =>
    change ((HttpClient.demands 0).map Demand.path).Nodup
    decide
  | .plan _ .datagram =>
    change (Datagram.demands.map Demand.path).Nodup
    decide
  | .plan _ (.pool _ _ 0) =>
    change ((Pool.demands 0).map Demand.path).Nodup
    decide
  | .plan _ (.pool _ _ (n + 1)) =>
    change ((Pool.demands 1).map Demand.path).Nodup
    decide
  | .endpoint _ =>
    change (Endpoint.demands.map Demand.path).Nodup
    decide

/-- A constructor is the enrollment of what it asks for, and nothing else but the entry. -/
theorem enrolls_build (b : Blueprint) :
    Enrolls b.base [] b.demands b.build fun ids r =>
      (.ok (b.ofIds ids), r.recordAll (b.entry ids)) := by
  match b with
  | .plan root (.runtime eventLoops workers) =>
    have atRoot : Blueprint.base (.plan root (.runtime eventLoops workers)) = root :=
      Plan.base_runtime root eventLoops workers
    simp only [ofIds, atRoot]
    exact (Runtime.new_eq root eventLoops workers).map _
  | .plan root (.eventBus rules) => exact (EventBus.new_eq root rules).map _
  | .plan root (.netServer host port) =>
    rw [build, Plan.build, Tcp.server_eq]
    exact (Tcp.new_eq _).map _
  | .plan root (.netClient id?) =>
    rw [build, Plan.build, Tcp.client_eq]
    exact (Tcp.new_eq _).map _
  | .sockets base => exact (Tcp.new_eq base).map _
  | .plan root (.httpServer host port rules) => exact (HttpServer.new_eq root host port rules).map _
  | .plan root (.httpClient id? n uris endpoints) =>
    exact (HttpClient.new_eq root id? n uris endpoints).map _
  | .plan root .datagram => exact (Datagram.new_eq root).map _
  | .plan root (.pool type name n) => exact (Pool.new_eq root type name n).map _
  | .endpoint base => exact (Endpoint.new_eq base).map _

/-- A component comes up if and only if each of its static names is unbound or has the kind that is
needed. Then the unbound names are all that is new, and wherever its metrics are still there, the same
component is made of them again. Otherwise it stops at the first name of another kind, with those
before it in place. -/
theorem build_exact (b : Blueprint) (r : Registry) :
    ((∃ c r', b.build.run r = (.ok c, r')) ↔ ∀ d ∈ b.demands,
        r.id? (d.name b.base) = none ∨ ∃ id, r.Holds (d.name b.base) d.kind id) ∧
      (∀ c r', b.build.run r = (.ok c, r') → ∃ ids r₁,
        Provides b.base b.demands r r₁ ∧
        List.Forall₂ (fun d id => r₁.Holds (d.name b.base) d.kind id) b.demands ids ∧
        c = b.ofIds ids ∧ r' = r₁.recordAll (b.entry ids) ∧
        ∀ s, r'.Continues s → b.build.run s = (.ok c, s.recordAll (b.entry ids))) ∧
      ∀ e r', b.build.run r = (.error e, r') → ∃ before d after id registered,
        b.demands = before ++ d :: after ∧
        (∀ e ∈ before, r.id? (e.name b.base) = none ∨ ∃ id, r.Holds (e.name b.base) e.kind id) ∧
        r.Holds (d.name b.base) registered id ∧ registered ≠ d.kind ∧
        e = .registry (.kindMismatch (d.name b.base) registered d.kind) ∧
        Provides b.base before r r' := by
  simp only [← Registry.not_refuses_iff]
  rcases Setup.accepted_or_refused b.base r b.demands with
    accepted | ⟨before, d, after, split, accepted, id, registered, hid, hk, hne⟩
  · obtain ⟨ids, r₁, hrun, provides, holds⟩ :=
      b.enrolls_build.run_of_accepted b.distinct_demands accepted
    refine ⟨iff_of_true ⟨_, _, hrun⟩ accepted, fun c r' h => ?_, fun e r' h => ?_⟩
    · cases hrun.symm.trans h
      refine ⟨ids, r₁, provides, holds, rfl, rfl, fun s continues => ?_⟩
      exact b.enrolls_build.run_of_holds (holds.imp fun d id held =>
        continues _ _ _ (held.recordAll (b.entry ids)))
    · cases hrun.symm.trans h
  · obtain ⟨r₁, hrun, provides⟩ :=
      b.enrolls_build.run_of_refused b.distinct_demands split accepted hid hk hne
    refine ⟨iff_of_false ?_ ?_, fun c r' h => ?_, fun e r' h => ?_⟩
    · rintro ⟨c, r', h⟩
      cases hrun.symm.trans h
    · intro all
      exact all d (by simp [split]) ⟨id, registered, hid, hk, hne⟩
    · cases hrun.symm.trans h
    · cases hrun.symm.trans h
      exact ⟨before, d, after, id, registered, split, accepted, ⟨hid, hk⟩, hne, rfl, provides⟩

end Blueprint

end Component

end Telemetry
