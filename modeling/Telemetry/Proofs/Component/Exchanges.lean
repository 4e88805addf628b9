import Mathlib.Logic.Relation
import Telemetry.Pattern.Standard
import Telemetry.Proofs.Component.Requests

/-!
The accounting of requests over all that may happen to a side of the protocol. Requests begin and
are answered in any order, and others use the registry in between. What is counted can be told from
the answers alone: a request that is not yet answered is not counted anywhere.
-/

namespace Telemetry.Component

open Registry (Books Leaves Known)
open Setup (Leads)

/-! ### Sides -/

/-- Servers and clients measure their requests alike. -/
inductive Side [Pattern.Engine]
  | server (c : HttpServer)
  | client (c : HttpClient)

namespace Side

variable [Pattern.Engine]

def requestBegin : Side → String → String → Registry → Request
  | .server c => c.requestBegin
  | .client c => c.requestBegin

def responseEnd : Side → Request → Nat → Registry → Registry
  | .server c => c.responseEnd
  | .client c => c.responseEnd

def handles : Side → List (MetricName × MetricId)
  | .server c => c.handles
  | .client c => c.handles

/-- How a side is set up. -/
inductive Plan
  | server (host : String) (port : Nat) (rules : RuleList)
  | client (id? : Option String) (maxPoolSize : Nat) (uriRules endpointRules : RuleList)

namespace Plan

def build (root : MetricName) : Plan → Setup Side
  | .server host port rules => .server <$> HttpServer.new root host port rules
  | .client id? n uriRules endpointRules =>
    .client <$> HttpClient.new root id? n uriRules endpointRules

def base (root : MetricName) : Plan → MetricName
  | .server host port _ => root.below ["http", "servers", address host port]
  | .client id? .. => root.below (["http", "clients"] ++ (clientId? id?).toList)

def rules : Plan → RuleList
  | .server _ _ rules => rules
  | .client _ _ uriRules _ => uriRules

/-- What the answers of a class are counted by. -/
def response : Plan → Kind
  | .server .. => .throughputMeter
  | .client .. => .meter

/-- The metrics of requests, among all that there are below the base. -/
def watched (p : Plan) (base : MetricName) : Schema := (requestLayout p.response).schema base

end Plan

/-- What was set up by the plan: how it counts, and which metrics it has from the start. -/
structure Fits (p : Plan) (base : MetricName) (x : Side) : Prop where
  requestBegin : ∀ method uri r, x.requestBegin method uri r = .begin p.rules method uri r.now
  responseEnd : ∀ q status r {log}, Books (p.watched base) x.handles log r →
    Books (p.watched base) x.handles
      (log ++ entries base
        (q.paths ++ (responseName? status).toList.map fun path => [.escape path]))
      (x.responseEnd q status r)
  handle : ∀ path ∈ "requests" :: responseNames, ∃ id, (base.below [path], id) ∈ x.handles
  own : ∀ e ∈ x.handles, ∃ path ∈ sideTexts, e.1 = base.below [path]

variable {root : MetricName} {p : Plan} {x : Side}

theorem fits_server {host : String} {port : Nat} {rules : RuleList} {c : HttpServer}
    (hr : c.rules = rules) (length : c.responses.length = responseNames.length) :
    Fits (.server host port rules) c.base (.server c) where
  requestBegin method uri r := hr ▸ rfl
  responseEnd q status r _ books :=
    books_answered books (List.subset_append_left ..) length rfl q status
  handle path h := by
    obtain ⟨id, hm⟩ := exists_handle c.base c.requests length h
    exact ⟨id, List.mem_append_left _ hm⟩
  own e h := exists_text_of_mem_sideHandles h

theorem fits_client {id? : Option String} {n : Nat} {uriRules endpointRules : RuleList}
    {c : HttpClient} (hr : c.uriRules = uriRules)
    (length : c.responses.length = responseNames.length) :
    Fits (.client id? n uriRules endpointRules) c.base (.client c) where
  requestBegin method uri r := hr ▸ rfl
  responseEnd q status r _ books :=
    books_answered books (List.subset_append_left ..) length rfl q status
  handle path h := by
    obtain ⟨id, hm⟩ := exists_handle c.base c.requests length h
    exact ⟨id, List.mem_append_left _ hm⟩
  own e h := exists_text_of_mem_sideHandles h

theorem Plan.watched_sub (p : Plan) (base : MetricName) {L : Layout}
    (h : (httpLayout p.response).Sub L) : (p.watched base).Sub (L.schema base) :=
  Layout.Sub.schema (fun ts kind hk => h ts kind (requestLayout_sub _ ts kind hk)) base

theorem Plan.watched_join (p : Plan) (base : MetricName) (ns : List Node) :
    p.watched base (base.join ⟨ns⟩) = requestLayout p.response (ns.map Node.text) :=
  Layout.schema_join ..

theorem Plan.watched_ne_gauge (p : Plan) (base name : MetricName) :
    p.watched base name ≠ some .gauge := by
  have plain : p.response ≠ .gauge := by
    cases p <;> simp [response]
  intro hk
  obtain ⟨ns, -, hl⟩ := Option.bind_eq_some_iff.mp hk
  exact requestLayout_ne_gauge plain _ hl

/-- On a fresh base a side can be set up, with nothing on the books. -/
theorem Plan.exists_build (p : Plan) {r : Registry} (free : r.namesFrom (p.base root) = []) :
    ∃ x r', (p.build root).run r = (.ok x, r') ∧ x.Fits p (p.base root) ∧
      Books (p.watched (p.base root)) x.handles [] r' := by
  cases p with
  | server host port rules =>
    have sub := watched_sub (L := HttpServer.layout) (.server host port rules)
      (root.below ["http", "servers", address host port]) (http_sub_sideLayout _ _)
    obtain ⟨c, r', hr, ⟨hb, hrules, length⟩, books⟩ := Setup.exists_run_of_unbound
      (HttpServer.within_new root host port rules) (HttpServer.leads_new sub.agrees) sub
      (fun _ => Layout.unbound_of_namesFrom _ free)
    have fits : Fits (.server host port rules) c.base (.server c) := fits_server hrules length
    rw [hb] at fits
    exact ⟨.server c, r', Setup.run_map hr, fits, books⟩
  | client id? n uriRules endpointRules =>
    have sub := watched_sub (L := HttpClient.layout) (.client id? n uriRules endpointRules)
      (root.below (["http", "clients"] ++ (clientId? id?).toList)) (http_sub_sideLayout _ _)
    obtain ⟨c, r', hr, ⟨hb, hrules, length⟩, books⟩ := Setup.exists_run_of_unbound
      (HttpClient.within_new root id? n uriRules endpointRules)
      (HttpClient.leads_new sub.agrees (watched_ne_gauge _ _)) sub
      (fun _ => Layout.unbound_of_namesFrom _ free)
    have fits : Fits (.client id? n uriRules endpointRules) c.base (.client c) :=
      fits_client hrules length
    rw [hb] at fits
    exact ⟨.client c, r', Setup.run_map hr, fits, books⟩

end Side

/-! ### Exchanges -/

/-- A request that waits for its answer. -/
structure Pending where
  method : String
  uri : String
  request : Request

structure Exchanges where
  registry : Registry
  pending : List Pending
  answered : List Answered

namespace Exchanges

theorem method_ne_own {node : Node} {path : String} (hn : node ∈ methodNodes)
    (ht : path ∈ sideTexts) : node ≠ .escape path := by
  have all : ∀ n ∈ methodNodes, ∀ t ∈ sideTexts, n ≠ .escape t := by decide
  exact all node hn path ht

section Runs

variable [Pattern.Engine]

/-- What can happen where the metrics with names of the schema are used by the side only. -/
inductive Step (S : Schema) (x : Side) (s : Exchanges) : Exchanges → Prop
  | begin (method uri : String) :
    Step S x s { s with
      pending := ⟨method, uri, x.requestBegin method uri s.registry⟩ :: s.pending }
  | finish {q : Pending} {rest : List Pending} (h : s.pending.Perm (q :: rest)) (status : Nat) :
    Step S x s ⟨x.responseEnd q.request status s.registry, rest,
      s.answered ++ [⟨q.method, q.uri, status⟩]⟩
  | other {r : Registry} (h : Leaves S s.registry r) : Step S x s { s with registry := r }

variable {p : Side.Plan} {base : MetricName} {x : Side} {s t : Exchanges}

/-- The books show the answers, and the pending requests were begun by the rules. -/
structure Kept (p : Side.Plan) (base : MetricName) (x : Side) (s : Exchanges) : Prop where
  books : Books (p.watched base) x.handles
    (entries base (s.answered.flatMap (·.paths p.rules))) s.registry
  pending : ∀ q ∈ s.pending, ∃ start, q.request = .begin p.rules q.method q.uri start

theorem Kept.step (h : s.Kept p base x) (fits : x.Fits p base) (hs : Step (p.watched base) x s t) :
    t.Kept p base x := by
  cases hs with
  | begin method uri =>
    refine ⟨h.books, fun q hq => ?_⟩
    rcases List.mem_cons.mp hq with rfl | hq
    · exact ⟨s.registry.now, fits.requestBegin method uri s.registry⟩
    · exact h.pending q hq
  | @finish q rest hp status =>
    obtain ⟨start, began⟩ := h.pending q (hp.mem_iff.mpr List.mem_cons_self)
    refine ⟨?_, fun q' hq => h.pending q' (hp.mem_iff.mpr (List.mem_cons_of_mem q hq))⟩
    have counted := fits.responseEnd q.request status s.registry h.books
    rw [← entries_append, began] at counted
    rw [List.flatMap_append, List.flatMap_singleton, began]
    exact counted
  | other left => exact ⟨h.books.leaves left, h.pending⟩

theorem Kept.run (h : s.Kept p base x) (fits : x.Fits p base)
    (hr : Relation.ReflTransGen (Step (p.watched base) x) s t) : t.Kept p base x := by
  induction hr with
  | refl => exact h
  | tail _ step ih => exact ih.step fits step

/-! ### Counts -/

/-- The account of a metric that is only there once something is counted in it. -/
def counted (kind : Kind) (n : Nat) : Option Account :=
  if n = 0 then none else some ⟨kind, .ofNat 64 n⟩

/-- Where an answer has a path at most once, the path is counted as often as there are answers that
have it. -/
theorem count_flatMap {rules : RuleList} {ns : List Node} {P : Answered → Prop} [DecidablePred P]
    (h : ∀ a : Answered, (a.paths rules).count ns = if P a then 1 else 0) (as : List Answered) :
    (as.flatMap (·.paths rules)).count ns = as.countP P := by
  induction as with
  | nil => rfl
  | cons a as ih =>
    rw [List.flatMap_cons, List.count_append, h, ih, List.countP_cons, add_comm]
    simp

namespace Kept

variable {ns : List Node} {kind : Kind} {P : Answered → Prop} [DecidablePred P]

theorem account_of_own (h : s.Kept p base x) (hs : p.watched base (base.join ⟨ns⟩) = some kind)
    (own : ∃ id, (base.join ⟨ns⟩, id) ∈ x.handles)
    (hc : ∀ a : Answered, (a.paths p.rules).count ns = if P a then 1 else 0) :
    s.registry.account? (base.join ⟨ns⟩) = some ⟨kind, .ofNat 64 (s.answered.countP P)⟩ := by
  obtain ⟨id, hm⟩ := own
  rw [h.books.account _ _ hs (Registry.known_of_held hm), balance_entries, count_flatMap hc]

theorem account_of_asked (h : s.Kept p base x) (hs : p.watched base (base.join ⟨ns⟩) = some kind)
    (asked : ∀ e ∈ x.handles, e.1 ≠ base.join ⟨ns⟩)
    (hc : ∀ a : Answered, (a.paths p.rules).count ns = if P a then 1 else 0) :
    s.registry.account? (base.join ⟨ns⟩) = counted kind (s.answered.countP P) := by
  -- such a metric is only known from what was recorded in it
  have known : Known x.handles (entries base (s.answered.flatMap (·.paths p.rules)))
      (base.join ⟨ns⟩) ↔ s.answered.countP P ≠ 0 := by
    have unheld : base.join ⟨ns⟩ ∉ x.handles.map (·.1) := by
      intro hm
      obtain ⟨e, he, hn⟩ := List.mem_map.mp hm
      exact asked e he hn
    rw [Known, or_iff_right unheld, mem_entries, ← List.count_pos_iff, count_flatMap hc,
      Nat.pos_iff_ne_zero]
  by_cases none_yet : s.answered.countP P = 0
  · rw [counted, if_pos none_yet, Registry.account?_eq_none_iff]
    exact h.books.free _ _ hs fun hk => known.mp hk none_yet
  · rw [counted, if_neg none_yet, h.books.account _ _ hs (known.mpr none_yet), balance_entries,
      count_flatMap hc]

end Kept

/-- The metrics that a side has from the start are not those of methods. -/
theorem asked_of_fits (fits : x.Fits p base) {node : Node} (hn : node ∈ methodNodes)
    (ns : List Node) : ∀ e ∈ x.handles, e.1 ≠ base.join ⟨node :: ns⟩ := by
  rintro e he same
  obtain ⟨path, hp, named⟩ := fits.own e he
  have nodes := congrArg MetricName.nodes
    (MetricName.join_left_cancel (b := ⟨[.escape path]⟩) (same.symm.trans named))
  exact method_ne_own hn hp (List.cons.inj nodes).1

/-- From a fresh base on, whatever happens to a side, all answers are counted as requests, those to
a method and to a monitored path under it as soon as there are any, and those of a class in their
class; and that is all that is counted there. -/
theorem requests_counted (root : MetricName) (p : Side.Plan) (r : Registry)
    (free : r.namesFrom (p.base root) = []) :
    let base := p.base root
    ∃ x r', (p.build root).run r = (.ok x, r') ∧
      ∀ s, Relation.ReflTransGen (Step (p.watched base) x) ⟨r', [], []⟩ s →
        s.registry.account? (base.below ["requests"]) =
          some ⟨.throughputTimer, .ofNat 64 s.answered.length⟩ ∧
        (∀ m ∈ httpMethods,
          s.registry.account? (base.below [m ++ "-requests"]) =
            counted .throughputTimer (s.answered.countP (·.method.toLower = m)) ∧
          ∀ node, s.registry.account? ((base.below [m ++ "-requests"]).child node) =
            counted .throughputTimer (s.answered.countP fun a =>
              a.method.toLower = m ∧ p.rules.node? a.uri = some node)) ∧
        ∀ n, 1 ≤ n ∧ n ≤ 5 →
          s.registry.account? (base.below ["responses-" ++ toString n ++ "xx"]) =
            some ⟨p.response, .ofNat 64 (s.answered.countP (·.status / 100 = n))⟩ := by
  intro base
  obtain ⟨x, r', hr, fits, books⟩ := p.exists_build free
  refine ⟨x, r', hr, fun s reached => ?_⟩
  have start : (Exchanges.mk r' [] []).Kept p base x := ⟨books, fun _ hq => by cases hq⟩
  have kept := start.run fits reached
  refine ⟨?_, fun m hm => ⟨?_, fun node => ?_⟩, fun n hn => ?_⟩
  · have all : p.watched base (base.join ⟨[.escape "requests"]⟩) = some .throughputTimer :=
      p.watched_join base _
    have counts := kept.account_of_own (P := fun _ => True) all
      (fits.handle "requests" List.mem_cons_self) fun a => a.count_requests p.rules
    rw [List.countP_eq_length.mpr (by simp)] at counts
    exact counts
  · have standard := escape_mem_methodNodes hm
    have watched := (p.watched_join base [_]).trans (requestLayout_method standard)
    exact kept.account_of_asked watched (asked_of_fits fits standard []) fun a =>
      a.count_method p.rules hm
  · have standard := escape_mem_methodNodes hm
    have watched := (p.watched_join base [_, node]).trans (requestLayout_path standard node.text)
    have name := base.child_join ⟨[.escape (m ++ "-requests")]⟩ node
    refine (congrArg s.registry.account? name).trans ?_
    exact kept.account_of_asked watched (asked_of_fits fits standard [node]) fun a =>
      a.count_path p.rules hm node
  · have named := List.mem_of_getElem? (getElem?_responseNames hn)
    have watched := (p.watched_join base [_]).trans (requestLayout_response named)
    exact kept.account_of_own watched (fits.handle _ (List.mem_cons_of_mem _ named)) fun a =>
      a.count_response p.rules hn

end Runs

def shop : Side.Plan := .server "h" 80 [(MatchRule.exact "/cart").setNickname (some (.escape "c"))]

/-- Two overlapping requests to one path, of which the later one is answered first. -/
theorem requests_counted_shop :
    let root := MetricName.ofNode (.escape "app")
    let base := shop.base root
    let r := Registry.withClock (.startingAt 0)
    r.namesFrom base = [] ∧ ∃ x r', (shop.build root).run r = (.ok x, r') ∧
      ∃ s, Relation.ReflTransGen (Step (shop.watched base) x) ⟨r', [], []⟩ s ∧
        s.registry.account? ((base.below ["get-requests"]).child (.escape "c")) =
          some ⟨.throughputTimer, 2⟩ ∧
        s.registry.account? (base.below ["put-requests"]) = none ∧
        s.registry.account? (base.below ["responses-4xx"]) = some ⟨.throughputMeter, 1⟩ := by
  intro root base r
  obtain ⟨x, r', hr, law⟩ := requests_counted root shop r rfl
  refine ⟨rfl, x, r', hr, ?_⟩
  obtain ⟨s, reached, answered⟩ : ∃ s,
      Relation.ReflTransGen (Step (shop.watched base) x) ⟨r', [], []⟩ s ∧
        s.answered = [⟨"get", "/cart", 204⟩, ⟨"GET", "/cart", 404⟩] := by
    refine ⟨_, ((((Relation.ReflTransGen.refl.tail (.begin "GET" "/cart")).tail
      (.begin "get" "/cart")).tail (.finish (.refl _) 204)).tail
      (.other (.readFrom _ _ base))).tail (.finish (.refl _) 404), rfl⟩
  obtain ⟨-, methods, classes⟩ := law s reached
  rw [answered] at methods classes
  exact ⟨s, reached, ((methods "get" (by decide)).2 _).trans (by decide +kernel),
    (methods "put" (by decide)).1.trans (by decide +kernel),
    (classes 4 (by decide)).trans (by decide +kernel)⟩

end Exchanges

end Telemetry.Component
