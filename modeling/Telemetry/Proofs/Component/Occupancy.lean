import Telemetry.Pattern.Standard
import Telemetry.Proofs.Component.Desk
import Telemetry.Proofs.Component.Kinds

/-!
How many wait and how many are served, at the recorders of a pool and at those of an endpoint. Tasks
and requests are handed from one to the next with tokens, so what is waiting and what is in use can
be told from what was done, and is never less than nothing. Sockets are opened and closed without
tokens.
-/

namespace Telemetry.Component

open Desk (Enters Recordable entered)
open Registry (Books)
open Setup (Leads)

variable {S : Schema} {base : MetricName} {r r' : Registry} {held : List (MetricName × MetricId)}
  {log : List (MetricName × BitVec 64)}

/-- What is bound nowhere at these places cannot be in the way of a layout that has no others. -/
theorem unbound_of_texts {L : Layout} {texts : List String}
    (plain : ∀ t ∈ texts, (Node.escape t).text = t)
    (within : ∀ ts, (L ts).isSome → ∃ t ∈ texts, ts = [t])
    (free : ∀ t ∈ texts, r.id? (base.below [t]) = none) {name : MetricName}
    (hs : (L.schema base name).isSome) : r.id? name = none := by
  obtain ⟨below, rfl, hl⟩ := Layout.exists_join_of_schema hs
  obtain ⟨t, ht, hts⟩ := within _ hl
  obtain ⟨n, hn, rfl⟩ := List.map_eq_singleton_iff.mp hts
  have escaped : Node.escape n.text = n := Node.text_injective (plain _ ht)
  have named : base.below [n.text] = base.join below := by
    rw [MetricName.below_eq_join]
    refine congrArg base.join (MetricName.eq_of_nodes_eq ?_)
    simp [hn, escaped]
  exact named ▸ free _ ht

/-! ### Pools -/

namespace Pool

inductive Verb
  | submitted
  | rejected
  | begin
  | finish
deriving DecidableEq

/-- A call of a pool, with the tokens that it takes and those that it gives. -/
inductive Acts (c : Pool) (r : Registry) :
    Verb → List (Task ⊕ Usage) → List (Task ⊕ Usage) → Registry → Prop
  | submitted : Acts c r .submitted [] [.inl (c.submitted r).1] (c.submitted r).2
  | rejected (t : Task) : Acts c r .rejected [.inl t] [] (c.rejected r)
  | begin (t : Task) : Acts c r .begin [.inl t] [.inr (c.begin t r).1] (c.begin t r).2
  | finish (u : Usage) : Acts c r .finish [.inr u] [] (c.finish u r)

def handles (c : Pool) : List (MetricName × MetricId) :=
  [(c.base.below ["queue-delay"], c.queueDelay), (c.base.below ["queue-size"], c.queueSize),
    (c.base.below ["usage"], c.usage), (c.base.below ["in-use"], c.inUse)]

def amounts : Verb → List (List Node × Int)
  | .submitted => [([.escape "queue-size"], 1)]
  | .rejected => [([.escape "queue-size"], -1)]
  | .begin =>
    [([.escape "queue-size"], -1), ([.escape "queue-delay"], 1), ([.escape "in-use"], 1)]
  | .finish => [([.escape "in-use"], -1), ([.escape "usage"], 1)]

/-- What calls record in; the gauges of a pool show its size. -/
def countedLayout : Layout := fun ts => (layout ts).filter (· ≠ .gauge)

def countedNames : List String := ["queue-delay", "queue-size", "usage", "in-use"]

def names : List String := countedNames ++ ["max-pool-size", "pool-ratio"]

theorem counted_sub : countedLayout.Sub layout := fun _ _ h => (Option.filter_eq_some_iff.mp h).1

theorem counted_ne_gauge (base name : MetricName) :
    countedLayout.schema base name ≠ some .gauge := by
  intro h
  obtain ⟨ns, -, hl⟩ := Option.bind_eq_some_iff.mp h
  simp [countedLayout] at hl

theorem exists_name_of_counted (ts : List String) (h : (countedLayout ts).isSome) :
    ∃ t ∈ countedNames, ts = [t] := by
  unfold countedLayout layout at h
  split at h <;> first | exact ⟨_, by decide, rfl⟩ | cases h

theorem exists_name_of_layout (ts : List String) (h : (layout ts).isSome) :
    ∃ t ∈ names, ts = [t] := by
  unfold layout at h
  split at h <;> first | exact ⟨_, by decide, rfl⟩ | cases h

theorem leads_new {root : MetricName} {type name : String} {maxSize : Nat}
    (hs : S.Agrees (layout.schema (root.below ["pool", type, name])))
    (plain : ∀ name, S name ≠ some .gauge) :
    Leads (Books S held log) (new root type name maxSize) fun c r =>
      c.base = root.below ["pool", type, name] ∧ Books S (held ++ c.handles) log r := by
  refine .bind (.name (n := root.below ["pool"]) rfl) fun n => .given ?_
  rintro rfl
  rw [MetricName.below_below]
  refine .bind (.metric hs rfl rfl) fun queueDelay => ?_
  refine .bind (.metric hs rfl rfl) fun queueSize => ?_
  refine .bind (.metric hs rfl rfl) fun usage => ?_
  refine .bind (.metric hs rfl rfl) fun inUse => ?_
  split
  · refine .bind (.gauge hs plain rfl rfl _) fun _ => ?_
    refine .bind (.gauge hs plain rfl rfl _) fun _ => ?_
    exact .pure fun r books => ⟨rfl, by simpa [handles] using books⟩
  · exact .pure fun r books => ⟨rfl, by simpa [handles] using books⟩

theorem enters {c : Pool} {k : Verb} {taken given : List (Task ⊕ Usage)}
    (h : c.Acts r k taken given r') (known : c.handles ⊆ held)
    (books : Books (countedLayout.schema c.base) held log r) :
    Enters (countedLayout.schema c.base) held log [] (entered c.base (amounts k)) r' := by
  rw [← List.append_nil held] at known
  have waiting (n : Int64) : Recordable (countedLayout.schema c.base) (held ++ [])
      (c.base.below ["queue-size"]) c.queueSize (.add n) :=
    .below rfl (known (by simp [handles])) rfl
  have delayed (d : Nanos) : Recordable (countedLayout.schema c.base) (held ++ [])
      (c.base.below ["queue-delay"]) c.queueDelay (.duration d) :=
    .below rfl (known (by simp [handles])) rfl
  have served (n : Int64) : Recordable (countedLayout.schema c.base) (held ++ [])
      (c.base.below ["in-use"]) c.inUse (.add n) :=
    .below rfl (known (by simp [handles])) rfl
  have timed (d : Nanos) : Recordable (countedLayout.schema c.base) (held ++ [])
      (c.base.below ["usage"]) c.usage (.duration d) :=
    .below rfl (known (by simp [handles])) rfl
  have start := Enters.refl books
  cases h with
  | submitted => exact start.record (waiting 1)
  | rejected t => exact start.record (waiting (-1))
  | begin t => exact ((start.record (waiting (-1))).record (delayed _)).record (served 1)
  | finish u => exact (start.record (served (-1))).record (timed _)

end Pool

/-- The recorders of a pool. -/
def pools (base : MetricName) : Desk Pool Pool.Verb (Task ⊕ Usage) where
  base := base
  layout := Pool.countedLayout
  builds r c r' := ∃ root type name maxSize,
    (Pool.new root type name maxSize).run r = (.ok c, r') ∧ c.base = base
  acts := Pool.Acts

namespace Pool

theorem books_of_builds {c : Pool} (h : (pools base).builds r c r')
    (books : Books (pools base).watched held log r) :
    c.base = base ∧ Books (pools base).watched (held ++ c.handles) log r' := by
  obtain ⟨root, type, name, maxSize, hr, hb⟩ := h
  have named := (within_new root type name maxSize).post r c (by rw [hr])
  obtain rfl := named.symm.trans hb
  have agrees := (counted_sub.schema (root.below ["pool", type, name])).agrees
  exact ⟨hb, (leads_new agrees (counted_ne_gauge _) r c r' books hr).2⟩

/-- No call asks for a metric, and no token holds one. -/
def accounts (base : MetricName) : (pools base).Accounts where
  fits c := c.base = base
  handles := handles
  bears _ _ := True
  asks _ := []
  amounts := amounts
  mono _ h := h
  builds := books_of_builds
  acts {c r k taken given r' held log} h fit known _ books := by
    obtain rfl := fit
    exact ⟨[], rfl, fun _ _ => trivial, enters h known books⟩

theorem moves_tasks (base : MetricName) :
    (pools base).Moves Sum.isLeft fun k => Desk.share (amounts k) [.escape "queue-size"] := by
  intro c r k taken given r' h
  cases h <;> rfl

theorem moves_usages (base : MetricName) :
    (pools base).Moves Sum.isRight fun k => Desk.share (amounts k) [.escape "in-use"] := by
  intro c r k taken given r' h
  cases h <;> rfl

/-! What is waiting and what is in use, after all that was done. -/

def waiting (ks : List Verb) : Int := ks.count .submitted - ks.count .rejected - ks.count .begin

def served (ks : List Verb) : Int := ks.count .begin - ks.count .finish

theorem totals (ks : List Verb) :
    Desk.total amounts ks [.escape "queue-size"] = waiting ks ∧
      Desk.total amounts ks [.escape "in-use"] = served ks ∧
      Desk.total amounts ks [.escape "queue-delay"] = ks.count .begin ∧
      Desk.total amounts ks [.escape "usage"] = ks.count .finish := by
  induction ks with
  | nil => exact ⟨rfl, rfl, rfl, rfl⟩
  | cons k ks ih =>
    obtain ⟨queued, used, begun, finished⟩ := ih
    simp only [Desk.total_cons, queued, used, begun, finished, waiting, served]
    cases k <;> simp +decide [Desk.share, amounts] <;> omega

/-- The metrics of a pool tell what was done at its recorders. -/
structure Shows (base : MetricName) (r : Registry) (ks : List Verb) : Prop where
  queueSize : r.Counts (base.below ["queue-size"]) .counter (waiting ks)
  inUse : r.Counts (base.below ["in-use"]) .counter (served ks)
  waiting_nonneg : 0 ≤ waiting ks
  served_nonneg : 0 ≤ served ks
  queueDelay : r.Counts (base.below ["queue-delay"]) .timer (ks.count .begin)
  usage : r.Counts (base.below ["usage"]) .timer (ks.count .finish)

theorem shows_of_reaches {c : Pool} (hb : (pools base).builds r c r')
    (free : ∀ path ∈ countedNames, r.id? (base.below [path]) = none)
    {s : Desk.State Pool Verb (Task ⊕ Usage)} (reached : (pools base).Reaches c r' s)
    (few : ∀ k, s.deeds.count k < 2 ^ 63) : Shows base s.registry s.deeds := by
  have start := Books.start fun name => unbound_of_texts (by decide) exists_name_of_counted free
  obtain ⟨fit, books⟩ := books_of_builds hb start
  obtain ⟨held, kept⟩ := Desk.Accounts.Kept.run (a := accounts base) fit books reached
  obtain ⟨queued, used, begun, finished⟩ := totals s.deeds
  have own {path : String} (hm : ∀ c : Pool, c.base.below [path] ∈ c.handles.map (·.1)) :
      ∀ c, (accounts base).fits c → base.below [path] ∈ ((accounts base).handles c).map (·.1) := by
    rintro c rfl
    exact hm c
  -- Each of these is the number of tokens of one sort that are out.
  have waiting_nonneg : 0 ≤ waiting s.deeds := by
    have tasks : _ = Desk.total amounts s.deeds _ := reached.tallies (moves_tasks base)
    omega
  have served_nonneg : 0 ≤ served s.deeds := by
    have usages : _ = Desk.total amounts s.deeds _ := reached.tallies (moves_usages base)
    omega
  have waiting_le : waiting s.deeds ≤ s.deeds.count .submitted := by
    unfold waiting
    omega
  have served_le : served s.deeds ≤ s.deeds.count .begin := by
    unfold served
    omega
  have submitted := few .submitted
  have begins := few .begin
  have finishes := few .finish
  exact {
    waiting_nonneg, served_nonneg
    queueSize := kept.counter_of_own rfl (own fun c => by simp [handles]) queued (by omega)
    inUse := kept.counter_of_own rfl (own fun c => by simp [handles]) used (by omega)
    queueDelay := kept.timer_of_own rfl (own fun c => by simp [handles]) begun (by omega)
    usage := kept.timer_of_own rfl (own fun c => by simp [handles]) finished (by omega) }

end Pool

/-! ### Endpoints -/

namespace Endpoint

inductive Verb
  | enqueue
  | dequeue
  | connected
  | disconnected
  | requestBegin
  | responseBegin
  | responseEnd
deriving DecidableEq

/-- A call of an endpoint, with the tokens that it takes and those that it gives. A request stays
under way when its response begins. -/
inductive Acts (c : Endpoint) (r : Registry) : Verb → List (QueuedRequest ⊕ SentRequest) →
    List (QueuedRequest ⊕ SentRequest) → Registry → Prop
  | enqueue : Acts c r .enqueue [] [.inl (c.enqueue r).1] (c.enqueue r).2
  | dequeue (q : QueuedRequest) : Acts c r .dequeue [.inl q] [] (c.dequeue q r)
  | connected : Acts c r .connected [] [] (c.connected r)
  | disconnected : Acts c r .disconnected [] [] (c.disconnected r)
  | requestBegin : Acts c r .requestBegin [] [.inr (c.requestBegin r).1] (c.requestBegin r).2
  | responseBegin (q : SentRequest) :
    Acts c r .responseBegin [.inr q] [.inr q] (c.responseBegin q r)
  | responseEnd (q : SentRequest) : Acts c r .responseEnd [.inr q] [] (c.responseEnd q r)

def handles (c : Endpoint) : List (MetricName × MetricId) :=
  [(c.base.below ["queue-delay"], c.queueDelay), (c.base.below ["queue-size"], c.queueSize),
    (c.base.below ["open-netsockets"], c.openSockets), (c.base.below ["usage"], c.usage),
    (c.base.below ["in-use"], c.inUse), (c.base.below ["ttfb"], c.ttfb)]

def amounts : Verb → List (List Node × Int)
  | .enqueue => [([.escape "queue-size"], 1)]
  | .dequeue => [([.escape "queue-size"], -1), ([.escape "queue-delay"], 1)]
  | .connected => [([.escape "open-netsockets"], 1)]
  | .disconnected => [([.escape "open-netsockets"], -1)]
  | .requestBegin => [([.escape "in-use"], 1)]
  | .responseBegin => [([.escape "ttfb"], 1)]
  | .responseEnd => [([.escape "in-use"], -1), ([.escape "usage"], 1)]

def names : List String :=
  ["queue-delay", "queue-size", "open-netsockets", "usage", "in-use", "ttfb"]

theorem exists_name_of_layout (ts : List String) (h : (layout ts).isSome) :
    ∃ t ∈ names, ts = [t] := by
  unfold layout at h
  split at h <;> first | exact ⟨_, by decide, rfl⟩ | cases h

theorem leads_new (hs : S.Agrees (layout.schema base)) :
    Leads (Books S held log) (new base) fun c r =>
      c.base = base ∧ Books S (held ++ c.handles) log r := by
  refine .bind (.metric hs rfl rfl) fun queueDelay => ?_
  refine .bind (.metric hs rfl rfl) fun queueSize => ?_
  refine .bind (.metric hs rfl rfl) fun openSockets => ?_
  refine .bind (.metric hs rfl rfl) fun usage => ?_
  refine .bind (.metric hs rfl rfl) fun inUse => ?_
  refine .bind (.metric hs rfl rfl) fun ttfb => ?_
  exact .pure fun r books => ⟨rfl, by simpa [handles] using books⟩

theorem enters {c : Endpoint} {k : Verb} {taken given : List (QueuedRequest ⊕ SentRequest)}
    (h : c.Acts r k taken given r') (known : c.handles ⊆ held)
    (books : Books (layout.schema c.base) held log r) :
    Enters (layout.schema c.base) held log [] (entered c.base (amounts k)) r' := by
  rw [← List.append_nil held] at known
  have waiting (n : Int64) : Recordable (layout.schema c.base) (held ++ [])
      (c.base.below ["queue-size"]) c.queueSize (.add n) :=
    .below rfl (known (by simp [handles])) rfl
  have delayed (d : Nanos) : Recordable (layout.schema c.base) (held ++ [])
      (c.base.below ["queue-delay"]) c.queueDelay (.duration d) :=
    .below rfl (known (by simp [handles])) rfl
  have opened (n : Int64) : Recordable (layout.schema c.base) (held ++ [])
      (c.base.below ["open-netsockets"]) c.openSockets (.add n) :=
    .below rfl (known (by simp [handles])) rfl
  have served (n : Int64) : Recordable (layout.schema c.base) (held ++ [])
      (c.base.below ["in-use"]) c.inUse (.add n) :=
    .below rfl (known (by simp [handles])) rfl
  have answered (d : Nanos) : Recordable (layout.schema c.base) (held ++ [])
      (c.base.below ["ttfb"]) c.ttfb (.duration d) :=
    .below rfl (known (by simp [handles])) rfl
  have timed (d : Nanos) : Recordable (layout.schema c.base) (held ++ [])
      (c.base.below ["usage"]) c.usage (.duration d) :=
    .below rfl (known (by simp [handles])) rfl
  have start := Enters.refl books
  cases h with
  | enqueue => exact start.record (waiting 1)
  | dequeue q => exact (start.record (waiting (-1))).record (delayed _)
  | connected => exact start.record (opened 1)
  | disconnected => exact start.record (opened (-1))
  | requestBegin => exact start.record (served 1)
  | responseBegin q => exact start.record (answered _)
  | responseEnd q => exact (start.record (served (-1))).record (timed _)

end Endpoint

theorem HttpClient.leads_newEndpoint [Pattern.Engine] {c : HttpClient} {node : Node}
    (hs : S.Agrees (Endpoint.layout.schema ((c.base.below ["endpoint"]).child node))) :
    Leads (Books S held log) (c.newEndpoint node) fun e r =>
      e.base = (c.base.below ["endpoint"]).child node ∧ Books S (held ++ e.handles) log r := by
  refine .bind (.name (n := c.base.below ["endpoint"]) rfl) fun n => .given ?_
  rintro rfl
  exact Endpoint.leads_new hs

/-- The recorders of an endpoint, whichever clients made them. -/
def endpoints [Pattern.Engine] (base : MetricName) :
    Desk Endpoint Endpoint.Verb (QueuedRequest ⊕ SentRequest) where
  base := base
  layout := Endpoint.layout
  builds r c r' := ∃ (client : HttpClient) (host : String) (port : Nat),
    client.endpoint host port r = (some c, r') ∧ c.base = base
  acts := Endpoint.Acts

namespace Endpoint

def waiting (ks : List Verb) : Int := ks.count .enqueue - ks.count .dequeue

def served (ks : List Verb) : Int := ks.count .requestBegin - ks.count .responseEnd

/-- How many sockets are open; less than none if more were closed than opened. -/
def opened (ks : List Verb) : Int := ks.count .connected - ks.count .disconnected

theorem totals (ks : List Verb) :
    Desk.total amounts ks [.escape "queue-size"] = waiting ks ∧
      Desk.total amounts ks [.escape "in-use"] = served ks ∧
      Desk.total amounts ks [.escape "open-netsockets"] = opened ks ∧
      Desk.total amounts ks [.escape "queue-delay"] = ks.count .dequeue ∧
      Desk.total amounts ks [.escape "ttfb"] = ks.count .responseBegin ∧
      Desk.total amounts ks [.escape "usage"] = ks.count .responseEnd := by
  induction ks with
  | nil => exact ⟨rfl, rfl, rfl, rfl, rfl, rfl⟩
  | cons k ks ih =>
    obtain ⟨queued, sent, sockets, dequeued, begun, finished⟩ := ih
    simp only [Desk.total_cons, queued, sent, sockets, dequeued, begun, finished, waiting, served,
      opened]
    cases k <;> simp +decide [Desk.share, amounts] <;> omega

variable [Pattern.Engine]

theorem books_of_builds {c : Endpoint} (h : (endpoints base).builds r c r')
    (books : Books (endpoints base).watched held log r) :
    c.base = base ∧ Books (endpoints base).watched (held ++ c.handles) log r' := by
  obtain ⟨client, host, port, he, hb⟩ := h
  obtain ⟨node, hr⟩ := HttpClient.exists_run_of_endpoint (congrArg Prod.fst he)
  rw [he] at hr
  obtain rfl := ((client.within_newEndpoint node).post r c (by rw [hr])).symm.trans hb
  exact ⟨hb, (HttpClient.leads_newEndpoint (Schema.agrees_refl _) r c r' books hr).2⟩

def accounts (base : MetricName) : (endpoints base).Accounts where
  fits c := c.base = base
  handles := handles
  bears _ _ := True
  asks _ := []
  amounts := amounts
  mono _ h := h
  builds := books_of_builds
  acts {c r k taken given r' held log} h fit known _ books := by
    obtain rfl := fit
    exact ⟨[], rfl, fun _ _ => trivial, enters h known books⟩

theorem moves_queued (base : MetricName) :
    (endpoints base).Moves Sum.isLeft fun k => Desk.share (amounts k) [.escape "queue-size"] := by
  intro c r k taken given r' h
  cases h <;> rfl

theorem moves_sent (base : MetricName) :
    (endpoints base).Moves Sum.isRight fun k => Desk.share (amounts k) [.escape "in-use"] := by
  intro c r k taken given r' h
  cases h <;> rfl

/-- The metrics of an endpoint tell what was done at its recorders. -/
structure Shows (base : MetricName) (r : Registry) (ks : List Verb) : Prop where
  queueSize : r.Counts (base.below ["queue-size"]) .counter (waiting ks)
  inUse : r.Counts (base.below ["in-use"]) .counter (served ks)
  openSockets : r.Counts (base.below ["open-netsockets"]) .counter (opened ks)
  waiting_nonneg : 0 ≤ waiting ks
  served_nonneg : 0 ≤ served ks
  queueDelay : r.Counts (base.below ["queue-delay"]) .timer (ks.count .dequeue)
  ttfb : r.Counts (base.below ["ttfb"]) .timer (ks.count .responseBegin)
  usage : r.Counts (base.below ["usage"]) .timer (ks.count .responseEnd)

theorem shows_of_reaches {c : Endpoint} (hb : (endpoints base).builds r c r')
    (free : ∀ path ∈ names, r.id? (base.below [path]) = none)
    {s : Desk.State Endpoint Verb (QueuedRequest ⊕ SentRequest)}
    (reached : (endpoints base).Reaches c r' s) (few : ∀ k, s.deeds.count k < 2 ^ 63) :
    Shows base s.registry s.deeds := by
  have start := Books.start fun name => unbound_of_texts (by decide) exists_name_of_layout free
  obtain ⟨fit, books⟩ := books_of_builds hb start
  obtain ⟨held, kept⟩ := Desk.Accounts.Kept.run (a := accounts base) fit books reached
  obtain ⟨queued, sent, sockets, dequeued, begun, finished⟩ := totals s.deeds
  have own {path : String} (hm : ∀ c : Endpoint, c.base.below [path] ∈ c.handles.map (·.1)) :
      ∀ c, (accounts base).fits c → base.below [path] ∈ ((accounts base).handles c).map (·.1) := by
    rintro c rfl
    exact hm c
  -- Each of these is the number of tokens of one sort that are out.
  have waiting_nonneg : 0 ≤ waiting s.deeds := by
    have tokens : _ = Desk.total amounts s.deeds _ := reached.tallies (moves_queued base)
    omega
  have served_nonneg : 0 ≤ served s.deeds := by
    have tokens : _ = Desk.total amounts s.deeds _ := reached.tallies (moves_sent base)
    omega
  have waiting_le : waiting s.deeds ≤ s.deeds.count .enqueue := by
    unfold waiting
    omega
  have served_le : served s.deeds ≤ s.deeds.count .requestBegin := by
    unfold served
    omega
  have fits_opened : -2 ^ 63 ≤ opened s.deeds ∧ opened s.deeds < 2 ^ 63 := by
    have connections := few .connected
    have disconnections := few .disconnected
    unfold opened
    omega
  have enqueues := few .enqueue
  have dequeues := few .dequeue
  have requests := few .requestBegin
  have begins := few .responseBegin
  have ends := few .responseEnd
  exact {
    waiting_nonneg, served_nonneg
    queueSize := kept.counter_of_own rfl (own fun c => by simp [handles]) queued (by omega)
    inUse := kept.counter_of_own rfl (own fun c => by simp [handles]) sent (by omega)
    openSockets := kept.counter_of_own rfl (own fun c => by simp [handles]) sockets fits_opened
    queueDelay := kept.timer_of_own rfl (own fun c => by simp [handles]) dequeued (by omega)
    ttfb := kept.timer_of_own rfl (own fun c => by simp [handles]) begun (by omega)
    usage := kept.timer_of_own rfl (own fun c => by simp [handles]) finished (by omega) }

end Endpoint

/-- Where its names are free, the first recorder comes up. From then on the metrics of a pool and of
an endpoint tell what is waiting and what is in use, and neither is ever less than nothing. -/
theorem occupancy_told_by_deeds [Pattern.Engine] :
    (∀ root type name maxSize r,
      (∀ path ∈ Pool.names, r.id? ((root.below ["pool", type, name]).below [path]) = none) →
        ∃ c r', (Pool.new root type name maxSize).run r = (.ok c, r') ∧
          c.base = root.below ["pool", type, name]) ∧
    (∀ base r c r', (∀ path ∈ Pool.countedNames, r.id? (base.below [path]) = none) →
      (pools base).builds r c r' → ∀ s, (pools base).Reaches c r' s →
        (∀ k, s.deeds.count k < 2 ^ 63) → Pool.Shows base s.registry s.deeds) ∧
    (∀ (client : HttpClient) host port node r,
      client.endpointRules.node? (address host port) = some node →
      (∀ path ∈ Endpoint.names,
        r.id? (((client.base.below ["endpoint"]).child node).below [path]) = none) →
        ∃ c r', client.endpoint host port r = (some c, r') ∧
          c.base = (client.base.below ["endpoint"]).child node) ∧
    ∀ base r c r', (∀ path ∈ Endpoint.names, r.id? (base.below [path]) = none) →
      (endpoints base).builds r c r' → ∀ s, (endpoints base).Reaches c r' s →
        (∀ k, s.deeds.count k < 2 ^ 63) → Endpoint.Shows base s.registry s.deeds := by
  refine ⟨fun root type name maxSize r free => ?_,
    fun base r c r' free built s reached few => Pool.shows_of_reaches built free reached few,
    fun client host port node r monitored free => ?_,
    fun base r c r' free built s reached few => Endpoint.shows_of_reaches built free reached few⟩
  · have sub := Pool.counted_sub.schema (root.below ["pool", type, name])
    obtain ⟨c, r', hr, base, -⟩ := Setup.exists_run_of_unbound
      (Pool.within_new root type name maxSize)
      (Pool.leads_new sub.agrees (Pool.counted_ne_gauge _)) sub
      (fun _ => unbound_of_texts (by decide) Pool.exists_name_of_layout free)
    exact ⟨c, r', hr, base⟩
  · obtain ⟨c, r', hr, base, -⟩ := Setup.exists_run_of_unbound
      (client.within_newEndpoint_below node) (HttpClient.leads_newEndpoint (Schema.agrees_refl _))
      (fun _ _ hs => hs) (fun _ => unbound_of_texts (by decide) Endpoint.exists_name_of_layout free)
    refine ⟨c, r', ?_, base⟩
    rw [HttpClient.endpoint, monitored]
    simp only [hr]

/-- A task is taken from the queue at another recorder than it was submitted at, and a request is
sent that does not wait. -/
theorem occupancy_told_by_deeds_app :
    let root := MetricName.ofNode (.escape "app")
    let pool := root.below ["pool", "worker", "w"]
    let client : HttpClient := ⟨⟨root, 0, 0, 0, 0, 0⟩, [], [.exact "h:80"], 0, [], 0⟩
    let endpoint := (root.below ["endpoint"]).child (.escape "h:80")
    let r := Registry.withClock (.startingAt 0)
    ((∀ path ∈ Pool.names, r.id? (pool.below [path]) = none) ∧
      ∃ c r', (pools pool).builds r c r' ∧ ∃ s, (pools pool).Reaches c r' s ∧
        (∀ k, s.deeds.count k < 2 ^ 63) ∧ s.recorders.length = 2 ∧
        s.registry.Counts (pool.below ["queue-size"]) .counter 1 ∧
        s.registry.Counts (pool.below ["in-use"]) .counter 1 ∧
        s.registry.Counts (pool.below ["queue-delay"]) .timer 1) ∧
    client.endpointRules.node? (address "h" 80) = some (.escape "h:80") ∧
    (∀ path ∈ Endpoint.names, r.id? (endpoint.below [path]) = none) ∧
      ∃ c r', (endpoints endpoint).builds r c r' ∧ ∃ s, (endpoints endpoint).Reaches c r' s ∧
        (∀ k, s.deeds.count k < 2 ^ 63) ∧
        s.registry.Counts (endpoint.below ["in-use"]) .counter 1 ∧
        s.registry.Counts (endpoint.below ["ttfb"]) .timer 1 ∧
        s.registry.Counts (endpoint.below ["open-netsockets"]) .counter (-1) := by
  intro root pool client endpoint r
  obtain ⟨newPool, poolShows, newEndpoint, endpointShows⟩ := occupancy_told_by_deeds
  refine ⟨⟨fun _ _ => rfl, ?_⟩, by decide +kernel, fun _ _ => rfl, ?_⟩
  · obtain ⟨c, r', hr, hb⟩ := newPool root "worker" "w" 2 r fun _ _ => rfl
    have built : (pools pool).builds r c r' := ⟨root, "worker", "w", 2, hr, hb⟩
    obtain ⟨second, r'', hr', hb'⟩ := Setup.exists_run_again (Pool.within_new root "worker" "w" 2)
      (Pool.within_new root "worker" "w" 0) (Registry.respects_withClock _ _) hr
    obtain ⟨s, reached, done, both⟩ : ∃ s, (pools pool).Reaches c r' s ∧
        s.deeds = [.submitted, .submitted, .begin] ∧ s.recorders.length = 2 :=
      ⟨_, (((Relation.ReflTransGen.refl.tail (.build ⟨root, "worker", "w", 0, hr', hb'⟩)).tail
        (.act (List.mem_cons_of_mem _ List.mem_cons_self) (.submitted ..) (.refl _))).tail
        (.act List.mem_cons_self (.submitted ..) (.refl _))).tail
        (.act List.mem_cons_self (.begin ..) (.refl _)), rfl, rfl⟩
    have few : ∀ k, s.deeds.count k < 2 ^ 63 := by
      rw [done]
      intro k
      cases k <;> decide
    have shows := poolShows pool r c r' (fun _ _ => rfl) built s reached few
    rw [done] at shows
    exact ⟨c, r', built, s, reached, few, both, shows.queueSize, shows.inUse, shows.queueDelay⟩
  · have monitored : client.endpointRules.node? (address "h" 80) = some (.escape "h:80") := by
      decide +kernel
    obtain ⟨c, r', hr, hb⟩ := newEndpoint client "h" 80 _ r monitored fun _ _ => rfl
    have built : (endpoints endpoint).builds r c r' := ⟨client, "h", 80, hr, hb⟩
    obtain ⟨s, reached, done⟩ : ∃ s, (endpoints endpoint).Reaches c r' s ∧
        s.deeds = [.disconnected, .requestBegin, .responseBegin] :=
      ⟨_, ((Relation.ReflTransGen.refl.tail
        (.act List.mem_cons_self .disconnected (.refl _))).tail
        (.act List.mem_cons_self (.requestBegin ..) (.refl _))).tail
        (.act List.mem_cons_self (.responseBegin ..) (.refl _)), rfl⟩
    have few : ∀ k, s.deeds.count k < 2 ^ 63 := by
      rw [done]
      intro k
      cases k <;> decide
    have shows := endpointShows endpoint r c r' (fun _ _ => rfl) built s reached few
    rw [done] at shows
    exact ⟨c, r', built, s, reached, few, shows.inUse, shows.ttfb, shows.openSockets⟩

end Telemetry.Component
