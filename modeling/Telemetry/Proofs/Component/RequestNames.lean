import Mathlib.Data.List.Perm.Subperm
import Telemetry.Proofs.Component.Exchanges

/-!
The names that peers can have made by sending requests. Methods that are not standard have no names,
and a rule that compares with a text or has a nickname allows one node only. So whatever the methods
and paths of the requests are, there is a list of all the names that may come up, which is as long
as the rules make it.
-/

namespace Telemetry

namespace RuleList

variable [Pattern.Engine] {rules : RuleList}

/-- The nodes that the rules allow, where all patterns have nicknames. -/
def nodes (rules : RuleList) : List Node :=
  rules.map fun rule => rule.nickname.getD (.escape rule.value)

/-- Patterns have nicknames. -/
def Named (rules : RuleList) : Prop :=
  ∀ rule ∈ rules, rule.type = .regex → rule.nickname.isSome

instance (rules : RuleList) : Decidable rules.Named :=
  inferInstanceAs (Decidable (∀ rule ∈ rules, rule.type = .regex → rule.nickname.isSome))

theorem mem_nodes (named : rules.Named) {candidate : String} {node : Node}
    (h : rules.node? candidate = some node) : node ∈ rules.nodes := by
  obtain ⟨rule, hf, rfl⟩ := Option.map_eq_some_iff.mp h
  have hm := List.mem_of_find?_eq_some hf
  refine List.mem_map.mpr ⟨rule, hm, ?_⟩
  cases ht : rule.type with
  | equals =>
    have accepted := List.find?_some hf
    rw [MatchRule.accepts, ht] at accepted
    rw [beq_iff_eq.mp accepted]
  | regex =>
    obtain ⟨nickname, hn⟩ := Option.isSome_iff_exists.mp (named rule hm ht)
    rw [hn]
    rfl

end RuleList

namespace Registry

variable {r r' : Registry} {names : List MetricName}

/-- What is bound was bound before or is one of these names. -/
def GrowsBy (r r' : Registry) (names : List MetricName) : Prop :=
  ∀ name, (r'.id? name).isSome → (r.id? name).isSome ∨ name ∈ names

theorem GrowsBy.size_le (h : GrowsBy r r' names) : r'.size ≤ r.size + names.length := by
  have sub : r'.nameList ⊆ r.nameList ++ names := fun name hm => by
    rw [List.mem_append, mem_nameList]
    exact h name (mem_nameList.mp hm)
  have counted := (List.subperm_of_subset (Table.nodup_keys r'.names) sub).length_le
  rw [List.length_append] at counted
  simpa only [size, nameList, Table.length_keys] using counted

end Registry

namespace Component

open Registry (Gains GrowsBy)

/-- The names for requests, by method and by path there. -/
def requestNames [Pattern.Engine] (base : MetricName) (rules : RuleList) : List MetricName :=
  methodNodes.flatMap fun method => base.child method :: rules.nodes.map (base.child method).child

theorem length_requestNames [Pattern.Engine] (base : MetricName) (rules : RuleList) :
    (requestNames base rules).length = 9 * (1 + rules.length) := by
  have each (method : Node) :
      (base.child method :: rules.nodes.map (base.child method).child).length =
        1 + rules.length := by
    simp [RuleList.nodes, add_comm]
  simp only [requestNames, List.length_flatMap, each, List.map_const', List.sum_replicate]
  rfl

theorem mem_requestNames [Pattern.Engine] {base name : MetricName} {rules : RuleList} :
    name ∈ requestNames base rules ↔ ∃ m ∈ httpMethods, name = base.below [m ++ "-requests"] ∨
      ∃ node ∈ rules.nodes, name = (base.below [m ++ "-requests"]).child node := by
  simp [requestNames, methodNodes, MetricName.below, MetricName.child, eq_comm]

namespace Request

variable [Pattern.Engine] {rules : RuleList} {method uri : String} {now : Nanos}

theorem ownNames_begin_subset (named : rules.Named) (base : MetricName) :
    (Request.begin rules method uri now).ownNames base ⊆ requestNames base rules := by
  intro name hm
  unfold ownNames at hm
  split at hm
  · cases hm
  · next node hn =>
    refine List.mem_flatMap.mpr ⟨node, mem_methodNodes hn, ?_⟩
    rcases List.mem_cons.mp hm with rfl | hm
    · exact List.mem_cons_self
    · obtain ⟨path, hp, rfl⟩ := List.mem_map.mp hm
      exact List.mem_cons_of_mem _
        (List.mem_map_of_mem (RuleList.mem_nodes named (Option.mem_toList.mp hp)))

end Request

namespace Side

variable [Pattern.Engine]

def base : Side → MetricName
  | .server c => c.base
  | .client c => c.base

/-- The rules for the paths of requests. -/
def rules : Side → RuleList
  | .server c => c.rules
  | .client c => c.uriRules

variable {x : Side} {r r' : Registry}

theorem requestBegin_eq (x : Side) (method uri : String) (r : Registry) :
    x.requestBegin method uri r = .begin x.rules method uri r.now := by
  cases x <;> rfl

theorem gains_responseEnd (x : Side) (q : Request) (status : Nat) (r : Registry) :
    Gains r (x.responseEnd q status r) (q.ownNames x.base) := by
  cases x with
  | server c => exact (q.gains_finish c.base c.requests r).recordIn _ _
  | client c => exact (q.gains_finish c.base c.requests r).recordIn _ _

/-- What was set up by a plan has its base and its rules. -/
theorem Plan.base_rules_of_build {root : MetricName} {p : Plan}
    (h : (p.build root).run r = (.ok x, r')) : x.base = p.base root ∧ x.rules = p.rules := by
  -- Nothing need be watched to know these.
  have blank : Registry.Books (fun _ => none) [] [] r := .start fun _ hs => by cases hs
  cases p with
  | server host port rules =>
    obtain ⟨c, hr, rfl⟩ := Setup.exists_of_run_map h
    obtain ⟨⟨base, named, -⟩, -⟩ :=
      HttpServer.leads_new (fun _ _ _ hs => by cases hs) r c r' blank hr
    exact ⟨base, named⟩
  | client id? n uriRules endpointRules =>
    obtain ⟨c, hr, rfl⟩ := Setup.exists_of_run_map h
    obtain ⟨⟨base, named, -⟩, -⟩ :=
      HttpClient.leads_new (fun _ _ _ hs => by cases hs) (fun _ => by simp) r c r' blank hr
    exact ⟨base, named⟩

end Side

/-- The requests that a side has not answered yet. -/
structure Requests where
  registry : Registry
  pending : List Request

namespace Requests

section Runs

variable [Pattern.Engine]

/-- What can happen where nobody else binds names. -/
inductive Step (x : Side) (s : Requests) : Requests → Prop
  | begin (method uri : String) :
    Step x s { s with pending := x.requestBegin method uri s.registry :: s.pending }
  | finish {q : Request} {rest : List Request} (h : s.pending.Perm (q :: rest)) (status : Nat) :
    Step x s ⟨x.responseEnd q status s.registry, rest⟩
  | other {r : Registry} (h : GrowsBy s.registry r []) : Step x s { s with registry := r }

variable {x : Side} {r : Registry} {s t : Requests}

/-- All names that came up are those that the rules allow, and so it will be with the requests that
are pending. -/
structure Confined (x : Side) (r : Registry) (s : Requests) : Prop where
  bound : GrowsBy r s.registry (requestNames x.base x.rules)
  pending : ∀ q ∈ s.pending, q.ownNames x.base ⊆ requestNames x.base x.rules

theorem Confined.step (h : s.Confined x r) (named : x.rules.Named) (hs : Step x s t) :
    t.Confined x r := by
  cases hs with
  | begin method uri =>
    refine ⟨h.bound, fun q hq => ?_⟩
    rcases List.mem_cons.mp hq with rfl | hq
    · rw [x.requestBegin_eq]
      exact Request.ownNames_begin_subset named x.base
    · exact h.pending q hq
  | @finish q rest hp status =>
    have own := h.pending q (hp.mem_iff.mpr List.mem_cons_self)
    refine ⟨fun name hn => ?_, fun q' hq => ?_⟩
    · rcases (x.gains_responseEnd q status s.registry name).mp hn with hn | hn
      · exact h.bound name hn
      · exact .inr (own hn)
    · exact h.pending q' (hp.mem_iff.mpr (List.mem_cons_of_mem q hq))
  | other left =>
    exact ⟨fun name hn => h.bound name ((left name hn).resolve_right List.not_mem_nil), h.pending⟩

theorem Confined.run (h : s.Confined x r) (named : x.rules.Named)
    (hr : Relation.ReflTransGen (Step x) s t) : t.Confined x r := by
  induction hr with
  | refl => exact h
  | tail _ step ih => exact ih.step named step

/-- However many requests there are, with whatever methods and paths, the names that come up with
them are those of the standard methods, and below these those of the rules. -/
theorem names_confined (root : MetricName) (p : Side.Plan) (named : p.rules.Named) {x : Side}
    {r₀ r₁ : Registry} (hb : (p.build root).run r₀ = (.ok x, r₁)) {r : Registry} {s : Requests}
    (reached : Relation.ReflTransGen (Step x) ⟨r, []⟩ s) :
    s.registry.size ≤ r.size + 9 * (1 + p.rules.length) ∧
      ∀ name, r.id? name = none → (s.registry.id? name).isSome →
        ∃ m ∈ httpMethods, name = (p.base root).below [m ++ "-requests"] ∨
          ∃ node ∈ p.rules.nodes, name = ((p.base root).below [m ++ "-requests"]).child node := by
  obtain ⟨base, rules⟩ := Side.Plan.base_rules_of_build hb
  rw [← rules] at named
  have start : (Requests.mk r []).Confined x r := ⟨fun _ => .inl, fun _ hq => by cases hq⟩
  have bound := (start.run named reached).bound
  rw [base, rules] at bound
  rw [← length_requestNames (p.base root)]
  refine ⟨bound.size_le, fun name free hn => mem_requestNames.mp ((bound name hn).resolve_left ?_)⟩
  rw [free]
  decide

end Runs

def anyPath : Side.Plan :=
  .server "h" 80 [⟨.regex, "/.*", some (.escape "any"), fun _ => by decide +kernel⟩]

/-- A pattern for all paths, which has a nickname. -/
theorem names_confined_anyPath :
    let root := MetricName.ofNode (.escape "app")
    let name := ((anyPath.base root).below ["get-requests"]).child (.escape "any")
    anyPath.rules.Named ∧
      ∃ x r', (anyPath.build root).run (.withClock (.startingAt 0)) = (.ok x, r') ∧
        ∃ s, Relation.ReflTransGen (Step x) ⟨r', []⟩ s ∧ s.registry.size ≤ r'.size + 18 ∧
          (s.registry.id? name).isSome := by
  intro root name
  have free : (Registry.withClock (.startingAt 0)).namesFrom (anyPath.base root) = [] := rfl
  obtain ⟨x, r', hb, -⟩ := anyPath.exists_build free
  obtain ⟨base, rules⟩ := Side.Plan.base_rules_of_build hb
  have reached : Relation.ReflTransGen (Step x) ⟨r', []⟩
      ⟨x.responseEnd (x.requestBegin "GET" "/1" r') 200 r', []⟩ :=
    (Relation.ReflTransGen.refl.tail (.begin "GET" "/1")).tail (.finish (.refl _) 200)
  have named : anyPath.rules.Named := by decide
  refine ⟨named, x, r', hb, _, reached, (names_confined root anyPath named hb reached).1, ?_⟩
  refine (x.gains_responseEnd _ 200 r' _).mpr (.inr ?_)
  rw [x.requestBegin_eq, base, rules]
  have standard : methodNode? "GET" = some (.escape "get-requests") := by decide +kernel
  have monitored : anyPath.rules.node? "/1" = some (.escape "any") := by decide +kernel
  simp only [Request.ownNames, Request.begin, standard, monitored]
  exact List.mem_cons_of_mem _ (List.mem_singleton_self _)

end Requests

end Component

end Telemetry
