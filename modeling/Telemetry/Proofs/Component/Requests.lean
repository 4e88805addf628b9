import Telemetry.Proofs.Component.Handles
import Telemetry.Proofs.Name.Escape

/-!
What a request is counted under once it is answered: among all requests, among those of its method,
among those of its path there, and in the class of its answer, as far as it has these.
-/

namespace Telemetry.Component

open Registry (Books balance)

/-- The paths of the timers of a request, below the base. -/
def Request.paths (q : Request) : List (List Node) :=
  [.escape "requests"] ::
    q.method.toList.flatMap fun method => [method] :: q.uri.toList.map fun uri => [method, uri]

/-- The name of the class of a status, which its hundreds tell. -/
def responseName? (status : Nat) : Option String :=
  if status / 100 = 0 then none else responseNames[status / 100 - 1]?

/-- A request with its answer. -/
structure Answered where
  method : String
  uri : String
  status : Nat

def Answered.paths [Pattern.Engine] (rules : RuleList) (a : Answered) : List (List Node) :=
  (Request.begin rules a.method a.uri 0).paths ++
    (responseName? a.status).toList.map fun path => [.escape path]

variable {method m path : String} {node : Node}

theorem methodNode?_eq_some_iff (hm : m ∈ httpMethods) :
    methodNode? method = some (.escape (m ++ "-requests")) ↔ method.toLower = m := by
  rw [methodNode?, Option.map_eq_some_iff]
  constructor
  · rintro ⟨m', hf, he⟩
    obtain rfl := (String.append_left_inj _).mp (Node.escape_injective he)
    have same := List.find?_some hf
    exact (beq_iff_eq.mp same).symm
  · rintro rfl
    cases hf : httpMethods.find? (· == method.toLower) with
    | none => exact absurd BEq.rfl (List.find?_eq_none.mp hf _ hm)
    | some m' =>
      have same := List.find?_some hf
      exact ⟨m', rfl, by rw [beq_iff_eq.mp same]⟩

theorem getElem?_responseNames {n : Nat} (hn : 1 ≤ n ∧ n ≤ 5) :
    responseNames[n - 1]? = some ("responses-" ++ toString n ++ "xx") := by
  have cases : n = 1 ∨ n = 2 ∨ n = 3 ∨ n = 4 ∨ n = 5 := by omega
  rcases cases with rfl | rfl | rfl | rfl | rfl <;> rfl

theorem responseName?_eq_some_iff {status n : Nat} (hn : 1 ≤ n ∧ n ≤ 5) :
    responseName? status = some ("responses-" ++ toString n ++ "xx") ↔ status / 100 = n := by
  have distinct : responseNames.Nodup := by decide
  have inside : n - 1 < responseNames.length := by
    change n - 1 < 5
    omega
  rw [responseName?, ← getElem?_responseNames hn]
  split
  · next zero =>
    rw [zero, List.getElem?_eq_getElem inside]
    simp
    omega
  · next positive =>
    rw [eq_comm, List.getElem?_inj inside distinct]
    omega

theorem mem_of_responseName? {status : Nat} (h : path ∈ responseName? status) :
    path ∈ responseNames := by
  rw [responseName?] at h
  split at h
  · cases h
  · exact List.mem_of_getElem? h

theorem method_ne (hn : node ∈ methodNodes) (ht : path ∈ "requests" :: responseNames) :
    node ≠ .escape path := by
  have all : ∀ n ∈ methodNodes, ∀ t ∈ "requests" :: responseNames, n ≠ .escape t := by decide
  exact all node hn path ht

theorem escape_mem_methodNodes (hm : m ∈ httpMethods) :
    Node.escape (m ++ "-requests") ∈ methodNodes := List.mem_map_of_mem hm

namespace Request

variable (q : Request)

theorem count_requests : q.paths.count [.escape "requests"] = 1 := by
  rw [paths, List.count_cons_self]
  cases hk : q.method with
  | none => rfl
  | some k =>
    have own : k ≠ .escape "requests" := method_ne (q.standard k hk) List.mem_cons_self
    cases q.uri <;> simp [own]

theorem count_method (h : node ≠ .escape "requests") :
    q.paths.count [node] = if q.method = some node then 1 else 0 := by
  rw [paths, List.count_cons_of_ne (by simpa using h.symm)]
  cases q.method with
  | none => simp
  | some k => cases q.uri <;> simp [List.count_cons]

theorem count_path (uri : Node) :
    q.paths.count [node, uri] = if q.method = some node ∧ q.uri = some uri then 1 else 0 := by
  rw [paths, List.count_cons_of_ne (by simp)]
  cases q.method with
  | none => simp
  | some k => cases q.uri <;> simp [List.count_cons]

end Request

namespace Answered

variable (a : Answered)

theorem count_answer (status : Nat) (path : String) :
    ((responseName? status).toList.map fun path => [Node.escape path]).count [.escape path] =
      if responseName? status = some path then 1 else 0 := by
  have same (t : String) : Node.escape t = .escape path ↔ t = path :=
    ⟨fun h => Node.escape_injective h, congrArg Node.escape⟩
  cases responseName? status <;> simp [List.count_cons, same]

theorem count_answer_eq_zero {status : Nat} {ns : List Node}
    (h : ∀ path ∈ responseNames, [Node.escape path] ≠ ns) :
    ((responseName? status).toList.map fun path => [Node.escape path]).count ns = 0 := by
  rw [List.count_eq_zero]
  intro hm
  obtain ⟨path, hp, he⟩ := List.mem_map.mp hm
  exact h path (mem_of_responseName? (Option.mem_toList.mp hp)) he

variable [Pattern.Engine]

theorem count_requests (rules : RuleList) : (a.paths rules).count [.escape "requests"] = 1 := by
  have other : ∀ path ∈ responseNames, [Node.escape path] ≠ [.escape "requests"] := by decide
  rw [paths, List.count_append, Request.count_requests, count_answer_eq_zero other]

theorem count_method (rules : RuleList) (hm : m ∈ httpMethods) :
    (a.paths rules).count [.escape (m ++ "-requests")] = if a.method.toLower = m then 1 else 0 := by
  have standard := escape_mem_methodNodes hm
  have other : ∀ path ∈ responseNames, [Node.escape path] ≠ [.escape (m ++ "-requests")] :=
    fun path hp he => method_ne standard (List.mem_cons_of_mem _ hp) (List.singleton_inj.mp he).symm
  rw [paths, List.count_append, Request.count_method _ (method_ne standard List.mem_cons_self),
    count_answer_eq_zero other, add_zero]
  exact if_congr (methodNode?_eq_some_iff hm) rfl rfl

theorem count_path (rules : RuleList) (hm : m ∈ httpMethods) (node : Node) :
    (a.paths rules).count [.escape (m ++ "-requests"), node] =
      if a.method.toLower = m ∧ rules.node? a.uri = some node then 1 else 0 := by
  rw [paths, List.count_append, Request.count_path, count_answer_eq_zero (by simp), add_zero]
  exact if_congr (and_congr_left' (methodNode?_eq_some_iff hm)) rfl rfl

theorem count_response (rules : RuleList) {n : Nat} (hn : 1 ≤ n ∧ n ≤ 5) :
    (a.paths rules).count [.escape ("responses-" ++ toString n ++ "xx")] =
      if a.status / 100 = n then 1 else 0 := by
  have named : "responses-" ++ toString n ++ "xx" ∈ responseNames :=
    List.mem_of_getElem? (getElem?_responseNames hn)
  have apart : ∀ path ∈ responseNames, Node.escape path ≠ .escape "requests" := by decide
  have no_method : (Request.begin rules a.method a.uri 0).method ≠
      some (.escape ("responses-" ++ toString n ++ "xx")) := fun hk =>
    method_ne (mem_methodNodes hk) (List.mem_cons_of_mem _ named) rfl
  rw [paths, List.count_append, Request.count_method _ (apart _ named), if_neg no_method,
    count_answer, zero_add]
  exact if_congr (responseName?_eq_some_iff hn) rfl rfl

end Answered

/-! ### Books of requests -/

/-- What is said about the metrics of requests; web sockets have nothing to do with them. -/
def requestLayout (response : Kind) : Layout := fun ts =>
  if ts = ["open-websockets"] then none else httpLayout response ts

theorem requestLayout_sub (response : Kind) :
    (requestLayout response).Sub (httpLayout response) := by
  intro ts kind h
  rw [requestLayout] at h
  split at h
  · cases h
  · exact h

theorem requestLayout_ne_gauge {response : Kind} (h : response ≠ .gauge) (ts : List String) :
    requestLayout response ts ≠ some .gauge := by
  intro hk
  have known := requestLayout_sub response ts _ hk
  unfold httpLayout at known
  split at known
  · cases known
  · cases known
  · split at known
    · exact h (Option.some.inj known)
    · split at known <;> cases known
  · split at known <;> cases known
  · cases known

theorem requestLayout_method {response : Kind} (h : node ∈ methodNodes) :
    requestLayout response [node.text] = some .throughputTimer := by
  have known := text_mem_methodTexts h
  have apart : ∀ t ∈ methodTexts, [t] ≠ ["open-websockets"] := by decide
  rw [requestLayout, if_neg (apart _ known), httpLayout_method response known]

theorem requestLayout_path {response : Kind} (h : node ∈ methodNodes) (uri : String) :
    requestLayout response [node.text, uri] = some .throughputTimer := by
  rw [requestLayout, if_neg (by simp), httpLayout_path response (text_mem_methodTexts h)]

theorem requestLayout_response {response : Kind} (h : path ∈ responseNames) :
    requestLayout response [(Node.escape path).text] = some response := by
  revert path
  cases response <;> decide

/-- One entry for each of the paths. -/
def entries (base : MetricName) (paths : List (List Node)) : List (MetricName × BitVec 64) :=
  paths.map fun ns => (base.join ⟨ns⟩, 1)

@[simp] theorem entries_append (base : MetricName) (ps qs : List (List Node)) :
    entries base (ps ++ qs) = entries base ps ++ entries base qs := List.map_append

theorem balance_entries (base : MetricName) (paths : List (List Node)) (ns : List Node) :
    balance (entries base paths) (base.join ⟨ns⟩) = .ofNat 64 (paths.count ns) := by
  induction paths with
  | nil => rfl
  | cons p paths ih =>
    have same : base.join ⟨p⟩ = base.join ⟨ns⟩ ↔ p = ns :=
      ⟨fun h => congrArg MetricName.nodes (MetricName.join_left_cancel h), fun h => by rw [h]⟩
    rw [entries, List.map_cons, Registry.balance_cons, ← entries, ih, List.count_cons]
    by_cases h : p = ns
    · rw [if_pos (same.mpr h), if_pos (beq_iff_eq.mpr h), BitVec.ofNat_add, add_comm]
      rfl
    · rw [if_neg (mt same.mp h), if_neg (by simpa using h), zero_add, add_zero]

theorem mem_entries {base : MetricName} {paths : List (List Node)} {ns : List Node} :
    base.join ⟨ns⟩ ∈ (entries base paths).map (·.1) ↔ ns ∈ paths := by
  rw [entries, List.map_map, List.mem_map]
  constructor
  · rintro ⟨p, hp, he⟩
    obtain rfl : p = ns := congrArg MetricName.nodes (MetricName.join_left_cancel he)
    exact hp
  · exact fun h => ⟨ns, h, rfl⟩

variable {response : Kind} {base : MetricName} {held : List (MetricName × MetricId)}
  {log : List (MetricName × BitVec 64)} {r : Registry} {requests : MetricId}
  {responses : List MetricId}

theorem Request.books_finish (q : Request)
    (books : Books ((requestLayout response).schema base) held log r)
    (hm : (base.below ["requests"], requests) ∈ held) :
    Books ((requestLayout response).schema base) held (log ++ entries base q.paths)
      (q.finish base requests r) := by
  have top : (requestLayout response).schema base (base.below ["requests"]) =
      some .throughputTimer := by
    rw [MetricName.below_eq_join, Layout.schema_join]
    rfl
  have all := books.record (e := .duration (r.now.since q.start)) hm top rfl
  rw [finish, paths]
  cases hk : q.method with
  | none => exact all
  | some k =>
    have standard : (requestLayout response).schema base (base.child k) = some .throughputTimer :=
      (Layout.schema_join _ base (.ofNode k)).trans (requestLayout_method (q.standard k hk))
    have own := all.tally (e := .duration (r.now.since q.start)) standard rfl
    rw [List.append_assoc] at own
    cases q.uri with
    | none => exact own
    | some uri =>
      have name : (base.child k).child uri = base.join ⟨[k, uri]⟩ := base.child_join (.ofNode k) uri
      have below : (requestLayout response).schema base ((base.child k).child uri) =
          some .throughputTimer := by
        rw [name, Layout.schema_join]
        exact requestLayout_path (q.standard k hk) uri.text
      have path := own.tally (e := .duration (r.now.since q.start)) below rfl
      have entered : entries base [[.escape "requests"], [k], [k, uri]] =
          [(base.below ["requests"], 1), (base.child k, 1), ((base.child k).child uri, 1)] := by
        rw [name]
        rfl
      change Books _ _ (log ++ entries base [[.escape "requests"], [k], [k, uri]]) _
      rw [List.append_assoc] at path
      rw [entered]
      exact path

/-- An answer is counted in its class, if it has one. -/
theorem books_response (books : Books ((requestLayout response).schema base) held log r)
    (hm : (responseNames.map fun path => base.below [path]).zip responses ⊆ held)
    (length : responses.length = responseNames.length) (suits : (Event.mark 1).suits response)
    (status : Nat) :
    Books ((requestLayout response).schema base) held
      (log ++ entries base ((responseName? status).toList.map fun path => [.escape path]))
      (r.recordIn (responseMetric? responses status) (.mark 1)) := by
  have uncounted : Books ((requestLayout response).schema base) held (log ++ entries base [])
      (r.recordIn none (.mark 1)) := (List.append_nil log).symm ▸ books
  rw [responseName?, responseMetric?]
  split
  · exact uncounted
  · cases hid : responses[status / 100 - 1]? with
    | none =>
      rw [List.getElem?_eq_none_iff, length, ← List.getElem?_eq_none_iff] at hid
      rw [hid]
      exact uncounted
    | some id =>
      obtain ⟨inside, -⟩ := List.getElem?_eq_some_iff.mp hid
      rw [length] at inside
      have named := List.getElem?_eq_getElem inside
      have known : (base.below [responseNames[status / 100 - 1]], id) ∈ held := by
        apply hm
        refine List.mem_of_getElem? (i := status / 100 - 1) ?_
        rw [List.getElem?_zip_eq_some, List.getElem?_map, named]
        exact ⟨rfl, hid⟩
      have kind : (requestLayout response).schema base
          (base.below [responseNames[status / 100 - 1]]) = some response :=
        (Layout.schema_join _ base _).trans (requestLayout_response (List.getElem_mem inside))
      rw [named]
      exact books.record known kind suits

theorem books_answered (books : Books ((requestLayout response).schema base) held log r)
    (hm : requestHandles base requests responses ⊆ held)
    (length : responses.length = responseNames.length) (suits : (Event.mark 1).suits response)
    (q : Request) (status : Nat) :
    Books ((requestLayout response).schema base) held
      (log ++ entries base
        (q.paths ++ (responseName? status).toList.map fun path => [.escape path]))
      ((q.finish base requests r).recordIn (responseMetric? responses status) (.mark 1)) := by
  obtain ⟨all, classes⟩ := List.cons_subset.mp hm
  rw [entries_append, ← List.append_assoc]
  exact books_response (q.books_finish books all) classes length suits status

end Telemetry.Component
