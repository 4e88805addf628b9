import Telemetry.Pattern.Standard
import Telemetry.Proofs.Component.Site

/-!
All components below one root keep to one layout, provided that the clients of a protocol either all
have an id or all have none. Hence none of them ever meets a metric of another kind.
-/

namespace Telemetry

open Registry (Uses)

/-- Everything below a root. Clients with ids have one more node in their base. -/
def rootLayout (netIds httpIds : Bool) : Layout
  | "eventbus" :: ts => Component.EventBus.layout ts
  | "net" :: "servers" :: _ :: ts => Component.Tcp.layout ts
  | "net" :: "clients" :: ts => Component.Tcp.layout (if netIds then ts.tail else ts)
  | "http" :: "servers" :: _ :: ts => Component.HttpServer.layout ts
  | "http" :: "clients" :: ts => Component.HttpClient.layout (if httpIds then ts.tail else ts)
  | "datagram" :: ts => Component.Datagram.layout ts
  | "pool" :: _ :: _ :: ts => Component.Pool.layout ts
  | ts => Component.Runtime.layout ts

theorem rootLayout_of_runtime {netIds httpIds : Bool} {ts : List String} {kind : Kind}
    (h : Component.Runtime.layout ts = some kind) : rootLayout netIds httpIds ts = some kind := by
  unfold Component.Runtime.layout at h
  split at h <;> cases h <;> rfl

namespace Plan

variable [Pattern.Engine]

/-- Whether clients have ids is settled for each protocol. -/
def Complies (netIds httpIds : Bool) : Plan → Prop
  | .netClient id? => (clientId? id?).isSome = netIds
  | .httpClient id? .. => (clientId? id?).isSome = httpIds
  | _ => True

variable {root : MetricName} {p : Plan} {netIds httpIds : Bool}

theorem schema_sub_root (root : MetricName) (h : p.Complies netIds httpIds) :
    (p.schema root).Sub ((rootLayout netIds httpIds).schema root) := by
  refine Layout.schema_join_sub root fun ts kind hk => ?_
  cases p with
  | runtime => exact rootLayout_of_runtime hk
  | netClient id? =>
    obtain rfl : _ = netIds := h
    rw [path]
    cases clientId? id? <;> exact hk
  | httpClient id? =>
    obtain rfl : _ = httpIds := h
    rw [path]
    cases clientId? id? <;> exact hk
  | _ => exact hk

end Plan

namespace Site

section Runs

variable [Pattern.Engine] {root : MetricName} {S : Schema} {s : Site} {a : Action}

def Action.Keeps (root : MetricName) (S : Schema) : Action → Prop
  | .build p => (p.schema root).Sub S
  | _ => True

/-- Recorders fit their plans, these keep to the schema, and so does the registry. -/
structure Orderly (root : MetricName) (S : Schema) (s : Site) : Prop where
  fits : s.Fits root
  keeps : ∀ x ∈ s.recorders, (x.plan.schema root).Sub S
  respects : s.registry.Respects S
  skipped : s.registry.skipped = #[]

theorem orderly_empty (root : MetricName) (S : Schema) (c : Clock) : (empty c).Orderly root S where
  fits _ h := by cases h
  keeps _ h := by cases h
  respects := Registry.respects_withClock c S
  skipped := Registry.skipped_withClock c

namespace Orderly

theorem step (h : s.Orderly root S) (ha : a.Keeps root S) :
    (s.step root a).1 = .ok () ∧ (s.step root a).2.Orderly root S := by
  have fits := fits_step h.fits a
  have hc := step_case root s a
  generalize s.step root a = t at hc fits
  have uses {T : Schema} {r : Registry} (hu : Uses T s.registry r) (hsub : T.Sub S) :
      r.Respects S ∧ r.skipped = #[] :=
    ⟨(hu.mono hsub).respects h.respects, ((hu.mono hsub).skipped_eq h.respects).trans h.skipped⟩
  have keeps {i : Nat} {x : Recorder} (hx : s.recorders[i]? = some x) :
      x.Fits root ∧ (x.plan.schema root).Sub S :=
    ⟨h.fits x (List.mem_of_getElem? hx), h.keeps x (List.mem_of_getElem? hx)⟩
  cases hc with
  | quiet hr => exact ⟨rfl, fits, h.keeps, hr.respects h.respects, hr.skipped.trans h.skipped⟩
  | built p hb =>
    have hu := (p.within_build root).uses s.registry
    rw [hb] at hu
    obtain ⟨respects, skipped⟩ := uses hu ha
    refine ⟨rfl, fits, fun y hy => ?_, respects, skipped⟩
    rcases List.mem_append.mp hy with hy | hy
    · exact h.keeps y hy
    · obtain rfl := List.mem_singleton.mp hy
      exact ha
  | failed p hb =>
    obtain ⟨c, hok⟩ := (p.within_build root).ok s.registry (h.respects.anti ha)
    rw [hb] at hok
    cases hok
  | setCluster host port hx =>
    obtain ⟨hf, hk⟩ := keeps hx
    have hw := hf.within_setCluster host port
    obtain ⟨respects, skipped⟩ := uses (hw.uses s.registry) hk
    obtain ⟨_, hok⟩ := hw.ok s.registry (h.respects.anti hk)
    exact ⟨hok, fits, h.keeps, respects, skipped⟩
  | endpoint host port hx =>
    obtain ⟨hf, hk⟩ := keeps hx
    obtain ⟨hp, hu⟩ := hf.endpoint host port s.registry
    obtain ⟨respects, skipped⟩ := uses hu hk
    refine ⟨rfl, fits, fun y hy => ?_, respects, skipped⟩
    rcases List.mem_append.mp hy with hy | hy
    · exact h.keeps y hy
    · exact (hp y (Option.mem_toList.mp hy)).1 ▸ hk
  | call k hx =>
    obtain ⟨hf, hk⟩ := keeps hx
    obtain ⟨respects, skipped⟩ := uses (hf.call k s.registry).2 hk
    refine ⟨rfl, fits, fun y hy => ?_, respects, skipped⟩
    rcases List.mem_or_eq_of_mem_set hy with hy | rfl
    · exact h.keeps y hy
    · exact hk

theorem run (h : s.Orderly root S) {actions : List Action} (ha : ∀ a ∈ actions, a.Keeps root S) :
    (s.run root actions).Orderly root S := by
  induction actions generalizing s with
  | nil => exact h
  | cons a actions ih =>
    rw [List.forall_mem_cons] at ha
    exact ih (h.step ha.1).2 ha.2

end Orderly

def Action.Complies (netIds httpIds : Bool) : Action → Prop
  | .build p => p.Complies netIds httpIds
  | _ => True

theorem Action.Complies.keeps {netIds httpIds : Bool} (h : a.Complies netIds httpIds) :
    a.Keeps root ((rootLayout netIds httpIds).schema root) := by
  cases a with
  | build p => exact Plan.schema_sub_root root h
  | _ => trivial

/-- Whatever is built, called, closed, removed or read below one root in any order, nothing fails
and nothing is left out, as long as the clients of a protocol all have ids or all have none. -/
theorem nothing_skipped (root : MetricName) (c : Clock) (netIds httpIds : Bool)
    (actions : List Action) (h : ∀ a ∈ actions, a.Complies netIds httpIds) :
    ((empty c).run root actions).registry.skipped = #[] ∧
      ∀ a, a.Complies netIds httpIds →
        (((empty c).run root actions).step root a).1 = .ok () ∧
          (((empty c).run root actions).step root a).2.registry.skipped = #[] := by
  have orderly := (orderly_empty root ((rootLayout netIds httpIds).schema root) c).run
    fun a ha => (h a ha).keeps
  refine ⟨orderly.skipped, fun a ha => ?_⟩
  obtain ⟨ok, next⟩ := orderly.step ha.keeps
  exact ⟨ok, next.skipped⟩

end Runs

/-- Clients of one protocol with ids, beside a client of the other one without. -/
def mixedClients : List Action :=
  [.build (.netClient (some "a.b")), .build (.netClient (some "c")),
    .build (.httpClient none 4 [] []), .call 0 (.tcp (.connected "10.0.0.1")),
    .call 2 (.httpClient (.socket (.connected "bytes-read"))), .close 0,
    .build (.netClient (some "a.b"))]

theorem complies_mixedClients : ∀ a ∈ mixedClients, a.Complies true false := by
  simp [mixedClients, Action.Complies, Plan.Complies, clientId?]

theorem nothing_skipped_mixedClients :
    (∀ a ∈ mixedClients, a.Complies true false) ∧
      ((empty (.startingAt 0)).run (.ofNode (.escape "app")) mixedClients).registry.skipped = #[] :=
  ⟨complies_mixedClients, (nothing_skipped _ _ true false mixedClients complies_mixedClients).1⟩

end Site

end Telemetry
