import Telemetry.Proofs.Component.Close
import Telemetry.Proofs.Component.Recorder

/-!
Steps and runs of a site. `step_case` tells what a step can be; recorders keep their places, their
plans and, once they have one, their identities.
-/

namespace Telemetry

open Registry (Uses)

variable [Pattern.Engine]

namespace Recorder

variable {root : MetricName} {x y z : Recorder}

/-- The second recorder is the first one later on. -/
structure Becomes (x y : Recorder) : Prop where
  plan : y.plan = x.plan
  identity : ∀ d, x.identity? = some d → y.identity? = some d

namespace Becomes

theorem refl (x : Recorder) : x.Becomes x := ⟨rfl, fun _ => id⟩

theorem trans (h : x.Becomes y) (h' : y.Becomes z) : x.Becomes z :=
  ⟨h'.plan.trans h.plan, fun d hd => h'.identity d (h.identity d hd)⟩

end Becomes

/-- Apart from datagram sockets the plan tells the identity. -/
theorem identity?_eq_of_plan (h : y.plan = x.plan) (hp : x.plan ≠ .datagram) :
    y.identity? = x.identity? := by
  obtain ⟨p, c⟩ := x
  obtain ⟨q, c'⟩ := y
  obtain rfl : q = p := h
  cases q with
  | datagram => exact absurd rfl hp
  | _ => rfl

theorem Fits.becomes_call (h : x.Fits root) (k : Component.Call) (r : Registry) :
    x.Becomes (x.call k r).1 := by
  refine ⟨rfl, fun d hd => ?_⟩
  by_cases hp : x.plan = .datagram
  · obtain ⟨p, c⟩ := x
    obtain rfl : p = .datagram := hp
    cases h with
    | @datagram c hb =>
      cases k with
      | datagram k =>
        obtain ⟨l, hl, rfl⟩ := Option.map_eq_some_iff.mp hd
        exact Option.map_eq_some_iff.mpr ⟨l, c.listening_call k r hl, rfl⟩
      | _ => exact hd
  · have same : (x.call k r).1.identity? = x.identity? := identity?_eq_of_plan rfl hp
    rw [same, hd]

end Recorder

namespace Site

def Fits (root : MetricName) (s : Site) : Prop := ∀ x ∈ s.recorders, x.Fits root

/-- The steps of a site, and what they lead to. -/
inductive StepCase (root : MetricName) (s : Site) : Action → Except MeasureError Unit × Site → Prop
  | quiet {a : Action} {r : Registry} (h : s.registry.Shrinks r) :
    StepCase root s a (.ok (), ⟨r, s.recorders⟩)
  | built (p : Plan) {c : Component} {r : Registry}
    (h : (p.build root).run s.registry = (.ok c, r)) :
    StepCase root s (.build p) (.ok (), ⟨r, s.recorders ++ [⟨p, c⟩]⟩)
  | failed (p : Plan) {e : MeasureError} {r : Registry}
    (h : (p.build root).run s.registry = (.error e, r)) :
    StepCase root s (.build p) (.error e, ⟨r, s.recorders⟩)
  | setCluster {i : Nat} {x : Recorder} (host : String) (port : Nat)
    (hx : s.recorders[i]? = some x) :
    StepCase root s (.setCluster i host port)
      (((x.setCluster host port).run s.registry).1,
        ⟨((x.setCluster host port).run s.registry).2, s.recorders⟩)
  | endpoint {i : Nat} {x : Recorder} (host : String) (port : Nat)
    (hx : s.recorders[i]? = some x) :
    StepCase root s (.endpoint i host port)
      (.ok (), ⟨(x.endpoint host port s.registry).2,
        s.recorders ++ (x.endpoint host port s.registry).1.toList⟩)
  | call {i : Nat} {x : Recorder} (k : Component.Call) (hx : s.recorders[i]? = some x) :
    StepCase root s (.call i k)
      (.ok (), ⟨(x.call k s.registry).2, s.recorders.set i (x.call k s.registry).1⟩)

theorem step_case (root : MetricName) (s : Site) (a : Action) :
    StepCase root s a (s.step root a) := by
  cases a with
  | build p =>
    rw [step, build]
    rcases h : (p.build root).run s.registry with ⟨_ | _, r⟩
    · exact .failed p h
    · exact .built p h
  | setCluster i host port =>
    rw [step]
    split
    · exact .quiet (.refl s.registry)
    · next x hx => exact .setCluster host port hx
  | endpoint i host port =>
    rw [step]
    split
    · exact .quiet (.refl s.registry)
    · next x hx => exact .endpoint host port hx
  | call i k =>
    rw [step]
    split
    · exact .quiet (.refl s.registry)
    · next x hx => exact .call k hx
  | close i =>
    rw [step]
    split
    · exact .quiet (.refl s.registry)
    · next x _ => exact .quiet (x.component.shrinks_close s.registry)
  | remove base => exact .quiet (.remove s.registry base)
  | read base => exact .quiet (.readFrom s.registry base)
  | elapse move => exact .quiet (.withTime s.registry move)

variable {root : MetricName} {s : Site} {i : Nat} {x : Recorder}

theorem fits_step (h : s.Fits root) (a : Action) : (s.step root a).2.Fits root := by
  have hc := step_case root s a
  generalize s.step root a = t at hc
  cases hc with
  | quiet => exact h
  | built p hb =>
    intro y hy
    rcases List.mem_append.mp hy with hy | hy
    · exact h y hy
    · obtain rfl := List.mem_singleton.mp hy
      exact (p.within_build root).post s.registry _ (by rw [hb])
  | failed => exact h
  | setCluster => exact h
  | endpoint host port hx =>
    intro y hy
    rcases List.mem_append.mp hy with hy | hy
    · exact h y hy
    · exact (((h _ (List.mem_of_getElem? hx)).endpoint host port s.registry).1 y
        (Option.mem_toList.mp hy)).2
  | call k hx =>
    intro y hy
    rcases List.mem_or_eq_of_mem_set hy with hy | rfl
    · exact h y hy
    · exact ((h _ (List.mem_of_getElem? hx)).call k s.registry).1

theorem becomes_step (h : s.Fits root) (a : Action) (hx : s.recorders[i]? = some x) :
    ∃ y, (s.step root a).2.recorders[i]? = some y ∧ x.Becomes y := by
  have hc := step_case root s a
  generalize s.step root a = t at hc
  have stays (ys : List Recorder) : (s.recorders ++ ys)[i]? = some x := by
    rw [List.getElem?_append_left (List.getElem?_eq_some_iff.mp hx).1, hx]
  cases hc with
  | quiet => exact ⟨x, hx, .refl x⟩
  | built => exact ⟨x, stays _, .refl x⟩
  | failed => exact ⟨x, hx, .refl x⟩
  | setCluster => exact ⟨x, hx, .refl x⟩
  | endpoint => exact ⟨x, stays _, .refl x⟩
  | @call j y k hy =>
    by_cases hj : j = i
    · subst hj
      cases hx.symm.trans hy
      refine ⟨(x.call k s.registry).1, ?_, (h x (List.mem_of_getElem? hx)).becomes_call k _⟩
      rw [List.getElem?_set_self (List.getElem?_eq_some_iff.mp hx).1]
    · exact ⟨x, (List.getElem?_set_ne hj).trans hx, .refl x⟩

@[simp] theorem run_nil (root : MetricName) (s : Site) : s.run root [] = s := rfl

@[simp] theorem run_cons (root : MetricName) (s : Site) (a : Action) (actions : List Action) :
    s.run root (a :: actions) = (s.step root a).2.run root actions := rfl

theorem run_append (root : MetricName) (s : Site) (before after : List Action) :
    s.run root (before ++ after) = (s.run root before).run root after := List.foldl_append

theorem fits_run (h : s.Fits root) (actions : List Action) : (s.run root actions).Fits root := by
  induction actions generalizing s with
  | nil => exact h
  | cons a actions ih => exact ih (fits_step h a)

theorem becomes_run (h : s.Fits root) (actions : List Action) (hx : s.recorders[i]? = some x) :
    ∃ y, (s.run root actions).recorders[i]? = some y ∧ x.Becomes y := by
  induction actions generalizing s x with
  | nil => exact ⟨x, hx, .refl x⟩
  | cons a actions ih =>
    obtain ⟨y, hy, first⟩ := becomes_step h a hx
    obtain ⟨z, hz, rest⟩ := ih (fits_step h a) hy
    exact ⟨z, hz, first.trans rest⟩

end Site

end Telemetry
