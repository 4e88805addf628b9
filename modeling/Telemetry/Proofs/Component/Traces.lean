import Telemetry.Proofs.Component.Enrollment
import Telemetry.Proofs.Component.Ledger
import Telemetry.Proofs.Registry.Looks

/-!
Traces that recording leaves in a metric: its count and what it knows of the last second. Whoever
spares some names may do as he likes elsewhere, and may look at whatever he likes.
-/

namespace Telemetry

structure Trace where
  kind : Kind
  count : Int
  lastSecond? : Option OneSecondCounter

def Metric.trace (m : Metric) : Trace := ⟨m.kind, m.count, m.lastSecond?⟩

@[simp] theorem Metric.trace_catchUp (now : Nanos) (m : Metric) :
    (m.catchUp now).trace = m.trace := by
  simp [trace]

namespace Registry

variable {r r' r'' : Registry} {p q : MetricName → Prop} {base name other : MetricName}
  {id : MetricId} {kind : Kind} {ds : List Demand}

theorem get?_insert_of_ne (r : Registry) (m : Metric) (h : other ≠ name) :
    (r.insert name m).get? other = r.get? other := by
  rw [get?, get?, id?_insert_of_ne r m h]
  cases hid : r.id? other with
  | none => rfl
  | some id => exact metric?_insert_of_lt r name m (id_lt hid)

theorem get?_insert_self (r : Registry) (name : MetricName) (m : Metric) :
    (r.insert name m).get? name = some m := by
  rw [get?, id?_insert_self]
  simp [metric?, insert, fresh]

theorem continues_insert (m : Metric) (free : r.id? name = none) :
    r.Continues (r.insert name m) := by
  rintro other kind id ⟨hid, hk⟩
  have apart : other ≠ name := by
    rintro rfl
    rw [free] at hid
    cases hid
  exact ⟨(id?_insert_of_ne r m apart).trans hid, (kind?_insert_of_lt r name m (id_lt hid)).trans hk⟩

theorem continues_record (r : Registry) (id : MetricId) (e : Event) :
    r.Continues (r.record id e) :=
  fun _ _ _ held => held.recordAll [(id, e)]

theorem Provides.get? (h : Provides base ds r r') (hid : r.id? name = some id) :
    r'.get? name = r.get? name := by
  rw [Registry.get?, h.id? name id hid, Registry.get?, hid]
  exact h.metric? id (id_lt hid)

theorem Provides.isSome_id?_iff (h : Provides base ds r r')
    (name : MetricName) :
    (r'.id? name).isSome ↔ (r.id? name).isSome ∨ ∃ d ∈ ds, d.name base = name := by
  cases hid : r.id? name with
  | none => simpa using h.added name hid
  | some id => simp [h.id? name id hid]

def trace? (r : Registry) (name : MetricName) : Option Trace := (r.get? name).map Metric.trace

theorem account?_eq_trace? (r : Registry) (name : MetricName) :
    r.account? name = (r.trace? name).map fun t => ⟨t.kind, .ofInt 64 t.count⟩ := by
  rw [account?, trace?, Option.map_map]
  rfl

theorem counts_iff_trace? {n : Int} :
    r.Counts name kind n ↔ ∃ s?, r.trace? name = some ⟨kind, n, s?⟩ := by
  simp only [Counts, trace?, Option.map_eq_some_iff, Metric.trace, Trace.mk.injEq]
  constructor
  · rintro ⟨m, hm, hk, hn⟩
    exact ⟨m.lastSecond?, m, hm, hk, hn, rfl⟩
  · rintro ⟨-, m, hm, hk, hn, -⟩
    exact ⟨m, hm, hk, hn⟩

theorem trace?_catchUp (r : Registry) (id : MetricId) (name : MetricName) :
    (r.catchUp id).trace? name = r.trace? name := by
  rw [trace?, catchUp, get?_modify, trace?]
  split
  · cases r.get? name <;> simp
  · rfl

theorem Counts.congr_trace? {n : Int} (h : r.Counts name kind n)
    (same : r'.trace? name = r.trace? name) : r'.Counts name kind n := by
  rw [counts_iff_trace?, same]
  exact counts_iff_trace?.mp h

/-- These names keep their metrics, if they have any, and the metrics keep their traces. -/
structure Spares (p : MetricName → Prop) (r r' : Registry) : Prop where
  id? : ∀ name, p name → r'.id? name = r.id? name
  trace? : ∀ name, p name → r'.trace? name = r.trace? name

namespace Spares

theorem withTime (p : MetricName → Prop) (r : Registry) (move : Clock → Clock) :
    Spares p r (r.withTime move) := ⟨fun _ _ => rfl, fun _ _ => rfl⟩

theorem readFrom (p : MetricName → Prop) (r : Registry) (base : MetricName) :
    Spares p r (r.readFrom base).2 := by
  have caught (es : List (MetricName × MetricId)) (r : Registry) :
      Spares p r (es.foldl (fun r e => r.catchUp e.2) r) := by
    induction es generalizing r with
    | nil => exact ⟨fun _ _ => rfl, fun _ _ => rfl⟩
    | cons e es ih =>
      refine ⟨fun name hs => (ih _).id? name hs, fun name hs => ?_⟩
      exact ((ih _).trace? name hs).trans (trace?_catchUp r e.2 name)
  rw [Registry.readFrom, readAll, readEach_snd]
  exact caught _ r

theorem of_get? (hid : ∀ name, p name → r'.id? name = r.id? name)
    (hget : ∀ name, p name → r'.get? name = r.get? name) : Spares p r r' :=
  ⟨hid, fun name hp => congrArg (Option.map Metric.trace) (hget name hp)⟩

theorem record (hid : r.id? name = some id) (e : Event) :
    Spares (· ≠ name) r (r.record id e) :=
  of_get? (fun _ _ => rfl) fun other hne => by
    rw [Registry.record, get?_modify, if_neg fun ho => hne (name_unique hid ho)]

theorem insert (r : Registry) (name : MetricName) (m : Metric) :
    Spares (· ≠ name) r (r.insert name m) :=
  of_get? (fun _ hne => id?_insert_of_ne r m hne) fun _ hne => get?_insert_of_ne r m hne

theorem holds (h : Spares p r r') (hp : p name) (held : r.Holds name kind id) :
    r'.Holds name kind id := by
  have told (s : Registry) (hid : s.id? name = some id) :
      s.kind? id = (s.trace? name).map Trace.kind := by
    rw [kind?, Registry.trace?, get?, hid, Option.bind_some, Option.map_map]
    rfl
  have hid : r'.id? name = some id := (h.id? name hp).trans held.1
  exact ⟨hid, by rw [told r' hid, h.trace? name hp, ← told r held.1, held.2]⟩

theorem account? (h : Spares p r r') (hp : p name) : r'.account? name = r.account? name := by
  rw [account?_eq_trace?, account?_eq_trace?, h.trace? name hp]

theorem provides (h : Provides base ds r r') : Spares (fun name => (r.id? name).isSome) r r' := by
  refine of_get? (fun name hn => ?_) (fun name hn => ?_) <;>
    obtain ⟨id, hid⟩ := Option.isSome_iff_exists.mp hn
  · exact (h.id? name id hid).trans hid.symm
  · exact h.get? hid

theorem mono (h : Spares p r r') (sub : ∀ name, q name → p name) : Spares q r r' :=
  ⟨fun name hq => h.id? name (sub name hq), fun name hq => h.trace? name (sub name hq)⟩

theorem trans (h : Spares p r r') (h' : Spares p r' r'') : Spares p r r'' :=
  ⟨fun name hp => (h'.id? name hp).trans (h.id? name hp),
    fun name hp => (h'.trace? name hp).trans (h.trace? name hp)⟩

theorem leaves {S : Schema} (h : Spares (fun name => (S name).isSome) r r') : Leaves S r r' where
  id? := h.id?
  account? name hs := by
    rw [account?_eq_trace?, account?_eq_trace?, h.trace? name hs]

end Spares

end Registry

end Telemetry
