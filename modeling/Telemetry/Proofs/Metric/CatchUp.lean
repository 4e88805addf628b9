import Telemetry.Metric.Basic
import Telemetry.Proofs.Metric.Meter

/-!
Metrics that have caught up. At the same time nothing more is due for them, so whatever is read of
metrics that have caught up is told alike by one reading and the next, and by a gauge.
-/

namespace Telemetry

variable {now : Nanos} {parts parts' : MetricId → MetricParts}

theorem Meter.catchUp_of_near {m : Meter} (h : now.toNat - m.lastTick.toNat ≤ 5000000000) :
    m.catchUp now = m := by
  rw [catchUp]
  refine if_pos ?_
  rwa [UInt64.le_iff_toNat_le, Nanos.toNat_since, toNat_tickInterval]

/-- Less than an interval is left of any age, so that no tick is due a second time. -/
@[simp] theorem Meter.catchUp_catchUp (m : Meter) (now : Nanos) :
    (m.catchUp now).catchUp now = m.catchUp now :=
  catchUp_of_near (m.age_catchUp_le now)

@[simp] theorem Sampler.drain_drain (s : Sampler) : s.drain.drain = s.drain := rfl

@[simp] theorem MetricParts.catchUp_catchUp (p : MetricParts) (now : Nanos) :
    (p.catchUp now).catchUp now = p.catchUp now := by
  simp [catchUp, Function.comp_def]

/-! ### Gauges -/

namespace Supplier

variable {α : Type} {f : Supplier α}

theorem Steady.eq (h : f.Steady) (same : ∀ id, (parts' id).catchUp now = (parts id).catchUp now) :
    f now parts' = f now parts := by
  rw [← h now parts', funext same, h now parts]

/-- Whatever is worked out from metrics that have caught up is steady. -/
theorem steady_of_caughtUp (f : Supplier α) :
    Steady fun now parts => f now fun id => (parts id).catchUp now := by
  intro now parts
  simp only [MetricParts.catchUp_catchUp]

/-- The number of values that wait in a metric. -/
def waiting (id : MetricId) : Supplier Reading :=
  fun _ parts => .int ((parts id).samples?.elim 0 Sampler.pending : Nat)

/-- It is what a reading takes in, so that no gauge may tell it. -/
theorem not_steady_waiting (id : MetricId) : ¬(waiting id).Steady := by
  intro steady
  have same := steady 0 fun _ => { MetricParts.none with samples? := some (Sampler.empty.update 1) }
  have none_waits : Reading.int 0 = .int 1 := same
  cases none_waits

end Supplier

namespace Metric

@[simp] theorem catchUp_catchUp (now : Nanos) (m : Metric) :
    (m.catchUp now).catchUp now = m.catchUp now := by
  cases m with
  | gauge => rfl
  | counter => rfl
  | histogram s => simp [catchUp]
  | meter m => simp [catchUp]
  | throughputMeter m => simp [catchUp, ThroughputMeter.catchUp]
  | timer t => simp [catchUp, Timer.catchUp]
  | throughputTimer t => simp [catchUp, ThroughputTimer.catchUp, Timer.catchUp]

/-- A gauge shows the same while metrics catch up, and no other metric looks at them. -/
theorem snapshot_congr (m : Metric)
    (same : ∀ id, (parts' id).catchUp now = (parts id).catchUp now) :
    m.snapshot parts' now = m.snapshot parts now := by
  cases m with
  | gauge g => exact congrArg Snapshot.gauge (g.steady.eq same)
  | _ => rfl

end Metric

end Telemetry
