import Telemetry.Histogram.Feed
import Telemetry.Proofs.Metric.Count
import Telemetry.Proofs.Metric.Throughput

/-!
Values on their way into a distribution. However updates and readings follow one another, fewer
values wait than make an update take them in, and none wait after a reading, which shows as many
values as there were updates. A timer counts its updates a second time, and shows the same number.
-/

namespace Telemetry

theorem Intake.drain_recording (i : Intake) :
    i.drain (fun h v => (h.record v, (none : Option Empty))) =
      ⟨i.merge.histogram, none, i.waiting.size⟩ := by
  have each (vs : List Nat) (h : Histogram) (n : Nat) :
      vs.foldl (Drain.take fun h v => (h.record v, (none : Option Empty))) ⟨h, none, n⟩ =
        ⟨vs.foldl Histogram.record h, none, n + vs.length⟩ := by
    induction vs generalizing h n with
    | nil => rfl
    | cons v vs ih =>
      rw [List.foldl_cons, List.length_cons, Nat.add_comm vs.length, ← Nat.add_assoc]
      exact ih (h.record v) (n + 1)
  rw [drain, merge, ← Array.foldl_toList, ← Array.foldl_toList, each, Nat.zero_add,
    Array.length_toList]

namespace Sampler

variable {s : Sampler}

theorem pending_drain (s : Sampler) : s.drain.pending = 0 := rfl

theorem pending_update_lt (s : Sampler) (v : UInt64) : (s.update v).pending < backlogLimit := by
  rw [update]
  split
  · exact Nat.zero_lt_succ _
  · next short => exact Nat.lt_of_not_le short

theorem count_summary_drain (s : Sampler) : s.drain.summary.count = s.count := by
  have waits : s.drain.intake.histogram.count = s.count := by
    rw [← count_drain s, count, pending_drain, Nat.zero_add]
  rw [summary, Histogram.summary, ← waits]
  split
  · next none => exact none.symm
  · rfl

/-! ### With a recorder -/

/-- A histogram with one recorder. The recorder counts what waits apart from what is handed over. -/
def feed (s : Sampler) : Feed := ⟨some s.intake, s.pending, 1⟩

/-- The counter of the recorder is never off. -/
theorem feed_drain (s : Sampler) : s.drain.feed = s.feed.refresh := by
  simp only [feed, Feed.refresh, Feed.refreshBy, Intake.drain_recording, Feed.lower]
  rw [pending_drain, pending, Nat.sub_self]
  rfl

theorem feed_update (s : Sampler) (v : UInt64) :
    (s.update v).feed =
      if backlogLimit ≤ (s.feed.record v.toNat).1.pending then (s.feed.record v.toNat).1.refresh
      else (s.feed.record v.toNat).1 := by
  have recorded : (s.feed.record v.toNat).1 = (⟨s.intake.push v.toNat⟩ : Sampler).feed := by
    simp [feed, Feed.record, Feed.raise, Feed.send, pending]
  rw [recorded, ← feed_drain, update, apply_ite feed]
  rfl

end Sampler

/-- Both counts that a timer shows, if it has both of its updates. -/
theorem Timer.counts_shown {t : Timer} {n : Nat} (all : t.durations.count = n)
    (metered : t.meter.count = .ofNat n) (now : Nanos) :
    (t.catchUp now).durations.summary.count = n ∧
      ((t.catchUp now).meter.rates now).count.toNat =
        (t.catchUp now).durations.summary.count % 2 ^ 64 := by
  have counted : (t.catchUp now).durations.summary.count = n :=
    t.durations.count_summary_drain.trans all
  have marked : ((t.catchUp now).meter.rates now).count = .ofNat n := by
    rw [Timer.catchUp, Meter.rates, Meter.count_catchUp, metered]
  refine ⟨counted, ?_⟩
  rw [marked, counted]
  exact UInt64.toNat_ofNat'

namespace Metric

variable {m : Metric} {n : Nat} {now : Nanos} {e : Event}

/-- All of `n` updates are in the distribution or wait for it, few enough, and a meter beside it
counts them too. -/
inductive Keeps (n : Nat) : Metric → Prop
  | histogram (s : Sampler) (few : s.pending < Sampler.backlogLimit) (all : s.count = n) :
    Keeps n (.histogram s)
  | timer (t : Timer) (few : t.durations.pending < Sampler.backlogLimit)
    (all : t.durations.count = n) (metered : t.meter.count = .ofNat n) : Keeps n (.timer t)
  | throughputTimer (t : ThroughputTimer)
    (few : t.timer.durations.pending < Sampler.backlogLimit) (all : t.timer.durations.count = n)
    (metered : t.timer.meter.count = .ofNat n) : Keeps n (.throughputTimer t)

theorem keeps_histogram : (histogram .empty).Keeps 0 := .histogram _ (Nat.zero_lt_succ _) rfl

theorem keeps_timer (start : Nanos) : (timer (.startingAt start)).Keeps 0 :=
  .timer _ (Nat.zero_lt_succ _) rfl rfl

theorem keeps_throughputTimer (start : Nanos) : (throughputTimer (.startingAt start)).Keeps 0 :=
  .throughputTimer _ (Nat.zero_lt_succ _) rfl rfl

theorem ofNat_succ {c : UInt64} (h : c = .ofNat n) : c + 1 = .ofNat (n + 1) := by
  rw [h, UInt64.ofNat_add]
  rfl

theorem Keeps.record (h : m.Keeps n) (now : Nanos) (suits : e.suits m.kind) :
    (m.record now e).Keeps (n + 1) := by
  cases h with
  | histogram s few all =>
    cases e with
    | value v => exact .histogram _ (s.pending_update_lt v) (by rw [s.count_update, all])
    | _ => cases suits
  | timer t few all metered =>
    cases e with
    | duration d =>
      refine .timer _ (t.durations.pending_update_lt d) ?_ ?_
      · exact (t.durations.count_update d).trans (congrArg Nat.succ all)
      · exact (t.meter.count_mark now 1).trans (ofNat_succ metered)
    | _ => cases suits
  | throughputTimer t few all metered =>
    cases e with
    | duration d =>
      refine .throughputTimer _ (t.timer.durations.pending_update_lt d) ?_ ?_
      · exact (t.timer.durations.count_update d).trans (congrArg Nat.succ all)
      · exact (t.timer.meter.count_mark now 1).trans (ofNat_succ metered)
    | _ => cases suits

theorem record_of_not_suits (now : Nanos) (h : e.suits m.kind = false) : m.record now e = m := by
  unfold record
  split
  case h_7 => rfl
  all_goals cases h

theorem Keeps.catchUp (h : m.Keeps n) (now : Nanos) : (m.catchUp now).Keeps n := by
  cases h with
  | histogram s few all => exact .histogram _ (Nat.zero_lt_succ _) (s.count_drain.trans all)
  | timer t few all metered =>
    refine .timer _ (Nat.zero_lt_succ _) (t.durations.count_drain.trans all) ?_
    rw [Timer.catchUp, Meter.count_catchUp, metered]
  | throughputTimer t few all metered =>
    refine .throughputTimer _ (Nat.zero_lt_succ _) (t.timer.durations.count_drain.trans all) ?_
    rw [ThroughputTimer.catchUp, Timer.catchUp, Meter.count_catchUp, metered]

theorem Keeps.of_histogram (h : m.Keeps n) (hk : m.kind = .histogram) :
    ∃ s, m = .histogram s ∧ s.pending < Sampler.backlogLimit ∧ s.count = n := by
  cases h with
  | histogram s few all => exact ⟨s, rfl, few, all⟩
  | timer => cases hk
  | throughputTimer => cases hk

theorem Keeps.of_timer (h : m.Keeps n) (hk : m.kind = .timer) :
    ∃ t, m = .timer t ∧ t.durations.count = n ∧ t.meter.count = .ofNat n := by
  cases h with
  | histogram => cases hk
  | timer t few all metered => exact ⟨t, rfl, all, metered⟩
  | throughputTimer => cases hk

theorem Keeps.of_throughputTimer (h : m.Keeps n) (hk : m.kind = .throughputTimer) :
    ∃ t, m = .throughputTimer t ∧ t.timer.durations.count = n ∧
      t.timer.meter.count = .ofNat n := by
  cases h with
  | histogram => cases hk
  | timer => cases hk
  | throughputTimer t few all metered => exact ⟨t, rfl, all, metered⟩

end Metric

namespace Clocked

variable {c : Clocked} {n : Nat}

/-- What is shown now. -/
def snapshot (c : Clocked) (parts : MetricId → MetricParts) : Snapshot :=
  (c.step .read).metric.snapshot parts c.clock.now

/-- Whether a metric of a kind takes what is recorded. -/
def Step.updates (kind : Kind) : Step → Bool
  | .record e => e.suits kind
  | _ => false

@[simp] theorem kind_step (c : Clocked) (s : Step) : (c.step s).metric.kind = c.metric.kind := by
  cases s with
  | record e => exact Metric.kind_record c.clock.now e c.metric
  | read => exact Metric.kind_catchUp c.clock.now c.metric
  | advance d => rfl

theorem keeps_step (h : c.metric.Keeps n) (s : Step) :
    (c.step s).metric.Keeps (n + if s.updates c.metric.kind then 1 else 0) := by
  cases s with
  | record e =>
    by_cases suits : e.suits c.metric.kind
    · rw [Step.updates, if_pos suits]
      exact h.record c.clock.now suits
    · rw [Step.updates, if_neg suits, step, Metric.record_of_not_suits c.clock.now
        (Bool.eq_false_of_not_eq_true suits)]
      exact h
  | read => exact h.catchUp c.clock.now
  | advance d => exact h

theorem keeps_run (h : c.metric.Keeps n) (steps : List Step) :
    (c.run steps).metric.Keeps (n + steps.countP (·.updates c.metric.kind)) := by
  induction steps generalizing c n with
  | nil => exact h
  | cons s steps ih =>
    have rest := ih (keeps_step h s)
    rw [kind_step, Nat.add_assoc, Nat.add_comm (ite ..)] at rest
    rwa [List.countP_cons]

@[simp] theorem kind_run (c : Clocked) (steps : List Step) :
    (c.run steps).metric.kind = c.metric.kind := by
  induction steps generalizing c with
  | nil => rfl
  | cons s steps ih => exact (ih (c.step s)).trans (kind_step c s)

/-- In every run of updates and readings of a new distribution fewer than 4096 values wait, and none
after a reading, which counts all updates. A new timer, whatever its clock does, shows two counts,
both of them the number of updates, the second one as 64 bits hold it. -/
theorem updates_counted (clock : Clock) (steps : List Step) (parts : MetricId → MetricParts) :
    (∃ s values, (run ⟨clock, .histogram .empty⟩ steps).metric = .histogram s ∧
      s.pending < 4096 ∧
      ((run ⟨clock, .histogram .empty⟩ steps).step .read).metric = .histogram s.drain ∧
      s.drain.pending = 0 ∧
      (run ⟨clock, .histogram .empty⟩ steps).snapshot parts = .histogram values ∧
      values.count = steps.countP (·.updates .histogram)) ∧
    (∃ durations rates,
      (run ⟨clock, .timer (.startingAt clock.now)⟩ steps).snapshot parts =
        .timer durations rates ∧
      durations.count = steps.countP (·.updates .timer) ∧
      rates.count.toNat = durations.count % 2 ^ 64) ∧
    (∃ durations rates lastSecond,
      (run ⟨clock, .throughputTimer (.startingAt clock.now)⟩ steps).snapshot parts =
        .throughputTimer durations rates lastSecond ∧
      durations.count = steps.countP (·.updates .throughputTimer) ∧
      rates.count.toNat = durations.count % 2 ^ 64) := by
  refine ⟨?_, ?_, ?_⟩
  · have kept := keeps_run (c := ⟨clock, .histogram .empty⟩) Metric.keeps_histogram steps
    obtain ⟨s, hs, few, all⟩ := kept.of_histogram (kind_run ⟨clock, _⟩ steps)
    have read : ((run ⟨clock, .histogram .empty⟩ steps).step .read).metric = .histogram s.drain := by
      rw [step, hs, Metric.catchUp]
    rw [Nat.zero_add] at all
    refine ⟨s, s.drain.summary, hs, few, read, s.pending_drain, ?_, ?_⟩
    · rw [snapshot, read, Metric.snapshot]
    · exact s.count_summary_drain.trans all
  · have kept := keeps_run (c := ⟨clock, _⟩) (Metric.keeps_timer clock.now) steps
    obtain ⟨t, ht, all, metered⟩ := kept.of_timer (kind_run ⟨clock, _⟩ steps)
    rw [Nat.zero_add] at all metered
    obtain ⟨counted, same⟩ := Timer.counts_shown all metered (run ⟨clock, _⟩ steps).clock.now
    exact ⟨_, _, by rw [snapshot, step, ht]; rfl, counted, same⟩
  · have kept := keeps_run (c := ⟨clock, _⟩) (Metric.keeps_throughputTimer clock.now) steps
    obtain ⟨t, ht, all, metered⟩ := kept.of_throughputTimer (kind_run ⟨clock, _⟩ steps)
    rw [Nat.zero_add] at all metered
    obtain ⟨counted, same⟩ := Timer.counts_shown all metered (run ⟨clock, _⟩ steps).clock.now
    exact ⟨_, _, _, by rw [snapshot, step, ht]; rfl, counted, same⟩

end Clocked

end Telemetry
