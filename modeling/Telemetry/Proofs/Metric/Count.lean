import Mathlib.Data.BitVec
import Telemetry.Metric.Basic
import Telemetry.Proofs.Metric.Meter

/-!
The counts of metrics as 64 bits hold them. An event adds the same amount to each metric that takes
it, whatever else it leaves there and whoever looks in between.
-/

namespace Telemetry

/-- The metrics that take an event, by their kinds. -/
def Event.suits : Event → Kind → Bool
  | .add _, .counter => true
  | .mark _, .meter | .mark _, .throughputMeter => true
  | .value _, .histogram => true
  | .duration _, .timer | .duration _, .throughputTimer => true
  | _, _ => false

/-- What an event adds to the count of a metric that takes it. -/
def Event.amount : Event → BitVec 64
  | .add n => n.toBitVec
  | .mark n => n.toBitVec
  | .value _ | .duration _ => 1

theorem Intake.count_merge (i : Intake) :
    i.merge.histogram.count = i.waiting.size + i.histogram.count := by
  have taken (vs : List Nat) (h : Histogram) :
      (vs.foldl Histogram.record h).count = vs.length + h.count := by
    induction vs generalizing h with
    | nil => simp
    | cons v vs ih =>
      rw [List.foldl_cons, ih, Histogram.count_record, List.length_cons]
      omega
  rw [merge, ← Array.foldl_toList, taken, Array.length_toList]

namespace Sampler

/-- All values, whether or not they are in the histogram yet. -/
def count (s : Sampler) : Nat := s.pending + s.intake.histogram.count

@[simp] theorem count_drain (s : Sampler) : s.drain.count = s.count := by
  simp [count, drain, pending, Intake.count_merge]

@[simp] theorem count_update (s : Sampler) (v : UInt64) : (s.update v).count = s.count + 1 := by
  have pushed : (⟨s.intake.push v.toNat⟩ : Sampler).count = s.count + 1 := by
    simp only [count, pending, Intake.size_push]
    exact Nat.add_right_comm ..
  rw [update]
  split
  · rw [count_drain, pushed]
  · exact pushed

end Sampler

@[simp] theorem Meter.count_mark (m : Meter) (now : Nanos) (n : UInt64) :
    (m.mark now n).count = m.count + n := by
  simp [mark]

namespace Metric

variable {m : Metric} {now : Nanos} {e : Event} {kind : Kind}

/-- The count as 64 bits hold it. -/
def word (m : Metric) : BitVec 64 := .ofInt 64 m.count

theorem word_counter (c : Counter) : (counter c).word = c.count.toBitVec := BitVec.ofInt_toInt

theorem word_histogram (s : Sampler) : (histogram s).word = .ofNat 64 s.count :=
  BitVec.ofInt_natCast 64 s.count

/-- Meters and timers count in 64 bits already. -/
theorem word_of_toNat {m : Metric} {n : UInt64} (h : m.count = n.toNat) : m.word = n.toBitVec := by
  rw [word, h, BitVec.ofInt_natCast]
  exact BitVec.ofNat_toNat ..

theorem word_meter (m : Meter) : (meter m).word = m.count.toBitVec := word_of_toNat rfl

theorem word_throughputMeter (m : ThroughputMeter) :
    (throughputMeter m).word = m.meter.count.toBitVec := word_of_toNat rfl

theorem word_timer (t : Timer) : (timer t).word = t.meter.count.toBitVec := word_of_toNat rfl

theorem word_throughputTimer (t : ThroughputTimer) :
    (throughputTimer t).word = t.timer.meter.count.toBitVec := word_of_toNat rfl

theorem word_of_new? (h : new? kind now = some m) : m.word = 0 := by
  cases kind <;> cases h <;> rfl

theorem word_record (h : e.suits m.kind) : (m.record now e).word = m.word + e.amount := by
  cases m with
  | gauge => cases e <;> cases h
  | counter c =>
    cases e with
    | add n =>
      change (counter (c.add n)).word = (counter c).word + n.toBitVec
      rw [word_counter, word_counter]
      rfl
    | _ => cases h
  | histogram s =>
    cases e with
    | value v =>
      change (histogram (s.update v)).word = (histogram s).word + 1
      rw [word_histogram, word_histogram, Sampler.count_update, BitVec.ofNat_add]
      rfl
    | _ => cases h
  | meter m =>
    cases e with
    | mark n =>
      change (meter (m.mark now n)).word = (meter m).word + n.toBitVec
      rw [word_meter, word_meter, Meter.count_mark]
      rfl
    | _ => cases h
  | throughputMeter m =>
    cases e with
    | mark n =>
      change (throughputMeter (m.mark now n)).word = (throughputMeter m).word + n.toBitVec
      rw [word_throughputMeter, word_throughputMeter, ThroughputMeter.mark, Meter.count_mark]
      rfl
    | _ => cases h
  | timer t =>
    cases e with
    | duration d =>
      change (timer (t.update now d)).word = (timer t).word + 1
      rw [word_timer, word_timer, Timer.update, Meter.count_mark]
      rfl
    | _ => cases h
  | throughputTimer t =>
    cases e with
    | duration d =>
      change (throughputTimer (t.update now d)).word = (throughputTimer t).word + 1
      rw [word_throughputTimer, word_throughputTimer, ThroughputTimer.update, Timer.update,
        Meter.count_mark]
      rfl
    | _ => cases h

/-- A reading changes no count. -/
@[simp] theorem word_catchUp (m : Metric) (now : Nanos) : (m.catchUp now).word = m.word := by
  cases m with
  | gauge => rfl
  | counter => rfl
  | histogram s => simp only [catchUp, word_histogram, Sampler.count_drain]
  | meter m => simp only [catchUp, word_meter, Meter.count_catchUp]
  | throughputMeter m =>
    simp only [catchUp, word_throughputMeter, ThroughputMeter.catchUp, Meter.count_catchUp]
  | timer t => simp only [catchUp, word_timer, Timer.catchUp, Meter.count_catchUp]
  | throughputTimer t =>
    simp only [catchUp, word_throughputTimer, ThroughputTimer.catchUp, Timer.catchUp,
      Meter.count_catchUp]

end Metric

end Telemetry
