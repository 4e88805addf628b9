import Telemetry.Metric.Gauge
import Telemetry.Metric.Kind
import Telemetry.Metric.Snapshot

/-!
Metrics of any kind, what can happen to them, and how they are read. A reading is preceded by
`Metric.catchUp`, which takes in what still waits and leaves the kind and all counts as they are.
-/

namespace Telemetry

inductive Metric
  | gauge (g : Gauge)
  | counter (c : Counter)
  | histogram (s : Sampler)
  | meter (m : Meter)
  | throughputMeter (m : ThroughputMeter)
  | timer (t : Timer)
  | throughputTimer (t : ThroughputTimer)

/-- What is recorded in a metric. -/
inductive Event
  | add (n : Int64)
  | mark (n : UInt64)
  | value (v : UInt64)
  | duration (d : Nanos)
deriving DecidableEq

namespace Metric

/-- A new metric of a kind. There is no gauge without something to read. -/
def new? (kind : Kind) (now : Nanos) : Option Metric :=
  match kind with
  | .gauge => none
  | .counter => some (.counter .zero)
  | .histogram => some (.histogram .empty)
  | .meter => some (.meter (.startingAt now))
  | .throughputMeter => some (.throughputMeter (.startingAt now))
  | .timer => some (.timer (.startingAt now))
  | .throughputTimer => some (.throughputTimer (.startingAt now))

def kind : Metric → Kind
  | .gauge _ => .gauge
  | .counter _ => .counter
  | .histogram _ => .histogram
  | .meter _ => .meter
  | .throughputMeter _ => .throughputMeter
  | .timer _ => .timer
  | .throughputTimer _ => .throughputTimer

theorem kind_of_new? {kind : Kind} {now : Nanos} {m : Metric} (h : new? kind now = some m) :
    m.kind = kind := by
  cases kind <;> simp_all [new?] <;> subst h <;> rfl

theorem new?_eq_none_iff {kind : Kind} {now : Nanos} : new? kind now = none ↔ kind = .gauge := by
  cases kind <;> simp [new?]

/-- The number of recorded events, or for a counter their balance. -/
def count : Metric → Int
  | .gauge _ => 0
  | .counter c => c.count.toInt
  | .histogram s => s.pending + s.intake.histogram.count
  | .meter m => m.count.toNat
  | .throughputMeter m => m.count.toNat
  | .timer t => t.count.toNat
  | .throughputTimer t => t.count.toNat

/-- Records an event at the time `now`. An event that a metric of this kind has none of is lost. -/
def record (now : Nanos) : Event → Metric → Metric
  | .add n, .counter c => .counter (c.add n)
  | .mark n, .meter m => .meter (m.mark now n)
  | .mark n, .throughputMeter m => .throughputMeter (m.mark now n)
  | .value v, .histogram s => .histogram (s.update v)
  | .duration d, .timer t => .timer (t.update now d)
  | .duration d, .throughputTimer t => .throughputTimer (t.update now d)
  | _, m => m

@[simp] theorem kind_record (now : Nanos) (e : Event) (m : Metric) :
    (m.record now e).kind = m.kind := by
  cases e <;> cases m <;> rfl

/-- Takes in what waits for a reading at `now`. -/
def catchUp (now : Nanos) : Metric → Metric
  | .gauge g => .gauge g
  | .counter c => .counter c
  | .histogram s => .histogram s.drain
  | .meter m => .meter (m.catchUp now)
  | .throughputMeter m => .throughputMeter (m.catchUp now)
  | .timer t => .timer (t.catchUp now)
  | .throughputTimer t => .throughputTimer (t.catchUp now)

/-- What there is to read besides gauges. -/
def parts : Metric → MetricParts
  | .gauge _ => .none
  | .counter c => { MetricParts.none with counter? := some c }
  | .histogram s => { MetricParts.none with samples? := some s }
  | .meter m => { MetricParts.none with meter? := some m }
  | .throughputMeter m =>
    { MetricParts.none with meter? := some m.meter, lastSecond? := some m.lastSecond }
  | .timer t => { MetricParts.none with samples? := some t.durations, meter? := some t.meter }
  | .throughputTimer t =>
    ⟨none, some t.timer.durations, some t.timer.meter, some t.lastSecond⟩

theorem parts_catchUp (now : Nanos) (m : Metric) :
    (m.catchUp now).parts = m.parts.catchUp now := by
  cases m <;> rfl

@[simp] theorem kind_catchUp (now : Nanos) (m : Metric) : (m.catchUp now).kind = m.kind := by
  cases m <;> rfl

/-- What a metric that has caught up shows; `parts` is what gauges read. -/
def snapshot (parts : MetricId → MetricParts) (now : Nanos) : Metric → Snapshot
  | .gauge g => .gauge (g.supplier now parts)
  | .counter c => .counter c.count
  | .histogram s => .histogram s.summary
  | .meter m => .meter (m.rates now)
  | .throughputMeter m => .throughputMeter (m.meter.rates now) (m.oneSecondRate now)
  | .timer t => .timer t.durations.summary (t.meter.rates now)
  | .throughputTimer t =>
    .throughputTimer t.timer.durations.summary (t.timer.meter.rates now) (t.oneSecondRate now)

/-- The text of a handle for a log. -/
def handleText (m : Metric) : String := "AnyMetric(" ++ m.kind.text ++ ")"

/-- A short text for a log. -/
def debugText : Metric → String
  | .gauge _ => "Gauge \x7b .. \x7d"
  | .counter c => "Counter \x7b count: " ++ toString c.count.toInt ++ " \x7d"
  | .histogram s => "Histogram \x7b pending: " ++ toString s.pending ++ ", .. \x7d"
  | .meter m => "Meter \x7b count: " ++ toString m.count.toNat ++ ", .. \x7d"
  | .throughputMeter m => "ThroughputMeter \x7b count: " ++ toString m.count.toNat ++ ", .. \x7d"
  | .timer t => "Timer \x7b count: " ++ toString t.count.toNat ++ ", .. \x7d"
  | .throughputTimer t => "ThroughputTimer \x7b count: " ++ toString t.count.toNat ++ ", .. \x7d"

end Metric

end Telemetry
