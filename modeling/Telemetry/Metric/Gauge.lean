import Telemetry.Metric.Counter
import Telemetry.Metric.Meter
import Telemetry.Metric.OneSecond
import Telemetry.Metric.Sampler
import Telemetry.Reading

/-!
Gauges: values that are worked out anew for every reading, from the time and from what the other
metrics hold. A reading makes metrics catch up one after another, and a gauge must not depend on how
far this has come.
-/

namespace Telemetry

/-- The identity of a metric within its registry. -/
abbrev MetricId := Nat

/-- What a metric holds, so far as it can be read. -/
structure MetricParts where
  counter? : Option Counter
  samples? : Option Sampler
  meter? : Option Meter
  lastSecond? : Option OneSecondCounter

namespace MetricParts

def none : MetricParts := ⟨.none, .none, .none, .none⟩

/-- Takes in what waits for a reading at `now`. -/
def catchUp (now : Nanos) (p : MetricParts) : MetricParts :=
  { p with samples? := p.samples?.map Sampler.drain, meter? := p.meter?.map (·.catchUp now) }

/-- The count of a counter. -/
def count (p : MetricParts) : Int64 := p.counter?.elim 0 Counter.count

end MetricParts

/-- What is worked out from the time and from what each metric holds. -/
abbrev Supplier (α : Type) := Nanos → (MetricId → MetricParts) → α

/-- Values that wait and ticks that are due make no difference. -/
def Supplier.Steady {α : Type} (f : Supplier α) : Prop :=
  ∀ now parts, (f now fun id => (parts id).catchUp now) = f now parts

/-- Anything may supply a gauge that tells the same before metrics catch up and after it. -/
structure Gauge where
  supplier : Supplier Reading
  steady : supplier.Steady

namespace Gauge

def fixed (value : Reading) : Gauge := ⟨fun _ _ => value, fun _ _ => rfl⟩

/-- The ratio of two numbers. One that is not finite is null. -/
def ratio (numerator denominator : Supplier Float) (hn : numerator.Steady)
    (hd : denominator.Steady) : Gauge where
  supplier now parts := .ofFloat (numerator now parts / denominator now parts)
  steady now parts := by simp only [hn now parts, hd now parts]

/-- The share that the count of a counter has in a whole. -/
def share (counter : MetricId) (whole : Float) : Gauge :=
  ratio (fun _ parts => (parts counter).count.toFloat) (fun _ _ => whole) (fun _ _ => rfl)
    fun _ _ => rfl

end Gauge

end Telemetry
