import Telemetry.Metric.Meter
import Telemetry.Metric.Sampler

/-!
Timers: the distribution of durations in nanoseconds, and a meter of how often they occur.
-/

namespace Telemetry

structure Timer where
  durations : Sampler
  meter : Meter

namespace Timer

def startingAt (now : Nanos) : Timer := ⟨.empty, .startingAt now⟩

def count (t : Timer) : UInt64 := t.meter.count

def update (t : Timer) (now d : Nanos) : Timer :=
  ⟨t.durations.update d, t.meter.mark now 1⟩

/-- Takes in what waits for a reading at `now`. -/
def catchUp (t : Timer) (now : Nanos) : Timer := ⟨t.durations.drain, t.meter.catchUp now⟩

end Timer

/-- A measurement under way. -/
structure TimerContext where
  start : Nanos

/-- The time since the start, none if the clock has gone back. -/
def TimerContext.elapsed (c : TimerContext) (now : Nanos) : Nanos := now.since c.start

end Telemetry
