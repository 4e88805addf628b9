import Telemetry.Metric.OneSecond
import Telemetry.Metric.Timer

/-!
Meters and timers that also know the number of events of the last second.
-/

namespace Telemetry

structure ThroughputMeter where
  meter : Meter
  lastSecond : OneSecondCounter

namespace ThroughputMeter

def startingAt (now : Nanos) : ThroughputMeter := ⟨.startingAt now, .zero⟩

def count (m : ThroughputMeter) : UInt64 := m.meter.count

def mark (m : ThroughputMeter) (now : Nanos) (n : UInt64) : ThroughputMeter :=
  ⟨m.meter.mark now n, m.lastSecond.mark now.seconds n⟩

def oneSecondRate (m : ThroughputMeter) (now : Nanos) : UInt32 := m.lastSecond.rate now.seconds

def catchUp (m : ThroughputMeter) (now : Nanos) : ThroughputMeter :=
  { m with meter := m.meter.catchUp now }

end ThroughputMeter

structure ThroughputTimer where
  timer : Timer
  lastSecond : OneSecondCounter

namespace ThroughputTimer

def startingAt (now : Nanos) : ThroughputTimer := ⟨.startingAt now, .zero⟩

def count (t : ThroughputTimer) : UInt64 := t.timer.count

def update (t : ThroughputTimer) (now d : Nanos) : ThroughputTimer :=
  ⟨t.timer.update now d, t.lastSecond.mark now.seconds 1⟩

def oneSecondRate (t : ThroughputTimer) (now : Nanos) : UInt32 := t.lastSecond.rate now.seconds

def catchUp (t : ThroughputTimer) (now : Nanos) : ThroughputTimer :=
  { t with timer := t.timer.catchUp now }

end ThroughputTimer

end Telemetry
