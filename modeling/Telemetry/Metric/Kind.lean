/-!
The kinds of metrics.
-/

namespace Telemetry

inductive Kind
  | gauge
  | counter
  | histogram
  | meter
  | throughputMeter
  | timer
  | throughputTimer
deriving DecidableEq, Repr

def Kind.text : Kind → String
  | .gauge => "gauge"
  | .counter => "counter"
  | .histogram => "histogram"
  | .meter => "meter"
  | .throughputMeter => "throughput meter"
  | .timer => "timer"
  | .throughputTimer => "throughput timer"

end Telemetry
