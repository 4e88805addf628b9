import Telemetry.Metric.Counter
import Telemetry.Metric.Throughput
import Telemetry.Reading

/-!
What a metric shows at one moment, and how it is reported.
-/

namespace Telemetry

inductive Snapshot
  | gauge (value : Reading)
  | counter (count : Int64)
  | histogram (values : Summary)
  | meter (rates : Rates)
  | throughputMeter (rates : Rates) (lastSecond : UInt32)
  | timer (durations : Summary) (rates : Rates)
  | throughputTimer (durations : Summary) (rates : Rates) (lastSecond : UInt32)

namespace Snapshot

def typeName : Snapshot → String
  | .gauge _ => "gauge"
  | .counter _ => "counter"
  | .histogram _ => "histogram"
  | .meter _ | .throughputMeter _ _ => "meter"
  | .timer _ _ | .throughputTimer _ _ _ => "timer"

def quantileName (q : Quantile) : String := if q = .median then "median" else q.label

def valueFields (s : Summary) : List (String × Reading) :=
  [("count", .int s.count), ("min", .int s.min), ("max", .int s.max), ("mean", .ofFloat s.mean),
    ("stddev", .ofFloat s.stddev)] ++
    s.quantiles.map fun (q, v) => (quantileName q, .ofFloat (Rounding.double v))

/-- Durations are reported in milliseconds. -/
def milliseconds (nanos : Float) : Reading := .ofFloat (nanos / 1000000.0)

def durationFields (s : Summary) : List (String × Reading) :=
  [("min", milliseconds (Rounding.double s.min)), ("max", milliseconds (Rounding.double s.max)),
    ("mean", milliseconds s.mean), ("stddev", milliseconds s.stddev)] ++
    s.quantiles.map fun (q, v) => (quantileName q, milliseconds (Rounding.double v))

def rateFields (r : Rates) : List (String × Reading) :=
  [("count", .int r.count.toNat), ("meanRate", .ofFloat r.mean),
    ("oneMinuteRate", .ofFloat r.oneMinute), ("fiveMinuteRate", .ofFloat r.fiveMinutes),
    ("fifteenMinuteRate", .ofFloat r.fifteenMinutes), ("rate", .text "events/second")]

def lastSecondField (n : UInt32) : String × Reading := ("oneSecondRate", .int n.toNat)

def fields : Snapshot → List (String × Reading)
  | .gauge v => [("value", v)]
  | .counter n => [("count", .int n.toInt)]
  | .histogram s => valueFields s
  | .meter r => rateFields r
  | .throughputMeter r n => rateFields r ++ [lastSecondField n]
  | .timer s r => durationFields s ++ rateFields r
  | .throughputTimer s r n => durationFields s ++ rateFields r ++ [lastSecondField n]

def report (s : Snapshot) : Reading := .fields (("type", .text s.typeName) :: s.fields)

end Snapshot

end Telemetry
