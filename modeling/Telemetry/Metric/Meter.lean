import Telemetry.Clock
import Telemetry.Metric.Average

/-!
Event counts with their mean rate and their moving averages over one, five and fifteen minutes. The
averages tick when they are needed: before a mark and before a reading.
-/

namespace Telemetry

/-- A count with its rates, in events per second. -/
structure Rates where
  count : UInt64
  mean : Float
  oneMinute : Float
  fiveMinutes : Float
  fifteenMinutes : Float

structure Meter where
  count : UInt64
  start : Nanos
  lastTick : Nanos
  oneMinute : Average
  fiveMinutes : Average
  fifteenMinutes : Average
deriving DecidableEq

namespace Meter

def tickInterval : UInt64 := 5000000000

def startingAt (now : Nanos) : Meter :=
  ⟨0, now, now, .oneMinute, .fiveMinutes, .fifteenMinutes⟩

def average (m : Meter) : Span → Average
  | .oneMinute => m.oneMinute
  | .fiveMinutes => m.fiveMinutes
  | .fifteenMinutes => m.fifteenMinutes

def ticks (m : Meter) (n : Nat) : Meter :=
  { m with
    oneMinute := m.oneMinute.ticks n
    fiveMinutes := m.fiveMinutes.ticks n
    fifteenMinutes := m.fifteenMinutes.ticks n }

/-- Makes up for the intervals that ended before `now`. One that ends just then still waits. -/
def catchUp (m : Meter) (now : Nanos) : Meter :=
  let age := Nanos.since now m.lastTick
  if age ≤ tickInterval then m
  else { m.ticks (age / tickInterval).toNat with lastTick := now - age % tickInterval }

/-- Counts `n` events. -/
def mark (m : Meter) (now : Nanos) (n : UInt64) : Meter :=
  let m := m.catchUp now
  { m with
    count := m.count + n
    oneMinute := m.oneMinute.count n
    fiveMinutes := m.fiveMinutes.count n
    fifteenMinutes := m.fifteenMinutes.count n }

def meanRate (m : Meter) (now : Nanos) : Float :=
  let elapsed := Nanos.since now m.start
  if m.count = 0 ∨ elapsed = 0 then 0.0
  else m.count.toFloat / (elapsed.toFloat / 1000000000.0)

/-- The rates of a meter that has caught up. -/
def rates (m : Meter) (now : Nanos) : Rates :=
  ⟨m.count, m.meanRate now, m.oneMinute.rate, m.fiveMinutes.rate, m.fifteenMinutes.rate⟩

/-- A moving average, and the meter that has caught up for it. -/
def rate (m : Meter) (now : Nanos) (span : Span) : Float × Meter :=
  let m := m.catchUp now
  ((m.average span).rate, m)

/-- All rates at once, and the meter that has caught up for them. -/
def snapshot (m : Meter) (now : Nanos) : Rates × Meter :=
  let m := m.catchUp now
  (m.rates now, m)

end Meter

end Telemetry
