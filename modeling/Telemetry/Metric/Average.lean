import Telemetry.Number.Rounding

/-!
Exponentially weighted moving averages of a rate. What was counted since the last tick enters the
rate with the next one; ticks are five seconds apart.
-/

namespace Telemetry

/-- How far back an average looks. -/
inductive Span
  | oneMinute
  | fiveMinutes
  | fifteenMinutes
deriving DecidableEq

structure Average where
  /-- The weight of the newest interval. -/
  alpha : Float
  uncounted : UInt64
  rate : Float
  /-- Whether there was a tick. -/
  started : Bool
deriving DecidableEq

namespace Average

def ofAlpha (alpha : Float) : Average := ⟨alpha, 0, 0.0, false⟩

/-- The weights are `1 - exp (-5 / 60 / n)` for the number of minutes `n`. -/
def oneMinute : Average := ofAlpha (Float.ofBits 0x3fb477f8204cb218)

def fiveMinutes : Average := ofAlpha (Float.ofBits 0x3f90ecdbf52574e0)

def fifteenMinutes : Average := ofAlpha (Float.ofBits 0x3f76b1453a243300)

def ofSpan : Span → Average
  | .oneMinute => oneMinute
  | .fiveMinutes => fiveMinutes
  | .fifteenMinutes => fifteenMinutes

def count (a : Average) (n : UInt64) : Average := { a with uncounted := a.uncounted + n }

/-- The first tick takes the rate of its interval as it is. -/
def tick (a : Average) : Average :=
  let instant := a.uncounted.toFloat / 5.0
  { a with
    uncounted := 0
    rate := if a.started then a.rate + a.alpha * (instant - a.rate) else instant
    started := true }

/-- The given number of ticks, up to one that changes nothing. -/
def ticks : Nat → Average → Average
  | 0, a => a
  | n + 1, a => if a.tick = a then a else ticks n a.tick

theorem ticks_of_tick_eq {a : Average} (h : a.tick = a) (n : Nat) : ticks n a = a := by
  cases n <;> simp [ticks, h]

theorem ticks_succ (n : Nat) (a : Average) : ticks (n + 1) a = ticks n a.tick := by
  by_cases h : a.tick = a
  · rw [h, ticks_of_tick_eq h, ticks_of_tick_eq h]
  · simp [ticks, h]

end Average

end Telemetry
