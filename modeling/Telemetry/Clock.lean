/-!
Time as nanoseconds since a fixed but arbitrary origin, in 64 bits, and a clock that moves only when
it is told to.
-/

namespace Telemetry

abbrev Nanos := UInt64

namespace Nanos

/-- A duration of any length, cut off at the longest that 64 bits hold. -/
def ofNat (n : Nat) : Nanos := UInt64.ofNat (min n (UInt64.size - 1))

def perSecond : UInt64 := 1000000000

def seconds (t : Nanos) : UInt64 := t / perSecond

/-- The time from `start` to `t`, none if `t` is earlier. -/
def since (t start : Nanos) : Nanos := if start ≤ t then t - start else 0

end Nanos

structure Clock where
  now : Nanos
deriving DecidableEq

namespace Clock

def startingAt (t : Nanos) : Clock := ⟨t⟩

/-- The reading wraps around at 64 bits. -/
def advance (c : Clock) (d : Nanos) : Clock := ⟨c.now + d⟩

def set (_ : Clock) (t : Nanos) : Clock := ⟨t⟩

def seconds (c : Clock) : UInt64 := Nanos.seconds c.now

end Clock

end Telemetry
