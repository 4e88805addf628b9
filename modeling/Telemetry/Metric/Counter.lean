/-!
Counters: a signed count that wraps around at 64 bits.
-/

namespace Telemetry

structure Counter where
  count : Int64
deriving DecidableEq

namespace Counter

def zero : Counter := ⟨0⟩

def add (c : Counter) (n : Int64) : Counter := ⟨c.count + n⟩

end Counter

end Telemetry
