/-!
Between whole numbers of up to 64 bits and doubles.
-/

namespace Telemetry.Rounding

/-- The double nearest to `n`. -/
def double (n : Nat) : Float := n.toUInt64.toFloat

/-- The nearest whole number, a half going up. -/
def nearest (x : Float) : Nat :=
  let n := x.toUInt64
  if x - n.toFloat ≥ 0.5 then n.toNat + 1 else n.toNat

/-- The least whole number that is not below `x`. -/
def ceiling (x : Float) : Nat :=
  let n := x.toUInt64
  if n.toFloat < x then n.toNat + 1 else n.toNat

end Telemetry.Rounding
