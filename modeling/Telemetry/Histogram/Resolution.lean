/-!
Slots of values. Small values have a slot each; from a power of two on, a slot holds as many values
as keep its relative width below the resolution, which is a number of significant decimal digits.
-/

namespace Telemetry

/-- The number of decimal digits that are told apart. -/
structure Resolution where
  digits : Nat
  digits_le : digits ≤ 5
deriving DecidableEq

namespace Resolution

def ofDigits? (n : Nat) : Option Resolution :=
  if h : n ≤ 5 then some ⟨n, h⟩ else none

def standard : Resolution := ⟨3, by decide⟩

/-- The values below two to this power have a slot each. -/
def bits (r : Resolution) : Nat := Nat.log2 (2 * Nat.pow 10 r.digits - 1) + 1

/-- The number of values in the slot of `v`. -/
def width (r : Resolution) (v : Nat) : Nat := Nat.pow 2 (v.log2 + 1 - r.bits)

theorem width_pos (r : Resolution) (v : Nat) : 0 < r.width v := Nat.two_pow_pos _

/-- The least value in the slot of `v`. -/
def lowest (r : Resolution) (v : Nat) : Nat := v / r.width v * r.width v

/-- A value lies in its slot. -/
theorem lies_in_slot (r : Resolution) (v : Nat) : r.lowest v ≤ v ∧ v < r.lowest v + r.width v :=
  ⟨Nat.div_mul_le_self _ _, Nat.lt_div_mul_add (r.width_pos v)⟩

/-- The greatest value in the slot of `v`, but one less in the last slot of 64 bits. -/
def highest (r : Resolution) (v : Nat) : Nat := min (r.lowest v + r.width v) (UInt64.size - 1) - 1

/-- The value that stands for the slot of `v` in a mean. -/
def middle (r : Resolution) (v : Nat) : Nat := r.lowest v + r.width v / 2

end Resolution

end Telemetry
