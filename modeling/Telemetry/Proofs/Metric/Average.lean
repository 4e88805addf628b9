import Mathlib.Algebra.BigOperators.Group.List.Basic
import Mathlib.Algebra.Ring.Nat
import Telemetry.Metric.Average

/-!
What the ticks of an average take in. Only the first of several ticks finds anything uncounted, and
an average is told by what its ticks took in and what is still uncounted.
-/

namespace Telemetry.Average

/-- What each of so many ticks takes in. -/
def taken : Nat → Average → List UInt64
  | 0, _ => []
  | n + 1, a => a.uncounted :: taken n a.tick

/-- An average after one tick for each of these counts. -/
def fed (a : Average) (counts : List UInt64) : Average :=
  counts.foldl (fun a n => (a.count n).tick) a

@[simp] theorem ticks_zero (a : Average) : ticks 0 a = a := rfl

@[simp] theorem uncounted_tick (a : Average) : a.tick.uncounted = 0 := rfl

@[simp] theorem uncounted_count (a : Average) (n : UInt64) :
    (a.count n).uncounted = a.uncounted + n := rfl

@[simp] theorem count_zero (a : Average) : a.count 0 = a := by
  simp [count]

theorem count_count (a : Average) (m n : UInt64) : (a.count m).count n = a.count (m + n) := by
  simp [count, UInt64.add_assoc]

theorem ticks_add (m n : Nat) (a : Average) : ticks (m + n) a = ticks n (ticks m a) := by
  induction m generalizing a with
  | zero => simp
  | succ m ih => rw [Nat.succ_add, ticks_succ, ticks_succ, ih]

theorem uncounted_ticks (n : Nat) (a : Average) :
    (ticks n a).uncounted = if n = 0 then a.uncounted else 0 := by
  induction n generalizing a with
  | zero => rfl
  | succ n ih => rw [ticks_succ, ih]; simp

/-! ### What ticks take in -/

theorem taken_add (m n : Nat) (a : Average) :
    taken (m + n) a = taken m a ++ taken n (ticks m a) := by
  induction m generalizing a with
  | zero => simp [taken]
  | succ m ih => rw [Nat.succ_add, taken, ticks_succ, ih, taken, List.cons_append]

@[simp] theorem length_taken (n : Nat) (a : Average) : (taken n a).length = n := by
  induction n generalizing a with
  | zero => rfl
  | succ n ih => simp [taken, ih]

theorem taken_eq_replicate {a : Average} (h : a.uncounted = 0) (n : Nat) :
    taken n a = List.replicate n 0 := by
  induction n generalizing a with
  | zero => rfl
  | succ n ih => rw [taken, h, ih a.uncounted_tick, List.replicate_succ]

/-- The first tick takes in all that is uncounted, and the others nothing. -/
theorem taken_succ (n : Nat) (a : Average) :
    taken (n + 1) a = a.uncounted :: List.replicate n 0 := by
  rw [taken, taken_eq_replicate a.uncounted_tick]

theorem taken_congr {a b : Average} (h : a.uncounted = b.uncounted) (n : Nat) :
    taken n a = taken n b := by
  cases n with
  | zero => rfl
  | succ n => rw [taken_succ, taken_succ, h]

/-- Ticks lose nothing. -/
theorem sum_taken (n : Nat) (a : Average) :
    ((taken n a).map UInt64.toNat).sum + (ticks n a).uncounted.toNat = a.uncounted.toNat := by
  cases n with
  | zero => simp [taken]
  | succ n => simp [taken_succ, uncounted_ticks]

/-! ### Averages told by what they took in -/

/-- The average has taken in these counts since it was `a`. -/
def TookIn (a : Average) (counts : List UInt64) (b : Average) : Prop :=
  b = (a.fed counts).count b.uncounted

variable {a b : Average} {counts : List UInt64}

theorem fed_append (a : Average) (counts : List UInt64) (n : UInt64) :
    a.fed (counts ++ [n]) = ((a.fed counts).count n).tick := by
  simp [fed]

theorem TookIn.tick (h : a.TookIn counts b) : a.TookIn (counts ++ [b.uncounted]) b.tick := by
  rw [TookIn, fed_append, ← h, uncounted_tick, count_zero]

theorem TookIn.ticks (h : a.TookIn counts b) (n : Nat) :
    a.TookIn (counts ++ taken n b) (ticks n b) := by
  induction n generalizing b counts with
  | zero => simpa [taken] using h
  | succ n ih =>
    rw [ticks_succ, taken, ← List.singleton_append, ← List.append_assoc]
    exact ih h.tick

theorem TookIn.count (h : a.TookIn counts b) (n : UInt64) : a.TookIn counts (b.count n) := by
  rw [TookIn, uncounted_count, ← count_count, ← h]

end Telemetry.Average
