import Mathlib.Algebra.Order.Field.Power
import Mathlib.Data.Int.Log
import Mathlib.Data.Rat.Floor
import Mathlib.Tactic.FieldSimp
import Mathlib.Tactic.Linarith
import Mathlib.Tactic.Ring

/-!
Rounding to 53 binary digits. What a number is rounded to is a whole number of its last places, at
most half of one away from it. So a number that needs no more than these digits stays as it is, and
any other one changes by at most one part in 2 ^ 53, or by half of the least double.
-/

namespace Telemetry.Double

open Float.Model Float.Model.UnpackedFloat

/-! ### Places -/

section Place

variable {q v w : ℚ} {n : ℕ} {e : ℤ}

/-- The power of two that the last digit stands for. -/
def place (q : ℚ) : ℤ := max (Int.log 2 q - 52) (-1074)

/-- `v` is a number that `q` can be rounded to. -/
structure Nearest (q v : ℚ) : Prop where
  whole : ∃ n : ℤ, v = n * 2 ^ place q
  close : |v - q| ≤ 2 ^ place q / 2

theorem two_zpow_pos (e : ℤ) : (0 : ℚ) < 2 ^ e := zpow_pos two_pos e

theorem le_log_iff (hq : 0 < q) : e ≤ Int.log 2 q ↔ 2 ^ e ≤ q := by
  exact_mod_cast (Int.zpow_le_iff_le_log one_lt_two hq).symm

theorem log_lt_iff (hq : 0 < q) : Int.log 2 q < e ↔ q < 2 ^ e := by
  exact_mod_cast (Int.lt_zpow_iff_log_lt one_lt_two hq).symm

theorem log_eq (hl : 2 ^ e ≤ q) (hu : q < 2 ^ (e + 1)) : Int.log 2 q = e := by
  have pos : 0 < q := (two_zpow_pos e).trans_le hl
  have above := (le_log_iff pos).mpr hl
  have below := (log_lt_iff pos).mpr hu
  omega

/-- Two whole numbers of places that are at most half a place apart are in order. -/
theorem le_of_half {a b : ℤ} {u : ℚ} (pos : 0 < u) (h : a * u - b * u ≤ u / 2) : a ≤ b := by
  have half : (a - b : ℚ) * u ≤ 1 / 2 * u := by linarith
  have less : ((a - b : ℤ) : ℚ) < 1 := by
    push_cast
    exact (le_of_mul_le_mul_right half pos).trans_lt (by norm_num)
  have : a - b < 1 := mod_cast less
  omega

/-- Rounding up does not go past a whole number of last places. -/
theorem Nearest.le_of_le (h : Nearest q v) (hw : ∃ n : ℤ, w = n * 2 ^ place q) (le : q ≤ w) :
    v ≤ w := by
  obtain ⟨⟨a, rfl⟩, close⟩ := h
  obtain ⟨b, rfl⟩ := hw
  have pos := two_zpow_pos (place q)
  have order : a ≤ b := le_of_half pos (by linarith [le_of_abs_le close])
  gcongr

/-- Rounding down does not go past a whole number of last places. -/
theorem Nearest.ge_of_ge (h : Nearest q v) (hw : ∃ n : ℤ, w = n * 2 ^ place q) (le : w ≤ q) :
    w ≤ v := by
  obtain ⟨⟨a, rfl⟩, close⟩ := h
  obtain ⟨b, rfl⟩ := hw
  have pos := two_zpow_pos (place q)
  have order : b ≤ a := le_of_half pos (by linarith [neg_le_of_abs_le close])
  gcongr

theorem Nearest.eq_of_whole (h : Nearest q v) (hq : ∃ n : ℤ, q = n * 2 ^ place q) : v = q :=
  (h.le_of_le hq le_rfl).antisymm (h.ge_of_ge hq le_rfl)

theorem Nearest.nonneg (h : Nearest q v) (hq : 0 ≤ q) : 0 ≤ v := h.ge_of_ge ⟨0, by simp⟩ hq

theorem place_le (hn : n < 2 ^ 53) (he : -1074 ≤ e) (pos : 0 < n) : place (n * 2 ^ e) ≤ e := by
  have below : (n * 2 ^ e : ℚ) < 2 ^ (53 + e) := by
    rw [zpow_add₀ two_ne_zero]
    exact mul_lt_mul_of_pos_right (mod_cast hn) (two_zpow_pos e)
  have log := (log_lt_iff (by have := two_zpow_pos e; positivity)).mpr below
  rw [place]
  omega

theorem whole_of_place_le (h : place q ≤ e) (n : ℤ) : ∃ m : ℤ, (n * 2 ^ e : ℚ) = m * 2 ^ place q := by
  refine ⟨n * 2 ^ (e - place q).toNat, ?_⟩
  push_cast
  rw [mul_assoc, ← zpow_natCast, ← zpow_add₀ two_ne_zero]
  congr 2
  omega

/-- What needs no more digits than there are stays as it is. -/
theorem Nearest.eq (h : Nearest (n * 2 ^ e) v) (hn : n < 2 ^ 53) (he : -1074 ≤ e) :
    v = n * 2 ^ e := by
  refine h.eq_of_whole ?_
  obtain rfl | pos := n.eq_zero_or_pos
  · exact ⟨0, by simp⟩
  · exact whole_of_place_le (place_le hn he pos) n

theorem Nearest.le_one (h : Nearest q v) (hq : 0 < q) (le : q ≤ 1) : v ≤ 1 := by
  have log : Int.log 2 q < 1 := (log_lt_iff hq).mpr (le.trans_lt (by norm_num))
  refine h.le_of_le ?_ le
  simpa using @whole_of_place_le q 0 (by rw [place]; omega) 1

theorem Nearest.eq_zero (h : Nearest 0 v) : v = 0 := h.eq_of_whole ⟨0, by simp⟩

theorem Nearest.error_le (h : Nearest q v) (hq : 0 ≤ q) :
    |v - q| ≤ max (q / 2 ^ 53) (2 ^ (-1075 : ℤ)) := by
  obtain rfl | pos := hq.eq_or_lt
  · rw [h.eq_zero, sub_zero, abs_zero]
    exact le_max_of_le_right (two_zpow_pos _).le
  refine h.close.trans ?_
  obtain normal | subnormal := le_total (-1074) (Int.log 2 q - 52)
  · refine le_max_of_le_left ?_
    have le := (le_log_iff pos).mp le_rfl
    rw [place, max_eq_left normal, zpow_sub₀ two_ne_zero]
    calc (2 : ℚ) ^ Int.log 2 q / 2 ^ (52 : ℤ) / 2 = 2 ^ Int.log 2 q / 2 ^ 53 := by
          rw [div_div]
          norm_num
      _ ≤ q / 2 ^ 53 := by gcongr
  · refine le_max_of_le_right ?_
    rw [place, max_eq_right subnormal]
    exact (zpow_sub_one₀ two_ne_zero (-1074)).ge

end Place

/-! ### Mantissas -/

section Mantissa

variable {em : ExtendedMantissa} {x : ℚ}

/-- The mantissa is `x` without its fraction, of which the two bits tell what is to be known. -/
def Holds (em : ExtendedMantissa) (x : ℚ) : Prop :=
  match em with
  | ⟨m, false, false⟩ => x = m
  | ⟨m, false, true⟩ => m < x ∧ x < m + 1 / 2
  | ⟨m, true, false⟩ => x = m + 1 / 2
  | ⟨m, true, true⟩ => m + 1 / 2 < x ∧ x < m + 1

theorem Holds.bounds (h : Holds em x) : em.mantissa ≤ x ∧ x < em.mantissa + 1 := by
  obtain ⟨m, r, s⟩ := em
  cases r <;> cases s <;> simp only [Holds] at h ⊢ <;> constructor <;> linarith

theorem Holds.shiftRightOne (h : Holds em x) : Holds em.shiftRightOne (x / 2) := by
  obtain ⟨m, r, s⟩ := em
  obtain ⟨k, rfl | rfl⟩ := m.even_or_odd'
  · have half : 2 * k / 2 = k := by omega
    cases r <;> cases s <;> simp [Holds, ExtendedMantissa.shiftRightOne, half] at h ⊢ <;>
      first | linarith | constructor <;> linarith
  · have half : (2 * k + 1) / 2 = k := by omega
    cases r <;> cases s <;> simp [Holds, ExtendedMantissa.shiftRightOne, half] at h ⊢ <;>
      first | linarith | constructor <;> linarith

theorem Holds.shiftRight (h : Holds em x) (k : ℕ) : Holds (em >>> k) (x / 2 ^ k) := by
  induction k with
  | zero => simpa [HShiftRight.hShiftRight, Nat.repeat] using h
  | succ k ih =>
    rw [pow_succ, ← div_div]
    exact ih.shiftRightOne

theorem Holds.rounded (h : Holds em x) : |em.roundedMantissa - x| ≤ 1 / 2 := by
  obtain ⟨m, r, s⟩ := em
  rw [abs_le]
  cases r <;> cases s <;>
    simp only [Holds, ExtendedMantissa.roundedMantissa, ExtendedMantissa.accuracy,
      Accuracy.roundToNearestEven] at h ⊢
  · constructor <;> linarith
  · constructor <;> linarith
  · obtain even | odd := m.mod_two_eq_zero_or_one <;> simp only [*] <;> push_cast <;>
      constructor <;> linarith
  · push_cast
    constructor <;> linarith

theorem mantissa_ofMantissaAndAccuracy (m : ℕ) (a : Accuracy) :
    (ExtendedMantissa.ofMantissaAndAccuracy m a).mantissa = m := by
  rcases a with _ | _ | _ | _ <;> rfl

theorem holds_exact (m : ℕ) : Holds (.ofMantissaAndAccuracy m .exact) m := rfl

theorem holds_fraction (n : ℕ) {d : ℕ} (hd : 0 < d) :
    Holds (.ofMantissaAndAccuracy (n / d) (accuracyOfFraction (n % d) d)) (n / d) := by
  have pos : (0 : ℚ) < d := mod_cast hd
  have less : (n % d : ℕ) / (d : ℚ) < 1 := (div_lt_one pos).mpr (mod_cast Nat.mod_lt n hd)
  have split : (n / d : ℚ) = (n / d : ℕ) + (n % d : ℕ) / (d : ℚ) := by
    rw [← mul_right_inj' pos.ne', mul_add, mul_div_cancel₀ _ pos.ne', mul_div_cancel₀ _ pos.ne']
    exact_mod_cast (Nat.div_add_mod n d).symm
  rw [split]
  generalize n / d = a at *
  generalize n % d = r at *
  obtain rfl | more := r.eq_zero_or_pos
  · simp [accuracyOfFraction, holds_exact]
  · have above : (0 : ℚ) < r / d := div_pos (mod_cast more) pos
    rw [accuracyOfFraction, if_neg more.ne']
    rcases order : compare (2 * r) d with _ | _ | _
    · have : (r / d : ℚ) < 1 / 2 := by
        rw [div_lt_div_iff₀ pos two_pos]
        exact_mod_cast (by have := compare_lt_iff_lt.mp order; omega : r * 2 < 1 * d)
      simp only [ExtendedMantissa.ofMantissaAndAccuracy, Holds]
      constructor <;> linarith
    · have : (r / d : ℚ) = 1 / 2 := by
        rw [div_eq_div_iff pos.ne' two_ne_zero]
        exact_mod_cast (by have := compare_eq_iff_eq.mp order; omega : r * 2 = 1 * d)
      simp only [ExtendedMantissa.ofMantissaAndAccuracy, Holds]
      linarith
    · have : 1 / 2 < (r / d : ℚ) := by
        rw [div_lt_div_iff₀ two_pos pos]
        exact_mod_cast (by have := compare_gt_iff_gt.mp order; omega : 1 * d < r * 2)
      simp only [ExtendedMantissa.ofMantissaAndAccuracy, Holds]
      constructor <;> linarith

end Mantissa

/-! ### Rounding -/

section Rounding

variable {q : ℚ} {m r : ℕ} {e t : ℤ} {a : Accuracy}

theorem target_eq (m : ℕ) (e : ℤ) :
    Format.binary64.targetExponent (totalExponent m e) = max (m.log2 + e - 52) (-1074) := by
  have target (k : ℤ) : Format.binary64.targetExponent k = max (k - 53) (-1074) := rfl
  rw [target, totalExponent]
  omega

theorem log_eq_log2 (hm : 0 < m) (hl : m * 2 ^ e ≤ q) (hu : q < (m + 1) * 2 ^ e) :
    Int.log 2 q = m.log2 + e := by
  have pos := two_zpow_pos e
  refine log_eq ?_ ?_
  · refine le_trans ?_ hl
    rw [zpow_add₀ two_ne_zero, zpow_natCast]
    gcongr
    exact_mod_cast Nat.log2_self_le hm.ne'
  · refine hu.trans_le ?_
    rw [add_right_comm, zpow_add₀ two_ne_zero]
    gcongr
    exact_mod_cast Nat.lt_log2_self

/-- How many last places there are in a number. -/
theorem scaled_bounds (hq : 0 < q) :
    (place q ≠ -1074 → 2 ^ 52 ≤ q / 2 ^ place q) ∧ q / 2 ^ place q < 2 ^ 53 := by
  have pos := two_zpow_pos (place q)
  rw [le_div_iff₀ pos, div_lt_iff₀ pos, ← zpow_natCast, ← zpow_natCast, ← zpow_add₀ two_ne_zero,
    ← zpow_add₀ two_ne_zero]
  constructor
  · intro normal
    rw [← le_log_iff hq]
    rw [place] at *
    omega
  · rw [← log_lt_iff hq, place]
    omega

/-- The place that the code computes from a mantissa and an exponent. -/
theorem place_eq_target (hq : 0 < q) (hl : m * 2 ^ e ≤ q) (hu : q < (m + 1) * 2 ^ e)
    (hm : 0 < m ∨ e ≤ -1074) :
    place q = Format.binary64.targetExponent (totalExponent m e) := by
  rw [target_eq, place]
  obtain rfl | pos := m.eq_zero_or_pos
  · have small : q < 2 ^ e := by simpa using hu
    have log := (log_lt_iff hq).mpr small
    have zero : Nat.log2 0 = 0 := rfl
    omega
  · rw [log_eq_log2 pos hl hu]

/-- A rounded mantissa and its exponent. A mantissa that has grown by a digit is halved. -/
def assemble (s : Sign) (r : ℕ) (t : ℤ) : UnpackedFloat :=
  if h : r = 0 then .zero s
  else if r < 2 ^ 53 then .finite s r t (Nat.pos_of_ne_zero h)
  else .finite s (2 ^ 52) (t + 1) (by decide)

theorem shiftToTarget_small (hr : r < 2 ^ 53) (ht : -1074 ≤ t) :
    shiftToTargetExponent .binary64 r t .exact = (⟨r, false, false⟩, t) := by
  have log : r.log2 ≤ 52 := by
    obtain rfl | pos := r.eq_zero_or_pos
    · decide
    · have := (Nat.log2_lt pos.ne').mpr hr
      omega
  have none : (Format.binary64.targetExponent (totalExponent r t) - t).toNat = 0 := by
    rw [target_eq]
    omega
  simp [shiftToTargetExponent, shiftToExponent, none, HShiftRight.hShiftRight, Nat.repeat,
    ExtendedMantissa.ofMantissaAndAccuracy]

theorem shiftToTarget_carry (ht : -1074 ≤ t) :
    shiftToTargetExponent .binary64 (2 ^ 53) t .exact = (⟨2 ^ 52, false, false⟩, t + 1) := by
  have one : (Format.binary64.targetExponent (totalExponent (2 ^ 53) t) - t).toNat = 1 := by
    rw [target_eq, Nat.log2_two_pow]
    omega
  rw [shiftToTargetExponent, shiftToExponent, one]
  rfl

/-- What a mantissa and its exponent stand for once all digits behind them are gone. -/
def settle (s : Sign) (p : ExtendedMantissa × ℤ) : UnpackedFloat :=
  if h : p.1.mantissa = 0 then .zero s else .finite s p.1.mantissa p.2 (Nat.pos_of_ne_zero h)

theorem second_shift (s : Sign) (hr : r ≤ 2 ^ 53) (ht : -1074 ≤ t) :
    settle s (shiftToTargetExponent .binary64 r t .exact) = assemble s r t := by
  obtain fits | rfl := hr.lt_or_eq
  · rw [shiftToTarget_small fits ht]
    by_cases zero : r = 0
    · rw [settle, assemble, dif_pos zero, dif_pos zero]
    · rw [settle, assemble, dif_neg zero, dif_neg zero, if_pos fits]
  · rw [shiftToTarget_carry ht]
    rfl

theorem roundWithAccuracy_eq (s : Sign) (hq : 0 < q) (he : e ≤ place q) (hm : 0 < m ∨ e ≤ -1074)
    (h : Holds (.ofMantissaAndAccuracy m a) (q / 2 ^ e)) :
    ∃ r : ℕ, roundWithAccuracy .binary64 s m e a = assemble s r (place q) ∧
      |r - q / 2 ^ place q| ≤ 1 / 2 ∧ r ≤ 2 ^ 53 ∧ (2 ^ 52 ≤ r ∨ place q = -1074) := by
  have bounds : m * 2 ^ e ≤ q ∧ q < (m + 1) * 2 ^ e := by
    rw [← le_div_iff₀ (two_zpow_pos e), ← div_lt_iff₀ (two_zpow_pos e)]
    exact mantissa_ofMantissaAndAccuracy m a ▸ h.bounds
  have target := place_eq_target hq bounds.1 bounds.2 hm
  have least : -1074 ≤ place q := le_max_right ..
  obtain ⟨k, hk⟩ : ∃ k : ℕ, place q = e + k := ⟨(place q - e).toNat, by omega⟩
  have shifted := h.shiftRight k
  rw [div_div, ← zpow_natCast, ← zpow_add₀ two_ne_zero, ← hk] at shifted
  have first : shiftToTargetExponent .binary64 m e a =
      (ExtendedMantissa.ofMantissaAndAccuracy m a >>> k, place q) := by
    simp [shiftToTargetExponent, ← target, shiftToExponent, hk]
  have near := shifted.rounded
  have small := (scaled_bounds hq).2
  generalize ExtendedMantissa.ofMantissaAndAccuracy m a >>> k = em at *
  rw [abs_le] at near
  have most : em.roundedMantissa ≤ 2 ^ 53 := by
    have : (em.roundedMantissa : ℚ) < 2 ^ 53 + 1 := by linarith
    exact Nat.lt_succ_iff.mp (mod_cast this)
  refine ⟨em.roundedMantissa, ?_, abs_le.mpr near, most, ?_⟩
  · have shifts : roundWithAccuracy .binary64 s m e a =
        settle s (shiftToTargetExponent .binary64
          (shiftToTargetExponent .binary64 m e a).1.roundedMantissa
          (shiftToTargetExponent .binary64 m e a).2 .exact) := rfl
    rw [shifts, first]
    exact second_shift s most least
  · refine or_iff_not_imp_right.mpr fun normal => ?_
    have large := (scaled_bounds hq).1 normal
    have : (2 ^ 52 : ℚ) < em.roundedMantissa + 1 := by linarith
    exact Nat.lt_succ_iff.mp (mod_cast this)

end Rounding

end Telemetry.Double
