import Telemetry.Number.Rounding
import Telemetry.Proofs.Number.Double

/-!
What the operations on doubles do to exact values. Products and quotients are rounded; comparisons,
the way to whole numbers and back, and the fraction that is left over, are exact.
-/

namespace Telemetry.Double

open Float.Model Float.Model.UnpackedFloat

variable {x y : Float} {p q v : ℚ} {m n : ℕ} {e E : ℤ}

/-! ### Rounded values -/

/-- What needs no more than 53 digits is not changed. -/
theorem Rounded.value_eq (h : Rounded (n * 2 ^ e) x) (hn : n < 2 ^ 53) (he : -1074 ≤ e)
    (he' : e ≤ 970) : value? x = some ((n : ℚ) * 2 ^ e) := by
  cases h with
  | finite value nearest => rw [value, nearest.eq hn he]
  | infinite unpacked large =>
    have less : (n * 2 ^ e : ℚ) < 2 ^ (53 + e) := by
      rw [zpow_add₀ two_ne_zero]
      exact mul_lt_mul_of_pos_right (mod_cast hn) (two_zpow_pos e)
    exact absurd (large.trans_lt less) (zpow_le_zpow_right₀ one_le_two (by omega)).not_gt

theorem Rounded.exists_nearest (h : Rounded q x) (hq : q ≤ 1000) :
    ∃ v, value? x = some v ∧ Nearest q v := by
  cases h with
  | finite value nearest => exact ⟨_, value, nearest⟩
  | infinite unpacked large =>
    have more : (1000 : ℚ) < 2 ^ (10 : ℤ) := by norm_num
    have small := more.trans_le (zpow_le_zpow_right₀ one_le_two (by decide : (10 : ℤ) ≤ 1023))
    exact absurd (large.trans hq) small.not_ge

theorem unpack_of_nonneg (h : value? x = some p) (hp : 0 ≤ p) :
    (∃ s, x.toModel.unpack = .zero s ∧ p = 0) ∨
      ∃ m e hm, x.toModel.unpack = .finite .positive m e hm ∧ p = m * 2 ^ e := by
  rw [value?] at h
  cases unpacked : x.toModel.unpack <;> rw [unpacked] at h
  case zero s => exact .inl ⟨s, rfl, (Option.some.inj h).symm⟩
  case finite s m e hm =>
    have same := (Option.some.inj h).symm
    cases s with
    | positive => exact .inr ⟨m, e, hm, rfl, same⟩
    | negative =>
      have := mul_pos (Nat.cast_pos.mpr hm) (two_zpow_pos e)
      simp only [Sign.apply, Int.cast_neg, Int.cast_natCast, neg_mul] at same
      linarith
  all_goals cases h

theorem unpack_of_pos (h : value? x = some p) (hp : 0 < p) :
    ∃ m e hm, x.toModel.unpack = .finite .positive m e hm ∧ p = m * 2 ^ e :=
  (unpack_of_nonneg h hp.le).resolve_left fun ⟨_, _, nothing⟩ => hp.ne' nothing

theorem mul_rounded (hx : value? x = some p) (hy : value? y = some q) (hp : 0 < p) (hq : 0 < q) :
    Rounded (p * q) (x * y) := by
  obtain ⟨m₁, e₁, hm₁, unpack₁, rfl⟩ := unpack_of_pos hx hp
  obtain ⟨m₂, e₂, hm₂, unpack₂, rfl⟩ := unpack_of_pos hy hq
  change Rounded _ (.ofModel (.pack (.mul .binary64 x.toModel.unpack y.toModel.unpack)))
  have shape₁ := canonical_unpack x.toModel
  have shape₂ := canonical_unpack y.toModel
  rw [unpack₁] at shape₁ ⊢
  rw [unpack₂] at shape₂ ⊢
  refine rounded_mul ?_
  obtain ⟨-, -, -, full₁ | low₁⟩ := shape₁
  · exact .inl (full₁.trans (Nat.le_mul_of_pos_right _ hm₂))
  obtain ⟨-, -, -, full₂ | low₂⟩ := shape₂
  · exact .inl (full₂.trans (Nat.le_mul_of_pos_left _ hm₁))
  · exact .inr (by omega)

theorem div_rounded (hx : value? x = some p) (hy : value? y = some q) (hp : 0 < p) (hq : 0 < q) :
    Rounded (p / q) (x / y) := by
  obtain ⟨m₁, e₁, hm₁, unpack₁, rfl⟩ := unpack_of_pos hx hp
  obtain ⟨m₂, e₂, hm₂, unpack₂, rfl⟩ := unpack_of_pos hy hq
  change Rounded _ (.ofModel (.pack (.div .binary64 x.toModel.unpack y.toModel.unpack)))
  rw [unpack₁, unpack₂]
  exact rounded_div

/-! ### Whole numbers -/

theorem normalize_rounded (hm : 0 < m) :
    Rounded (m * 2 ^ e) (.ofModel (.pack (UnpackedFloat.normalize .binary64 m e .positive))) := by
  have positive : compare (m : ℤ) 0 = .gt := compare_gt_iff_gt.mpr (by omega)
  rw [UnpackedFloat.normalize, positive, Int.toNat_natCast]
  exact rounded_round hm

theorem value?_toFloat {n : UInt64} (hn : n.toNat < 2 ^ 53) : value? n.toFloat = some (n.toNat : ℚ) := by
  obtain zero | pos := n.toNat.eq_zero_or_pos
  · obtain rfl : n = 0 := UInt64.toNat_inj.mp zero
    rfl
  · have rounded : Rounded (n.toNat * 2 ^ (0 : ℤ)) n.toFloat := normalize_rounded pos
    simpa using rounded.value_eq hn (by decide) (by decide)

theorem roundToInt_eq (m : ℕ) (e : ℤ) : roundToInt .positive m e = ⌊(m * 2 ^ e : ℚ)⌋₊ := by
  simp only [roundToInt, decreaseExponent, shiftToExponent, Sign.apply, sub_zero]
  have bounds := ((holds_exact (m <<< e.toNat)).shiftRight (0 - (e - e.toNat)).toNat).bounds
  have exact : ((m <<< e.toNat : ℕ) / 2 ^ (0 - (e - e.toNat)).toNat : ℚ) = m * 2 ^ e := by
    rw [← shiftLeft_mul m e.toNat e, div_eq_mul_inv, ← zpow_natCast, ← zpow_neg]
    congr 2
    omega
  rw [exact] at bounds
  rw [(Nat.floor_eq_iff (by have := two_zpow_pos e; positivity)).mpr bounds]

/-- The way to a whole number drops the fraction. -/
theorem toNat_toUInt64 (h : value? x = some p) (hp : 0 ≤ p) (hp' : p < 2 ^ 64) :
    x.toUInt64.toNat = ⌊p⌋₊ := by
  have fits : ⌊p⌋₊ < 2 ^ 64 := (Nat.floor_lt hp).mpr (mod_cast hp')
  change (UInt64.ofNatClamp (x.toModel.unpack.toInt 0 _).toNat).toNat = _
  obtain ⟨s, unpacked, rfl⟩ | ⟨m, e, hm, unpacked, rfl⟩ := unpack_of_nonneg h hp
  · rw [unpacked, Nat.floor_zero]
    rfl
  · rw [unpacked]
    change (UInt64.ofNatClamp (roundToInt .positive m e).toNat).toNat = _
    rw [roundToInt_eq, Int.toNat_natCast, UInt64.ofNatClamp_eq_ofNat _ fits, UInt64.toNat_ofNat',
      Nat.mod_eq_of_lt fits]

/-! ### Differences -/

theorem shiftLeft_mul_min (m : ℕ) (h : E ≤ e) :
    (m * 2 ^ e : ℚ) = (m <<< (e - E).toNat : ℕ) * 2 ^ E := by
  have down : e - (e - E).toNat = E := by omega
  rw [← shiftLeft_mul m (e - E).toNat e, down]

theorem value?_pack_sub {m₁ m₂ : ℕ} {e₁ e₂ : ℤ} {hm₁ : 0 < m₁} {hm₂ : 0 < m₂}
    (le : (m₂ * 2 ^ e₂ : ℚ) ≤ m₁ * 2 ^ e₁)
    (hd : (m₁ * 2 ^ e₁ - m₂ * 2 ^ e₂ : ℚ) = n * 2 ^ e) (hn : n < 2 ^ 53) (he : -1074 ≤ e)
    (he' : e ≤ 970) :
    value? (.ofModel (.pack (.sub .binary64 (.finite .positive m₁ e₁ hm₁)
      (.finite .positive m₂ e₂ hm₂)))) =
        some (m₁ * 2 ^ e₁ - m₂ * 2 ^ e₂ : ℚ) := by
  change value? (.ofModel (.pack (UnpackedFloat.normalize .binary64
    ((m₁ <<< (e₁ - min e₁ e₂).toNat : ℕ) - (m₂ <<< (e₂ - min e₁ e₂).toNat : ℕ)) (min e₁ e₂)
    .positive))) = _
  rw [shiftLeft_mul_min m₁ (min_le_left e₁ e₂), shiftLeft_mul_min m₂ (min_le_right e₁ e₂)] at le hd ⊢
  generalize m₁ <<< (e₁ - min e₁ e₂).toNat = a at *
  generalize m₂ <<< (e₂ - min e₁ e₂).toNat = b at *
  have less : (b : ℚ) ≤ a := le_of_mul_le_mul_right le (two_zpow_pos _)
  rw [Nat.cast_le] at less
  obtain ⟨d, rfl⟩ := Nat.exists_eq_add_of_le less
  have left : ((b + d : ℕ) : ℤ) - b = d := by omega
  have gap : ((b + d : ℕ) * 2 ^ min e₁ e₂ - b * 2 ^ min e₁ e₂ : ℚ) = d * 2 ^ min e₁ e₂ := by
    push_cast
    ring
  rw [left]
  rw [gap] at hd ⊢
  obtain rfl | pos := d.eq_zero_or_pos
  · rw [Nat.cast_zero, Nat.cast_zero, zero_mul, UnpackedFloat.normalize, compare_eq_iff_eq.mpr rfl]
    exact value?_pack_zero _
  · have rounded : Rounded (n * 2 ^ e) _ := hd ▸ normalize_rounded pos
    rw [hd]
    exact rounded.value_eq hn he he'

/-- A difference that needs no more than 53 digits is exact. -/
theorem value?_sub (hx : value? x = some p) (hy : value? y = some q) (hq : 0 ≤ q)
    (hd : p - q = n * 2 ^ e) (hn : n < 2 ^ 53) (he : -1074 ≤ e) (he' : e ≤ 970) :
    value? (x - y) = some (p - q) := by
  have le : q ≤ p := by
    have := two_zpow_pos e
    have : (0 : ℚ) ≤ n * 2 ^ e := by positivity
    linarith
  change value? (.ofModel (.pack (.sub .binary64 x.toModel.unpack y.toModel.unpack))) = _
  have shape := canonical_unpack x.toModel
  obtain ⟨s, unpack₁, rfl⟩ | ⟨m₁, e₁, hm₁, unpack₁, rfl⟩ := unpack_of_nonneg hx (hq.trans le) <;>
  obtain ⟨t, unpack₂, rfl⟩ | ⟨m₂, e₂, hm₂, unpack₂, rfl⟩ := unpack_of_nonneg hy hq <;>
  rw [unpack₁] at shape ⊢ <;> rw [unpack₂]
  · rw [sub_zero]
    cases s <;> cases t <;> rfl
  · have := mul_pos (Nat.cast_pos.mpr hm₂) (two_zpow_pos e₂)
    linarith
  · rw [sub_zero]
    exact value?_pack shape
  · exact value?_pack_sub le hd hn he he'

/-! ### Comparisons -/

/-- Of two numbers with all their digits the one with the larger exponent is the larger one. -/
theorem mul_zpow_lt {m₁ m₂ : ℕ} {e₁ e₂ : ℤ} (digits : m₁ < 2 ^ 53) (he : -1074 ≤ e₁)
    (full : 2 ^ 52 ≤ m₂ ∨ e₂ = -1074) (less : e₁ < e₂) : (m₁ * 2 ^ e₁ : ℚ) < m₂ * 2 ^ e₂ := by
  have full : 2 ^ 52 ≤ m₂ := full.resolve_right (by omega)
  have pos := two_zpow_pos e₁
  calc (m₁ * 2 ^ e₁ : ℚ) < 2 ^ 53 * 2 ^ e₁ := by
        gcongr
        exact_mod_cast digits
    _ = 2 ^ 52 * 2 ^ (e₁ + 1) := by
        rw [zpow_add_one₀ two_ne_zero]
        ring
    _ ≤ m₂ * 2 ^ e₂ := by
        gcongr
        · exact_mod_cast full
        · exact one_le_two
        · omega

theorem compare_finite {m₁ m₂ : ℕ} {e₁ e₂ : ℤ} {hm₁ : 0 < m₁} {hm₂ : 0 < m₂}
    (h₁ : Canonical (.finite .positive m₁ e₁ hm₁)) (h₂ : Canonical (.finite .positive m₂ e₂ hm₂)) :
    (compare e₁ e₂).then (compare m₁ m₂) = compare (m₁ * 2 ^ e₁ : ℚ) (m₂ * 2 ^ e₂) := by
  obtain ⟨digits₁, low₁, -, full₁⟩ := h₁
  obtain ⟨digits₂, low₂, -, full₂⟩ := h₂
  obtain less | rfl | more := lt_trichotomy e₁ e₂
  · rw [compare_lt_iff_lt.mpr less, compare_lt_iff_lt.mpr (mul_zpow_lt digits₁ low₁ full₂ less)]
    rfl
  · rw [compare_eq_iff_eq.mpr rfl, Ordering.then, eq_comm]
    have pos := two_zpow_pos e₁
    obtain less | rfl | more := lt_trichotomy m₁ m₂
    · rw [compare_lt_iff_lt.mpr less, compare_lt_iff_lt]
      exact mul_lt_mul_of_pos_right (mod_cast less) pos
    · rw [compare_eq_iff_eq.mpr rfl, compare_eq_iff_eq.mpr rfl]
    · rw [compare_gt_iff_gt.mpr more, compare_gt_iff_gt]
      exact mul_lt_mul_of_pos_right (mod_cast more) pos
  · rw [compare_gt_iff_gt.mpr more, compare_gt_iff_gt.mpr (mul_zpow_lt digits₂ low₂ full₁ more)]
    rfl

theorem compare_eq (hx : value? x = some p) (hy : value? y = some q) (hp : 0 ≤ p) (hq : 0 ≤ q) :
    x.toModel.compare y.toModel = some (compare p q) := by
  have shape₁ := canonical_unpack x.toModel
  have shape₂ := canonical_unpack y.toModel
  rw [Float.Model.compare]
  obtain ⟨s, unpack₁, rfl⟩ | ⟨m₁, e₁, hm₁, unpack₁, rfl⟩ := unpack_of_nonneg hx hp <;>
  obtain ⟨t, unpack₂, rfl⟩ | ⟨m₂, e₂, hm₂, unpack₂, rfl⟩ := unpack_of_nonneg hy hq <;>
  rw [unpack₁] at shape₁ ⊢ <;> rw [unpack₂] at shape₂ ⊢
  · rw [compare_eq_iff_eq.mpr rfl]
    cases s <;> cases t <;> rfl
  · have := mul_pos (Nat.cast_pos.mpr hm₂) (two_zpow_pos e₂)
    rw [compare_lt_iff_lt.mpr this]
    cases s <;> rfl
  · have := mul_pos (Nat.cast_pos.mpr hm₁) (two_zpow_pos e₁)
    rw [compare_gt_iff_gt.mpr this]
    cases t <;> rfl
  · rw [← compare_finite shape₁ shape₂]
    rfl

theorem lt_iff (hx : value? x = some p) (hy : value? y = some q) (hp : 0 ≤ p) (hq : 0 ≤ q) :
    x < y ↔ p < q := by
  change decide (((x.toModel.compare y.toModel) == some .lt) = true) = true ↔ _
  rw [compare_eq hx hy hp hq, decide_eq_true_iff, beq_iff_eq, Option.some_inj, compare_lt_iff_lt]

theorem le_iff (hx : value? x = some p) (hy : value? y = some q) (hp : 0 ≤ p) (hq : 0 ≤ q) :
    x ≤ y ↔ p ≤ q := by
  change decide (((x.toModel.compare y.toModel).any (·.isLE)) = true) = true ↔ _
  rw [compare_eq hx hy hp hq, decide_eq_true_iff, Option.any_some, Ordering.isLE_iff_ne_gt,
    compare_gt_iff_gt, not_lt]

/-- What is too large is not below any number. -/
theorem not_le_of_infinite (h : x.toModel.unpack = .infinity .positive) (hy : value? y = some q) :
    ¬x ≤ y := by
  change ¬decide (((x.toModel.unpack.compare y.toModel.unpack).any (·.isLE)) = true) = true
  have finite : value? y ≠ none := by simp [hy]
  rw [h]
  cases unpacked : y.toModel.unpack with
  | infinity s => exact absurd (congrArg number? unpacked) finite
  | _ => exact Bool.false_ne_true

/-- With the other sign nothing is positive that has not been negative. -/
theorem not_lt_neg (h : Rounded p x) (hp : 0 ≤ p) : ¬0.0 < -x := by
  have zero : (0.0 : Float).toModel.unpack = .zero .positive := rfl
  have shape := canonical_unpack x.toModel
  have negated (u : UnpackedFloat) (hu : x.toModel.unpack = u) (hc : Canonical u.neg) :
      (-x).toModel.unpack = u.neg := by
    change (Float.Model.pack x.toModel.unpack.neg).unpack = _
    rw [hu, unpack_pack hc]
  change ¬decide (((Float.toModel 0.0).unpack.compare (-x).toModel.unpack == some .lt) = true) = true
  rw [zero]
  cases h with
  | finite value nearest =>
    obtain ⟨s, unpacked, -⟩ | ⟨m, e, hm, unpacked, -⟩ := unpack_of_nonneg value (nearest.nonneg hp)
    · rw [negated _ unpacked trivial]
      cases s <;> decide
    · rw [unpacked] at shape
      rw [negated _ unpacked shape]
      exact Bool.false_ne_true
  | infinite unpacked large =>
    rw [negated _ unpacked trivial]
    decide

/-! ### The nearest whole number -/

/-- What is left over a whole number needs no more digits than there were. -/
theorem fraction_eq (h : value? x = some p) (hp : 0 ≤ p) :
    ∃ (n : ℕ) (e : ℤ), p - ⌊p⌋₊ = n * 2 ^ e ∧ n < 2 ^ 53 ∧ -1074 ≤ e ∧ e ≤ 970 := by
  have shape := canonical_unpack x.toModel
  obtain ⟨s, -, rfl⟩ | ⟨m, e, hm, unpacked, rfl⟩ := unpack_of_nonneg h hp
  · exact ⟨0, 0, by simp, by decide, by decide, by decide⟩
  rw [unpacked] at shape
  obtain ⟨digits, low, -, -⟩ := shape
  obtain whole | broken := le_or_gt 0 e
  · obtain ⟨k, rfl⟩ := Int.eq_ofNat_of_zero_le whole
    refine ⟨0, 0, ?_, by decide, by decide, by decide⟩
    have natural : (m * 2 ^ (k : ℤ) : ℚ) = (m * 2 ^ k : ℕ) := by
      push_cast
      rw [zpow_natCast]
    rw [natural, Nat.floor_natCast]
    simp
  · obtain ⟨k, rfl⟩ : ∃ k : ℕ, e = -k := ⟨(-e).toNat, by omega⟩
    refine ⟨m % 2 ^ k, -k, ?_, (Nat.mod_le _ _).trans_lt digits, low, by omega⟩
    have pos : (0 : ℚ) < 2 ^ k := by positivity
    have divided : (m * 2 ^ (-k : ℤ) : ℚ) = m / (2 ^ k : ℕ) := by
      rw [zpow_neg, zpow_natCast, ← div_eq_mul_inv, Nat.cast_pow, Nat.cast_ofNat]
    rw [divided, Rat.natFloor_natCast_div_natCast, zpow_neg, zpow_natCast, ← div_eq_mul_inv, eq_div_iff pos.ne',
      sub_mul]
    have parts : (2 ^ k : ℚ) * (m / 2 ^ k : ℕ) + (m % 2 ^ k : ℕ) = m := mod_cast Nat.div_add_mod m _
    push_cast
    rw [div_mul_cancel₀ _ pos.ne']
    linarith

theorem value?_half : value? 0.5 = some (1 / 2) := by
  have unpacked : (0.5 : Float).toModel.unpack = .finite .positive (2 ^ 52) (-53) (by decide) := rfl
  refine (congrArg number? unpacked).trans (congrArg some ?_)
  norm_num [Sign.apply]

/-- A half goes up. -/
theorem nearest_eq (h : value? x = some p) (hp : 0 ≤ p) (hp' : p < 2 ^ 53) :
    Rounding.nearest x = ⌊p + 1 / 2⌋₊ := by
  have whole := toNat_toUInt64 h hp (hp'.trans (by norm_num))
  have small : ⌊p⌋₊ < 2 ^ 53 := (Nat.floor_lt hp).mpr (mod_cast hp')
  have back := value?_toFloat (n := x.toUInt64) (whole ▸ small)
  rw [whole] at back
  obtain ⟨n, e, fraction, digits, low, high⟩ := fraction_eq h hp
  have rest := value?_sub h back (Nat.cast_nonneg _) fraction digits low high
  have floor := Nat.floor_le hp
  have next := Nat.lt_floor_add_one p
  have half : x - x.toUInt64.toFloat ≥ 0.5 ↔ 1 / 2 ≤ p - ⌊p⌋₊ :=
    le_iff value?_half rest (by norm_num) (by linarith)
  simp only [Rounding.nearest, half, whole]
  symm
  split
  · rename_i up
    rw [Nat.floor_eq_iff (by linarith)]
    push_cast
    constructor <;> linarith
  · rename_i down
    rw [Nat.floor_eq_iff (by linarith)]
    constructor <;> linarith

end Telemetry.Double
