import Telemetry.Number.Numeral
import Telemetry.Proofs.Number.Arithmetic

/-!
From decimal digits to doubles. However many digits there are and wherever the point is, the result
is what the number is rounded to.
-/

namespace Telemetry.Double

open Float.Model Float.Model.UnpackedFloat

variable {x : Float} {p q : ℚ} {m n : ℕ} {t : ℤ}

/-! ### Powers of ten -/

/-- Whether `u` is the whole number `n`, decided without fractions. -/
def isWhole (n : ℕ) : UnpackedFloat → Bool
  | .finite .positive m e _ => m * 2 ^ e.toNat == n * 2 ^ (-e).toNat
  | _ => false

theorem number?_of_isWhole {u : UnpackedFloat} (h : isWhole n u) : number? u = some (n : ℚ) := by
  match u with
  | .finite .positive m e hm =>
    have same : (m * 2 ^ e.toNat : ℚ) = n * 2 ^ (-e).toNat := mod_cast beq_iff_eq.mp h
    have cancel : (2 ^ e : ℚ) * 2 ^ (-e).toNat = 2 ^ e.toNat := by
      rw [← zpow_natCast, ← zpow_natCast, ← zpow_add₀ two_ne_zero]
      congr 1
      omega
    rw [← cancel, ← mul_assoc] at same
    exact congrArg some (mul_right_cancel₀ (pow_ne_zero _ two_ne_zero) same)

theorem powersOfTen_isWhole : ∀ i : Fin Float.exactlyRepresentablePowersOfTen.size,
    isWhole (10 ^ i.val) Float.exactlyRepresentablePowersOfTen[i].toModel.unpack := by
  decide +kernel

theorem value?_powerOfTen {i : ℕ} (h : i < Float.exactlyRepresentablePowersOfTen.size) :
    value? Float.exactlyRepresentablePowersOfTen[i] = some (10 ^ i) := by
  refine (number?_of_isWhole (powersOfTen_isWhole ⟨i, h⟩)).trans ?_
  simp

/-! ### Digits and an exponent -/

theorem model_ofScientific_rounded (hm : 0 < m) (ht : t ≤ 2 ^ 11) (ht' : -(2 ^ 11 + m.log2) ≤ t) :
    Rounded (m * 10 ^ t) (.ofModel (Float.Model.ofScientific m t)) := by
  rw [Float.Model.ofScientific, UnpackedFloat.ofScientific, dif_neg hm.ne',
    if_neg (by simp only; omega), if_neg (by simp only; omega)]
  obtain up | down := le_or_gt 0 t
  · rw [if_pos up]
    have product : (m * 10 ^ t : ℚ) =
        (m <<< 53 : ℕ) * 2 ^ (-53 : ℤ) * ((10 ^ t.toNat : ℕ) * 2 ^ (0 : ℤ)) := by
      have whole : (10 : ℚ) ^ t = 10 ^ t.toNat := by
        rw [← zpow_natCast]
        congr 1
        omega
      rw [whole, Nat.shiftLeft_eq]
      push_cast
      ring
    rw [product]
    refine rounded_mul (.inl ?_)
    rw [Nat.shiftLeft_eq]
    calc 2 ^ 52 ≤ 1 * 2 ^ 53 * 1 := by norm_num
      _ ≤ m * 2 ^ 53 * 10 ^ t.toNat := by gcongr <;> first | exact hm | exact Nat.one_le_pow' _ _
  · rw [if_neg down.not_ge]
    have quotient : (m * 10 ^ t : ℚ) = m * 2 ^ (0 : ℤ) / ((10 ^ (-t).toNat : ℕ) * 2 ^ (0 : ℤ)) := by
      have whole : (10 : ℚ) ^ t = (10 ^ (-t).toNat)⁻¹ := by
        rw [← zpow_natCast, ← zpow_neg]
        congr 1
        omega
      rw [whole]
      push_cast
      ring
    rw [quotient]
    exact rounded_div

/-- Both ways of reading digits and a power of ten round once. -/
theorem ofScientific_rounded (hm : 0 < m) (s : Bool) (e : ℕ) (ht : t = if s then -(e : ℤ) else e)
    (h : t ≤ 2 ^ 11) (h' : -(2 ^ 11 + m.log2) ≤ t) :
    Rounded (m * 10 ^ t) (Float.ofScientific m s e) := by
  rw [Float.ofScientific]
  split
  · rename_i small
    have fits : m.toUInt64.toNat = m := by
      rw [Nat.toUInt64_eq, UInt64.toNat_ofNat', Nat.mod_eq_of_lt (by omega)]
    have digits : value? m.toUInt64.toFloat = some (m : ℚ) := by
      rw [value?_toFloat (by omega), fits]
    have power := value?_powerOfTen (by omega : e < 23)
    have pos : (0 : ℚ) < m := mod_cast hm
    cases s with
    | false =>
      obtain rfl : t = e := ht
      rw [zpow_natCast]
      exact mul_rounded digits power pos (by positivity)
    | true =>
      obtain rfl : t = -e := ht
      rw [zpow_neg, zpow_natCast, ← div_eq_mul_inv]
      exact div_rounded digits power pos (by positivity)
  · have same : t = if s then Int.negOfNat e else Int.ofNat e := by
      cases s <;> simp [ht, Int.negOfNat_eq]
    rw [← same]
    exact model_ofScientific_rounded hm h h'

theorem value?_zero : value? 0.0 = some 0 := by
  have unpacked : (0.0 : Float).toModel.unpack = .zero .positive := rfl
  exact congrArg number? unpacked

theorem unpack_infinity : Numeral.infinity.toModel.unpack = .infinity .positive := rfl

/-! ### Numerals of any size -/

theorem two_zpow_le_ten_zpow (k : ℕ) : (2 : ℚ) ^ (3 * k : ℤ) ≤ 10 ^ (k : ℤ) := by
  rw [zpow_mul, zpow_natCast, zpow_natCast]
  gcongr
  norm_num

theorem nearest_zero (hq : 0 ≤ q) (small : q ≤ 2 ^ (-1075 : ℤ)) : Nearest q 0 := by
  refine ⟨⟨0, by simp⟩, ?_⟩
  rw [zero_sub, abs_neg, abs_of_nonneg hq]
  calc q ≤ 2 ^ (-1075 : ℤ) := small
    _ ≤ 2 ^ (place q - 1) := zpow_le_zpow_right₀ one_le_two (by rw [place]; omega)
    _ = 2 ^ place q / 2 := zpow_sub_one₀ two_ne_zero _

/-- The number of digits tells the size of a number. -/
theorem length_toDigits_bounds (hm : 0 < m) :
    10 ^ ((Nat.toDigits 10 m).length - 1) ≤ m ∧ m < 10 ^ (Nat.toDigits 10 m).length ∧
      (Nat.toDigits 10 m).length ≤ m.log2 + 1 := by
  have digit : 0 < (Nat.toDigits 10 m).length := Nat.length_toDigits_pos
  refine ⟨?_, (Nat.length_toDigits_le_iff (by decide) digit).mp le_rfl, ?_⟩
  · obtain one | more := Nat.eq_or_lt_of_le digit
    · rw [← one]
      exact hm
    · refine not_lt.mp fun less => ?_
      have := (Nat.length_toDigits_le_iff (by decide) (by omega)).mpr less
      omega
  · rw [Nat.length_toDigits_le_iff (by decide) (by omega)]
    exact Nat.lt_log2_self.trans_le (Nat.pow_le_pow_left (by decide) _)

section Places

variable {digits : ℕ} {exponent : ℤ}

theorem two_zpow_le_of_places (hd : 0 < digits)
    (many : 400 < (Nat.toDigits 10 digits).length + exponent) :
    (2 : ℚ) ^ (1023 : ℤ) ≤ digits * 10 ^ exponent := by
  have above := (length_toDigits_bounds hd).1
  have some_digit : 0 < (Nat.toDigits 10 digits).length := Nat.length_toDigits_pos
  generalize (Nat.toDigits 10 digits).length = n at *
  calc (2 : ℚ) ^ (1023 : ℤ) ≤ 2 ^ (3 * (400 : ℕ) : ℤ) :=
        zpow_le_zpow_right₀ one_le_two (by norm_num)
    _ ≤ 10 ^ ((400 : ℕ) : ℤ) := two_zpow_le_ten_zpow 400
    _ ≤ 10 ^ ((n - 1 : ℕ) + exponent) := zpow_le_zpow_right₀ (by norm_num) (by omega)
    _ = (10 ^ (n - 1) : ℕ) * 10 ^ exponent := by
        rw [zpow_add₀ (by norm_num), zpow_natCast, Nat.cast_pow, Nat.cast_ofNat]
    _ ≤ digits * 10 ^ exponent := by gcongr

theorem le_two_zpow_of_places (hd : 0 < digits)
    (few : (Nat.toDigits 10 digits).length + exponent < -400) :
    digits * 10 ^ exponent ≤ (2 : ℚ) ^ (-1075 : ℤ) := by
  have below := (length_toDigits_bounds hd).2.1
  generalize (Nat.toDigits 10 digits).length = n at *
  calc (digits * 10 ^ exponent : ℚ) ≤ (10 ^ n : ℕ) * 10 ^ exponent := by gcongr
    _ = 10 ^ (n + exponent) := by
        rw [zpow_add₀ (by norm_num), zpow_natCast, Nat.cast_pow, Nat.cast_ofNat]
    _ ≤ 10 ^ (-(400 : ℕ) : ℤ) := zpow_le_zpow_right₀ (by norm_num) (by omega)
    _ ≤ 2 ^ (-(3 * (400 : ℕ)) : ℤ) := by
        rw [zpow_neg, zpow_neg]
        exact inv_anti₀ (two_zpow_pos _) (two_zpow_le_ten_zpow 400)
    _ ≤ 2 ^ (-1075 : ℤ) := zpow_le_zpow_right₀ one_le_two (by norm_num)

end Places

/-- Every numeral is read as what it is rounded to. -/
theorem magnitude_rounded (digits : ℕ) (exponent : ℤ) :
    Rounded (digits * 10 ^ exponent) (Numeral.magnitude digits exponent) := by
  obtain rfl | pos := digits.eq_zero_or_pos
  · have none : Numeral.magnitude 0 exponent = 0.0 := rfl
    rw [none, Nat.cast_zero, zero_mul]
    exact .finite value?_zero (nearest_zero le_rfl (two_zpow_pos _).le)
  have few := (length_toDigits_bounds pos).2.2
  have some_digit : 0 < (Nat.toDigits 10 digits).length := Nat.length_toDigits_pos
  rw [Numeral.magnitude, if_neg pos.ne']
  dsimp only
  split
  · rename_i many
    exact .infinite unpack_infinity (two_zpow_le_of_places pos many)
  · split
    · rename_i few
      exact .finite value?_zero (nearest_zero (by positivity) (le_two_zpow_of_places pos few))
    · split
      · exact ofScientific_rounded pos true _ (by rw [if_pos rfl]; omega) (by omega) (by omega)
      · exact ofScientific_rounded pos false _ (by rw [if_neg (by decide)]; omega) (by omega)
          (by omega)

end Telemetry.Double
