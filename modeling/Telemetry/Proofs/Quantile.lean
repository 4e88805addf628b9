import Telemetry.Proofs.Number.Decimal
import Telemetry.Proofs.Number.Scientific
import Telemetry.Quantile

/-!
Which quantile a numeral stands for. A numeral is rounded to whole thousandths, and the check on the
digits behind the point keeps those without an exponent exact.
-/

namespace Telemetry.Quantile

open Double

variable {s : String} {x : Float} {p q : ℚ} {d : Decimal} {k : ℕ}

/-! ### Thousandths -/

theorem value?_one : value? 1.0 = some 1 := by
  have unpacked : (1.0 : Float).toModel.unpack = .finite .positive (2 ^ 52) (-52) (by decide) := rfl
  refine (congrArg number? unpacked).trans (congrArg some ?_)
  norm_num [Float.Model.UnpackedFloat.Sign.apply]

theorem value?_thousand : value? 1000.0 = some 1000 := by
  rw [value?, number?_of_isWhole (n := 1000) (by decide +kernel)]
  norm_num

theorem least_le {b : ℚ} (h : 2 ^ (-60 : ℤ) ≤ b) : (2 : ℚ) ^ (-1075 : ℤ) ≤ b :=
  (zpow_le_zpow_right₀ one_le_two (by decide)).trans h

theorem first_error (h : Nearest q p) (hq : 0 ≤ q) (hp : p ≤ 1) :
    |p - q| ≤ 1 / (1000 * 2 ^ 43) := by
  have error := h.error_le hq
  have bound : q ≤ 1001 / 1000 := by
    obtain far | near := le_max_iff.mp error
    · linarith [neg_le_of_abs_le far]
    · linarith [neg_le_of_abs_le (near.trans (least_le (by norm_num : _ ≤ (1 / 1000 : ℚ))))]
  refine error.trans (max_le ?_ (least_le (by norm_num)))
  linarith

/-- Two roundings and a whole number in the end. -/
theorem thousandths_error (h : Nearest q p) (hq : 0 ≤ q) (hv : value? x = some p) (hp : 0 < p)
    (hp' : p ≤ 1) : |(Rounding.nearest (x * 1000.0) : ℚ) - 1000 * q| ≤ 1 / 2 + 1 / 2 ^ 42 := by
  have product := mul_rounded hv value?_thousand hp (by norm_num)
  obtain ⟨v, value, nearest⟩ := product.exists_nearest (by linarith)
  have nonneg := nearest.nonneg (by linarith)
  have second : |v - p * 1000| ≤ 1 / 2 ^ 43 := by
    refine (nearest.error_le (by linarith)).trans (max_le ?_ (least_le (by norm_num)))
    linarith
  have first := first_error h hq hp'
  rw [abs_le] at first second
  have floor := Nat.floor_le (by linarith : 0 ≤ v + 1 / 2)
  have next := Nat.lt_floor_add_one (v + 1 / 2)
  rw [nearest_eq value nonneg (by linarith), abs_le]
  constructor <;> linarith

/-- Only positive numbers with digits are in the range. -/
theorem finite_of_range {n : Numeral} (h : 0.0 < n.toFloat) (h' : n.toFloat ≤ 1.0) :
    ∃ digits exponent p, n = .finite false digits exponent ∧ value? n.toFloat = some p ∧
      Nearest (digits * 10 ^ exponent) p ∧ 0 < p ∧ p ≤ 1 := by
  cases n with
  | nan => exact absurd h (by decide +kernel)
  | infinite negative =>
    cases negative
    · exact absurd h' (by decide +kernel)
    · exact absurd h (by decide +kernel)
  | finite negative digits exponent =>
    have rounded := magnitude_rounded digits exponent
    have nonneg : (0 : ℚ) ≤ digits * 10 ^ exponent := by positivity
    cases negative with
    | true => exact absurd h (not_lt_neg rounded nonneg)
    | false =>
      cases rounded with
      | infinite unpacked large => exact absurd h' (not_le_of_infinite unpacked value?_one)
      | finite value nearest =>
        have nonneg := nearest.nonneg nonneg
        exact ⟨digits, exponent, _, rfl, value, nearest, (lt_iff value?_zero value le_rfl nonneg).mp h,
          (le_iff value value?_one nonneg zero_le_one).mp h'⟩

/-! ### Reading -/

theorem ofPerMille?_eq_some {n : ℕ} {r : Quantile} : ofPerMille? n = some r ↔ r.perMille = n := by
  obtain ⟨m, pos, le⟩ := r
  rw [ofPerMille?, Option.dite_none_right_eq_some]
  constructor
  · rintro ⟨_, same⟩
    cases same
    rfl
  · rintro rfl
    exact ⟨⟨pos, le⟩, rfl⟩

theorem parse_eq_ok {r : Quantile} : parse s = .ok r ↔
    (fractionSize? (Text.trim s.toList)).all (· ≤ 3) ∧
      ∃ n, Numeral.ofChars? (Text.trim s.toList) = some n ∧ 0.0 < n.toFloat ∧ n.toFloat ≤ 1.0 ∧
        r.perMille = Rounding.nearest (n.toFloat * 1000.0) := by
  simp only [parse]
  generalize Text.trim s.toList = cs
  have check : (fractionSize? cs).all (· ≤ 3) = !(fractionSize? cs).any (3 < ·) := by
    cases fractionSize? cs with
    | none => rfl
    | some n => simp only [Option.all_some, Option.any_some, ← decide_not, not_lt]
  rw [check]
  split
  · simp [*]
  · cases numeral : Numeral.ofChars? cs with
    | none => simp
    | some n =>
      simp only [*, Option.some.injEq, exists_eq_left', ← ofPerMille?_eq_some, Bool.and_eq_true,
        decide_eq_true_eq, Bool.not_false, true_and]
      split
      · rename_i range
        cases ofPerMille? (Rounding.nearest (n.toFloat * 1000.0)) <;> simp [range]
      · rename_i range
        simp [← and_assoc, range]

theorem utf8ByteSize_digits (ds : List (Fin 10)) :
    (String.ofList (ds.map Decimal.digit)).utf8ByteSize = ds.length := by
  have one : ∀ d, (Decimal.digit d).utf8Size = 1 := by decide
  induction ds with
  | nil => rfl
  | cons d ds ih =>
    rw [List.map_cons, String.ofList_cons, String.utf8ByteSize_append, String.utf8ByteSize_singleton,
      one, ih, List.length_cons, Nat.add_comm]

/-- Without an exponent the check counts the digits behind the point. -/
theorem fractionSize?_chars (h : d.exponent = none) :
    fractionSize? d.chars = d.fraction.map List.length := by
  have front : ∀ c ∈ d.sign.chars ++ d.whole.map Decimal.digit, c != '.' := by
    intro c hc
    rw [bne_iff_ne]
    rintro rfl
    exact (List.mem_append.mp hc).elim (Decimal.point_notMem_sign _) (Decimal.point_notMem_digits _)
  rw [fractionSize?, Decimal.chars, Decimal.body, h, Option.elim_none, List.append_nil,
    ← List.append_assoc, List.dropWhile_append_of_pos front]
  cases d.fraction with
  | none => rfl
  | some ds => simp [utf8ByteSize_digits]

/-- What is accepted is a numeral, and its number is within half a thousandth of the quantile. -/
theorem parse_sound {r : Quantile} (h : parse s = .ok r) :
    ∃ d : Decimal, Text.trim s.toList = d.chars ∧
      |1000 * d.value - r.perMille| ≤ 1 / 2 + 1 / 2 ^ 42 ∧ (fractionSize? d.chars).all (· ≤ 3) := by
  obtain ⟨short, n, read, above, below, rounded⟩ := parse_eq_ok.mp h
  obtain ⟨digits, exponent, p, rfl, value, nearest, pos, le⟩ := finite_of_range above below
  obtain ⟨d, written, numeral⟩ := Decimal.exists_decimal read
  have error := thousandths_error nearest (by positivity) value pos le
  refine ⟨d, written.symm, ?_, written ▸ short⟩
  rw [Decimal.value_of_numeral numeral, if_neg (by decide), abs_sub_comm, rounded]
  exact error

/-- A number near to a whole number of thousandths is accepted as that. -/
theorem parse_of_near (written : Text.trim s.toList = d.chars)
    (short : (fractionSize? d.chars).all (· ≤ 3)) (le : d.value ≤ 1) (hk : 1 ≤ k)
    (near : |1000 * d.value - k| < 1 / 2 - 1 / 2 ^ 42) :
    ∃ r, parse s = .ok r ∧ r.perMille = k := by
  have one_le : (1 : ℚ) ≤ k := mod_cast hk
  rw [abs_lt] at near
  have positive : d.sign.negative = false := by
    by_contra negative
    have := d.size_nonneg
    rw [Decimal.value, if_pos (by simpa using negative)] at near
    linarith
  have size : d.value = d.size := by rw [Decimal.value, positive, if_neg (by decide)]
  rw [size] at le near
  have rounded : Rounded d.size d.numeral.toFloat := by
    rw [d.size_eq, Decimal.numeral, positive]
    exact magnitude_rounded _ _
  obtain ⟨p, value, nearest⟩ := rounded.exists_nearest (by linarith)
  have below := nearest.le_one (by linarith) le
  have first := neg_le_of_abs_le (first_error nearest d.size_nonneg below)
  have above : 0 < p := by linarith
  have error := thousandths_error nearest d.size_nonneg value above below
  rw [abs_le] at error
  have same : Rounding.nearest (d.numeral.toFloat * 1000.0) = k := by
    generalize Rounding.nearest (d.numeral.toFloat * 1000.0) = n at error
    have low : (k : ℚ) < n + 1 := by linarith
    have high : (n : ℚ) < k + 1 := by linarith
    have low : k < n + 1 := mod_cast low
    have high : n < k + 1 := mod_cast high
    omega
  have most : k ≤ 1000 := by
    have less : (k : ℚ) < 1001 := by linarith
    have less : k < 1001 := mod_cast less
    omega
  refine ⟨⟨k, hk, most⟩, parse_eq_ok.mpr ⟨written ▸ short, _, written ▸ d.ofChars?_chars, ?_, ?_,
    same.symm⟩, rfl⟩
  · exact (lt_iff value?_zero value le_rfl above.le).mpr above
  · exact (le_iff value value?_one above.le zero_le_one).mpr below

/-! ### Exact numbers -/

theorem whole_of_no_exponent (h : d.exponent = none) (few : d.places.length ≤ 3) :
    ∃ n : ℤ, 1000 * d.value = n := by
  obtain ⟨k, hk⟩ := Nat.exists_eq_add_of_le few
  have thousand : (1000 : ℚ) = 10 ^ d.places.length * 10 ^ k := by
    rw [← pow_add, ← hk]
    norm_num
  have whole : ∃ n : ℕ, 1000 * d.size = n := by
    refine ⟨1000 * Decimal.number d.whole + Decimal.number d.places * 10 ^ k, ?_⟩
    rw [Decimal.size, Decimal.scale, h, Option.elim_none, zpow_zero, mul_one]
    push_cast
    rw [mul_add, thousand]
    field_simp
  obtain ⟨n, whole⟩ := whole
  rw [Decimal.value]
  split
  · exact ⟨-n, by rw [mul_neg, whole, Int.cast_neg, Int.cast_natCast]⟩
  · exact ⟨n, by rw [whole, Int.cast_natCast]⟩

theorem short_iff (h : d.exponent = none) :
    (fractionSize? d.chars).all (· ≤ 3) ↔ d.places.length ≤ 3 := by
  rw [fractionSize?_chars h, Decimal.places]
  cases d.fraction <;> simp

/-- A numeral is rounded to the nearest thousandth, up to the size of the roundings on the way. None
without an exponent is changed by that, and all of those that are thousandths are accepted. -/
theorem parse_rounds (s : String) :
    (∀ r, parse s = .ok r → ∃ d : Decimal, Text.trim s.toList = d.chars ∧
      |1000 * d.value - r.perMille| ≤ 1 / 2 + 1 / 2 ^ 42 ∧
      (d.value = r.perMille / 1000 ↔ ∃ n : ℤ, 1000 * d.value = n) ∧
      (d.exponent = none → d.value = r.perMille / 1000)) ∧
    ∀ (d : Decimal) (k : ℕ), Text.trim s.toList = d.chars → d.exponent = none →
      d.places.length ≤ 3 → 1 ≤ k → k ≤ 1000 → d.value = k / 1000 →
      ∃ r, parse s = .ok r ∧ r.perMille = k := by
  constructor
  · intro r ok
    obtain ⟨d, written, near, short⟩ := parse_sound ok
    have exact : d.value = r.perMille / 1000 ↔ ∃ n : ℤ, 1000 * d.value = n := by
      constructor
      · intro same
        exact ⟨r.perMille, by rw [same, Int.cast_natCast]; ring⟩
      · rintro ⟨n, whole⟩
        rw [whole, abs_le] at near
        have low : (r.perMille : ℚ) < n + 1 := by linarith
        have high : (n : ℚ) < r.perMille + 1 := by linarith
        have low : (r.perMille : ℤ) < n + 1 := mod_cast low
        have high : n < (r.perMille : ℤ) + 1 := mod_cast high
        obtain rfl : n = r.perMille := by omega
        rw [Int.cast_natCast] at whole
        linarith
    exact ⟨d, written, near, exact, fun none =>
      exact.mpr (whole_of_no_exponent none ((short_iff none).mp short))⟩
  · intro d k written none few one_le le exact
    have le : (k : ℚ) ≤ 1000 := mod_cast le
    have near : 1000 * d.value - k = 0 := by
      rw [exact]
      ring
    refine parse_of_near written ((short_iff none).mpr few) (by linarith) one_le ?_
    rw [near]
    norm_num

/-- With an exponent the number can have more digits than the check sees. -/
theorem exponent_rounds :
    (parse "9999e-4").toOption.map perMille = some 1000 ∧
      ∀ d : Decimal, d.chars = Text.trim "9999e-4".toList → d.value = 9999 / 10000 := by
  constructor
  · decide +kernel
  · intro d written
    have numeral : Numeral.ofChars? (Text.trim "9999e-4".toList) = some (.finite false 9999 (-4)) := by
      decide +kernel
    rw [← written, Decimal.ofChars?_chars, Option.some.injEq] at numeral
    rw [Decimal.value_of_numeral numeral]
    norm_num

end Telemetry.Quantile
