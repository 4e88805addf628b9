import Telemetry.Number.Rounding
import Telemetry.Proofs.Number.Nearest

/-!
Doubles as exact numbers. An operation on doubles computes the exact result and rounds it once; a
result that is too large becomes infinite. Comparisons and the way back to whole numbers are exact.
-/

namespace Telemetry.Double

open Float.Model Float.Model.UnpackedFloat

/-! ### Values -/

/-- The number that is meant, unless it is infinite or none at all. -/
def number? : UnpackedFloat → Option ℚ
  | .zero _ => some 0
  | .finite s m e _ => some (s.apply m * 2 ^ e)
  | _ => none

/-- The exact value of a double. -/
def value? (x : Float) : Option ℚ := number? x.toModel.unpack

/-- A finite number has 53 digits unless it is below the normal ones. -/
def Canonical : UnpackedFloat → Prop
  | .finite _ m e _ => m < 2 ^ 53 ∧ -1074 ≤ e ∧ e ≤ 971 ∧ (2 ^ 52 ≤ m ∨ e = -1074)
  | _ => True

/-- `x` is what `q` is rounded to, infinite only if `q` is too large. -/
inductive Rounded (q : ℚ) (x : Float) : Prop
  | finite {v : ℚ} (value : value? x = some v) (nearest : Nearest q v)
  | infinite (unpacked : x.toModel.unpack = .infinity .positive) (large : 2 ^ (1023 : ℤ) ≤ q)

section Packing

variable {s : Sign} {m : ℕ} {e : ℤ} {u : UnpackedFloat}

theorem toNat_one_append (v : BitVec 52) : (1#1 ++ v).toNat = 2 ^ 52 + v.toNat := by
  rw [BitVec.toNat_append, ← Nat.shiftLeft_add_eq_or_of_lt v.isLt]
  rfl

theorem pack_finite (hm : 0 < m) : UnpackedFloat.pack .binary64 (.finite s m e hm) =
    if 2 ^ 11 ≤ (e + 1023 + 52).toNat + 1 then packedInfinity .binary64 s
    else if m.log2 + 1 = 53 then
      packComponents .binary64 s (BitVec.ofNat 11 (e + 1023 + 52).toNat) (BitVec.ofNat 52 m)
    else packComponents .binary64 s 0#11 (BitVec.ofNat 52 m) := rfl

/-- How a double is read from its three parts. -/
theorem unpack_eq (b : BitVec 64) : UnpackedFloat.unpack .binary64 b =
    if @unpackExponent .binary64 b = -1#11 then
      if @unpackMantissa .binary64 b = 0#52 then .infinity (.ofBitVec (@unpackSign .binary64 b))
      else .notANumber
    else if @unpackExponent .binary64 b = 0#11 then
      if h : @unpackMantissa .binary64 b = 0#52 then .zero (.ofBitVec (@unpackSign .binary64 b))
      else .finite (.ofBitVec (@unpackSign .binary64 b)) (@unpackMantissa .binary64 b).toNat
        ((@unpackExponent .binary64 b).toNat - (1023 + 52) + 1)
        (Nat.pos_of_ne_zero fun h' => h (BitVec.eq_of_toNat_eq h'))
    else .finite (.ofBitVec (@unpackSign .binary64 b)) (1#1 ++ @unpackMantissa .binary64 b).toNat
      ((@unpackExponent .binary64 b).toNat - (1023 + 52)) (by rw [toNat_one_append]; omega) := rfl

theorem ofBitVec_packComponents (s : Sign) (e : BitVec 11) (m : BitVec 52) :
    Sign.ofBitVec (unpackSign (packComponents .binary64 s e m)) = s := by
  have top : unpackSign (packComponents .binary64 s e m) = s.toBitVec := by
    refine BitVec.eq_of_getLsbD_eq fun i hi => ?_
    obtain rfl : i = 0 := by omega
    change (((s.toBitVec ++ e) ++ m).extractLsb 63 63).getLsbD 0 = s.toBitVec.getLsbD 0
    rw [BitVec.getLsbD_extractLsb, BitVec.getLsbD_append, BitVec.getLsbD_append]
    rfl
  rw [top]
  cases s <;> rfl

theorem unpack_normal {e : BitVec 11} (m : BitVec 52) (h : e ≠ -1#11) (h' : e ≠ 0#11) :
    UnpackedFloat.unpack .binary64 (packComponents .binary64 s e m) =
      .finite s (1#1 ++ m).toNat (e.toNat - (1023 + 52)) (by rw [toNat_one_append]; omega) := by
  have exponent : unpackExponent (packComponents .binary64 s e m) = e :=
    unpackExponent_packComponents ..
  have mantissa : unpackMantissa (packComponents .binary64 s e m) = m :=
    unpackMantissa_packComponents ..
  rw [unpack_eq, if_neg (by rwa [exponent]), if_neg (by rwa [exponent]), finite.injEq, mantissa,
    exponent]
  exact ⟨ofBitVec_packComponents s e m, rfl, rfl⟩

theorem unpack_subnormal {m : BitVec 52} (h : m ≠ 0#52) :
    UnpackedFloat.unpack .binary64 (packComponents .binary64 s 0#11 m) =
      .finite s m.toNat (-1074) (Nat.pos_of_ne_zero fun h' => h (BitVec.eq_of_toNat_eq h')) := by
  have exponent : unpackExponent (packComponents .binary64 s 0#11 m) = 0#11 :=
    unpackExponent_packComponents ..
  have mantissa : unpackMantissa (packComponents .binary64 s 0#11 m) = m :=
    unpackMantissa_packComponents ..
  rw [unpack_eq, if_neg (by rw [exponent]; decide), if_pos exponent, dif_neg (by rwa [mantissa]),
    finite.injEq, mantissa, exponent]
  exact ⟨ofBitVec_packComponents s 0#11 m, rfl, rfl⟩

theorem unpack_pack_normal (hm : 0 < m) (hl : 2 ^ 52 ≤ m) (hu : m < 2 ^ 53) (he : -1074 ≤ e)
    (he' : e ≤ 971) : (Float.Model.pack (.finite s m e hm)).unpack = .finite s m e hm := by
  have log : m.log2 = 52 := (Nat.log2_eq_iff hm.ne').mpr ⟨hl, hu⟩
  have exponent : (BitVec.ofNat 11 (e + 1023 + 52).toNat).toNat = (e + 1023 + 52).toNat := by
    rw [BitVec.toNat_ofNat]
    omega
  have mantissa : (1#1 ++ BitVec.ofNat 52 m).toNat = m := by
    rw [toNat_one_append, BitVec.toNat_ofNat]
    omega
  change UnpackedFloat.unpack .binary64 (UnpackedFloat.pack .binary64 _) = _
  rw [pack_finite, if_neg (by omega), if_pos (by omega), unpack_normal]
  · rw [finite.injEq, mantissa, exponent]
    exact ⟨rfl, rfl, by omega⟩
  all_goals
    rw [Ne, ← BitVec.toNat_inj, exponent]
    simp
    omega

theorem unpack_pack_subnormal (hm : 0 < m) (hu : m < 2 ^ 52) :
    (Float.Model.pack (.finite s m (-1074) hm)).unpack = .finite s m (-1074) hm := by
  have log : m.log2 < 52 := (Nat.log2_lt hm.ne').mpr hu
  have mantissa : (BitVec.ofNat 52 m).toNat = m := by
    rw [BitVec.toNat_ofNat]
    omega
  change UnpackedFloat.unpack .binary64 (UnpackedFloat.pack .binary64 _) = _
  rw [pack_finite, if_neg (by decide), if_neg (by omega), unpack_subnormal]
  · rw [finite.injEq, mantissa]
    exact ⟨rfl, rfl, rfl⟩
  · rw [Ne, ← BitVec.toNat_inj, mantissa]
    exact hm.ne'

theorem unpack_pack (h : Canonical u) : (Float.Model.pack u).unpack = u := by
  cases u with
  | infinity s => cases s <;> rfl
  | notANumber => rfl
  | zero s => cases s <;> rfl
  | finite s m e hm =>
    obtain ⟨hu, he, he', hl | rfl⟩ := h
    · exact unpack_pack_normal hm hl hu he he'
    · by_cases hl : 2 ^ 52 ≤ m
      · exact unpack_pack_normal hm hl hu he he'
      · exact unpack_pack_subnormal hm (by omega)

theorem unpack_pack_large (hm : 0 < m) (he : 972 ≤ e) :
    (Float.Model.pack (.finite s m e hm)).unpack = .infinity s := by
  change UnpackedFloat.unpack .binary64 (UnpackedFloat.pack .binary64 _) = _
  rw [pack_finite, if_pos (by omega)]
  cases s <;> rfl

theorem canonical_unpack (x : Float.Model) : Canonical x.unpack := by
  have digits : (@unpackMantissa .binary64 x.toBits.toBitVec).toNat < 2 ^ 52 := BitVec.isLt _
  have places : (@unpackExponent .binary64 x.toBits.toBitVec).toNat < 2 ^ 11 := BitVec.isLt _
  change Canonical (UnpackedFloat.unpack .binary64 x.toBits.toBitVec)
  rw [unpack_eq]
  by_cases top : @unpackExponent .binary64 x.toBits.toBitVec = -1#11
  · rw [if_pos top]
    by_cases zero : @unpackMantissa .binary64 x.toBits.toBitVec = 0#52
    · rw [if_pos zero]
      trivial
    · rw [if_neg zero]
      trivial
  rw [if_neg top]
  by_cases low : @unpackExponent .binary64 x.toBits.toBitVec = 0#11
  · rw [if_pos low]
    by_cases zero : @unpackMantissa .binary64 x.toBits.toBitVec = 0#52
    · rw [dif_pos zero]
      trivial
    · have least : (@unpackExponent .binary64 x.toBits.toBitVec).toNat = 0 :=
        congrArg BitVec.toNat low
      rw [dif_neg zero]
      exact ⟨by omega, by omega, by omega, .inr (by omega)⟩
  · have below : (@unpackExponent .binary64 x.toBits.toBitVec).toNat ≠ 2047 :=
      fun h => top (BitVec.eq_of_toNat_eq h)
    have above : (@unpackExponent .binary64 x.toBits.toBitVec).toNat ≠ 0 :=
      fun h => low (BitVec.eq_of_toNat_eq h)
    have full := toNat_one_append (@unpackMantissa .binary64 x.toBits.toBitVec)
    rw [if_neg low]
    exact ⟨by omega, by omega, by omega, .inl (by omega)⟩

end Packing

/-! ### Rounding -/

section Rounding

variable {q : ℚ} {m r : ℕ} {e t : ℤ} {a : Accuracy} {x y : Float}

theorem value?_pack {s : Sign} {hm : 0 < m} (h : Canonical (.finite s m e hm)) :
    value? (.ofModel (.pack (.finite s m e hm))) = some (((s.apply m : ℤ) : ℚ) * 2 ^ e) :=
  congrArg number? (unpack_pack h)

theorem value?_pack_zero (s : Sign) : value? (.ofModel (.pack (.zero s))) = some 0 :=
  congrArg number? (@unpack_pack (.zero s) trivial)

theorem rounded_pack (hm : 0 < m) (near : Nearest q (m * 2 ^ e)) (digits : m < 2 ^ 53)
    (he : -1074 ≤ e) (full : 2 ^ 52 ≤ m ∨ e = -1074) (large : 972 ≤ e → 2 ^ (1023 : ℤ) ≤ q) :
    Rounded q (.ofModel (.pack (.finite .positive m e hm))) := by
  obtain fits | exceeds := le_or_gt e 971
  · exact .finite (value?_pack ⟨digits, he, fits, full⟩) near
  · exact .infinite (unpack_pack_large hm exceeds) (large exceeds)

theorem rounded_assemble (hq : 0 < q) (near : Nearest q (r * 2 ^ place q)) (hr : r ≤ 2 ^ 53)
    (full : 2 ^ 52 ≤ r ∨ place q = -1074) :
    Rounded q (.ofModel (.pack (assemble .positive r (place q)))) := by
  have least : -1074 ≤ place q := le_max_right ..
  have large (h : 971 ≤ place q) : 2 ^ (1023 : ℤ) ≤ q := by
    rw [place] at h
    exact (le_log_iff hq).mp (by omega)
  obtain rfl | pos := r.eq_zero_or_pos
  · rw [assemble, dif_pos rfl]
    exact .finite (value?_pack_zero _) (by simpa using near)
  obtain fits | rfl := hr.lt_or_eq
  · rw [assemble, dif_neg pos.ne', if_pos fits]
    exact rounded_pack pos near fits least full fun h => large (by omega)
  · rw [assemble, dif_neg pos.ne', if_neg (lt_irrefl _)]
    refine rounded_pack (by decide) ?_ (by decide) (by omega) (.inl le_rfl)
      fun h => large (by omega)
    have carried : ((2 ^ 53 : ℕ) : ℚ) * 2 ^ place q = (2 ^ 52 : ℕ) * 2 ^ (place q + 1) := by
      rw [zpow_add_one₀ two_ne_zero]
      push_cast
      ring
    rwa [← carried]

theorem rounded_roundWithAccuracy (hq : 0 < q) (he : e ≤ place q) (hm : 0 < m ∨ e ≤ -1074)
    (h : Holds (.ofMantissaAndAccuracy m a) (q / 2 ^ e)) :
    Rounded q (.ofModel (.pack (roundWithAccuracy .binary64 .positive m e a))) := by
  obtain ⟨r, eq, near, most, least⟩ := roundWithAccuracy_eq .positive hq he hm h
  have pos := two_zpow_pos (place q)
  have nearest : Nearest q (r * 2 ^ place q) := by
    refine ⟨⟨r, by simp⟩, ?_⟩
    have scaled : r * 2 ^ place q - q = (r - q / 2 ^ place q) * 2 ^ place q := by
      rw [sub_mul, div_mul_cancel₀ _ pos.ne']
    rw [scaled, abs_mul, abs_of_pos pos]
    linarith [mul_le_mul_of_nonneg_right near pos.le]
  rw [eq]
  exact rounded_assemble hq nearest most least

theorem le_place (hq : 0 < q) (h : 2 ^ (e + 52) ≤ q ∨ e ≤ -1074) : e ≤ place q := by
  rw [← le_log_iff hq] at h
  rw [place]
  omega

theorem shiftLeft_mul (m k : ℕ) (e : ℤ) : ((m <<< k : ℕ) * 2 ^ (e - k) : ℚ) = m * 2 ^ e := by
  rw [Nat.shiftLeft_eq, zpow_sub₀ two_ne_zero, zpow_natCast]
  push_cast
  field_simp

theorem rounded_round (hm : 0 < m) :
    Rounded (m * 2 ^ e) (.ofModel (.pack (UnpackedFloat.round .binary64 .positive m e))) := by
  have pos := two_zpow_pos e
  have hq : (0 : ℚ) < m * 2 ^ e := by positivity
  have place := place_eq_target hq le_rfl (by gcongr; linarith) (.inl hm)
  rw [UnpackedFloat.round, ← place, decreaseExponent]
  generalize hk : (e - Double.place (m * 2 ^ e)).toNat = k
  refine rounded_roundWithAccuracy hq (by omega) (.inl (Nat.shiftLeft_pos_iff.mpr hm)) ?_
  rw [← shiftLeft_mul m k, mul_div_cancel_right₀ _ (two_zpow_pos _).ne']
  exact holds_exact _

variable {m₁ m₂ : ℕ} {e₁ e₂ : ℤ} {hm₁ : 0 < m₁} {hm₂ : 0 < m₂}

theorem rounded_mul (h : 2 ^ 52 ≤ m₁ * m₂ ∨ e₁ + e₂ ≤ -1074) :
    Rounded (m₁ * 2 ^ e₁ * (m₂ * 2 ^ e₂)) (.ofModel (.pack (mul .binary64
      (.finite .positive m₁ e₁ hm₁) (.finite .positive m₂ e₂ hm₂)))) := by
  have product : (m₁ * 2 ^ e₁ * (m₂ * 2 ^ e₂) : ℚ) = (m₁ * m₂ : ℕ) * 2 ^ (e₁ + e₂) := by
    rw [zpow_add₀ two_ne_zero]
    push_cast
    ring
  have pos := two_zpow_pos (e₁ + e₂)
  have hm := Nat.mul_pos hm₁ hm₂
  rw [product]
  have hq : (0 : ℚ) < (m₁ * m₂ : ℕ) * 2 ^ (e₁ + e₂) := mul_pos (mod_cast hm) pos
  refine rounded_roundWithAccuracy hq (le_place hq (h.imp_left fun h => ?_)) (.inl hm) ?_
  · rw [add_comm, zpow_add₀ two_ne_zero]
    gcongr
    exact_mod_cast h
  · rw [mul_div_cancel_right₀ _ pos.ne']
    exact holds_exact _

theorem two_zpow_le_div (hm₁ : 0 < m₁) (hm₂ : 0 < m₂) :
    2 ^ (m₁.log2 + e₁ - m₂.log2 - e₂ - 1) ≤ (m₁ * 2 ^ e₁ / (m₂ * 2 ^ e₂) : ℚ) := by
  have above : (2 : ℚ) ^ (m₁.log2 + e₁) ≤ m₁ * 2 ^ e₁ := by
    rw [zpow_add₀ two_ne_zero, zpow_natCast]
    gcongr
    exact_mod_cast Nat.log2_self_le hm₁.ne'
  have below : (m₂ * 2 ^ e₂ : ℚ) ≤ 2 ^ (m₂.log2 + 1 + e₂) := by
    rw [zpow_add₀ two_ne_zero]
    gcongr
    exact_mod_cast Nat.lt_log2_self.le
  have pos := two_zpow_pos e₂
  rw [le_div_iff₀ (by positivity)]
  refine le_trans ?_ above
  calc (2 : ℚ) ^ (m₁.log2 + e₁ - m₂.log2 - e₂ - 1) * (m₂ * 2 ^ e₂)
      ≤ 2 ^ (m₁.log2 + e₁ - m₂.log2 - e₂ - 1) * 2 ^ (m₂.log2 + 1 + e₂) := by gcongr
    _ = 2 ^ (m₁.log2 + e₁) := by
      rw [← zpow_add₀ two_ne_zero]
      congr 1
      ring

theorem rounded_div :
    Rounded (m₁ * 2 ^ e₁ / (m₂ * 2 ^ e₂)) (.ofModel (.pack (div .binary64
      (.finite .positive m₁ e₁ hm₁) (.finite .positive m₂ e₂ hm₂)))) := by
  have ratio : 2 ^ (m₁.log2 + e₁ - m₂.log2 - e₂ - 1) ≤ (m₁ * 2 ^ e₁ / (m₂ * 2 ^ e₂) : ℚ) :=
    two_zpow_le_div hm₁ hm₂
  have hq := (two_zpow_pos _).trans_le ratio
  have target (t₁ t₂ : ℤ) :
      Format.binary64.targetExponent (t₁ - t₂) = max (t₁ - t₂ - 53) (-1074) := rfl
  have divided : div .binary64 (.finite .positive m₁ e₁ hm₁) (.finite .positive m₂ e₂ hm₂) =
      roundWithAccuracy .binary64 .positive (divCore .binary64 m₁ e₁ m₂ e₂).1
        (divCore .binary64 m₁ e₁ m₂ e₂).2.1 (divCore .binary64 m₁ e₁ m₂ e₂).2.2 := rfl
  rw [divided]
  simp only [divCore, target, totalExponent]
  generalize hE : min (e₁ - e₂) _ = E
  obtain ⟨k, hk⟩ : ∃ k : ℕ, (k : ℤ) = e₁ - e₂ - E := ⟨(e₁ - e₂ - E).toNat, by omega⟩
  have moved : (m₁ * 2 ^ e₁ / (m₂ * 2 ^ e₂) : ℚ) / 2 ^ E = (m₁ <<< k : ℕ) / m₂ := by
    have pos := two_zpow_pos E
    have apart : e₁ = e₂ + E + k := by omega
    rw [Nat.shiftLeft_eq, apart, zpow_add₀ two_ne_zero, zpow_add₀ two_ne_zero, zpow_natCast]
    push_cast
    field_simp
  rw [← hk, Int.toNat_natCast]
  refine rounded_roundWithAccuracy hq (le_place hq ?_) ?_ ?_
  · refine or_iff_not_imp_right.mpr fun normal => le_trans ?_ ratio
    exact zpow_le_zpow_right₀ one_le_two (by omega)
  · refine or_iff_not_imp_right.mpr fun normal => ?_
    have one_le : (1 : ℚ) ≤ (m₁ <<< k : ℕ) / m₂ := by
      rw [← moved, le_div_iff₀ (two_zpow_pos E), one_mul]
      exact le_trans (zpow_le_zpow_right₀ one_le_two (by omega)) ratio
    rw [le_div_iff₀ (mod_cast hm₂), one_mul] at one_le
    exact Nat.div_pos (mod_cast one_le) hm₂
  · rw [moved]
    exact holds_fraction _ hm₂

end Rounding

end Telemetry.Double
