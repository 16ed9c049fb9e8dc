import FormulaField.Proofs.Number.Products

set_option autoImplicit false

namespace FormulaField.Number

open Float.Model (Format totalExponent)
open Float.Model.UnpackedFloat

-- The unit of the whole quotient: it has 53 bits at least, if the unit of the smallest numbers is not above it.
def quotientUnit (m n : Nat) (e f : Int) : Int :=
  min (e - f) (max ((m.log2 : Int) - n.log2 + (e - f) - 53) (-1074))

def scaledDividend (m n : Nat) (e f : Int) : Nat := m * 2 ^ (e - f - quotientUnit m n e f).toNat

theorem quotient_parts (m n : Nat) (e f : Int) : divCore Format.binary64 m e n f =
    (scaledDividend m n e f / n, quotientUnit m n e f, accuracyOfFraction (scaledDividend m n e f % n) n) := by
  have unit : min (e - f) (Format.binary64.targetExponent (totalExponent m e - totalExponent n f)) =
      quotientUnit m n e f := by
    change min (e - f) (max ((m.log2 : Int) + 1 + e - (n.log2 + 1 + f) - 53) (-1074)) = _
    rw [quotientUnit]
    omega
  simp only [divCore, unit, Nat.shiftLeft_eq]
  rfl

theorem scaled_dividend_value (m n : Nat) (e f : Int) :
    (m : ℚ) * 2 ^ e / (n * 2 ^ f) = scaledDividend m n e f / n * 2 ^ quotientUnit m n e f := by
  have whole : 0 ≤ e - f - quotientUnit m n e f := by
    rw [quotientUnit]
    omega
  have split : (2 : ℚ) ^ (e - f) = 2 ^ (e - f - quotientUnit m n e f) * 2 ^ quotientUnit m n e f := by
    rw [← zpow_add₀ two_nonzero, Int.sub_add_cancel]
  rw [scaledDividend, Nat.cast_mul, Nat.cast_pow, Nat.cast_ofNat, ← zpow_natCast, Int.toNat_of_nonneg whole,
    mul_div_mul_comm, ← zpow_sub₀ two_nonzero, split]
  ring

theorem quotient_low (m n : Nat) (e f : Int) (some : 0 < m) (positive : 0 < n) :
    quotientUnit m n e f ≤ max (((scaledDividend m n e f / n).log2 : Int) + quotientUnit m n e f - 52) (-1074) := by
  by_cases small : quotientUnit m n e f ≤ -1074
  · omega
  · -- Above the smallest unit the dividend is long enough for 53 bits of the quotient.
    have shifted : (n.log2 : Int) + 53 ≤ m.log2 + (e - f - quotientUnit m n e f) := by
      rw [quotientUnit] at small ⊢
      omega
    have least := Nat.log2_self_le some.ne'
    have most : n < 2 ^ (n.log2 + 1) := Nat.lt_log2_self
    have long : 2 ^ 52 ≤ scaledDividend m n e f / n := by
      rw [Nat.le_div_iff_mul_le positive, scaledDividend]
      calc 2 ^ 52 * n ≤ 2 ^ 52 * 2 ^ (n.log2 + 1) := Nat.mul_le_mul_left _ most.le
        _ = 2 ^ (n.log2 + 53) := by
            rw [← Nat.pow_add]
            congr 1
            omega
        _ ≤ 2 ^ (m.log2 + (e - f - quotientUnit m n e f).toNat) := Nat.pow_le_pow_right Nat.two_pos (by omega)
        _ = 2 ^ m.log2 * 2 ^ (e - f - quotientUnit m n e f).toNat := Nat.pow_add _ _ _
        _ ≤ m * 2 ^ (e - f - quotientUnit m n e f).toNat := Nat.mul_le_mul_right _ least
    have bits := (Nat.le_log2 (Nat.ne_of_gt (Nat.lt_of_lt_of_le (Nat.pow_pos Nat.two_pos) long))).mpr long
    omega

theorem quotient_nearest (x y : Float) (finite : x.isFinite = true) (otherFinite : y.isFinite = true)
    (divisor : absolute y ≠ 0) (num den : Nat) (positive : 0 < den)
    (value : (num : ℚ) / den = absolute x / absolute y) :
    x / y = ofRatio (isNegative x != isNegative y) num den := by
  have divided := quotient_bits x y
  have bound := nearest_bound num den
  rcases unpack_parts y otherFinite with ⟨none, other⟩ | ⟨otherSome, other⟩
  · exact absurd (value_of_none y none) divisor
  · rcases unpack_parts x finite with ⟨none, own⟩ | ⟨some, own⟩
    · refine zero_packed _ _ num den positive (by rw [value, value_of_none x none, zero_div]) ?_
      rw [divided, own, other, div, sign_divided]
    · rw [own, other, div, sign_divided, quotient_parts] at divided
      have split : (num : ℚ) / den = scaledDividend (parts x).significand (parts y).significand (parts x).exponent
          (parts y).exponent / (parts y).significand *
          2 ^ quotientUnit (parts x).significand (parts y).significand (parts x).exponent (parts y).exponent := by
        rw [value, absolute, absolute, scaled_dividend_value]
      have numSome : 0 < num := by
        by_contra nothing
        rw [Nat.eq_zero_of_not_pos nothing, Nat.cast_zero, zero_div] at value
        have apart : absolute x ≠ 0 := mul_ne_zero (Nat.cast_ne_zero.mpr some.ne') (two_power_positive _).ne'
        exact div_ne_zero apart divisor value.symm
      obtain ⟨sign, field⟩ := quotient_packed (signOf (isNegative x != isNegative y)) _ _ _ num den numSome otherSome
        positive split (quotient_low _ _ _ _ some otherSome)
      refine of_packed _ _ _ bound ?_ ?_
      · rw [divided, sign]
      · rw [divided, field]

theorem finite_below (x : Float) (finite : x.isFinite = true) : absolute x < largest + 2 ^ (970 : Int) := by
  have reads := nearest_of_value x _ _ finite (ratio_positive x) (ratio_is_value x)
  rw [← ratio_is_value, ← nearest_finite_iff _ _ (ratio_positive x), reads]
  exact (finite_iff x).mp finite

theorem quotient_ratio (x y : Float) (divisor : absolute y ≠ 0) :
    ∃ num den : Nat, 0 < den ∧ (num : ℚ) / den = absolute x / absolute y := by
  have other : (ratio y).1 ≠ 0 := by
    intro none
    rw [← ratio_is_value, none, Nat.cast_zero, zero_div] at divisor
    exact divisor rfl
  refine ⟨(ratio x).1 * (ratio y).2, (ratio x).2 * (ratio y).1, ?_, ?_⟩
  · exact Nat.mul_pos (ratio_positive x) (Nat.pos_of_ne_zero other)
  · rw [← ratio_is_value, ← ratio_is_value, Nat.cast_mul, Nat.cast_mul, div_div_div_eq]

section Quotient

variable (x y : Float) (finite : x.isFinite = true) (otherFinite : y.isFinite = true) (divisor : absolute y ≠ 0)

include finite otherFinite divisor

theorem quotient_number : (x / y).isNaN = false := by
  obtain ⟨num, den, positive, value⟩ := quotient_ratio x y divisor
  rw [quotient_nearest x y finite otherFinite divisor num den positive value]
  exact of_ratio_number _ _ _

theorem quotient_finite_iff : (x / y).isFinite = true ↔ absolute x / absolute y < largest + 2 ^ (970 : Int) := by
  obtain ⟨num, den, positive, value⟩ := quotient_ratio x y divisor
  rw [quotient_nearest x y finite otherFinite divisor num den positive value, finite_iff, ofRatio,
    magnitude_of_magnitude _ _ (nearest_bound _ _), nearest_finite_iff _ _ positive, value]

theorem quotient_size (small : absolute x / absolute y ≤ 1 / 2) (large : 2 ^ (-1074 : Int) ≤ absolute x / absolute y) :
    (x / y).isFinite = true ∧ 0 < absolute (x / y) ∧ absolute (x / y) ≤ 1 := by
  have quotientFinite : (x / y).isFinite = true := by
    have top : (1 : ℚ) / 2 < largest + 2 ^ (970 : Int) := by
      have one : (2 : ℚ) ^ (0 : Int) ≤ 2 ^ (970 : Int) := zpow_le_zpow_right₀ one_le_two (by omega)
      calc (1 : ℚ) / 2 < 2 ^ (0 : Int) := by norm_num
        _ ≤ 2 ^ (970 : Int) := one
        _ < largest + 2 ^ (970 : Int) := lt_add_of_pos_left _ largest_positive
    exact (quotient_finite_iff x y finite otherFinite divisor).mpr (small.trans_lt top)
  obtain ⟨num, den, positive, value⟩ := quotient_ratio x y divisor
  rw [← value] at small large
  have some : 0 < num := by
    by_contra none
    rw [Nat.eq_zero_of_not_pos none, Nat.cast_zero, zero_div] at large
    exact absurd large (not_le_of_gt (two_power_positive _))
  have reads : nearestMagnitude num den = magnitude (x / y) := by
    rw [quotient_nearest x y finite otherFinite divisor num den positive value, ofRatio,
      magnitude_of_magnitude _ _ (nearest_bound _ _)]
  obtain ⟨least, most⟩ := nearest_error (x / y) num den quotientFinite some positive reads
  obtain ⟨own, same, above, below⟩ := unit_exponent_scale num den some positive
  have fine : (2 : ℚ) ^ unitExponent num den ≤ num / den := by
    rcases max_choice own (-1074) with normal | smallest
    · rw [same, normal]
      exact (zpow_le_zpow_right₀ one_le_two (by omega)).trans above
    · rwa [same, smallest]
  have unit := two_power_positive (unitExponent num den)
  exact ⟨quotientFinite, by linarith, by linarith⟩

end Quotient

end FormulaField.Number
