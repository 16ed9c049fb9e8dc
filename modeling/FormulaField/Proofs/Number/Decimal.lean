import FormulaField.Number.Decimal
import FormulaField.Proofs.Number.Nearest
import Mathlib.Data.Nat.Cast.Field

set_option autoImplicit false

namespace FormulaField.Number

theorem ten_power_positive (e : Int) : (0 : ℚ) < 10 ^ e := zpow_pos (by norm_num) e

theorem ten_to_cast (n : Nat) : ((tenTo n : Nat) : ℚ) = 10 ^ (n : Int) := by
  rw [tenTo, Nat.pow_eq, Nat.cast_pow, zpow_natCast, Nat.cast_ofNat]

theorem five_to_cast (n : Nat) : ((fiveTo n : Nat) : ℚ) = 5 ^ (n : Int) := by
  rw [fiveTo, Nat.pow_eq, Nat.cast_pow, zpow_natCast, Nat.cast_ofNat]

theorem nearest_bound (num den : Nat) : nearestMagnitude num den ≤ infiniteMagnitude := by
  rw [nearestMagnitude]
  split
  · exact Nat.zero_le _
  · exact Nat.min_le_right _ _

theorem of_decimal_form (d : Decimal) :
    ∃ m, m ≤ infiniteMagnitude ∧ ∀ negative, ofDecimal negative d = ofMagnitude negative m := by
  by_cases none : d.coefficient = 0
  · exact ⟨0, Nat.zero_le _, fun negative => by rw [ofDecimal, if_pos none, zero]⟩
  by_cases high : 400 < d.exponent
  · exact ⟨infiniteMagnitude, Nat.le_refl _, fun negative => by rw [ofDecimal, if_neg none, if_pos high, infinity]⟩
  by_cases low : d.exponent < -((d.coefficient.log2 : Int) + 1100)
  · exact ⟨0, Nat.zero_le _, fun negative => by rw [ofDecimal, if_neg none, if_neg high, if_pos low, zero]⟩
  by_cases whole : 0 ≤ d.exponent
  · refine ⟨_, nearest_bound (d.coefficient * tenTo d.exponent.toNat) 1, fun negative => ?_⟩
    rw [ofDecimal, if_neg none, if_neg high, if_neg low, if_pos whole, ofRatio]
  · refine ⟨_, nearest_bound d.coefficient (tenTo (-d.exponent).toNat), fun negative => ?_⟩
    rw [ofDecimal, if_neg none, if_neg high, if_neg low, if_neg whole, ofRatio]

theorem of_decimal_magnitude (negative : Bool) (d : Decimal) :
    ofDecimal negative d = ofMagnitude negative (magnitude (ofDecimal false d)) := by
  obtain ⟨m, bound, form⟩ := of_decimal_form d
  rw [form, form, magnitude_of_magnitude false m bound]

def Decimal.number (d : Decimal) : ℚ := d.coefficient * 10 ^ d.exponent

theorem absolute_below (x : Float) (finite : x.isFinite = true) : absolute x < 2 ^ (1024 : Int) := by
  have shape := parts_of_magnitude x
  have bound := (finite_iff x).mp finite
  have bits := shape.bits
  have exponent : (parts x).exponent ≤ 971 := by
    rw [infiniteMagnitude, two_to_52] at bound
    rcases shape.full with subnormal | full <;> omega
  have significand : ((parts x).significand : ℚ) < 2 ^ (53 : Int) := by exact_mod_cast shape.short
  calc absolute x
      < 2 ^ (53 : Int) * 2 ^ (parts x).exponent := mul_lt_mul_of_pos_right significand (two_power_positive _)
    _ ≤ 2 ^ (53 : Int) * 2 ^ (971 : Int) :=
        mul_le_mul_of_nonneg_left (zpow_le_zpow_right₀ one_le_two exponent) (two_power_positive _).le
    _ = 2 ^ (1024 : Int) := (zpow_add₀ two_nonzero _ _).symm

theorem absolute_bound (x : Float) (finite : x.isFinite = true) : absolute x < 10 ^ (400 : Int) := by
  calc absolute x < 2 ^ (1024 : Int) := absolute_below x finite
    _ = (2 ^ 64) ^ 16 := by
        rw [← pow_mul]
        rfl
    _ < (10 ^ 25) ^ 16 := pow_lt_pow_left₀ (by norm_num) (by norm_num) (by decide)
    _ = 10 ^ (400 : Int) := by
        rw [← pow_mul]
        rfl

theorem absolute_least (x : Float) (some : absolute x ≠ 0) : 2 ^ (-1074 : Int) ≤ absolute x := by
  have shape := parts_of_magnitude x
  have significand : (1 : ℚ) ≤ (parts x).significand := by
    have apart : (parts x).significand ≠ 0 := by
      intro none
      rw [absolute, none, Nat.cast_zero, zero_mul] at some
      exact some rfl
    exact_mod_cast Nat.pos_of_ne_zero apart
  calc (2 : ℚ) ^ (-1074 : Int) ≤ 2 ^ (parts x).exponent := zpow_le_zpow_right₀ one_le_two shape.least
    _ ≤ absolute x := le_mul_of_one_le_left (two_power_positive _).le significand

-- What is below the range of the exponents is far below the smallest double.
theorem tiny_decimal (d : Decimal) (some : d.coefficient ≠ 0)
    (low : d.exponent < -((d.coefficient.log2 : Int) + 1100)) : d.number < 2 ^ (-1099 : Int) := by
  have ten : (10 : ℚ) ^ d.exponent ≤ 2 ^ d.exponent := by
    have inverse : ((10 : ℚ) ^ (-d.exponent))⁻¹ ≤ (2 ^ (-d.exponent))⁻¹ := by
      refine inv_anti₀ (two_power_positive _) ?_
      exact zpow_le_zpow_left₀ (by omega) (by norm_num) (by norm_num)
    rwa [zpow_neg, zpow_neg, inv_inv, inv_inv] at inverse
  calc (d.coefficient : ℚ) * 10 ^ d.exponent
      ≤ d.coefficient * 2 ^ d.exponent := mul_le_mul_of_nonneg_left ten (Nat.cast_nonneg _)
    _ ≤ 2 ^ ((d.coefficient.log2 : Int) + 1) * 2 ^ d.exponent :=
        mul_le_mul_of_nonneg_right (log_bounds _ (Nat.pos_of_ne_zero some)).2.le (two_power_positive _).le
    _ = 2 ^ ((d.coefficient.log2 : Int) + 1 + d.exponent) := (zpow_add₀ two_nonzero _ _).symm
    _ < 2 ^ (-1099 : Int) := (two_power_strict _ _).mpr (by omega)

theorem large_decimal (d : Decimal) (some : d.coefficient ≠ 0) (high : 400 < d.exponent) :
    10 ^ (401 : Int) ≤ d.number := by
  have atLeast : (1 : ℚ) ≤ d.coefficient := by exact_mod_cast Nat.pos_of_ne_zero some
  calc (10 : ℚ) ^ (401 : Int) ≤ 10 ^ d.exponent := zpow_le_zpow_right₀ (by norm_num) (by omega)
    _ ≤ d.coefficient * 10 ^ d.exponent := le_mul_of_one_le_left (ten_power_positive _).le atLeast

theorem decimal_nearest (d : Decimal) (least : 2 ^ (-1099 : Int) ≤ d.number) (most : d.number < 10 ^ (401 : Int)) :
    ∃ num den : Nat, 0 < den ∧ (num : ℚ) / den = d.number ∧ magnitude (ofDecimal false d) = nearestMagnitude num den := by
  have some : d.coefficient ≠ 0 := by
    intro none
    rw [Decimal.number, none, Nat.cast_zero, zero_mul] at least
    exact absurd (two_power_positive _) (not_lt_of_ge least)
  have notHigh : ¬400 < d.exponent := fun high => absurd (large_decimal d some high) (not_le_of_gt most)
  have notLow : ¬d.exponent < -((d.coefficient.log2 : Int) + 1100) :=
    fun low => absurd (tiny_decimal d some low) (not_lt_of_ge least)
  rw [ofDecimal, if_neg some, if_neg notHigh, if_neg notLow, Decimal.number]
  by_cases whole : 0 ≤ d.exponent
  · have ten : ((tenTo d.exponent.toNat : Nat) : ℚ) = 10 ^ d.exponent := by
      rw [ten_to_cast, Int.toNat_of_nonneg whole]
    refine ⟨d.coefficient * tenTo d.exponent.toNat, 1, Nat.one_pos, ?_, ?_⟩
    · rw [Nat.cast_mul, ten, Nat.cast_one, div_one]
    · rw [if_pos whole, ofRatio, magnitude_of_magnitude false _ (nearest_bound _ _)]
  · have ten : ((tenTo (-d.exponent).toNat : Nat) : ℚ) = (10 ^ d.exponent)⁻¹ := by
      rw [ten_to_cast, Int.toNat_of_nonneg (by omega), zpow_neg]
    refine ⟨d.coefficient, tenTo (-d.exponent).toNat, Nat.pow_pos (by decide), ?_, ?_⟩
    · rw [ten, div_inv_eq_mul]
    · rw [if_neg whole, ofRatio, magnitude_of_magnitude false _ (nearest_bound _ _)]

theorem read_value (x : Float) (d : Decimal) (finite : x.isFinite = true) (value : d.number = absolute x) :
    magnitude (ofDecimal false d) = magnitude x := by
  by_cases none : d.coefficient = 0
  · rw [Decimal.number, none, Nat.cast_zero, zero_mul] at value
    rw [ofDecimal, if_pos none, zero, magnitude_of_magnitude false 0 (Nat.zero_le _),
      ← nearest_of_value x 0 1 finite Nat.one_pos (by rw [Nat.cast_zero, zero_div, value])]
    rfl
  · have apart : absolute x ≠ 0 := by
      rw [← value]
      exact mul_ne_zero (Nat.cast_ne_zero.mpr none) (ten_power_positive _).ne'
    have least : (2 : ℚ) ^ (-1099 : Int) ≤ 2 ^ (-1074 : Int) := zpow_le_zpow_right₀ one_le_two (by decide)
    have most : (10 : ℚ) ^ (400 : Int) ≤ 10 ^ (401 : Int) := zpow_le_zpow_right₀ (by norm_num) (by decide)
    obtain ⟨num, den, positive, same, reads⟩ := decimal_nearest d (value ▸ least.trans (absolute_least x apart))
      (value ▸ (absolute_bound x finite).trans_le most)
    rw [reads, nearest_of_value x num den finite positive (same.trans value)]

theorem whole_is_value (x : Float) (whole : isWhole x = true) : ((truncatedAbs x : Nat) : ℚ) = absolute x := by
  simp only [isWhole, Bool.and_eq_true, Bool.or_eq_true, decide_eq_true_eq, beq_iff_eq] at whole
  rw [truncatedAbs, absolute]
  by_cases up : 0 ≤ (parts x).exponent
  · rw [if_pos up, Nat.cast_mul, two_to_cast, Int.toNat_of_nonneg up]
  · have divides : twoTo (-(parts x).exponent).toNat ∣ (parts x).significand := by
      rcases whole.2 with above | none
      · exact absurd above up
      · exact Nat.dvd_of_mod_eq_zero none
    have unit : ((twoTo (-(parts x).exponent).toNat : Nat) : ℚ) = (2 ^ (parts x).exponent)⁻¹ := by
      rw [two_to_cast, Int.toNat_of_nonneg (by omega), zpow_neg]
    rw [if_neg up, Nat.cast_div divides, unit, div_inv_eq_mul]
    rw [unit]
    exact inv_ne_zero (two_power_positive _).ne'

theorem exact_is_value (x : Float) : (exactDecimal x).number = absolute x := by
  rw [exactDecimal, Decimal.number, absolute]
  by_cases up : 0 ≤ (parts x).exponent
  · rw [if_pos up, Nat.cast_mul, two_to_cast, Int.toNat_of_nonneg up, zpow_zero, mul_one]
  · have five : ((fiveTo (-(parts x).exponent).toNat : Nat) : ℚ) = (5 ^ (parts x).exponent)⁻¹ := by
      rw [five_to_cast, Int.toNat_of_nonneg (by omega), zpow_neg]
    have ten : (10 : ℚ) ^ (parts x).exponent = 5 ^ (parts x).exponent * 2 ^ (parts x).exponent := by
      rw [← mul_zpow]
      norm_num
    have apart : (5 : ℚ) ^ (parts x).exponent ≠ 0 := zpow_ne_zero _ (by norm_num)
    rw [if_neg up, Nat.cast_mul, five, ten]
    field_simp

theorem reading_back_reads (tie : Tie) (x : Float) (exponent : Int) (d : Decimal)
    (found : readingBack? tie x exponent = some d) : magnitude (ofDecimal false d) = magnitude x := by
  rw [readingBack?] at found
  simp only at found
  split at found
  next first second =>
    have reads := beq_iff_eq.mp first
    have readsNext := beq_iff_eq.mp second
    split at found
    · cases found
      exact reads
    · split at found
      · cases found
        exact readsNext
      · cases found
        cases tie with
        | upper => exact readsNext
        | even =>
            rw [Tie.pick]
            split
            · exact reads
            · exact readsNext
  next first _ =>
    cases found
    exact beq_iff_eq.mp first
  next _ second =>
    cases found
    exact beq_iff_eq.mp second
  next => cases found

theorem shortest_from_reads (tie : Tie) (x : Float) (finite : x.isFinite = true) (more : Nat) (exponent : Int) :
    magnitude (ofDecimal false (shortestFrom tie x more exponent)) = magnitude x := by
  induction more generalizing exponent with
  | zero => exact read_value x _ finite (exact_is_value x)
  | succ more ih =>
      rw [shortestFrom]
      split
      next d found => exact reading_back_reads tie x exponent d found
      next => exact ih (exponent - 1)

theorem ratio_positive (x : Float) : 0 < (ratio x).2 := by
  rw [ratio]
  split
  · exact Nat.one_pos
  · exact Nat.pow_pos Nat.two_pos

theorem ratio_is_value (x : Float) : ((ratio x).1 : ℚ) / (ratio x).2 = absolute x := by
  rw [ratio, absolute]
  by_cases up : 0 ≤ (parts x).exponent
  · rw [if_pos up, Nat.cast_mul, two_to_cast, Int.toNat_of_nonneg up, Nat.cast_one, div_one]
  · rw [if_neg up, two_to_cast, Int.toNat_of_nonneg (by omega), zpow_neg, div_inv_eq_mul]

theorem shortest_reads (tie : Tie) (x : Float) (finite : x.isFinite = true) :
    magnitude (ofDecimal false (shortest tie x)) = magnitude x := by
  rw [shortest]
  by_cases none : (ratio x).1 = 0
  · have value := ratio_is_value x
    rw [none, Nat.cast_zero, zero_div] at value
    rw [if_pos none]
    exact read_value x ⟨0, 0⟩ finite (by rw [Decimal.number, Nat.cast_zero, zero_mul, value])
  · rw [if_neg none]
    exact shortest_from_reads tie x finite 18 _

end FormulaField.Number
