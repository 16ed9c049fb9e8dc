import FormulaField.Proofs.Number.Decimal
import FormulaField.Proofs.Number.Packing

set_option autoImplicit false

namespace FormulaField.Number

open Float.Model (Format)
open Float.Model.UnpackedFloat

theorem round_error (num den : Nat) (positive : 0 < den) :
    (num : ℚ) / den - 1 / 2 ≤ roundHalfEven num den ∧ (roundHalfEven num den : ℚ) ≤ num / den + 1 / 2 := by
  have denominator : (0 : ℚ) < den := Nat.cast_pos.mpr positive
  have split := Nat.div_add_mod num den
  suffices whole : 2 * num ≤ 2 * (den * roundHalfEven num den) + den ∧
      2 * (den * roundHalfEven num den) ≤ 2 * num + den by
    constructor
    · rw [sub_le_iff_le_add, div_le_iff₀ denominator]
      have scaled : 2 * (num : ℚ) ≤ 2 * (den * roundHalfEven num den) + den := by exact_mod_cast whole.1
      linarith
    · rw [← sub_le_iff_le_add, le_div_iff₀ denominator]
      have scaled : 2 * ((den : ℚ) * roundHalfEven num den) ≤ 2 * num + den := by exact_mod_cast whole.2
      linarith
  have rest := Nat.mod_lt num positive
  have next : den * (num / den + 1) = den * (num / den) + den := Nat.mul_succ _ _
  rw [roundHalfEven]
  split
  · omega
  · split
    · omega
    · split <;> omega

theorem round_least (num den : Nat) (positive : 0 < den) (above : (4503599627370496 : ℚ) ≤ num / den) :
    2 ^ 52 ≤ roundHalfEven num den := by
  have error := (round_error num den positive).1
  have before : (4503599627370495 : ℚ) < roundHalfEven num den := by linarith
  have natural : 4503599627370495 < roundHalfEven num den := by exact_mod_cast before
  omega

theorem round_most (num den : Nat) (positive : 0 < den) (below : (num : ℚ) / den < 9007199254740992) :
    roundHalfEven num den ≤ 2 ^ 53 := by
  have error := (round_error num den positive).2
  have after : (roundHalfEven num den : ℚ) < 9007199254740993 := by linarith
  have natural : roundHalfEven num den < 9007199254740993 := by exact_mod_cast after
  omega

-- Below an even number rounding stays exactly below half a unit less, for the half itself goes to the even number.
theorem round_below (num den k : Nat) (positive : 0 < den) (even : k % 2 = 0) :
    roundHalfEven num den < k ↔ (num : ℚ) / den < k - 1 / 2 := by
  have denominator : (0 : ℚ) < den := Nat.cast_pos.mpr positive
  have natural : (num : ℚ) / den < k - 1 / 2 ↔ 2 * num + den < 2 * (den * k) := by
    rw [div_lt_iff₀ denominator, ← Nat.cast_lt (α := ℚ)]
    push_cast
    constructor <;> intro below <;> linarith
  have split := Nat.div_add_mod num den
  have rest := Nat.mod_lt num positive
  rw [natural, roundHalfEven]
  rcases Nat.lt_trichotomy (num / den + 1) k with before | at_ | after
  · have far : den * (num / den + 2) ≤ den * k := Nat.mul_le_mul_left den before
    rw [Nat.mul_add] at far
    split
    · omega
    · split
      · omega
      · split <;> omega
  · have same : den * k = den * (num / den) + den := by rw [← at_, Nat.mul_succ]
    split
    · omega
    · split
      · omega
      · rw [if_neg (by omega)]
        omega
  · have far : den * k ≤ den * (num / den) := Nat.mul_le_mul_left den (by omega)
    split
    · omega
    · split
      · omega
      · split <;> omega

theorem units_short (num den : Nat) (some : 0 < num) (positive : 0 < den) :
    ((inUnits num den (unitExponent num den)).1 : ℚ) / (inUnits num den (unitExponent num den)).2 < 9007199254740992 := by
  obtain ⟨own, same, _, below⟩ := unit_exponent_scale num den some positive
  rw [(in_units_ratio num den _ positive).2, div_lt_iff₀ (two_power_positive _)]
  have more : own + 53 ≤ 53 + unitExponent num den := by omega
  calc (num : ℚ) / den < 2 ^ (own + 53) := below
    _ ≤ 2 ^ (53 + unitExponent num den) := zpow_le_zpow_right₀ one_le_two more
    _ = 9007199254740992 * 2 ^ unitExponent num den := by
        rw [zpow_add₀ two_nonzero]
        norm_num

theorem rounded_units (num den : Nat) (some : 0 < num) (positive : 0 < den) :
    -1074 ≤ unitExponent num den ∧
      roundHalfEven (inUnits num den (unitExponent num den)).1 (inUnits num den (unitExponent num den)).2 ≤ 2 ^ 53 ∧
      (unitExponent num den = -1074 ∨
        2 ^ 52 ≤ roundHalfEven (inUnits num den (unitExponent num den)).1 (inUnits num den (unitExponent num den)).2) := by
  obtain ⟨unitPositive, units⟩ := in_units_ratio num den (unitExponent num den) positive
  obtain ⟨own, same, above, _⟩ := unit_exponent_scale num den some positive
  refine ⟨by omega, round_most _ _ unitPositive (units_short num den some positive), ?_⟩
  by_cases smallest : unitExponent num den = -1074
  · exact .inl smallest
  · have unit : unitExponent num den = own := by omega
    refine .inr (round_least _ _ unitPositive ?_)
    rw [units, unit, le_div_iff₀ (two_power_positive _)]
    rw [add_comm, zpow_add₀ two_nonzero] at above
    norm_num at above
    exact above

theorem units_full (num den : Nat) (some : 0 < num) (positive : 0 < den) (atLeast : (1 : ℚ) ≤ num / den) :
    -53 < unitExponent num den ∧ (4503599627370496 : ℚ) ≤
      (inUnits num den (unitExponent num den)).1 / (inUnits num den (unitExponent num den)).2 := by
  obtain ⟨own, same, above, below⟩ := unit_exponent_scale num den some positive
  have normal : -53 < own := by
    have strict : (2 : ℚ) ^ (0 : Int) < 2 ^ (own + 53) := by
      rw [zpow_zero]
      exact atLeast.trans_lt below
    have order := (two_power_strict _ _).mp strict
    omega
  have unit : unitExponent num den = own := by omega
  rw [(in_units_ratio num den _ positive).2, unit, le_div_iff₀ (two_power_positive _)]
  refine ⟨normal, ?_⟩
  rw [add_comm, zpow_add₀ two_nonzero] at above
  norm_num at above
  exact above

structure Near (x : Float) (q : ℚ) : Prop where
  full : 2 ^ 52 ≤ (parts x).significand
  least : q * (1 - 2 ^ (-53 : Int)) ≤ absolute x
  most : absolute x ≤ q * (1 + 2 ^ (-53 : Int))

theorem value_of_units (x : Float) (unit : Int) (n : Nat) (least : -1074 ≤ unit) (full : unit = -1074 ∨ 2 ^ 52 ≤ n)
    (short : n ≤ 2 ^ 53) (same : (unit + 1074).toNat * 2 ^ 52 + n = magnitude x) : absolute x = n * 2 ^ unit := by
  obtain ⟨bits, ownLeast, below, shapeFull⟩ := parts_of_magnitude x
  rw [absolute]
  by_cases carried : n = 2 ^ 53
  · have exponent : (parts x).exponent = unit + 1 := by omega
    have half : (parts x).significand = 2 ^ 52 := by omega
    rw [exponent, half, carried, zpow_add_one₀ two_nonzero]
    push_cast
    ring
  · have exponent : (parts x).exponent = unit := by omega
    have own : (parts x).significand = n := by omega
    rw [exponent, own]

theorem parts_of_units (x : Float) (unit : Int) (n : Nat) (normal : -1074 < unit) (full : 2 ^ 52 ≤ n) (short : n ≤ 2 ^ 53)
    (same : (unit + 1074).toNat * 2 ^ 52 + n = magnitude x) :
    2 ^ 52 ≤ (parts x).significand ∧ absolute x = n * 2 ^ unit := by
  obtain ⟨bits, least, below, shapeFull⟩ := parts_of_magnitude x
  refine ⟨?_, value_of_units x unit n normal.le (.inr full) short same⟩
  rcases shapeFull with smallest | whole <;> omega

theorem nearest_error (x : Float) (num den : Nat) (finite : x.isFinite = true) (some : 0 < num) (positive : 0 < den)
    (reads : nearestMagnitude num den = magnitude x) :
    (num : ℚ) / den - 2 ^ unitExponent num den / 2 ≤ absolute x ∧
      absolute x ≤ num / den + 2 ^ unitExponent num den / 2 := by
  obtain ⟨unitPositive, units⟩ := in_units_ratio num den (unitExponent num den) positive
  obtain ⟨least, short, full⟩ := rounded_units num den some positive
  have error := round_error (inUnits num den (unitExponent num den)).1 _ unitPositive
  have bound := (finite_iff x).mp finite
  rw [nearestMagnitude, if_neg some.ne', two_to_52] at reads
  simp only at reads
  have value := value_of_units x (unitExponent num den) _ least full short (by omega)
  have scale := two_power_positive (unitExponent num den)
  have split : (num : ℚ) / den = num / den / 2 ^ unitExponent num den * 2 ^ unitExponent num den :=
    (div_mul_cancel₀ _ scale.ne').symm
  rw [← units] at split
  rw [value, split, div_eq_mul_one_div (2 ^ unitExponent num den : ℚ), mul_comm _ (1 / 2 : ℚ), ← sub_mul, ← add_mul]
  exact ⟨mul_le_mul_of_nonneg_right error.1 scale.le, mul_le_mul_of_nonneg_right error.2 scale.le⟩

theorem nearest_near (x : Float) (num den : Nat) (finite : x.isFinite = true) (positive : 0 < den)
    (reads : nearestMagnitude num den = magnitude x) (atLeast : (1 : ℚ) ≤ num / den) : Near x (num / den) := by
  have some : 0 < num := by
    by_contra none
    have zero : num = 0 := by omega
    rw [zero, Nat.cast_zero, zero_div] at atLeast
    exact absurd atLeast (by norm_num)
  have scale := two_power_positive (unitExponent num den)
  obtain ⟨unitPositive, units⟩ := in_units_ratio num den (unitExponent num den) positive
  obtain ⟨normal, above⟩ := units_full num den some positive atLeast
  obtain ⟨least, most⟩ := nearest_error x num den finite some positive reads
  have full := round_least _ _ unitPositive above
  have short := round_most _ _ unitPositive (units_short num den some positive)
  have bound := (finite_iff x).mp finite
  rw [nearestMagnitude, if_neg (by omega), two_to_52] at reads
  simp only at reads
  rw [units, le_div_iff₀ scale] at above
  refine ⟨(parts_of_units x (unitExponent num den) _ (by omega) full short (by omega)).1, ?_, ?_⟩
  · rw [half_unit]
    linarith
  · rw [half_unit]
    linarith

def largest : ℚ := (2 ^ 53 - 1) * 2 ^ (971 : Int)

theorem largest_positive : 0 < largest := mul_pos (by norm_num) (two_power_positive 971)

theorem largest_next : largest + 2 ^ (970 : Int) = (9007199254740992 - 1 / 2) * 2 ^ (971 : Int) := by
  have next : (2 : ℚ) ^ (971 : Int) = 2 ^ (970 : Int) * 2 := zpow_add_one₀ two_nonzero 970
  rw [largest, next]
  ring

-- The ratios that have a finite double nearest to them: those below half a unit above the greatest double.
theorem nearest_finite_iff (num den : Nat) (positive : 0 < den) :
    nearestMagnitude num den < infiniteMagnitude ↔ (num : ℚ) / den < largest + 2 ^ (970 : Int) := by
  have top : infiniteMagnitude = 2047 * 2 ^ 52 := rfl
  have unitOne := two_power_positive 971
  rw [largest_next, nearestMagnitude]
  split
  next none =>
    rw [none, Nat.cast_zero, zero_div]
    refine iff_of_true (by decide) (mul_pos (by norm_num) unitOne)
  next some =>
    have someNum := Nat.pos_of_ne_zero some
    obtain ⟨least, short, full⟩ := rounded_units num den someNum positive
    obtain ⟨unitPositive, units⟩ := in_units_ratio num den (unitExponent num den) positive
    obtain ⟨own, same, above, below⟩ := unit_exponent_scale num den someNum positive
    have topPower : (2 : ℚ) ^ (1024 : Int) = 9007199254740992 * 2 ^ (971 : Int) := by
      have split : (2 : ℚ) ^ (1024 : Int) = 2 ^ 53 * 2 ^ (971 : Int) := zpow_add₀ two_nonzero 53 971
      rw [split]
      norm_num
    have halfPower : (2 : ℚ) ^ (1023 : Int) = 4503599627370496 * 2 ^ (971 : Int) := by
      have split : (2 : ℚ) ^ (1023 : Int) = 2 ^ 52 * 2 ^ (971 : Int) := zpow_add₀ two_nonzero 52 971
      rw [split]
      norm_num
    have evenTop := round_below (inUnits num den (unitExponent num den)).1 _ (2 ^ 53) unitPositive (by decide)
    simp only
    rw [two_to_52, top]
    rcases lt_trichotomy (unitExponent num den) 971 with lower | last | higher
    · have power : (2 : ℚ) ^ (own + 53) ≤ 2 ^ (1023 : Int) := zpow_le_zpow_right₀ one_le_two (by omega)
      rw [halfPower] at power
      refine iff_of_true (by omega) ((below.trans_le power).trans ?_)
      exact mul_lt_mul_of_pos_right (by norm_num) unitOne
    · have exponent : (unitExponent num den + 1074).toNat = 2045 := by omega
      have significand : ((2 ^ 53 : Nat) : ℚ) = 9007199254740992 := by norm_num
      rw [units, significand, last, div_lt_iff₀ unitOne] at evenTop
      rw [← evenTop, last]
      omega
    · have power : (2 : ℚ) ^ (1024 : Int) ≤ 2 ^ (own + 52) := zpow_le_zpow_right₀ one_le_two (by omega)
      rw [topPower] at power
      refine iff_of_false (by omega) (not_lt_of_ge (le_trans ?_ (power.trans above)))
      exact mul_le_mul_of_nonneg_right (by norm_num) unitOne.le

theorem of_nat_near (n : Nat) (some : 0 < n) (small : (n : ℚ) < largest + 2 ^ (970 : Int)) :
    (ofNat n).isFinite = true ∧ Near (ofNat n) n := by
  have magnitudes : magnitude (ofNat n) = nearestMagnitude n 1 := by
    rw [ofNat, ofRatio, magnitude_of_magnitude false _ (nearest_bound n 1)]
  have one : ((n : ℚ)) / (1 : Nat) = n := by rw [Nat.cast_one, div_one]
  have finite : (ofNat n).isFinite = true := by
    rw [finite_iff, magnitudes]
    exact (nearest_finite_iff n 1 Nat.one_pos).mpr (one.symm ▸ small)
  have near := nearest_near _ n 1 finite Nat.one_pos magnitudes.symm
  rw [one] at near
  exact ⟨finite, near (by exact_mod_cast some)⟩

theorem quotient_log (num den : Nat) (positive : 0 < den) (some : num / den ≠ 0) :
    (2 : ℚ) ^ ((num / den).log2 : Int) ≤ num / den ∧ (num : ℚ) / den < 2 ^ (((num / den).log2 : Int) + 1) := by
  have denominator : (0 : ℚ) < den := Nat.cast_pos.mpr positive
  have above : num / den + 1 ≤ 2 ^ ((num / den).log2 + 1) := Nat.lt_log2_self
  have next : num < (num / den + 1) * den := by
    have split := Nat.lt_mul_div_succ num positive
    rwa [Nat.mul_comm] at split
  constructor
  · exact (log_bounds _ (Nat.pos_of_ne_zero some)).1.trans Nat.cast_div_le
  · rw [div_lt_iff₀ denominator]
    have power : (2 : ℚ) ^ (((num / den).log2 : Int) + 1) = ((2 ^ ((num / den).log2 + 1) : Nat) : ℚ) := by
      rw [← Nat.cast_succ, zpow_natCast, Nat.cast_pow, Nat.cast_ofNat]
    rw [power]
    exact_mod_cast next.trans_le (Nat.mul_le_mul_right den above)

theorem target_unit (a b : Nat) (e : Int) (num den : Nat) (some : 0 < num) (positive : 0 < b) (denPositive : 0 < den)
    (value : (num : ℚ) / den = a / b * 2 ^ e) (low : e ≤ max (((a / b).log2 : Int) + e - 52) (-1074)) :
    unitExponent num den = max (((a / b).log2 : Int) + e - 52) (-1074) := by
  have scale := two_power_positive e
  obtain ⟨own, same, above, below⟩ := unit_exponent_scale num den some denPositive
  rw [value] at above below
  by_cases none : a / b = 0
  · have bits : (a / b).log2 = 0 := by rw [none, Nat.log2_zero]
    have small : (a : ℚ) / b < 1 := by
      rw [div_lt_one (Nat.cast_pos.mpr positive)]
      exact_mod_cast (Nat.div_eq_zero_iff_lt positive).mp none
    have less : (2 : ℚ) ^ (own + 52) < 2 ^ e := above.trans_lt (mul_lt_of_lt_one_left scale small)
    have strict := (two_power_strict _ _).mp less
    omega
  · obtain ⟨least, most⟩ := quotient_log a b positive none
    have atLeast : (2 : ℚ) ^ (((a / b).log2 : Int) + e) ≤ a / b * 2 ^ e := by
      rw [zpow_add₀ two_nonzero]
      exact mul_le_mul_of_nonneg_right least scale.le
    have atMost : (a : ℚ) / b * 2 ^ e < 2 ^ (((a / b).log2 : Int) + 1 + e) := by
      rw [zpow_add₀ two_nonzero _ e]
      exact mul_lt_mul_of_pos_right most scale
    have notBelow := (two_power_strict _ _).mp (atLeast.trans_lt below)
    have notAbove := (two_power_strict _ _).mp (above.trans_lt atMost)
    omega

theorem quotient_packed (sign : Sign) (a b : Nat) (e : Int) (num den : Nat) (some : 0 < num) (positive : 0 < b)
    (denPositive : 0 < den) (value : (num : ℚ) / den = a / b * 2 ^ e)
    (low : e ≤ max (((a / b).log2 : Int) + e - 52) (-1074)) :
    unpackSign (pack Format.binary64
        (roundWithAccuracy Format.binary64 sign (a / b) e (accuracyOfFraction (a % b) b))) = sign.toBitVec ∧
      (pack Format.binary64
        (roundWithAccuracy Format.binary64 sign (a / b) e (accuracyOfFraction (a % b) b))).toNat % 2 ^ 63 =
        nearestMagnitude num den := by
  have unit := target_unit a b e num den some positive denPositive value low
  obtain ⟨least, short, full⟩ := rounded_units num den some denPositive
  obtain ⟨unitPositive, units⟩ := in_units_ratio num den (unitExponent num den) denPositive
  have exponent : (shiftToTargetExponent Format.binary64 (a / b) e (accuracyOfFraction (a % b) b)).2 =
      unitExponent num den := by
    rw [shift_exponent, unit]
    omega
  have rounded :
      (shiftToTargetExponent Format.binary64 (a / b) e (accuracyOfFraction (a % b) b)).1.roundedMantissa =
        roundHalfEven (inUnits num den (unitExponent num den)).1 (inUnits num den (unitExponent num den)).2 := by
    have whole : 0 ≤ unitExponent num den - e := by omega
    have power : ((2 ^ (unitExponent num den - e).toNat : Nat) : ℚ) = 2 ^ unitExponent num den / 2 ^ e := by
      rw [Nat.cast_pow, Nat.cast_ofNat, ← zpow_natCast, Int.toNat_of_nonneg whole, zpow_sub₀ two_nonzero]
    have cut : 0 < b * 2 ^ (unitExponent num den - e).toNat := Nat.mul_pos positive (Nat.pow_pos Nat.two_pos)
    rw [shiftToTargetExponent, target_exponent, ← unit]
    refine (rounded_of_shortened a _ cut _ (shortened a b positive _)).trans (round_same_ratio _ _ _ _ cut unitPositive ?_)
    rw [units, value, Nat.cast_mul, power, ← div_div, div_div_eq_mul_div]
  have last := carried _ _ least short
  rw [roundWithAccuracy]
  simp only [exponent, rounded]
  rw [nearestMagnitude, if_neg some.ne', two_to_52]
  simp only
  generalize roundHalfEven (inUnits num den (unitExponent num den)).1 (inUnits num den (unitExponent num den)).2 = r at *
  generalize unitExponent num den = t at *
  have bits : -1074 ≤ (shiftToTargetExponent Format.binary64 r t .exact).2 ∧
      (shiftToTargetExponent Format.binary64 r t .exact).1.mantissa < 2 ^ 53 ∧
      ((shiftToTargetExponent Format.binary64 r t .exact).2 = -1074 ∨
        2 ^ 52 ≤ (shiftToTargetExponent Format.binary64 r t .exact).1.mantissa) ∧
      ((shiftToTargetExponent Format.binary64 r t .exact).2 + 1074).toNat * 2 ^ 52 +
        (shiftToTargetExponent Format.binary64 r t .exact).1.mantissa = (t + 1074).toNat * 2 ^ 52 + r := by
    split at last
    · obtain ⟨mantissa, power⟩ := Prod.mk.inj last
      omega
    · obtain ⟨mantissa, power⟩ := Prod.mk.inj last
      omega
  obtain ⟨lastLeast, lastShort, lastFull, same⟩ := bits
  rw [← same]
  exact packed_result sign _ _ lastLeast lastShort lastFull _ rfl

theorem rounded_packed (sign : Sign) (m : Nat) (e : Int) (num den : Nat) (positive : 0 < m) (denPositive : 0 < den)
    (value : (num : ℚ) / den = m * 2 ^ e) (low : e ≤ max ((m.log2 : Int) + e - 52) (-1074)) :
    unpackSign (pack Format.binary64 (roundWithAccuracy Format.binary64 sign m e .exact)) = sign.toBitVec ∧
      (pack Format.binary64 (roundWithAccuracy Format.binary64 sign m e .exact)).toNat % 2 ^ 63 =
        nearestMagnitude num den := by
  have some : 0 < num := by
    by_contra none
    rw [Nat.eq_zero_of_not_pos none, Nat.cast_zero, zero_div] at value
    exact (mul_pos (Nat.cast_pos.mpr positive) (two_power_positive e)).ne value
  have packed := quotient_packed sign m 1 e num den some Nat.one_pos denPositive (by rw [value, Nat.cast_one, div_one])
  rw [Nat.div_one, Nat.mod_one] at packed
  exact packed low

-- A product is never finer than the unit that it is rounded to: one factor is a full significand, or both units are
-- the smallest.
theorem product_low (x y : Float) (product : 0 < (parts x).significand * (parts y).significand) :
    (parts x).exponent + (parts y).exponent ≤
      max ((((parts x).significand * (parts y).significand).log2 : Int) +
        ((parts x).exponent + (parts y).exponent) - 52) (-1074) := by
  by_cases long : 2 ^ 52 ≤ (parts x).significand * (parts y).significand
  · have bits := (Nat.le_log2 product.ne').mpr long
    omega
  · have first : (parts x).significand ≤ (parts x).significand * (parts y).significand :=
      Nat.le_mul_of_pos_right _ (Nat.pos_of_mul_pos_left product)
    have second : (parts y).significand ≤ (parts x).significand * (parts y).significand :=
      Nat.le_mul_of_pos_left _ (Nat.pos_of_mul_pos_right product)
    have own := (parts_of_magnitude x).full
    have other := (parts_of_magnitude y).full
    omega

theorem zero_packed (x : Float) (negative : Bool) (num den : Nat) (positive : 0 < den) (none : (num : ℚ) / den = 0)
    (packed : ownBits x = pack Format.binary64 (.zero (signOf negative))) : x = ofRatio negative num den := by
  have nothing : num = 0 := by
    rw [div_eq_zero_iff, Nat.cast_eq_zero, Nat.cast_eq_zero] at none
    omega
  rw [ofRatio, nearestMagnitude, if_pos nothing]
  exact of_packed_zero x negative packed

theorem value_of_none (x : Float) (none : (parts x).significand = 0) : absolute x = 0 := by
  rw [absolute, none, Nat.cast_zero, zero_mul]

theorem absolute_nonnegative (x : Float) : 0 ≤ absolute x :=
  mul_nonneg (Nat.cast_nonneg _) (two_power_positive _).le

theorem product_nearest (x y : Float) (finite : x.isFinite = true) (otherFinite : y.isFinite = true) (num den : Nat)
    (positive : 0 < den) (value : (num : ℚ) / den = absolute x * absolute y) :
    x * y = ofRatio (isNegative x != isNegative y) num den := by
  have multiplied := product_bits x y
  have bound := nearest_bound num den
  -- Where a factor is zero, so is the product, with the signs multiplied.
  have vanishes (none : absolute x * absolute y = 0)
      (zero : mul Format.binary64 (unpack Format.binary64 (ownBits x)) (unpack Format.binary64 (ownBits y)) =
        .zero (signOf (isNegative x != isNegative y))) : x * y = ofRatio (isNegative x != isNegative y) num den :=
    zero_packed _ _ num den positive (value.trans none) (by rw [multiplied, zero])
  rcases unpack_parts x finite with ⟨none, own⟩ | ⟨some, own⟩
  · refine vanishes (by rw [value_of_none x none, zero_mul]) ?_
    rcases unpack_parts y otherFinite with ⟨_, other⟩ | ⟨_, other⟩
    · rw [own, other, mul, sign_times]
    · rw [own, other, mul, sign_times]
  · rcases unpack_parts y otherFinite with ⟨none, other⟩ | ⟨otherSome, other⟩
    · refine vanishes (by rw [value_of_none y none, mul_zero]) ?_
      rw [own, other, mul, sign_times]
    · have product : 0 < (parts x).significand * (parts y).significand := Nat.mul_pos some otherSome
      have split : (num : ℚ) / den = (((parts x).significand * (parts y).significand : Nat) : ℚ) *
          2 ^ ((parts x).exponent + (parts y).exponent) := by
        rw [value, Nat.cast_mul, zpow_add₀ two_nonzero, absolute, absolute]
        ring
      have low : (parts x).exponent + (parts y).exponent ≤
          max ((((parts x).significand * (parts y).significand).log2 : Int) +
            ((parts x).exponent + (parts y).exponent) - 52) (-1074) :=
        product_low x y product
      rw [own, other, mul, sign_times] at multiplied
      obtain ⟨sign, field⟩ := rounded_packed (signOf (isNegative x != isNegative y)) _ _ num den product positive split low
      refine of_packed _ _ _ bound ?_ ?_
      · rw [multiplied, sign]
      · rw [multiplied, field]

theorem product_ratio (x y : Float) : ∃ num den : Nat, 0 < den ∧ (num : ℚ) / den = absolute x * absolute y := by
  refine ⟨(ratio x).1 * (ratio y).1, (ratio x).2 * (ratio y).2, Nat.mul_pos (ratio_positive x) (ratio_positive y), ?_⟩
  rw [Nat.cast_mul, Nat.cast_mul, mul_div_mul_comm, ratio_is_value, ratio_is_value]

theorem of_ratio_number (negative : Bool) (num den : Nat) : (ofRatio negative num den).isNaN = false := by
  have size : magnitude (ofRatio negative num den) = nearestMagnitude num den :=
    magnitude_of_magnitude _ _ (nearest_bound num den)
  by_cases finite : (ofRatio negative num den).isFinite = true
  · exact finite_number _ finite
  · rw [finite_iff, size] at finite
    have bound := nearest_bound num den
    have infinite : nearestMagnitude num den = infiniteMagnitude := by omega
    rw [ofRatio, infinite]
    cases negative <;> decide +kernel

theorem product_number (x y : Float) (finite : x.isFinite = true) (otherFinite : y.isFinite = true) :
    (x * y).isNaN = false := by
  obtain ⟨num, den, positive, value⟩ := product_ratio x y
  rw [product_nearest x y finite otherFinite num den positive value]
  exact of_ratio_number _ _ _

theorem product_near (x y : Float) (finite : x.isFinite = true) (otherFinite : y.isFinite = true)
    (productFinite : (x * y).isFinite = true) (one : 1 ≤ absolute x * absolute y) :
    Near (x * y) (absolute x * absolute y) := by
  obtain ⟨num, den, positive, value⟩ := product_ratio x y
  have size : nearestMagnitude num den = magnitude (x * y) := by
    rw [product_nearest x y finite otherFinite num den positive value, ofRatio,
      magnitude_of_magnitude _ _ (nearest_bound _ _)]
  rw [← value] at one ⊢
  exact nearest_near (x * y) num den productFinite positive size one

theorem product_sign (x y : Float) (finite : x.isFinite = true) (otherFinite : y.isFinite = true) :
    isNegative (x * y) = (isNegative x != isNegative y) := by
  obtain ⟨num, den, positive, value⟩ := product_ratio x y
  rw [product_nearest x y finite otherFinite num den positive value, ofRatio,
    negative_of_magnitude _ _ (nearest_bound _ _)]

theorem product_finite_iff (x y : Float) (finite : x.isFinite = true) (otherFinite : y.isFinite = true) :
    (x * y).isFinite = true ↔ absolute x * absolute y < largest + 2 ^ (970 : Int) := by
  obtain ⟨num, den, positive, value⟩ := product_ratio x y
  rw [product_nearest x y finite otherFinite _ _ positive value, finite_iff, ofRatio,
    magnitude_of_magnitude _ _ (nearest_bound _ _), nearest_finite_iff _ _ positive, value]

end FormulaField.Number
