import FormulaField.Proofs.Number.Bits
import Mathlib.Algebra.Order.Field.Power
import Mathlib.Data.Rat.Cast.Order
import Mathlib.Tactic.FieldSimp
import Mathlib.Tactic.Linarith

set_option autoImplicit false

namespace FormulaField.Number

theorem two_nonzero : (2 : ℚ) ≠ 0 := two_ne_zero

theorem two_power_positive (e : Int) : (0 : ℚ) < 2 ^ e := zpow_pos two_pos e

theorem two_power_strict (a b : Int) : (2 : ℚ) ^ a < 2 ^ b ↔ a < b := zpow_lt_zpow_iff_right₀ one_lt_two

theorem two_to_cast (n : Nat) : ((twoTo n : Nat) : ℚ) = 2 ^ (n : Int) := by
  rw [twoTo, Nat.pow_eq, Nat.cast_pow, zpow_natCast, Nat.cast_ofNat]

theorem in_units_ratio (num den : Nat) (exponent : Int) (positive : 0 < den) :
    0 < (inUnits num den exponent).2 ∧
      ((inUnits num den exponent).1 : ℚ) / (inUnits num den exponent).2 = num / den / 2 ^ exponent := by
  have apart : (den : ℚ) ≠ 0 := Nat.cast_ne_zero.mpr (by omega)
  have unit := (two_power_positive exponent).ne'
  by_cases up : 0 ≤ exponent
  · have same : ((twoTo exponent.toNat : Nat) : ℚ) = 2 ^ exponent := by
      rw [two_to_cast, Int.toNat_of_nonneg up]
    rw [inUnits, if_pos up]
    refine ⟨Nat.mul_pos positive (Nat.pow_pos Nat.two_pos), ?_⟩
    rw [Nat.cast_mul, same]
    field_simp
  · have same : ((twoTo (-exponent).toNat : Nat) : ℚ) = (2 ^ exponent)⁻¹ := by
      rw [two_to_cast, Int.toNat_of_nonneg (by omega), zpow_neg]
    rw [inUnits, if_neg up]
    refine ⟨positive, ?_⟩
    rw [Nat.cast_mul, same]
    field_simp

theorem log_bounds (n : Nat) (positive : 0 < n) :
    (2 : ℚ) ^ (n.log2 : Int) ≤ n ∧ (n : ℚ) < 2 ^ ((n.log2 : Int) + 1) := by
  constructor
  · rw [zpow_natCast]
    exact_mod_cast Nat.log2_self_le (by omega)
  · have above : n < 2 ^ (n.log2 + 1) := Nat.lt_log2_self
    rw [← Nat.cast_succ, zpow_natCast]
    exact_mod_cast above

theorem ratio_bounds (num den : Nat) (some : 0 < num) (positive : 0 < den) :
    (2 : ℚ) ^ ((num.log2 : Int) - den.log2 - 1) < num / den ∧ (num : ℚ) / den < 2 ^ ((num.log2 : Int) - den.log2 + 1) := by
  have above := log_bounds num some
  have below := log_bounds den positive
  have denominator : (0 : ℚ) < den := Nat.cast_pos.mpr positive
  constructor
  · rw [lt_div_iff₀ denominator]
    calc (2 : ℚ) ^ ((num.log2 : Int) - den.log2 - 1) * den
        < 2 ^ ((num.log2 : Int) - den.log2 - 1) * 2 ^ ((den.log2 : Int) + 1) :=
          mul_lt_mul_of_pos_left below.2 (two_power_positive _)
      _ = 2 ^ (num.log2 : Int) := by
          rw [← zpow_add₀ two_nonzero]
          congr 1
          omega
      _ ≤ num := above.1
  · rw [div_lt_iff₀ denominator]
    calc (num : ℚ) < 2 ^ ((num.log2 : Int) + 1) := above.2
      _ = 2 ^ ((num.log2 : Int) - den.log2 + 1) * 2 ^ (den.log2 : Int) := by
          rw [← zpow_add₀ two_nonzero]
          congr 1
          omega
      _ ≤ 2 ^ ((num.log2 : Int) - den.log2 + 1) * den :=
          mul_le_mul_of_nonneg_left below.1 (two_power_positive _).le

theorem short_quotient (num den : Nat) (exponent : Int) (positive : 0 < den) :
    (inUnits num den exponent).1 / (inUnits num den exponent).2 < twoTo 52 ↔
      (num : ℚ) / den < 2 ^ (exponent + 52) := by
  obtain ⟨unitPositive, same⟩ := in_units_ratio num den exponent positive
  have unit : (0 : ℚ) < ((inUnits num den exponent).2 : ℚ) := Nat.cast_pos.mpr unitPositive
  rw [Nat.div_lt_iff_lt_mul unitPositive, ← Nat.cast_lt (α := ℚ), Nat.cast_mul, two_to_cast, ← div_lt_iff₀ unit, same,
    div_lt_iff₀ (two_power_positive exponent), ← zpow_add₀ two_nonzero, Int.add_comm]
  rfl

theorem unit_exponent_scale (num den : Nat) (some : 0 < num) (positive : 0 < den) :
    ∃ exponent : Int, unitExponent num den = max exponent (-1074) ∧
      (2 : ℚ) ^ (exponent + 52) ≤ num / den ∧ (num : ℚ) / den < 2 ^ (exponent + 53) := by
  obtain ⟨above, below⟩ := ratio_bounds num den some positive
  have short := short_quotient num den ((num.log2 : Int) - den.log2 - 52) positive
  rw [unitExponent]
  simp only [short]
  by_cases isShort : (num : ℚ) / den < 2 ^ ((num.log2 : Int) - den.log2 - 52 + 52)
  · refine ⟨_, by rw [if_pos isShort], ?_, ?_⟩
    · have same : (num.log2 : Int) - den.log2 - 52 - 1 + 52 = (num.log2 : Int) - den.log2 - 1 := by omega
      exact same ▸ above.le
    · have same : (num.log2 : Int) - den.log2 - 52 - 1 + 53 = (num.log2 : Int) - den.log2 - 52 + 52 := by omega
      exact same ▸ isShort
  · refine ⟨_, by rw [if_neg isShort], le_of_not_gt isShort, ?_⟩
    have same : (num.log2 : Int) - den.log2 - 52 + 53 = (num.log2 : Int) - den.log2 + 1 := by omega
    exact same ▸ below

theorem round_exact (quotient den : Nat) (positive : 0 < den) : roundHalfEven (quotient * den) den = quotient := by
  rw [roundHalfEven, Nat.mul_mod_left, Nat.mul_div_cancel _ positive]
  simp [positive]

structure Parts.OfMagnitude (p : Parts) (m : Nat) : Prop where
  bits : (p.exponent + 1074).toNat * 2 ^ 52 + p.significand = m
  least : -1074 ≤ p.exponent
  short : p.significand < 2 ^ 53
  full : p.exponent = -1074 ∨ 2 ^ 52 ≤ p.significand

theorem two_to_52 : twoTo 52 = 2 ^ 52 := rfl

theorem parts_of_magnitude (x : Float) : (parts x).OfMagnitude (magnitude x) := by
  have fraction : magnitude x % 2 ^ 52 < 2 ^ 52 := Nat.mod_lt _ (by decide)
  have whole := Nat.div_add_mod (magnitude x) (2 ^ 52)
  rw [parts]
  by_cases subnormal : magnitude x / twoTo 52 = 0
  · rw [if_pos subnormal]
    rw [two_to_52] at subnormal ⊢
    refine ⟨?_, Int.le_refl _, ?_, .inl rfl⟩ <;> simp only <;> omega
  · rw [if_neg subnormal]
    rw [two_to_52] at subnormal ⊢
    constructor <;> simp only <;> omega

theorem no_significand (x : Float) (none : (parts x).significand = 0) : magnitude x = 0 := by
  have shape := parts_of_magnitude x
  have bits := shape.bits
  rcases shape.full with smallest | full <;> omega

def absolute (x : Float) : ℚ := (parts x).significand * 2 ^ (parts x).exponent

theorem absolute_zero (x : Float) : absolute x = 0 ↔ magnitude x = 0 := by
  constructor
  · intro none
    rw [absolute, mul_eq_zero] at none
    rcases none with significand | unit
    · exact no_significand x (Nat.cast_eq_zero.mp significand)
    · exact absurd unit (two_power_positive _).ne'
  · intro none
    have bits := (parts_of_magnitude x).bits
    have significand : (parts x).significand = 0 := by omega
    rw [absolute, significand, Nat.cast_zero, zero_mul]

theorem unit_of_value (x : Float) (num den : Nat) (some : 0 < num) (positive : 0 < den)
    (value : (num : ℚ) / den = absolute x) : unitExponent num den = (parts x).exponent := by
  obtain ⟨exponent, same, above, below⟩ := unit_exponent_scale num den some positive
  have shape := parts_of_magnitude x
  have short : absolute x < 2 ^ ((parts x).exponent + 53) := by
    rw [absolute, Int.add_comm, zpow_add₀ two_nonzero]
    refine mul_lt_mul_of_pos_right ?_ (two_power_positive _)
    exact_mod_cast shape.short
  rw [value] at above below
  have notAbove : exponent ≤ (parts x).exponent := by
    have strict := (two_power_strict _ _).mp (lt_of_le_of_lt above short)
    omega
  rw [same]
  rcases shape.full with subnormal | full
  · omega
  · have long : (2 : ℚ) ^ ((parts x).exponent + 52) ≤ absolute x := by
      rw [absolute, Int.add_comm, zpow_add₀ two_nonzero]
      refine mul_le_mul_of_nonneg_right ?_ (two_power_positive _).le
      exact_mod_cast full
    have strict := (two_power_strict _ _).mp (lt_of_le_of_lt long below)
    have least := shape.least
    omega

theorem nearest_of_value (x : Float) (num den : Nat) (finite : x.isFinite = true) (positive : 0 < den)
    (value : (num : ℚ) / den = absolute x) : nearestMagnitude num den = magnitude x := by
  have shape := parts_of_magnitude x
  have bound := (finite_iff x).mp finite
  rw [nearestMagnitude]
  by_cases none : num = 0
  · rw [none, Nat.cast_zero, zero_div] at value
    rw [if_pos none, (absolute_zero x).mp value.symm]
  · have some : 0 < num := Nat.pos_of_ne_zero none
    have unit := unit_of_value x num den some positive value
    obtain ⟨unitPositive, same⟩ := in_units_ratio num den (parts x).exponent positive
    have apart : ((inUnits num den (parts x).exponent).2 : ℚ) ≠ 0 := Nat.cast_ne_zero.mpr (by omega)
    have exact : (inUnits num den (parts x).exponent).1 =
        (parts x).significand * (inUnits num den (parts x).exponent).2 := by
      rw [value, absolute, mul_div_cancel_right₀ _ (two_power_positive _).ne', div_eq_iff apart] at same
      exact_mod_cast same
    simp only [unit]
    rw [if_neg none, exact, round_exact _ _ unitPositive, twoTo, Nat.pow_eq, shape.bits]
    exact Nat.min_eq_left bound.le

theorem quarter_unit : (2 : ℚ) ^ (-54 : Int) = 1 / 18014398509481984 := by norm_num

theorem half_unit : (2 : ℚ) ^ (-53 : Int) = 1 / 9007199254740992 := by norm_num

theorem round_near (num den n : Nat) (positive : 0 < den) (above : (n : ℚ) - 1 / 2 < num / den)
    (below : (num : ℚ) / den < n + 1 / 2) : roundHalfEven num den = n := by
  have denominator : (0 : ℚ) < den := Nat.cast_pos.mpr positive
  rw [lt_div_iff₀ denominator] at above
  rw [div_lt_iff₀ denominator] at below
  have least : 2 * (den * n) < 2 * num + den := by
    have scaled : 2 * ((den : ℚ) * n) < 2 * num + den := by linarith
    exact_mod_cast scaled
  have greatest : 2 * num < 2 * (den * n) + den := by
    have scaled : 2 * (num : ℚ) < 2 * (den * n) + den := by linarith
    exact_mod_cast scaled
  have split := Nat.div_add_mod num den
  have rest := Nat.mod_lt num positive
  have low : n < num / den + 2 := by
    by_contra far
    have more : den * (num / den + 2) ≤ den * n := Nat.mul_le_mul_left den (by omega)
    rw [Nat.mul_add] at more
    omega
  have high : num / den ≤ n := by
    by_contra far
    have more : den * (n + 1) ≤ den * (num / den) := Nat.mul_le_mul_left den (by omega)
    rw [Nat.mul_add] at more
    omega
  rw [roundHalfEven]
  rcases Nat.eq_or_lt_of_le high with same | before
  · rw [same] at split ⊢
    rw [if_pos (by omega)]
  · have next : n = num / den + 1 := by omega
    rw [next, Nat.mul_add, Nat.mul_one] at least greatest
    rw [if_neg (by omega), if_pos (by omega), next]

-- The unit of a ratio that is less than a quarter of a unit away from `s` units, which have at most 53 bits. It is a
-- smaller one only where the ratio is below a power of two.
theorem unit_of_near (s : Nat) (unit own : Int) (q : ℚ) (least : -1074 ≤ unit) (short : s < 2 ^ 53)
    (full : unit = -1074 ∨ 2 ^ 52 ≤ s) (above : s * 2 ^ unit * (1 - 2 ^ (-54 : Int)) < q)
    (below : q < s * 2 ^ unit * (1 + 2 ^ (-54 : Int))) (atLeast : (2 : ℚ) ^ (own + 52) ≤ q)
    (under : q < 2 ^ (own + 53)) : max own (-1074) = unit ∨ max own (-1074) = unit - 1 ∧ s = 2 ^ 52 := by
  have positive := two_power_positive unit
  have power (n : Int) : (2 : ℚ) ^ (unit + n) = 2 ^ n * 2 ^ unit := by
    rw [zpow_add₀ two_nonzero, mul_comm]
  rw [quarter_unit] at above below
  have notAbove : own ≤ unit := by
    have shortCast : (s : ℚ) ≤ 9007199254740991 := by exact_mod_cast Nat.le_sub_one_of_lt short
    have small : q < 2 ^ (unit + 53) := by
      rw [power]
      norm_num
      nlinarith
    have strict := (two_power_strict _ _).mp (lt_of_le_of_lt atLeast small)
    omega
  by_cases same : max own (-1074) = unit
  · exact .inl same
  · have fullCast : (4503599627370496 : ℚ) ≤ s := by
      rcases full with smallest | full
      · omega
      · exact_mod_cast full
    have notFarBelow : unit - 1 ≤ own := by
      have large : (2 : ℚ) ^ (unit + 51) < q := by
        rw [power]
        norm_num
        nlinarith
      have strict := (two_power_strict _ _).mp (lt_trans large under)
      omega
    have before : own = unit - 1 := by omega
    refine .inr ⟨by omega, ?_⟩
    have belowPower : (s : ℚ) < 4503599627370497 := by
      have next : own + 53 = unit + 52 := by omega
      rw [next, power] at under
      norm_num at under
      nlinarith
    have integral : s < 4503599627370497 := by exact_mod_cast belowPower
    have integralFull : 4503599627370496 ≤ s := by exact_mod_cast fullCast
    omega

theorem nearest_within (x : Float) (num den : Nat) (finite : x.isFinite = true) (positive : 0 < den)
    (above : absolute x * (1 - 2 ^ (-54 : Int)) < num / den)
    (below : (num : ℚ) / den < absolute x * (1 + 2 ^ (-54 : Int))) : nearestMagnitude num den = magnitude x := by
  have shape := parts_of_magnitude x
  have bound := (finite_iff x).mp finite
  have bits := shape.bits
  have least := shape.least
  have some : 0 < num := by
    by_contra none
    have zero : num = 0 := by omega
    rw [zero, Nat.cast_zero, zero_div, quarter_unit] at above below
    linarith
  obtain ⟨own, same, atLeast, under⟩ := unit_exponent_scale num den some positive
  rw [nearestMagnitude, if_neg (by omega)]
  rw [absolute] at above below
  have unit := two_power_positive (parts x).exponent
  have split := unit_of_near _ _ own _ least shape.short shape.full above below atLeast under
  obtain ⟨unitPositive, units⟩ := in_units_ratio num den (unitExponent num den) positive
  rw [same] at units unitPositive ⊢
  simp only
  rw [quarter_unit] at above below
  rcases split with unitSame | ⟨unitBelow, power⟩
  · rw [unitSame] at units unitPositive ⊢
    have shortCast : ((parts x).significand : ℚ) < 9007199254740992 := by exact_mod_cast shape.short
    have rounded : roundHalfEven _ _ = (parts x).significand := round_near _ _ _ unitPositive
      (by rw [units, lt_div_iff₀ unit]; nlinarith) (by rw [units, div_lt_iff₀ unit]; nlinarith)
    rw [rounded, twoTo, Nat.pow_eq, bits]
    exact Nat.min_eq_left bound.le
  · have half : (2 : ℚ) ^ ((parts x).exponent - 1) = 2 ^ (parts x).exponent / 2 := zpow_sub_one₀ two_nonzero _
    rw [unitBelow, half] at units
    rw [unitBelow] at unitPositive ⊢
    have powerCast : ((parts x).significand : ℚ) = 4503599627370496 := by
      rw [power]
      norm_num
    rw [powerCast] at above below
    have rounded : roundHalfEven _ _ = 2 ^ 53 := round_near _ _ _ unitPositive
      (by rw [units, lt_div_iff₀ (by linarith)]; norm_num; nlinarith)
      (by rw [units, div_lt_iff₀ (by linarith)]; norm_num; nlinarith)
    have next : ((parts x).exponent + 1074).toNat = ((parts x).exponent - 1 + 1074).toNat + 1 := by omega
    have carried : ((parts x).exponent - 1 + 1074).toNat * twoTo 52 + 2 ^ 53 = magnitude x := by
      rw [← bits, next, power, two_to_52, Nat.add_mul, Nat.add_assoc, Nat.one_mul, ← Nat.two_mul, ← Nat.pow_succ']
    rw [rounded, carried]
    exact Nat.min_eq_left bound.le

end FormulaField.Number
