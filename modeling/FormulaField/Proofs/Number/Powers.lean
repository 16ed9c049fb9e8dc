import FormulaField.Proofs.Number.Infinities
import FormulaField.Proofs.Number.Quotients
import Mathlib.Tactic.Positivity
import Mathlib.Tactic.Ring

set_option autoImplicit false

namespace FormulaField.Number

-- What one rounding may take from a value and add to it, relative to the value.
def shrunk : ℚ := 1 - 2 ^ (-53 : Int)

def grown : ℚ := 1 + 2 ^ (-53 : Int)

theorem shrunk_bounds : 9 / 10 ≤ shrunk ∧ shrunk ≤ 1 := by
  rw [shrunk, half_unit]
  norm_num

theorem shrunk_positive : 0 < shrunk := by linarith [shrunk_bounds.1]

theorem ten_shrunk : 2 ≤ 10 * shrunk := by linarith [shrunk_bounds.1]

theorem grown_bound : 1 ≤ grown := by
  rw [grown, half_unit]
  norm_num

theorem grown_positive : 0 < grown := zero_lt_one.trans_le grown_bound

theorem shrunk_ratio : shrunk = ((2 ^ 53 - 1 : Nat) : ℚ) / ((2 ^ 53 : Nat) : ℚ) := by
  rw [shrunk, half_unit]
  norm_num

theorem grown_ratio : grown = ((2 ^ 53 + 1 : Nat) : ℚ) / ((2 ^ 53 : Nat) : ℚ) := by
  rw [grown, half_unit]
  norm_num

theorem top_ratio : largest + 2 ^ (970 : Int) = (((2 ^ 54 - 1) * 2 ^ 970 : Nat) : ℚ) := by
  have next : (2 : ℚ) ^ (971 : Int) = 2 ^ (970 : Int) * 2 := zpow_add_one₀ two_nonzero 970
  have power : ((2 ^ 970 : Nat) : ℚ) = 2 ^ (970 : Int) := by
    rw [Nat.cast_pow, Nat.cast_ofNat]
    rfl
  have factor : ((2 ^ 54 - 1 : Nat) : ℚ) = 2 ^ 54 - 1 := by norm_num
  rw [largest, next, Nat.cast_mul, power, factor]
  ring

theorem power_fraction (a b k roundings : Nat) :
    (10 : ℚ) ^ k * (a / b) ^ roundings = ((10 ^ k * a ^ roundings : Nat) : ℚ) / ((b ^ roundings : Nat) : ℚ) := by
  push_cast
  rw [div_pow, mul_div_assoc]

theorem within_range : (10 : ℚ) ^ 308 * grown ^ 308 < largest + 2 ^ (970 : Int) := by
  have positive : (0 : ℚ) < (((2 ^ 53) ^ 308 : Nat) : ℚ) := Nat.cast_pos.mpr (by decide +kernel)
  rw [grown_ratio, power_fraction, top_ratio, div_lt_iff₀ positive, ← Nat.cast_mul, Nat.cast_lt]
  decide +kernel

theorem out_of_range : largest + 2 ^ (970 : Int) ≤ (10 : ℚ) ^ 309 * shrunk ^ 309 := by
  have positive : (0 : ℚ) < (((2 ^ 53) ^ 309 : Nat) : ℚ) := Nat.cast_pos.mpr (by decide +kernel)
  rw [shrunk_ratio, power_fraction, top_ratio, le_div_iff₀ positive, ← Nat.cast_mul, Nat.cast_le]
  decide +kernel

-- A double that stands for a power of ten after so many roundings at most.
structure PowerOfTen (k roundings : Nat) (x : Float) : Prop where
  number : x.isNaN = false
  plus : isNegative x = false
  few : roundings ≤ k
  reach : k ≤ 308 → x.isFinite = true
  least : x.isFinite = true → 10 ^ k * shrunk ^ roundings ≤ absolute x
  most : x.isFinite = true → absolute x ≤ 10 ^ k * grown ^ roundings

theorem shrunk_power (k roundings : Nat) (few : roundings ≤ k) : (10 * shrunk) ^ k ≤ 10 ^ k * shrunk ^ roundings := by
  rw [mul_pow]
  have less : shrunk ^ k ≤ shrunk ^ roundings := pow_le_pow_of_le_one shrunk_positive.le shrunk_bounds.2 few
  exact mul_le_mul_of_nonneg_left less (pow_pos (by norm_num) k).le

theorem grown_power (k roundings : Nat) (few : roundings ≤ k) (short : k ≤ 308) :
    10 ^ k * grown ^ roundings < largest + 2 ^ (970 : Int) := by
  have tens : (10 : ℚ) ^ k ≤ 10 ^ 308 := pow_le_pow_right₀ (by norm_num) short
  have growths : grown ^ roundings ≤ grown ^ 308 := pow_le_pow_right₀ grown_bound (few.trans short)
  exact (mul_le_mul tens growths (pow_pos grown_positive _).le (pow_pos (by norm_num) 308).le).trans_lt within_range

namespace PowerOfTen

variable {k l roundings further : Nat} {x y : Float}

theorem at_least (power : PowerOfTen k roundings x) (finite : x.isFinite = true) : (10 * shrunk) ^ k ≤ absolute x :=
  (shrunk_power k roundings power.few).trans (power.least finite)

theorem at_least_one (power : PowerOfTen k roundings x) (finite : x.isFinite = true) : 1 ≤ absolute x :=
  (one_le_pow₀ (one_le_two.trans ten_shrunk)).trans (power.at_least finite)

theorem not_nothing (power : PowerOfTen k roundings x) : magnitude x ≠ 0 := by
  intro none
  by_cases finite : x.isFinite = true
  · have one := power.at_least_one finite
    rw [(absolute_zero x).mpr none] at one
    exact absurd one (by norm_num)
  · rw [(infinite_unpacks x power.number finite).2] at none
    exact absurd none (by decide)

theorem finite_iff (power : PowerOfTen k roundings x) : x.isFinite = true ↔ k ≤ 308 := by
  refine ⟨fun finite => ?_, power.reach⟩
  by_contra long
  have more : (10 * shrunk) ^ 309 ≤ (10 * shrunk) ^ k := pow_le_pow_right₀ (one_le_two.trans ten_shrunk) (by omega)
  rw [mul_pow] at more
  exact absurd (finite_below x finite) (not_lt_of_ge ((out_of_range.trans more).trans (power.at_least finite)))

theorem infinity_power (k roundings : Nat) (few : roundings ≤ k) (far : 308 < k) :
    PowerOfTen k roundings (infinity false) := by
  obtain ⟨number, notFinite⟩ := infinity_number false
  have plus : isNegative (infinity false) = false := by decide +kernel
  exact ⟨number, plus, few, fun short => absurd short (by omega), fun finite => absurd finite notFinite,
    fun finite => absurd finite notFinite⟩

theorem product_bounds (power : PowerOfTen k roundings x) (other : PowerOfTen l further y) (finite : x.isFinite = true)
    (otherFinite : y.isFinite = true) :
    10 ^ (k + l) * shrunk ^ (roundings + further) ≤ absolute x * absolute y ∧
      absolute x * absolute y ≤ 10 ^ (k + l) * grown ^ (roundings + further) := by
  have one := power.at_least_one finite
  have otherOne := other.at_least_one otherFinite
  have shrunkPositive := shrunk_positive
  have grownPositive := grown_positive
  have together (factor : ℚ) : 10 ^ (k + l) * factor ^ (roundings + further) =
      10 ^ k * factor ^ roundings * (10 ^ l * factor ^ further) := by ring
  constructor
  · rw [together]
    exact mul_le_mul (power.least finite) (other.least otherFinite) (by positivity) (by linarith)
  · rw [together]
    exact mul_le_mul (power.most finite) (other.most otherFinite) (by linarith) (by positivity)

theorem product (power : PowerOfTen k roundings x) (other : PowerOfTen l further y)
    (fewer : roundings + further < k + l) : PowerOfTen (k + l) (roundings + further + 1) (x * y) := by
  by_cases both : x.isFinite = true ∧ y.isFinite = true
  · obtain ⟨finite, otherFinite⟩ := both
    obtain ⟨least, most⟩ := power.product_bounds other finite otherFinite
    have one := one_le_mul_of_one_le_of_one_le (power.at_least_one finite) (other.at_least_one otherFinite)
    have plus : isNegative (x * y) = false := by
      rw [product_sign x y finite otherFinite, power.plus, other.plus, bne_self_eq_false]
    refine ⟨product_number x y finite otherFinite, plus, by omega, fun short => ?_, fun productFinite => ?_,
      fun productFinite => ?_⟩
    · rw [product_finite_iff x y finite otherFinite]
      exact most.trans_lt (grown_power _ _ fewer.le short)
    · rw [pow_succ, ← mul_assoc]
      exact (mul_le_mul_of_nonneg_right least shrunk_positive.le).trans
        (product_near x y finite otherFinite productFinite one).least
    · rw [pow_succ, ← mul_assoc]
      exact (product_near x y finite otherFinite productFinite one).most.trans
        (mul_le_mul_of_nonneg_right most grown_positive.le)
  · have infinite := product_infinite x y power.number other.number power.not_nothing other.not_nothing both
    rw [power.plus, other.plus, bne_self_eq_false] at infinite
    rw [infinite]
    refine infinity_power _ _ (by omega) ?_
    by_contra short
    exact both ⟨power.reach (by omega), other.reach (by omega)⟩

-- Squaring on from a power and a result: the bits of the exponent say which squares are factors.
theorem squared (fuel : Nat) (base result : Float) (m exponent : Nat) (some : 0 < m) (enough : exponent < 2 ^ fuel)
    (power : PowerOfTen m (m - 1) base) (factors : PowerOfTen k k result) :
    PowerOfTen (k + m * exponent) (k + m * exponent) (powerBySquaring fuel base exponent result) := by
  induction fuel generalizing base result m exponent k with
  | zero =>
      have none : exponent = 0 := by
        rw [pow_zero] at enough
        omega
      rw [powerBySquaring, none, Nat.mul_zero, Nat.add_zero]
      exact factors
  | succ fuel ih =>
      have split := Nat.div_add_mod exponent 2
      have half : exponent / 2 < 2 ^ fuel := by
        rw [pow_succ] at enough
        omega
      have next : PowerOfTen (k + m * (exponent % 2)) (k + m * (exponent % 2))
          (if exponent % 2 = 1 then result * base else result) := by
        by_cases odd : exponent % 2 = 1
        · have counted : k + (m - 1) + 1 = k + m := by omega
          have multiplied := factors.product power (by omega)
          rw [if_pos odd, odd, Nat.mul_one]
          exact counted ▸ multiplied
        · have even : exponent % 2 = 0 := by omega
          rw [if_neg odd, even, Nat.mul_zero, Nat.add_zero]
          exact factors
      rw [powerBySquaring]
      by_cases last : exponent / 2 = 0
      · have bit : exponent % 2 = exponent := by omega
        rw [bit] at next
        simp only [last, if_true, bit]
        exact next
      · have square : PowerOfTen (m + m) (m + m - 1) (base * base) := by
          have counted : m - 1 + (m - 1) + 1 = m + m - 1 := by omega
          exact counted ▸ power.product power (by omega)
        have more := ih (base * base) _ (m + m) (exponent / 2) (by omega) half square next
        have together : k + m * (exponent % 2) + (m + m) * (exponent / 2) = k + m * exponent := by
          calc k + m * (exponent % 2) + (m + m) * (exponent / 2)
              = k + m * (2 * (exponent / 2) + exponent % 2) := by ring
            _ = k + m * exponent := by rw [split]
        rw [together] at more
        simp only [if_neg last]
        exact more

end PowerOfTen

theorem one_exact : (1 : Float).isFinite = true ∧ isNegative 1 = false ∧ absolute 1 = 1 := by
  have own : (parts 1).significand = 4503599627370496 ∧ (parts 1).exponent = -52 := by decide +kernel
  refine ⟨by decide +kernel, by decide +kernel, ?_⟩
  rw [absolute, own.1, own.2]
  norm_num

theorem ten_exact : (10 : Float).isFinite = true ∧ isNegative 10 = false ∧ absolute 10 = 10 := by
  have own : (parts 10).significand = 5629499534213120 ∧ (parts 10).exponent = -49 := by decide +kernel
  refine ⟨by decide +kernel, by decide +kernel, ?_⟩
  rw [absolute, own.1, own.2]
  norm_num

theorem power_exact (k : Nat) (x : Float) (finite : x.isFinite = true) (plus : isNegative x = false)
    (value : absolute x = 10 ^ k) : PowerOfTen k 0 x := by
  refine ⟨finite_number x finite, plus, Nat.zero_le k, fun _ => finite, fun _ => ?_, fun _ => ?_⟩
  · rw [value, pow_zero, mul_one]
  · rw [value, pow_zero, mul_one]

theorem power_of_ten (k : Nat) : PowerOfTen k k (powerBySquaring (k + 1) 10 k 1) := by
  have one := power_exact 0 1 one_exact.1 one_exact.2.1 one_exact.2.2
  have ten := power_exact 1 10 ten_exact.1 ten_exact.2.1 (ten_exact.2.2.trans (pow_one 10).symm)
  have enough : k < 2 ^ (k + 1) := Nat.lt_two_pow_self.trans (Nat.pow_lt_pow_succ Nat.one_lt_two)
  have power := PowerOfTen.squared (k + 1) 10 1 1 k Nat.one_pos enough ten one
  rwa [Nat.zero_add, Nat.one_mul] at power

theorem power_up (d : Int) (up : 0 ≤ d) : PowerOfTen d.toNat d.toNat (wholePower 10 d) := by
  have size : d.natAbs = d.toNat := by omega
  rw [wholePower, size, if_neg (by omega)]
  exact power_of_ten d.toNat

theorem power_down (d : Int) (down : d < 0) (near : -308 ≤ d) :
    (wholePower 10 d).isFinite = true ∧ 0 < absolute (wholePower 10 d) ∧ absolute (wholePower 10 d) ≤ 1 := by
  have power := power_of_ten d.natAbs
  have finite := power.reach (by omega)
  have positive : 0 < absolute (powerBySquaring (d.natAbs + 1) 10 d.natAbs 1) := by linarith [power.at_least_one finite]
  have atLeast : 2 ≤ absolute (powerBySquaring (d.natAbs + 1) 10 d.natAbs 1) := by
    have more : (10 * shrunk) ^ 1 ≤ (10 * shrunk) ^ d.natAbs :=
      pow_le_pow_right₀ (one_le_two.trans ten_shrunk) (by omega)
    rw [pow_one] at more
    exact ten_shrunk.trans (more.trans (power.at_least finite))
  have atMost : absolute (powerBySquaring (d.natAbs + 1) 10 d.natAbs 1) ≤ 2 ^ (1074 : Int) := by
    have top : largest + 2 ^ (970 : Int) ≤ 2 ^ (1074 : Int) := by
      have cast : ((2 ^ 1074 : Nat) : ℚ) = 2 ^ (1074 : Int) := by
        rw [Nat.cast_pow, Nat.cast_ofNat]
        rfl
      rw [top_ratio, ← cast, Nat.cast_le]
      decide +kernel
    exact (finite_below _ finite).le.trans top
  rw [wholePower, if_pos down]
  refine quotient_size 1 _ one_exact.1 finite positive.ne' ?_ ?_
  · rw [one_exact.2.2]
    exact one_div_le_one_div_of_le two_pos atLeast
  · rw [one_exact.2.2, zpow_neg, ← one_div]
    exact one_div_le_one_div_of_le positive atMost

theorem power_far_down (d : Int) (far : d < -308) : wholePower 10 d = zero false := by
  have power := power_of_ten d.natAbs
  have infinite : ¬(powerBySquaring (d.natAbs + 1) 10 d.natAbs 1).isFinite = true := by
    rw [power.finite_iff]
    omega
  have vanished := quotient_by_infinity 1 _ one_exact.1 power.number infinite
  rw [one_exact.2.1, power.plus, bne_self_eq_false] at vanished
  rw [wholePower, if_pos (by omega)]
  exact vanished

end FormulaField.Number
