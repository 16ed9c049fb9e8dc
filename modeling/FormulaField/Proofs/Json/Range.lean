import FormulaField.Proofs.Json.Decimals
import FormulaField.Proofs.Number.Products

/-!
Numbers out of range. The reader refuses a decimal whose product with a power of ten is infinite. That never
happens to the text of a finite double, although the reader rounds three times on the way.
-/

set_option autoImplicit false

namespace FormulaField.Json

open Lexeme
open FormulaField.Number

theorem scale_down (fuel : Nat) (x : Float) (exponent : Int) (down : exponent < 0) :
    ∃ y, scale? fuel x exponent = some y := by
  have notUp := Int.not_le_of_gt down
  induction fuel generalizing x exponent with
  | zero =>
      rw [scale?]
      simp only [notUp, if_false]
      split
      · exact ⟨_, rfl⟩
      · split <;> exact ⟨_, rfl⟩
  | succ fuel ih =>
      rw [scale?]
      simp only [notUp, if_false]
      split
      · exact ⟨_, rfl⟩
      next far =>
        split
        · exact ⟨_, rfl⟩
        · exact ih _ _ (by omega) (by omega)

theorem scaled_form (negative : Bool) (d : Decimal) :
    scaled? negative d = (scale? (d.exponent.natAbs / 308 + 1) (ofNat d.coefficient) d.exponent).map
      (fun x => if negative then -x else x) := by
  have none : naturalOf [] = 0 := rfl
  rw [scaled?, float?, none, if_neg (Nat.not_lt_zero _)]
  simp

theorem scaled_down (negative : Bool) (d : Decimal) (down : d.exponent < 0) : ∃ y, scaled? negative d = some y := by
  obtain ⟨y, scaled⟩ := scale_down (d.exponent.natAbs / 308 + 1) (ofNat d.coefficient) d.exponent down
  exact ⟨_, by rw [scaled_form, scaled, Option.map_some]⟩

theorem scaled_up (negative : Bool) (d : Decimal) (up : 0 ≤ d.exponent) (small : d.exponent.toNat < 309)
    (finite : (ofNat d.coefficient * powerOfTen d.exponent.toNat).isFinite = true) : ∃ y, scaled? negative d = some y := by
  have same : d.exponent.natAbs = d.exponent.toNat := by omega
  have scaled : scale? (d.exponent.natAbs / 308 + 1) (ofNat d.coefficient) d.exponent =
      some (ofNat d.coefficient * powerOfTen d.exponent.toNat) := by
    rw [scale?, if_pos (by omega), if_pos up, same]
    simp only
    rw [if_pos finite]
  exact ⟨_, by rw [scaled_form, scaled, Option.map_some]⟩

theorem whole_decimal (d : Decimal) (some : d.coefficient ≠ 0) (up : 0 ≤ d.exponent) (notHigh : d.exponent ≤ 400) :
    magnitude (ofDecimal false d) = nearestMagnitude (d.coefficient * tenTo d.exponent.toNat) 1 := by
  obtain ⟨coefficient, exponent⟩ := d
  rw [of_decimal_whole coefficient exponent up notHigh, if_neg some, ofRatio, magnitude_of_magnitude false _ (nearest_bound _ _)]

theorem whole_number (d : Decimal) (up : 0 ≤ d.exponent) :
    (((d.coefficient * tenTo d.exponent.toNat : Nat) : ℚ)) / (1 : Nat) = d.number := by
  rw [Nat.cast_one, div_one, Nat.cast_mul, ten_to_cast, Int.toNat_of_nonneg up, Decimal.number]

theorem number_at_least (d : Decimal) (some : d.coefficient ≠ 0) : 10 ^ d.exponent ≤ d.number := by
  have one : (1 : ℚ) ≤ d.coefficient := by exact_mod_cast Nat.pos_of_ne_zero some
  exact le_mul_of_one_le_left (ten_power_positive _).le one

theorem whole_near (x : Float) (d : Decimal) (finite : x.isFinite = true) (some : d.coefficient ≠ 0)
    (up : 0 ≤ d.exponent) (notHigh : d.exponent ≤ 400) (reads : magnitude (ofDecimal false d) = magnitude x) :
    Near x d.number := by
  have ten : (1 : ℚ) ≤ 10 ^ d.exponent := one_le_zpow₀ (by norm_num) up
  rw [whole_decimal d some up notHigh] at reads
  have near := nearest_near x _ 1 finite Nat.one_pos reads
  rw [whole_number d up] at near
  exact near (ten.trans (number_at_least d some))

theorem powers_finite : ∀ n < 309, (powerOfTen n).isFinite = true := by
  decide +kernel

theorem power_near (n : Nat) (small : n < 309) : Near (powerOfTen n) (10 ^ (n : Int)) := by
  have near := whole_near (powerOfTen n) ⟨1, n⟩ (powers_finite n small) Nat.one_ne_zero (Int.natCast_nonneg n)
    (by simp only; omega) rfl
  rwa [Decimal.number, Nat.cast_one, one_mul] at near

-- Four doubles lie above this bound.
theorem absolute_not_top (x : Float) (notTop : magnitude x + 5 ≤ infiniteMagnitude) :
    absolute x ≤ 9007199254740987 * 2 ^ (971 : Int) := by
  obtain ⟨bits, least, short, full⟩ := parts_of_magnitude x
  rw [infiniteMagnitude, two_to_52] at notTop
  rw [absolute]
  by_cases last : (parts x).exponent = 971
  · have significand : (parts x).significand ≤ 9007199254740987 := by omega
    rw [last]
    exact mul_le_mul_of_nonneg_right (by exact_mod_cast significand) (two_power_positive _).le
  · have exponent : (parts x).exponent ≤ 970 := by
      rcases full with smallest | whole <;> omega
    have significand : ((parts x).significand : ℚ) ≤ 9007199254740992 := by exact_mod_cast short.le
    calc ((parts x).significand : ℚ) * 2 ^ (parts x).exponent
        ≤ 9007199254740992 * 2 ^ (970 : Int) := mul_le_mul significand (zpow_le_zpow_right₀ one_le_two exponent)
          (two_power_positive _).le (by norm_num)
      _ = 4503599627370496 * 2 ^ (971 : Int) := by
          have next : (2 : ℚ) ^ (971 : Int) = 2 ^ (970 : Int) * 2 := zpow_add_one₀ two_nonzero 970
          rw [next]
          ring
      _ ≤ 9007199254740987 * 2 ^ (971 : Int) := mul_le_mul_of_nonneg_right (by norm_num) (two_power_positive _).le

theorem ten_309 : (2 : ℚ) ^ (1025 : Int) ≤ 10 ^ (309 : Int) := by
  have natural : twoTo 1025 ≤ tenTo 309 := by decide +kernel
  rw [← Nat.cast_le (α := ℚ), two_to_cast, ten_to_cast] at natural
  exact natural

theorem near_power (x : Float) (d : Decimal) (finite : x.isFinite = true) (some : d.coefficient ≠ 0)
    (near : Near x d.number) : d.exponent < 309 := by
  by_contra large
  have below := near.least.trans_lt (absolute_below x finite)
  have power : (10 : ℚ) ^ (309 : Int) ≤ 10 ^ d.exponent := zpow_le_zpow_right₀ (by norm_num) (by omega)
  have twice : (2 : ℚ) ^ (1025 : Int) = 2 ^ (1024 : Int) * 2 := zpow_add_one₀ two_nonzero 1024
  have bound := ten_309.trans (power.trans (number_at_least d some))
  have positive := two_power_positive 1024
  rw [twice] at bound
  rw [half_unit] at below
  generalize (2 : ℚ) ^ (1024 : Int) = limit at below bound positive
  linarith only [below, bound, positive]

theorem product_in_range (x : Float) (d : Decimal)
    (notTop : magnitude x + 5 ≤ infiniteMagnitude) (some : d.coefficient ≠ 0) (short : d.coefficient ≤ tenTo 17)
    (up : 0 ≤ d.exponent) (small : d.exponent < 309) (near : Near x d.number) :
    (ofNat d.coefficient * powerOfTen d.exponent.toNat).isFinite = true := by
  have limit : (d.coefficient : ℚ) < largest + 2 ^ (970 : Int) := by
    have natural : tenTo 17 < twoTo 970 := by decide +kernel
    have cast : ((twoTo 970 : Nat) : ℚ) = 2 ^ (970 : Int) := two_to_cast 970
    have below : (d.coefficient : ℚ) < 2 ^ (970 : Int) := by
      rw [← cast]
      exact_mod_cast Nat.lt_of_le_of_lt short natural
    have more : 2 ^ (970 : Int) ≤ largest + 2 ^ (970 : Int) := le_add_of_nonneg_left largest_positive.le
    exact below.trans_le more
  obtain ⟨coefficientFinite, coefficient⟩ := of_nat_near d.coefficient (Nat.pos_of_ne_zero some) limit
  have power := power_near d.exponent.toNat (by omega)
  rw [Int.toNat_of_nonneg up] at power
  refine (product_finite_iff _ _ coefficientFinite (powers_finite _ (by omega))).mpr ?_
  have product : absolute (ofNat d.coefficient) * absolute (powerOfTen d.exponent.toNat) ≤
      d.number * (1 + 2 ^ (-53 : Int)) ^ 2 := by
    have nonnegative : 0 ≤ absolute (powerOfTen d.exponent.toNat) :=
      mul_nonneg (Nat.cast_nonneg _) (two_power_positive _).le
    calc absolute (ofNat d.coefficient) * absolute (powerOfTen d.exponent.toNat)
        ≤ d.coefficient * (1 + 2 ^ (-53 : Int)) * (10 ^ d.exponent * (1 + 2 ^ (-53 : Int))) :=
          mul_le_mul coefficient.most power.most nonnegative (by rw [half_unit]; positivity)
      _ = d.number * (1 + 2 ^ (-53 : Int)) ^ 2 := by
          rw [Decimal.number]
          ring
  have bound := near.least.trans (absolute_not_top x notTop)
  have positive := two_power_positive 971
  refine (product.trans_lt ?_).trans (lt_add_of_pos_right _ (two_power_positive 970))
  rw [largest]
  rw [half_unit] at bound ⊢
  generalize (2 : ℚ) ^ (971 : Int) = unit at bound positive ⊢
  norm_num at bound ⊢
  linarith only [bound, positive]

theorem top_in_range : ∀ negative, ∀ k < 4, (reread? (ofMagnitude negative (infiniteMagnitude - 4 + k))).isSome = true := by
  decide +kernel

theorem reread_in_range (x : Float) (finite : x.isFinite = true) : ∃ y, reread? x = some y := by
  have bound := (finite_iff x).mp finite
  by_cases notTop : magnitude x + 5 ≤ infiniteMagnitude
  · have reads := shortest_reads .even x finite
    have short := shortest_short .even x finite
    rw [reread?]
    split
    · exact scaled_down _ _ (by decide)
    next some =>
      split
      · exact scaled_down _ _ (by simp [withPoint])
      · by_cases up : 0 ≤ (shortest .even x).exponent
        · have near := whole_near x _ finite some up (finite_exponent x _ finite reads some) reads
          have small := near_power x _ finite some near
          exact scaled_up _ _ up (by omega) (product_in_range x _ notTop some short up small near)
        · exact scaled_down _ _ (Int.lt_of_not_ge up)
  · have top := top_in_range (isNegative x) (magnitude x + 4 - infiniteMagnitude) (by omega)
    have four : 4 ≤ infiniteMagnitude := by decide
    have same : infiniteMagnitude - 4 + (magnitude x + 4 - infiniteMagnitude) = magnitude x := by omega
    rw [same, own_magnitude x finite] at top
    exact Option.isSome_iff_exists.mp top

end FormulaField.Json
