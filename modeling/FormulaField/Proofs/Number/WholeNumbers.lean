import FormulaField.Proofs.Number.Comparison
import FormulaField.Proofs.Number.Products

set_option autoImplicit false

namespace FormulaField.Number

theorem truncated_ratio (x : Float) : truncatedAbs x = (ratio x).1 / (ratio x).2 := by
  rw [truncatedAbs, ratio]
  split
  · rw [Nat.div_one]
  · rfl

theorem rounded_ratio (x : Float) : roundedAbs x = (2 * (ratio x).1 + (ratio x).2) / (2 * (ratio x).2) := by
  rw [roundedAbs, ratio]
  split
  · simp only
    omega
  · rfl

theorem truncated_is_floor (x : Float) : truncatedAbs x = ⌊absolute x⌋₊ := by
  rw [truncated_ratio, ← ratio_is_value, Nat.floor_div_eq_div]

theorem rounded_is_floor (x : Float) : roundedAbs x = ⌊absolute x + 1 / 2⌋₊ := by
  have denominator : ((ratio x).2 : ℚ) ≠ 0 := Nat.cast_ne_zero.mpr (ratio_positive x).ne'
  have sum : absolute x + 1 / 2 = ((2 * (ratio x).1 + (ratio x).2 : Nat) : ℚ) / (2 * (ratio x).2 : Nat) := by
    rw [← ratio_is_value]
    push_cast
    field_simp
  rw [sum, Nat.floor_div_eq_div, rounded_ratio]

theorem below_truncated (x : Float) : absolute x < truncatedAbs x + 1 := by
  rw [truncated_is_floor]
  exact Nat.lt_floor_add_one _

theorem below_rounded (x : Float) : absolute x < roundedAbs x + 1 := by
  have above := Nat.lt_floor_add_one (absolute x + 1 / 2)
  rw [rounded_is_floor]
  linarith

theorem truncated_whole (x : Float) (n : Nat) (value : absolute x = n) : truncatedAbs x = n := by
  rw [truncated_is_floor, value, Nat.floor_natCast]

theorem rounded_whole (x : Float) (n : Nat) (value : absolute x = n) : roundedAbs x = n := by
  rw [rounded_is_floor, value, Nat.floor_eq_iff (by positivity)]
  constructor <;> linarith

theorem whole_exact (x : Float) (n : Nat) (reads : magnitude x = nearestMagnitude n 1) (small : n < 2 ^ 53) :
    absolute x = n := by
  by_cases none : n = 0
  · rw [none, Nat.cast_zero, absolute_zero, reads, none]
    rfl
  · have some := Nat.pos_of_ne_zero none
    have one : (1 : ℚ) ≤ (n : ℚ) / (1 : Nat) := by
      rw [Nat.cast_one, div_one]
      exact_mod_cast some
    obtain ⟨normal, above⟩ := units_full n 1 some Nat.one_pos one
    have below := units_short n 1 some Nat.one_pos
    obtain ⟨unitPositive, units⟩ := in_units_ratio n 1 (unitExponent n 1) Nat.one_pos
    rw [units, Nat.cast_one, div_one] at above below
    rw [Nat.cast_one, div_one] at units
    have scale := two_power_positive (unitExponent n 1)
    have notAbove : unitExponent n 1 ≤ 0 := by
      have short : (n : ℚ) ≤ 9007199254740991 := by exact_mod_cast Nat.le_sub_one_of_lt small
      have less : (2 : ℚ) ^ unitExponent n 1 < 2 ^ (1 : Int) := by
        rw [le_div_iff₀ scale] at above
        linarith
      have strict := (two_power_strict _ _).mp less
      omega
    -- In its own unit the number is whole.
    obtain ⟨significand, whole⟩ : ∃ significand : Nat, (significand : ℚ) = n / 2 ^ unitExponent n 1 := by
      refine ⟨n * 2 ^ (-unitExponent n 1).toNat, ?_⟩
      rw [Nat.cast_mul, Nat.cast_pow, Nat.cast_ofNat, ← zpow_natCast, Int.toNat_of_nonneg (by omega), zpow_neg,
        div_eq_mul_inv]
    have rounded : roundHalfEven (inUnits n 1 (unitExponent n 1)).1 (inUnits n 1 (unitExponent n 1)).2 = significand := by
      rw [round_same_ratio _ _ (significand * 1) 1 unitPositive Nat.one_pos, round_exact _ _ Nat.one_pos]
      rw [units, Nat.mul_one, whole, Nat.cast_one, div_one]
    rw [← whole] at above below
    have full : 2 ^ 52 ≤ significand := by exact_mod_cast above
    have short : significand < 2 ^ 53 := by exact_mod_cast below
    have bits : (unitExponent n 1 + 1074).toNat * 2 ^ 52 + significand = magnitude x := by
      have finite : (unitExponent n 1 + 1074).toNat * 2 ^ 52 + significand ≤ infiniteMagnitude := by
        have top : infiniteMagnitude = 2047 * 2 ^ 52 := rfl
        omega
      rw [reads, nearestMagnitude, if_neg none, two_to_52]
      simp only [rounded]
      exact (Nat.min_eq_left finite).symm
    rw [(parts_of_units x _ _ (by omega) full short.le bits).2, whole, div_mul_cancel₀ _ scale.ne']

theorem small_in_range (n : Nat) (small : n < 2 ^ 53) : (n : ℚ) / (1 : Nat) < largest + 2 ^ (970 : Int) := by
  rw [Nat.cast_one, div_one]
  have most : (n : ℚ) ≤ 2 ^ 53 - 1 := by
    have natural : n ≤ 9007199254740991 := by omega
    have cast : (n : ℚ) ≤ 9007199254740991 := by exact_mod_cast natural
    linarith
  have unit : (2 : ℚ) ^ (0 : Int) ≤ 2 ^ (971 : Int) := zpow_le_zpow_right₀ one_le_two (by omega)
  have top : 2 ^ 53 - 1 ≤ largest := by
    rw [largest]
    exact le_mul_of_one_le_right (by linarith) unit
  calc (n : ℚ) ≤ 2 ^ 53 - 1 := most
    _ ≤ largest := top
    _ < largest + 2 ^ (970 : Int) := lt_add_of_pos_right _ (two_power_positive 970)

theorem same_value (x y : Float) (same : magnitude x = magnitude y) : absolute x = absolute y := by
  rw [absolute, absolute, parts, parts, same]
  split <;> rfl

theorem rounded_short (x : Float) (fraction : (parts x).exponent < 0) : roundedAbs x < 2 ^ 53 := by
  have short := (parts_of_magnitude x).short
  have unit : 2 ≤ twoTo (-(parts x).exponent).toNat := by
    obtain ⟨places, same⟩ : ∃ places, (-(parts x).exponent).toNat = places + 1 := Nat.exists_eq_succ_of_ne_zero (by omega)
    have some : 0 < 2 ^ places := Nat.pow_pos Nat.two_pos
    rw [same, twoTo, Nat.pow_eq, pow_succ]
    omega
  rw [roundedAbs]
  simp only [if_neg (not_le_of_gt fraction)]
  rw [Nat.div_lt_iff_lt_mul (by omega)]
  omega

theorem rounded_own (x : Float) (whole : 0 ≤ (parts x).exponent) : (roundedAbs x : ℚ) = absolute x := by
  rw [roundedAbs]
  simp only [if_pos whole]
  rw [Nat.cast_mul, two_to_cast, Int.toNat_of_nonneg whole, absolute]

theorem rounded_exact (x : Float) (finite : x.isFinite = true) :
    (roundWhole x).isFinite = true ∧ absolute (roundWhole x) = roundedAbs x := by
  have size : magnitude (roundWhole x) = nearestMagnitude (roundedAbs x) 1 := by
    rw [roundWhole, if_pos finite, ofRatio, magnitude_of_magnitude _ _ (nearest_bound _ _)]
  by_cases whole : 0 ≤ (parts x).exponent
  · have value := rounded_own x whole
    have reads := nearest_of_value x (roundedAbs x) 1 finite Nat.one_pos (by rw [Nat.cast_one, div_one, value])
    refine ⟨?_, (same_value _ x (size.trans reads)).trans value.symm⟩
    rw [finite_iff, size, reads]
    exact (finite_iff x).mp finite
  · have small := rounded_short x (by omega)
    refine ⟨?_, whole_exact _ _ size small⟩
    rw [finite_iff, size]
    exact (nearest_finite_iff _ _ Nat.one_pos).mpr (small_in_range _ small)

-- The double that is nearest to a whole number, where zero may have either sign.
structure Reads (x : Float) (n : Int) : Prop where
  size : magnitude x = nearestMagnitude n.natAbs 1
  sign : n = 0 ∨ isNegative x = decide (n < 0)

theorem of_int_reads (n : Int) : Reads (ofInt n) n :=
  ⟨magnitude_of_magnitude _ _ (nearest_bound _ _), .inr (negative_of_magnitude _ _ (nearest_bound _ _))⟩

theorem nearest_none (n : Nat) (none : nearestMagnitude n 1 = 0) : n = 0 := by
  by_contra some
  have finite : (ofNat n).isFinite = true := by
    rw [finite_iff, ofNat, ofRatio, magnitude_of_magnitude _ _ (nearest_bound _ _), none]
    decide
  have reads : nearestMagnitude n 1 = magnitude (ofNat n) := by
    rw [ofNat, ofRatio, magnitude_of_magnitude _ _ (nearest_bound _ _)]
  have one : (1 : ℚ) ≤ (n : ℚ) / (1 : Nat) := by
    rw [Nat.cast_one, div_one]
    exact_mod_cast Nat.pos_of_ne_zero some
  have near := (nearest_near (ofNat n) n 1 finite Nat.one_pos reads one).least
  rw [(absolute_zero _).mpr (reads.symm.trans none), half_unit] at near
  linarith

theorem equal_reads (x : Float) (n : Int) (finite : x.isFinite = true) (equal : (x == ofInt n) = true) : Reads x n := by
  have otherFinite : (ofInt n).isFinite = true := (equal_finite x _ equal).symm.trans finite
  obtain ⟨sizes, signs⟩ := equal_bits x _ finite otherFinite equal
  obtain ⟨size, sign⟩ := of_int_reads n
  refine ⟨sizes.trans size, ?_⟩
  rcases signs with none | same
  · have zero := nearest_none n.natAbs ((sizes.trans size).symm.trans none)
    exact .inl (Int.natAbs_eq_zero.mp zero)
  · rw [same]
    exact sign

namespace Reads

variable {x : Float} {n : Int}

theorem exact (reads : Reads x n) (small : n.natAbs < 2 ^ 53) : absolute x = n.natAbs :=
  whole_exact x _ reads.size small

theorem finite (reads : Reads x n) (small : n.natAbs < 2 ^ 53) : x.isFinite = true := by
  rw [finite_iff, reads.size]
  exact (nearest_finite_iff _ _ Nat.one_pos).mpr (small_in_range _ small)

theorem small (reads : Reads x n) (finite : x.isFinite = true) (below : absolute x < 2 ^ 52) : n.natAbs < 2 ^ 53 := by
  by_cases none : n.natAbs = 0
  · omega
  · have one : (1 : ℚ) ≤ (n.natAbs : ℚ) / (1 : Nat) := by
      rw [Nat.cast_one, div_one]
      exact_mod_cast Nat.pos_of_ne_zero none
    have near := (nearest_near x _ 1 finite Nat.one_pos reads.size.symm one).least
    rw [Nat.cast_one, div_one, half_unit] at near
    have short : (n.natAbs : ℚ) < 2 ^ 53 := by linarith
    exact_mod_cast short

theorem signed (reads : Reads x n) (size : Nat) (same : size = n.natAbs) :
    (if isNegative x then -(size : Int) else size) = n := by
  rcases reads.sign with none | sign
  · rw [same, none]
    simp
  · rw [sign]
    by_cases below : n < 0
    · simp only [below, decide_true, if_true]
      omega
    · simp only [below, decide_false, Bool.false_eq_true, if_false]
      omega

theorem truncated (reads : Reads x n) (small : n.natAbs < 2 ^ 53) : truncate x = n :=
  reads.signed _ (truncated_whole x _ (reads.exact small))

theorem rounded (reads : Reads x n) (small : n.natAbs < 2 ^ 53) : roundHalfAway x = n :=
  reads.signed _ (rounded_whole x _ (reads.exact small))

theorem product (reads : Reads x n) (size : Int) (positive : 0 < size) (small : n.natAbs < 2 ^ 53)
    (few : size.natAbs < 2 ^ 53) : Reads (x * ofInt size) (n * size) := by
  have factor := of_int_reads size
  have value : ((n.natAbs * size.natAbs : Nat) : ℚ) / (1 : Nat) = absolute x * absolute (ofInt size) := by
    rw [reads.exact small, factor.exact few, Nat.cast_one, div_one, Nat.cast_mul]
  have multiplied := product_nearest x _ (reads.finite small) (factor.finite few) _ 1 Nat.one_pos value
  have plus : isNegative (ofInt size) = false := by
    rw [ofInt, ofRatio, negative_of_magnitude _ _ (nearest_bound _ _), decide_eq_false_iff_not]
    omega
  rw [multiplied, plus, Bool.bne_false]
  refine ⟨?_, ?_⟩
  · rw [ofRatio, magnitude_of_magnitude _ _ (nearest_bound _ _), Int.natAbs_mul]
  · rw [ofRatio, negative_of_magnitude _ _ (nearest_bound _ _)]
    rcases reads.sign with none | sign
    · exact .inl (by rw [none, Int.zero_mul])
    · refine .inr (sign.trans (decide_eq_decide.mpr ?_))
      have order := Int.mul_nonneg_iff_of_pos_right (a := n) positive
      omega

end Reads

theorem small_factor (x : Float) (size : Int) (finite : x.isFinite = true) (positive : 0 < size)
    (few : size.natAbs < 2 ^ 53) (productFinite : (x * ofInt size).isFinite = true)
    (below : absolute (x * ofInt size) < 2 ^ 51) : absolute x < 2 ^ 52 := by
  have factor := of_int_reads size
  have one : (1 : ℚ) ≤ absolute (ofInt size) := by
    rw [factor.exact few]
    exact_mod_cast Int.natAbs_pos.mpr positive.ne'
  by_contra large
  have more : absolute x ≤ absolute x * absolute (ofInt size) := le_mul_of_one_le_right (absolute_nonnegative x) one
  have near := (product_near x _ finite (factor.finite few) productFinite (by linarith)).least
  rw [half_unit] at near
  linarith

end FormulaField.Number
