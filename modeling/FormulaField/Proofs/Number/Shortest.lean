import FormulaField.Proofs.Number.Decimal

/-!
The length of the decimal that stands for a double. Seventeen digits are always enough, because a decimal
of that many digits is nearer to the double than half the way to any other.
-/

set_option autoImplicit false

namespace FormulaField.Number

def PointAt (v : ℚ) (point : Int) : Prop := 10 ^ (point - 1) ≤ v ∧ v < 10 ^ point

theorem in_tens_ratio (num den : Nat) (exponent : Int) (positive : 0 < den) :
    0 < (inTens num den exponent).2 ∧
      ((inTens num den exponent).1 : ℚ) / (inTens num den exponent).2 = num / den / 10 ^ exponent := by
  have apart : (den : ℚ) ≠ 0 := Nat.cast_ne_zero.mpr (by omega)
  have power := (ten_power_positive exponent).ne'
  by_cases up : 0 ≤ exponent
  · have same : ((tenTo exponent.toNat : Nat) : ℚ) = 10 ^ exponent := by
      rw [ten_to_cast, Int.toNat_of_nonneg up]
    rw [inTens, if_pos up]
    refine ⟨Nat.mul_pos positive (Nat.pow_pos (by decide)), ?_⟩
    rw [Nat.cast_mul, same]
    field_simp
  · have same : ((tenTo (-exponent).toNat : Nat) : ℚ) = (10 ^ exponent)⁻¹ := by
      rw [ten_to_cast, Int.toNat_of_nonneg (by omega), zpow_neg]
    rw [inTens, if_neg up]
    refine ⟨positive, ?_⟩
    rw [Nat.cast_mul, same]
    field_simp

theorem in_tens_below (num den : Nat) (exponent : Int) (positive : 0 < den) :
    (inTens num den exponent).1 < (inTens num den exponent).2 ↔ (num : ℚ) / den < 10 ^ exponent := by
  obtain ⟨unitPositive, same⟩ := in_tens_ratio num den exponent positive
  have unit : (0 : ℚ) < ((inTens num den exponent).2 : ℚ) := Nat.cast_pos.mpr unitPositive
  rw [← Nat.cast_lt (α := ℚ), ← div_lt_one unit, same, div_lt_one (ten_power_positive exponent)]

theorem climb_point (num den : Nat) (positive : 0 < den) (fuel : Nat) (start : Int)
    (least : 10 ^ (start - 1) ≤ (num : ℚ) / den) (most : (num : ℚ) / den < 10 ^ (start + fuel)) :
    PointAt ((num : ℚ) / den) (decimalPoint.climb num den fuel start) := by
  induction fuel generalizing start with
  | zero =>
      rw [decimalPoint.climb]
      exact ⟨least, by simpa using most⟩
  | succ fuel ih =>
      rw [decimalPoint.climb]
      simp only [in_tens_below num den start positive]
      by_cases below : (num : ℚ) / den < 10 ^ start
      · rw [if_pos below]
        exact ⟨least, below⟩
      · rw [if_neg below]
        refine ih (start + 1) ?_ ?_
        · rw [add_sub_cancel_right]
          exact le_of_not_gt below
        · rw [add_assoc, add_comm 1]
          exact_mod_cast most

-- The estimate of the point from the size in bits, for whole powers of two and for their inverses.
theorem estimate_above : ∀ n < 1100,
    tenTo (n * 30103 / 100000) ≤ 10 * twoTo n ∧ twoTo (n + 2) ≤ tenTo (n * 30103 / 100000 + 4) := by
  decide +kernel

theorem estimate_below : ∀ n < 1100,
    twoTo n ≤ tenTo ((n * 30103 + 99999) / 100000 + 1) ∧
      4 * tenTo ((n * 30103 + 99999) / 100000) ≤ 10000 * twoTo n := by
  decide +kernel

theorem estimate_bounds (size : Int) (least : -1100 < size) (most : size < 1100) :
    (10 : ℚ) ^ (size * 30103 / 100000 - 1) ≤ 2 ^ size ∧ (2 : ℚ) ^ (size + 2) ≤ 10 ^ (size * 30103 / 100000 + 4) := by
  have ten : (10 : ℚ) ≠ 0 := by norm_num
  by_cases up : 0 ≤ size
  · obtain ⟨n, rfl⟩ := Int.eq_ofNat_of_zero_le up
    obtain ⟨low, high⟩ := estimate_above n (by omega)
    rw [← Nat.cast_le (α := ℚ), Nat.cast_mul, ten_to_cast, two_to_cast] at low
    rw [← Nat.cast_le (α := ℚ), ten_to_cast, two_to_cast] at high
    have estimate : (n : Int) * 30103 / 100000 = ((n * 30103 / 100000 : Nat) : Int) := by omega
    rw [estimate]
    refine ⟨?_, by exact_mod_cast high⟩
    rw [zpow_sub_one₀ ten, mul_inv_le_iff₀ (by norm_num), mul_comm ((2 : ℚ) ^ _)]
    exact_mod_cast low
  · obtain ⟨n, rfl⟩ : ∃ n : Nat, size = -(n : Int) := ⟨size.natAbs, by omega⟩
    obtain ⟨low, high⟩ := estimate_below n (by omega)
    rw [← Nat.cast_le (α := ℚ), ten_to_cast, two_to_cast] at low
    rw [← Nat.cast_le (α := ℚ), Nat.cast_mul, Nat.cast_mul, ten_to_cast, two_to_cast] at high
    have estimate : -(n : Int) * 30103 / 100000 = -((n * 30103 + 99999) / 100000 : Nat) := by omega
    rw [estimate]
    constructor
    · rw [← neg_add', zpow_neg, zpow_neg]
      exact inv_anti₀ (two_power_positive _) (by exact_mod_cast low)
    · rw [zpow_add₀ two_nonzero, zpow_add₀ ten, zpow_neg, zpow_neg, inv_mul_eq_div, inv_mul_eq_div,
        div_le_div_iff₀ (two_power_positive _) (ten_power_positive _)]
      norm_num at high ⊢
      exact high

theorem decimal_point_at (x : Float) (finite : x.isFinite = true) (some : (ratio x).1 ≠ 0) :
    PointAt (absolute x) (decimalPoint (ratio x).1 (ratio x).2) := by
  have positive := ratio_positive x
  obtain ⟨above, below⟩ := ratio_bounds _ _ (Nat.pos_of_ne_zero some) positive
  have value := ratio_is_value x
  have apart : absolute x ≠ 0 := by
    rw [← value]
    exact div_ne_zero (Nat.cast_ne_zero.mpr some) (Nat.cast_ne_zero.mpr positive.ne')
  have least := absolute_least x apart
  have most : absolute x < 2 ^ (1024 : Int) := absolute_below x finite
  rw [← value] at least most
  have sizeAbove := (two_power_strict _ _).mp (lt_of_le_of_lt least below)
  have sizeBelow := (two_power_strict _ _).mp (above.trans most)
  have next : ((ratio x).1.log2 : Int) - (ratio x).2.log2 + 1 = (ratio x).1.log2 - (ratio x).2.log2 - 1 + 2 := by omega
  rw [next] at below
  obtain ⟨low, high⟩ := estimate_bounds (((ratio x).1.log2 : Int) - (ratio x).2.log2 - 1) (by omega) (by omega)
  rw [← value, decimalPoint]
  exact climb_point _ _ positive 4 _ (low.trans above.le) (below.trans_le high)

theorem reading_back_cases (tie : Tie) (x : Float) (exponent : Int) (d : Decimal)
    (found : readingBack? tie x exponent = some d) :
    d.coefficient ≤ (inTens (ratio x).1 (ratio x).2 exponent).1 / (inTens (ratio x).1 (ratio x).2 exponent).2 + 1 := by
  rw [readingBack?] at found
  simp only at found
  split at found
  next =>
    split at found
    · cases found
      exact Nat.le_succ _
    · split at found
      · cases found
        exact Nat.le_refl _
      · cases found
        cases tie with
        | upper => exact Nat.le_refl _
        | even =>
            rw [Tie.pick]
            split
            · exact Nat.le_succ _
            · exact Nat.le_refl _
  next =>
    cases found
    exact Nat.le_succ _
  next =>
    cases found
    exact Nat.le_refl _
  next => cases found

theorem reading_back_short (tie : Tie) (x : Float) (exponent : Int) (d : Decimal)
    (under : absolute x < 10 ^ (exponent + 17)) (found : readingBack? tie x exponent = some d) :
    d.coefficient ≤ tenTo 17 := by
  have bound := reading_back_cases tie x exponent d found
  obtain ⟨_, same⟩ := in_tens_ratio (ratio x).1 (ratio x).2 exponent (ratio_positive x)
  have floor := Nat.cast_div_le (α := ℚ) (m := (inTens (ratio x).1 (ratio x).2 exponent).1)
    (n := (inTens (ratio x).1 (ratio x).2 exponent).2)
  have ten : (10 : ℚ) ≠ 0 := by norm_num
  rw [same, ratio_is_value] at floor
  rw [zpow_add₀ ten, mul_comm, ← div_lt_iff₀ (ten_power_positive exponent)] at under
  have small := floor.trans_lt under
  have natural : (inTens (ratio x).1 (ratio x).2 exponent).1 / (inTens (ratio x).1 (ratio x).2 exponent).2 < tenTo 17 := by
    rw [← Nat.cast_lt (α := ℚ), ten_to_cast]
    exact small
  omega

theorem read_within (x : Float) (d : Decimal) (finite : x.isFinite = true)
    (above : absolute x * (1 - 2 ^ (-54 : Int)) < d.number) (below : d.number < absolute x * (1 + 2 ^ (-54 : Int))) :
    magnitude (ofDecimal false d) = magnitude x := by
  have positive : 0 < absolute x := by
    rw [quarter_unit] at above below
    linarith
  have least : 2 ^ (-1099 : Int) ≤ d.number := by
    have apart := absolute_least x positive.ne'
    have half : (2 : ℚ) ^ (-1099 : Int) ≤ 2 ^ (-1074 : Int) / 2 := by
      rw [div_eq_mul_inv, ← zpow_sub_one₀ two_nonzero]
      exact zpow_le_zpow_right₀ one_le_two (by decide)
    rw [quarter_unit] at above
    linarith
  have most : d.number < 10 ^ (401 : Int) := by
    have bound := absolute_bound x finite
    rw [quarter_unit] at below
    have next : (10 : ℚ) ^ (401 : Int) = 10 ^ (400 : Int) * 10 := zpow_add_one₀ (by norm_num) 400
    rw [next]
    generalize (10 : ℚ) ^ (400 : Int) = power at bound ⊢
    linarith
  obtain ⟨num, den, denPositive, same, reads⟩ := decimal_nearest d least most
  rw [← same] at above below
  rw [reads, nearest_within x num den finite denPositive above below]

theorem reading_back_found (tie : Tie) (x : Float) (finite : x.isFinite = true) (exponent : Int)
    (long : 10 ^ (exponent + 16) ≤ absolute x) : ∃ d, readingBack? tie x exponent = some d := by
  have ten : (10 : ℚ) ≠ 0 := by norm_num
  have unit := ten_power_positive exponent
  obtain ⟨unitPositive, same⟩ := in_tens_ratio (ratio x).1 (ratio x).2 exponent (ratio_positive x)
  rw [ratio_is_value] at same
  have digits : (10 : ℚ) ^ exponent * 10000000000000000 ≤ absolute x := by
    rw [zpow_add₀ ten] at long
    exact_mod_cast long
  have floor := Nat.cast_div_le (α := ℚ) (m := (inTens (ratio x).1 (ratio x).2 exponent).1)
    (n := (inTens (ratio x).1 (ratio x).2 exponent).2)
  have next := Nat.lt_floor_add_one (((inTens (ratio x).1 (ratio x).2 exponent).1 : ℚ) /
    (inTens (ratio x).1 (ratio x).2 exponent).2)
  rw [Nat.floor_div_eq_div] at next
  rw [same, div_lt_iff₀ unit] at next
  rw [same, le_div_iff₀ unit] at floor
  have reads : ∀ n : Nat, absolute x * (1 - 2 ^ (-54 : Int)) < n * 10 ^ exponent →
      n * 10 ^ exponent < absolute x * (1 + 2 ^ (-54 : Int)) → magnitude (ofDecimal false ⟨n, exponent⟩) = magnitude x :=
    fun n => read_within x ⟨n, exponent⟩ finite
  rw [readingBack?]
  simp only
  generalize (inTens (ratio x).1 (ratio x).2 exponent).1 / (inTens (ratio x).1 (ratio x).2 exponent).2 = lower at *
  split
  next =>
    split
    · exact ⟨_, rfl⟩
    · split <;> exact ⟨_, rfl⟩
  next => exact ⟨_, rfl⟩
  next => exact ⟨_, rfl⟩
  next notLower notUpper =>
    rw [beq_eq_false_iff_ne] at notLower notUpper
    by_cases near : absolute x ≤ (lower + 1 / 2) * 10 ^ exponent
    · exact absurd (reads lower (by rw [quarter_unit]; linarith) (by rw [quarter_unit]; linarith)) notLower
    · refine absurd (reads (lower + 1) ?_ ?_) notUpper <;> rw [quarter_unit, Nat.cast_add_one] <;> linarith

theorem shortest_from_short (tie : Tie) (x : Float) (finite : x.isFinite = true) (more : Nat) (exponent : Int)
    (least : 10 ^ (exponent + 16 - more) ≤ absolute x) (most : absolute x < 10 ^ (exponent + 17 - more)) :
    (shortestFrom tie x (more + 1) exponent).coefficient ≤ tenTo 17 := by
  have under : absolute x < 10 ^ (exponent + 17) :=
    most.trans_le (zpow_le_zpow_right₀ (by norm_num) (by omega))
  induction more generalizing exponent with
  | zero =>
      obtain ⟨d, found⟩ := reading_back_found tie x finite exponent (by simpa using least)
      simp only [shortestFrom, found]
      exact reading_back_short tie x exponent d under found
  | succ more ih =>
      rw [shortestFrom]
      split
      next d found => exact reading_back_short tie x exponent d under found
      next =>
        have lower : exponent - 1 + 16 - (more : Int) = exponent + 16 - (more + 1 : Nat) := by omega
        have upper : exponent - 1 + 17 - (more : Int) = exponent + 17 - (more + 1 : Nat) := by omega
        rw [← lower] at least
        rw [← upper] at most
        exact ih (exponent - 1) least most (most.trans_le (zpow_le_zpow_right₀ (by norm_num) (by omega)))

theorem shortest_short (tie : Tie) (x : Float) (finite : x.isFinite = true) :
    (shortest tie x).coefficient ≤ tenTo 17 := by
  rw [shortest]
  by_cases none : (ratio x).1 = 0
  · rw [if_pos none]
    exact Nat.zero_le _
  · rw [if_neg none]
    obtain ⟨least, most⟩ := decimal_point_at x finite none
    refine shortest_from_short tie x finite 17 _ ?_ ?_
    · rwa [Nat.cast_ofNat, add_sub_assoc]
    · rwa [Nat.cast_ofNat, add_sub_cancel_right]

end FormulaField.Number
