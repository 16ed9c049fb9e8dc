import FormulaField.Function.Table
import FormulaField.Proofs.Number.Powers
import FormulaField.Proofs.Number.WholeNumbers

set_option autoImplicit false

namespace FormulaField.Arithmetic

open Calendar (Instant)
open Number (absolute largest magnitude roundedAbs roundWhole wholePower)

section Places

variable (n : Float) (finite : n.isFinite = true) (d : Int)

include finite

-- To the right of the point the result is lost only where the product is.
theorem rounded_right (right : 0 ≤ d) (near : d ≤ 308) : (round n d).isNaN = false ∧
    ((round n d).isFinite = true ↔ absolute n * absolute (wholePower 10 d) < largest + 2 ^ (970 : Int)) := by
  have power := Number.power_up d right
  have scaleFinite := power.reach (by omega)
  have one := power.at_least_one scaleFinite
  have some : absolute (wholePower 10 d) ≠ 0 := by linarith
  rw [round, ← Number.product_finite_iff n _ finite scaleFinite]
  by_cases scaled : (n * wholePower 10 d).isFinite = true
  · have roundedFinite := (Number.rounded_exact _ scaled).1
    refine ⟨Number.quotient_number _ _ roundedFinite scaleFinite some, iff_of_true ?_ scaled⟩
    rw [Number.quotient_finite_iff _ _ roundedFinite scaleFinite some]
    have less := div_le_self (Number.absolute_nonnegative (roundWhole (n * wholePower 10 d))) one
    exact less.trans_lt (Number.finite_below _ roundedFinite)
  · have number := Number.product_number n _ finite scaleFinite
    obtain ⟨stillNumber, infinite⟩ := Number.infinity_number
      (Number.isNegative (n * wholePower 10 d) != Number.isNegative (wholePower 10 d))
    rw [roundWhole, if_neg scaled, Number.infinite_quotient _ _ number scaled scaleFinite]
    exact ⟨stillNumber, iff_of_false infinite scaled⟩

theorem rounded_left (left : d < 0) (near : -308 ≤ d) : (round n d).isNaN = false ∧
    ((round n d).isFinite = true ↔
      roundedAbs (n * wholePower 10 d) / absolute (wholePower 10 d) < largest + 2 ^ (970 : Int)) := by
  obtain ⟨scaleFinite, some, small⟩ := Number.power_down d left near
  have scaled : (n * wholePower 10 d).isFinite = true := by
    rw [Number.product_finite_iff n _ finite scaleFinite]
    have less := mul_le_of_le_one_right (Number.absolute_nonnegative n) small
    exact less.trans_lt (Number.finite_below n finite)
  obtain ⟨roundedFinite, value⟩ := Number.rounded_exact _ scaled
  rw [round, ← value]
  exact ⟨Number.quotient_number _ _ roundedFinite scaleFinite some.ne',
    Number.quotient_finite_iff _ _ roundedFinite scaleFinite some.ne'⟩

theorem rounded_far_right (far : 308 < d) : (round n d).isNaN = true := by
  have power := Number.power_up d (by omega)
  have infinite : ¬(wholePower 10 d).isFinite = true := by
    rw [power.finite_iff]
    omega
  rw [round]
  by_cases none : magnitude n = 0
  · have lost := Number.nothing_times_infinity n _ none power.number infinite
    have notFinite : ¬(n * wholePower 10 d).isFinite = true := by
      intro scaled
      rw [Number.finite_number _ scaled] at lost
      cases lost
    rw [roundWhole, if_neg notFinite]
    exact Number.not_number_quotient _ _ lost
  · have scaled := Number.product_infinite n _ (Number.finite_number n finite) power.number none power.not_nothing
      fun both => infinite both.2
    obtain ⟨number, notFinite⟩ := Number.infinity_number (Number.isNegative n != Number.isNegative (wholePower 10 d))
    rw [scaled, roundWhole, if_neg notFinite]
    exact Number.infinities_quotient _ _ number notFinite power.number infinite

theorem rounded_far_left (far : d < -308) : (round n d).isNaN = true := by
  have nothing : (Number.zero false).isFinite = true ∧ magnitude (Number.zero false) = 0 := by decide +kernel
  have value : absolute n * absolute (Number.zero false) = 0 := by
    rw [(Number.absolute_zero _).mpr nothing.2, mul_zero]
  have product := Number.product_nearest n (Number.zero false) finite nothing.1 0 1 Nat.one_pos (by rw [value]; simp)
  have none : magnitude (n * Number.zero false) = 0 := by
    rw [product, Number.ofRatio, Number.magnitude_of_magnitude _ _ (Number.nearest_bound _ _)]
    rfl
  have scaled : (n * Number.zero false).isFinite = true := by
    rw [Number.finite_iff, none]
    decide
  have whole := Number.rounded_whole (n * Number.zero false) 0 ((Number.absolute_zero _).mpr none)
  have rounded := (Number.rounded_exact _ scaled).2
  rw [whole, Nat.cast_zero, Number.absolute_zero] at rounded
  rw [round, Number.power_far_down d far]
  exact Number.nothings_quotient _ _ rounded nothing.2

end Places

-- The rounding of a finite number: no number beyond 308 places either way, and within them finite as long as the number
-- scaled up, or the whole number scaled back, is less than half a unit above the greatest double.
structure RoundedWithin (n : Float) (d : Int) (r : Float) : Prop where
  not_number : r.isNaN = true ↔ d < -308 ∨ 308 < d
  right : 0 ≤ d → (r.isFinite = true ↔
    d ≤ 308 ∧ absolute n * absolute (wholePower 10 d) < largest + 2 ^ (970 : Int))
  left : d < 0 → (r.isFinite = true ↔
    -308 ≤ d ∧ roundedAbs (n * wholePower 10 d) / absolute (wholePower 10 d) < largest + 2 ^ (970 : Int))

theorem rounded_within (n : Float) (finite : n.isFinite = true) (d : Int) : RoundedWithin n d (round n d) := by
  have lost (beyond : d < -308 ∨ 308 < d) : (round n d).isNaN = true := by
    rcases beyond with left | right
    · exact rounded_far_left n finite d left
    · exact rounded_far_right n finite d right
  have notFinite (beyond : d < -308 ∨ 308 < d) : ¬(round n d).isFinite = true := by
    intro roundFinite
    rw [Number.finite_number _ roundFinite] at lost
    exact Bool.false_ne_true (lost beyond)
  refine ⟨⟨fun notNumber => ?_, lost⟩, fun right => ?_, fun left => ?_⟩
  · by_contra within
    have number : (round n d).isNaN = false := by
      by_cases left : d < 0
      · exact (rounded_left n finite d left (by omega)).1
      · exact (rounded_right n finite d (by omega) (by omega)).1
    rw [number] at notNumber
    cases notNumber
  · by_cases near : d ≤ 308
    · rw [(rounded_right n finite d right near).2, and_iff_right near]
    · exact iff_of_false (notFinite (by omega)) fun both => near both.1
  · by_cases near : -308 ≤ d
    · rw [(rounded_left n finite d left near).2, and_iff_right near]
    · exact iff_of_false (notFinite (by omega)) fun both => near both.1

theorem round_function (now : Instant) (v : Value) (decimals : Option Value) :
    ∃ function, Function.named? "ROUND" = some function ∧
      function.apply now (v :: decimals.toList) = .ok (.number (round v.toNumber (places decimals))) := by
  refine ⟨_, rfl, ?_⟩
  cases decimals with
  | none => rfl
  | some w => rfl

theorem error_function (now : Instant) (r : Float) :
    ∃ function, Function.named? "ISERROR" = some function ∧
      function.apply now [.number r] = .ok (.boolean !r.isFinite) :=
  ⟨_, rfl, rfl⟩

theorem rounding_finite (now : Instant) (v : Value) (decimals : Option Value) (finite : v.toNumber.isFinite = true) :
    ∃ rounding test r, Function.named? "ROUND" = some rounding ∧ Function.named? "ISERROR" = some test ∧
      rounding.apply now (v :: decimals.toList) = .ok (.number r) ∧
      test.apply now [.number r] = .ok (.boolean !r.isFinite) ∧ RoundedWithin v.toNumber (places decimals) r := by
  obtain ⟨rounding, named, applied⟩ := round_function now v decimals
  obtain ⟨test, testNamed, tested⟩ := error_function now (round v.toNumber (places decimals))
  exact ⟨rounding, test, _, named, testNamed, applied, tested, rounded_within _ finite _⟩

theorem rounding_of_one_finite :
    ∃ rounding r, Function.named? "ROUND" = some rounding ∧
      rounding.apply ⟨0, 0⟩ [.number 1, .number 308] = .ok (.number r) ∧ r.isFinite = true := by
  obtain ⟨rounding, _, r, named, _, applied, _, within⟩ :=
    rounding_finite ⟨0, 0⟩ (.number 1) (some (.number 308)) (by decide +kernel)
  have decimals : places (some (.number 308)) = 308 := by decide +kernel
  have power := Number.power_up 308 (by decide)
  have small := (power.most (power.reach (by decide))).trans_lt (Number.grown_power _ _ (Nat.le_refl _) (by decide))
  rw [decimals] at within
  refine ⟨rounding, r, named, applied, (within.right (by decide)).mpr ⟨Int.le_refl _, ?_⟩⟩
  rwa [Value.toNumber, Number.one_exact.2.2, one_mul]

theorem rounding_of_one_lost :
    (Value.number 1).toNumber.isFinite = true ∧ (Value.number 309).toNumber.isFinite = true ∧
      (round (Value.number 1).toNumber (places (some (.number 309)))).isNaN = true := by
  decide +kernel

end FormulaField.Arithmetic
