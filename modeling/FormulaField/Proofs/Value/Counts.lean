import FormulaField.Proofs.Number.Order
import FormulaField.Proofs.Number.WholeNumbers
import FormulaField.Value

set_option autoImplicit false

namespace FormulaField

namespace Number

def wholePart (x : Float) : Nat := if x.isNaN || isNegative x then 0 else ⌊absolute x⌋₊

theorem infinite_truncated (x : Float) (size : magnitude x = infiniteMagnitude) : 2 ^ 64 ≤ truncatedAbs x := by
  have biased : infiniteMagnitude / twoTo 52 = 2047 := by decide
  have fraction : infiniteMagnitude % twoTo 52 = 0 := by decide
  have own : (parts x).significand = twoTo 52 ∧ (parts x).exponent = 972 := by
    rw [parts, size, biased, fraction]
    exact ⟨rfl, rfl⟩
  rw [truncatedAbs, own.1, own.2, if_pos (by decide)]
  decide +kernel

theorem truncated_within (most : Nat) (few : most < 2 ^ 64) (x : Float) :
    (truncateWithin 0 most x).toNat = min (wholePart x) most := by
  rw [truncateWithin, wholePart, truncate, ← truncated_is_floor]
  by_cases notNumber : x.isNaN = true
  · rw [if_pos notNumber, notNumber, Bool.true_or, if_pos rfl, Nat.zero_min]
    rfl
  · rw [if_neg notNumber, Bool.eq_false_iff.mpr notNumber, Bool.false_or]
    by_cases finite : x.isFinite = true
    · rw [if_pos finite]
      cases isNegative x with
      | true =>
          rw [if_pos rfl, if_pos rfl]
          omega
      | false =>
          rw [if_neg Bool.false_ne_true, if_neg Bool.false_ne_true]
          omega
    · rw [if_neg finite]
      have large := infinite_truncated x (infinite_unpacks x (Bool.eq_false_iff.mpr notNumber) finite).2
      cases isNegative x with
      | true =>
          rw [if_pos rfl, if_pos rfl, Nat.zero_min]
          rfl
      | false =>
          rw [if_neg Bool.false_ne_true, if_neg Bool.false_ne_true]
          omega

theorem of_nat_reads (n : Nat) : Reads (ofNat n) n := by
  have natural : ¬(n : Int) < 0 := by omega
  have same : ofInt n = ofNat n := by
    rw [ofInt, ofNat, decide_eq_false natural, Int.natAbs_natCast]
  exact same ▸ of_int_reads n

end Number

namespace Value

theorem count_is_whole_part (v : Value) : v.toCount = min (Number.wholePart v.toNumber) (2 ^ 64 - 1) :=
  Number.truncated_within _ (by decide) v.toNumber

theorem count_of_natural (n : Nat) (small : n < 2 ^ 53) : (number (Number.ofNat n)).toCount = n := by
  have reads := Number.of_nat_reads n
  have finite := reads.finite small
  have top : Number.twoTo 64 = 2 ^ 64 := rfl
  rw [toCount, toNumber, Number.truncateWithin, Number.finite_number _ finite, if_neg Bool.false_ne_true, if_pos finite,
    reads.truncated small, top]
  omega

end Value

end FormulaField
