import FormulaField.Formula.Evaluation
import FormulaField.Proofs.Calendar.Range
import FormulaField.Proofs.Function.FixedPeriods
import FormulaField.Proofs.Number.Order
import FormulaField.Proofs.Number.WholeNumbers

set_option autoImplicit false

namespace FormulaField.Number

theorem larger_value (x y : Float) (less : magnitude x < magnitude y) : absolute x < absolute y := by
  obtain ⟨bits, least, short, full⟩ := parts_of_magnitude x
  obtain ⟨otherBits, otherLeast, otherShort, otherFull⟩ := parts_of_magnitude y
  have scale := two_power_positive (parts x).exponent
  have larger := two_power_positive (parts y).exponent
  rw [absolute, absolute]
  rcases lt_trichotomy (parts x).exponent (parts y).exponent with before | same | after
  · have next : (2 : ℚ) ^ ((parts x).exponent + 1) ≤ 2 ^ (parts y).exponent :=
      zpow_le_zpow_right₀ one_le_two before
    have below : ((parts x).significand : ℚ) < 2 ^ 53 := by exact_mod_cast short
    have enough : (2 ^ 52 : ℚ) ≤ (parts y).significand := by exact_mod_cast (by omega : 2 ^ 52 ≤ (parts y).significand)
    rw [zpow_add_one₀ two_nonzero] at next
    calc ((parts x).significand : ℚ) * 2 ^ (parts x).exponent
        < 2 ^ 53 * 2 ^ (parts x).exponent := mul_lt_mul_of_pos_right below scale
      _ = 2 ^ 52 * (2 ^ (parts x).exponent * 2) := by ring
      _ ≤ 2 ^ 52 * 2 ^ (parts y).exponent := mul_le_mul_of_nonneg_left next (by norm_num)
      _ ≤ (parts y).significand * 2 ^ (parts y).exponent := mul_le_mul_of_nonneg_right enough larger.le
  · have fewer : ((parts x).significand : ℚ) < (parts y).significand := by
      exact_mod_cast (by rw [same] at bits; omega : (parts x).significand < (parts y).significand)
    rw [same]
    exact mul_lt_mul_of_pos_right fewer larger
  · omega

theorem magnitudes_ordered (x y : Float) : magnitude x < magnitude y ↔ absolute x < absolute y := by
  refine ⟨larger_value x y, fun less => ?_⟩
  by_contra notLess
  rcases Nat.lt_or_eq_of_le (Nat.le_of_not_lt notLess) with more | same
  · exact absurd (larger_value y x more) (not_lt_of_ge less.le)
  · exact absurd (same_value x y same.symm) less.ne

namespace Reads

variable {x y : Float} {a b : Int} (first : Reads x a) (second : Reads y b)

include first

theorem rank_of_whole : rank x = if a < 0 then -(magnitude x : Int) else magnitude x := by
  rw [rank]
  rcases first.sign with none | sign
  · have zero : magnitude x = 0 := by rw [first.size, none]; rfl
    rw [zero, none]
    split <;> rfl
  · rw [sign]
    by_cases below : a < 0
    · rw [decide_eq_true below, if_pos rfl, if_pos below]
    · rw [decide_eq_false below, if_neg Bool.false_ne_true, if_neg below]

include second

theorem ranks_ordered (small : a.natAbs < 2 ^ 53) (otherSmall : b.natAbs < 2 ^ 53) : rank x < rank y ↔ a < b := by
  have order : magnitude x < magnitude y ↔ a.natAbs < b.natAbs := by
    rw [magnitudes_ordered, first.exact small, second.exact otherSmall, Nat.cast_lt]
  have reverse : magnitude y < magnitude x ↔ b.natAbs < a.natAbs := by
    rw [magnitudes_ordered, first.exact small, second.exact otherSmall, Nat.cast_lt]
  have zero : magnitude x = 0 ↔ a = 0 := by
    rw [← absolute_zero, first.exact small, Nat.cast_eq_zero, Int.natAbs_eq_zero]
  rw [first.rank_of_whole, second.rank_of_whole]
  split
  · split <;> omega
  · split <;> omega

theorem less_iff (small : a.natAbs < 2 ^ 53) (otherSmall : b.natAbs < 2 ^ 53) : x < y ↔ a < b := by
  have numbers := And.intro (finite_number x (first.finite small)) (finite_number y (second.finite otherSmall))
  rw [lt_iff, and_iff_right numbers, first.ranks_ordered second small otherSmall]

theorem at_most_iff (small : a.natAbs < 2 ^ 53) (otherSmall : b.natAbs < 2 ^ 53) : x ≤ y ↔ a ≤ b := by
  have numbers := And.intro (finite_number x (first.finite small)) (finite_number y (second.finite otherSmall))
  rw [le_iff, and_iff_right numbers, ← not_lt, second.ranks_ordered first otherSmall small, not_lt]

end Reads

end FormulaField.Number

namespace FormulaField.Calendar.Instant

def truncated (i : Instant) : Instant := ⟨i.seconds, i.nanos / 1000000 * 1000000⟩

theorem truncated_is_floor (i : Instant) : i.truncated.nanoseconds = i.nanoseconds / 1000000 * 1000000 := by
  rw [nanoseconds, nanoseconds, truncated, nanosPerSecond]
  simp only
  omega

theorem truncated_nanoseconds (i : Instant) : i.truncated.nanoseconds = i.milliseconds * 1000000 := by
  rw [nanoseconds, truncated, milliseconds, nanosPerSecond]
  simp only
  omega

variable (i : Instant) (ordinary : ¬i.IsLeapSecond)

include ordinary

theorem of_own_milliseconds : ofMilliseconds i.milliseconds = i.truncated := by
  rw [IsLeapSecond, nanosPerSecond] at ordinary
  have seconds : i.milliseconds / 1000 = i.seconds := by
    rw [milliseconds]
    omega
  have rest : (i.milliseconds % 1000).toNat = i.nanos / 1000000 := by
    rw [milliseconds]
    omega
  rw [ofMilliseconds, seconds, rest, truncated]

theorem milliseconds_exact (representable : i.Representable) : i.milliseconds.natAbs < 2 ^ 53 := by
  obtain ⟨least, most⟩ := representable.inRange
  rw [first_day, dayNumber, secondsPerDay] at least
  rw [last_day, dayNumber, secondsPerDay] at most
  rw [IsLeapSecond, nanosPerSecond] at ordinary
  rw [milliseconds]
  omega

end FormulaField.Calendar.Instant

namespace FormulaField

open Calendar (Instant)

variable (a b : Instant) (first : a.Representable) (firstOrdinary : ¬a.IsLeapSecond)

include first firstOrdinary

theorem number_of_instant_read : (Value.number (Value.date a).toNumber).toInstant? = some a.truncated := by
  have small := a.milliseconds_exact firstOrdinary first
  have reads := Number.of_int_reads a.milliseconds
  have finite := reads.finite small
  have kept : Number.truncateWithin Value.leastMilliseconds Value.greatestMilliseconds
      (Number.ofInt a.milliseconds) = a.milliseconds := by
    have top : (Number.twoTo 63 : Int) = 2 ^ 63 := rfl
    rw [Number.truncateWithin, Number.finite_number _ finite, if_neg Bool.false_ne_true, if_pos finite,
      reads.truncated small, Value.leastMilliseconds, Value.greatestMilliseconds, top]
    omega
  have inRange : a.truncated.InRange := first.inRange
  rw [Value.toNumber, Value.toInstant?, if_pos finite, kept, a.of_own_milliseconds firstOrdinary, Instant.inRange?,
    if_pos inRange]

variable (second : b.Representable) (secondOrdinary : ¬b.IsLeapSecond)

include second secondOrdinary

theorem order_of_instants :
    ((Value.date a).toNumber < (Value.date b).toNumber ↔ a.truncated.nanoseconds < b.truncated.nanoseconds) ∧
      ((Value.date a).toNumber ≤ (Value.date b).toNumber ↔ a.truncated.nanoseconds ≤ b.truncated.nanoseconds) := by
  have small := a.milliseconds_exact firstOrdinary first
  have otherSmall := b.milliseconds_exact secondOrdinary second
  have reads := Number.of_int_reads a.milliseconds
  have otherReads := Number.of_int_reads b.milliseconds
  rw [Instant.truncated_nanoseconds, Instant.truncated_nanoseconds, Value.toNumber, Value.toNumber,
    reads.less_iff otherReads small otherSmall, reads.at_most_iff otherReads small otherSmall]
  constructor
  · omega
  · omega

-- The number of an instant names the instant cut to the millisecond before it, and formulas whose values are instants
-- are compared as the instants so cut.
theorem instants_as_numbers :
    (Value.number (Value.date a).toNumber).toInstant? = some a.truncated ∧
      a.truncated.nanoseconds = a.nanoseconds / 1000000 * 1000000 ∧
      ∀ context f g, evaluate context f = .ok (.date a) → evaluate context g = .ok (.date b) →
        evaluate context (.binary .less f g) =
            .ok (.boolean (a.truncated.nanoseconds < b.truncated.nanoseconds)) ∧
          evaluate context (.binary .lessEqual f g) =
            .ok (.boolean (a.truncated.nanoseconds ≤ b.truncated.nanoseconds)) ∧
          evaluate context (.binary .greater f g) =
            .ok (.boolean (b.truncated.nanoseconds < a.truncated.nanoseconds)) ∧
          evaluate context (.binary .greaterEqual f g) =
            .ok (.boolean (b.truncated.nanoseconds ≤ a.truncated.nanoseconds)) := by
  refine ⟨number_of_instant_read a first firstOrdinary, a.truncated_is_floor, ?_⟩
  intro context f g left right
  obtain ⟨less, atMost⟩ := order_of_instants a b first firstOrdinary second secondOrdinary
  obtain ⟨greater, atLeast⟩ := order_of_instants b a second secondOrdinary first firstOrdinary
  have operands (op : BinaryOperator) : evaluate context (.binary op f g) = op.apply (.date a) (.date b) := by
    rw [evaluate, left, right]
    rfl
  simp only [operands, BinaryOperator.apply, less, atMost, greater, atLeast, and_self]

omit first firstOrdinary second secondOrdinary

theorem last_nanosecond_as_number :
    (Value.number (Value.date ⟨-1, 999999999⟩).toNumber).toInstant? = some ⟨-1, 999000000⟩ ∧
      evaluate ⟨∅, none, {}, ⟨0, 0⟩⟩ (.binary .less (.literal (.date ⟨-1, 999999999⟩)) (.literal (.date ⟨0, 0⟩))) =
        .ok (.boolean true) ∧
      evaluate ⟨∅, none, {}, ⟨0, 0⟩⟩ (.binary .less (.literal (.date ⟨-1, 999000000⟩)) (.literal (.date ⟨-1, 999999999⟩))) =
        .ok (.boolean false) := by
  have last : Instant.Representable ⟨-1, 999999999⟩ := ⟨by decide, by decide⟩
  have start : Instant.Representable ⟨-1, 999000000⟩ := ⟨by decide, by decide⟩
  have epoch : Instant.Representable ⟨0, 0⟩ := ⟨by decide, by decide⟩
  obtain ⟨read, _, compared⟩ := instants_as_numbers ⟨-1, 999999999⟩ ⟨0, 0⟩ last (by decide) epoch (by decide)
  obtain ⟨_, _, together⟩ := instants_as_numbers ⟨-1, 999000000⟩ ⟨-1, 999999999⟩ start (by decide) last (by decide)
  exact ⟨read, (compared _ _ _ rfl rfl).1, (together _ _ _ rfl rfl).1⟩

end FormulaField
