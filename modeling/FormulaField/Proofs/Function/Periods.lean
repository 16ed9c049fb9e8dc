import FormulaField.Function.Dates
import FormulaField.Proofs.Number.WholeNumbers

set_option autoImplicit false

namespace FormulaField.Dates

open Calendar (Instant)
open Number (Reads)

def movedWhole? (i : Instant) (n : Int) (period : Period) : Option Instant :=
  match period.length with
  | .inl size => if (n * size).natAbs ≤ maxShift then (i.shift (n * size)).inRange? else none
  | .inr size => if (n * size).natAbs ≤ maxMonths then (i.addMonths (n * size)).inRange? else none

namespace Period

theorem fixed_size (period : Period) (size : Int) (fixed : period.length = .inl size) : 0 < size ∧ size ≤ 604800000 := by
  cases period with
  | milliseconds | seconds | minutes | hours | days | weeks =>
      cases fixed
      decide
  | months | years => cases fixed

theorem calendar_size (period : Period) (size : Int) (calendar : period.length = .inr size) : 0 < size ∧ size ≤ 12 := by
  cases period with
  | milliseconds | seconds | minutes | hours | days | weeks => cases calendar
  | months | years =>
      cases calendar
      decide

end Period

theorem more_periods (n size : Int) (positive : 0 < size) : n.natAbs ≤ (n * size).natAbs := by
  rw [Int.natAbs_mul]
  exact Nat.le_mul_of_pos_right _ (Int.natAbs_pos.mpr positive.ne')

theorem shift_limit : maxShift = 1000000000000000 := rfl

theorem months_limit : maxMonths = 4294967295 := rfl

variable (i : Instant) (x : Float) (n : Int) (period : Period) (size : Int)

theorem moved_fixed (fixed : period.length = .inl size) (finite : x.isFinite = true) (reads : Reads x n) :
    moved? i x period = movedWhole? i n period := by
  obtain ⟨positive, most⟩ := period.fixed_size size fixed
  have few : size.natAbs < 2 ^ 53 := by omega
  have more := more_periods n size positive
  have limit := shift_limit
  rw [moved?, movedWhole?, fixed]
  simp only
  by_cases small : (n * size).natAbs ≤ maxShift
  · have product := reads.product size positive (by omega) few
    rw [product.rounded (by omega), if_pos ⟨product.finite (by omega), small⟩, if_pos small]
  · rw [if_neg small, if_neg]
    rintro ⟨productFinite, short⟩
    have sameSize : (Number.roundHalfAway (x * Number.ofInt size)).natAbs = Number.roundedAbs (x * Number.ofInt size) := by
      rw [Number.roundHalfAway]
      split <;> omega
    have below := Number.below_rounded (x * Number.ofInt size)
    have roundedMost : (Number.roundedAbs (x * Number.ofInt size) : ℚ) ≤ 1000000000000000 := by
      exact_mod_cast sameSize ▸ limit ▸ short
    have factor := Number.small_factor x size finite positive few productFinite (by linarith)
    have product := reads.product size positive (reads.small finite factor) few
    have whole := product.rounded (product.small productFinite (by linarith))
    rw [whole] at short
    exact small short

theorem moved_calendar (calendar : period.length = .inr size) (finite : x.isFinite = true) (reads : Reads x n) :
    moved? i x period = movedWhole? i n period := by
  obtain ⟨positive, most⟩ := period.calendar_size size calendar
  have more := more_periods n size positive
  have limit := months_limit
  rw [moved?, movedWhole?, calendar]
  simp only
  by_cases small : n.natAbs < 2 ^ 53
  · rw [reads.truncated small]
  · rw [if_neg (c := (n * size).natAbs ≤ maxMonths) (by omega), if_neg]
    intro short
    have less := more_periods (Number.truncate x) size positive
    have sameSize : (Number.truncate x).natAbs = Number.truncatedAbs x := by
      rw [Number.truncate]
      split <;> omega
    have below := Number.below_truncated x
    have truncatedMost : (Number.truncatedAbs x : ℚ) ≤ 4294967295 := by
      have natural : Number.truncatedAbs x ≤ 4294967295 := by omega
      exact_mod_cast natural
    exact small (reads.small finite (by linarith))

-- There is no double for so many periods, and no instant either.
theorem moved_far (infinite : (Number.ofInt n).isFinite ≠ true) : movedWhole? i n period = none := by
  have large : ¬n.natAbs < 2 ^ 53 := fun small => infinite ((Number.of_int_reads n).finite small)
  rw [movedWhole?]
  cases length : period.length with
  | inl size =>
      have more := more_periods n size (period.fixed_size size length).1
      have limit := shift_limit
      exact if_neg (by omega)
  | inr size =>
      have more := more_periods n size (period.calendar_size size length).1
      have limit := months_limit
      exact if_neg (by omega)

theorem date_add_whole (date amount : Value) (unit : Option Value) (instant : date.toInstant? = some i)
    (named : Period.ofArgument unit = .ok period) (whole : (amount.toNumber == Number.ofInt n) = true) :
    dateAdd date amount unit = .ok (match movedWhole? i n period with
      | some result => .date result
      | none => .empty) := by
  have unfolded : dateAdd date amount unit = if amount.toNumber.isFinite then
      match moved? i amount.toNumber period with
      | some result => .ok (.date result)
      | none => .ok .empty
    else .ok .empty := by
      rw [dateAdd, named, instant]
      rfl
  rw [unfolded]
  by_cases finite : amount.toNumber.isFinite = true
  · have reads := Number.equal_reads _ n finite whole
    have moved : moved? i amount.toNumber period = movedWhole? i n period := by
      cases length : period.length with
      | inl size => exact moved_fixed i _ n period size length finite reads
      | inr size => exact moved_calendar i _ n period size length finite reads
    rw [if_pos finite, moved]
    cases movedWhole? i n period <;> rfl
  · have infinite := finite
    rw [Number.equal_finite _ _ whole] at infinite
    rw [if_neg finite, moved_far i n period infinite]

theorem added_whole (date amount : Value) (unit : Option Value) (instant : date.toInstant? = some i)
    (named : Period.ofArgument unit = .ok period) (whole : (amount.toNumber == Number.ofInt n) = true) (result : Instant)
    (added : dateAdd date amount unit = .ok (.date result)) : movedWhole? i n period = some result := by
  rw [date_add_whole i n period date amount unit instant named whole] at added
  cases moved : movedWhole? i n period with
  | none =>
      rw [moved] at added
      cases added
  | some other =>
      rw [moved] at added
      cases added
      rfl

theorem date_diff_whole (start finish : Value) (unit : Option Value) (first last : Instant)
    (named : Period.ofArgument unit = .ok period) (starts : start.toInstant? = some first)
    (finishes : finish.toInstant? = some last) (apart : difference first last period = n) :
    dateDiff start finish unit = .ok (.number (Number.ofInt n)) := by
  rw [dateDiff, named, starts, finishes, ← apart]
  rfl

end FormulaField.Dates
