import FormulaField.Proofs.Calendar.Range
import FormulaField.Proofs.Function.Periods

set_option autoImplicit false

namespace FormulaField.Calendar.Instant

def nanoseconds (i : Instant) : Int := i.seconds * nanosPerSecond + i.nanos

theorem normal_form (seconds nanos : Int) :
    (shift.normal seconds nanos).nanoseconds = seconds * nanosPerSecond + nanos ∧
      ¬(shift.normal seconds nanos).IsLeapSecond := by
  rw [nanoseconds, IsLeapSecond, shift.normal, nanosPerSecond]
  simp only
  omega

theorem shift_form (i : Instant) (ms : Int) (outside : ¬i.IsLeapSecond) :
    (i.shift ms).nanoseconds = i.nanoseconds + ms * 1000000 ∧ ¬(i.shift ms).IsLeapSecond := by
  have split := Int.mul_tdiv_add_tmod ms 1000
  have below : ¬(nanosPerSecond : Int) ≤ i.nanos := fun leap => outside (Int.ofNat_le.mp leap)
  obtain ⟨total, normal⟩ := normal_form (i.seconds + ms.tdiv 1000) (i.nanos + ms.tmod 1000 * 1000000)
  rw [shift, if_neg below]
  refine ⟨?_, normal⟩
  rw [total, nanoseconds, nanosPerSecond]
  omega

theorem nanoseconds_injective (i j : Instant) (outside : ¬i.IsLeapSecond) (otherOutside : ¬j.IsLeapSecond)
    (same : i.nanoseconds = j.nanoseconds) : i = j := by
  obtain ⟨seconds, nanos⟩ := i
  obtain ⟨otherSeconds, otherNanos⟩ := j
  rw [IsLeapSecond, nanosPerSecond] at outside otherOutside
  rw [nanoseconds, nanoseconds, nanosPerSecond] at same
  simp only at outside otherOutside same
  rw [mk.injEq]
  omega

theorem shift_back (i : Instant) (ms : Int) (outside : ¬i.IsLeapSecond) : (i.shift ms).shift (-ms) = i := by
  obtain ⟨there, thereOutside⟩ := i.shift_form ms outside
  obtain ⟨back, backOutside⟩ := (i.shift ms).shift_form (-ms) thereOutside
  refine nanoseconds_injective _ _ backOutside outside ?_
  rw [back, there]
  omega

theorem shift_milliseconds (i : Instant) (ms : Int) (outside : ¬i.IsLeapSecond) :
    (i.shift ms).milliseconds = i.milliseconds + ms := by
  obtain ⟨there, thereOutside⟩ := i.shift_form ms outside
  rw [nanoseconds, nanoseconds, nanosPerSecond] at there
  rw [milliseconds, milliseconds]
  omega

end FormulaField.Calendar.Instant

namespace FormulaField.Dates

open Calendar (Instant)

theorem difference_fixed (start finish : Instant) (period : Period) (size n : Int) (fixed : period.length = .inl size)
    (apart : finish.milliseconds - start.milliseconds = n * size) : difference start finish period = n := by
  have positive := (period.fixed_size size fixed).1
  rw [difference, fixed]
  simp only
  rw [apart, Int.mul_tdiv_cancel n positive.ne']

theorem moved_whole_fixed (i result : Instant) (n : Int) (period : Period) (size : Int) (fixed : period.length = .inl size) :
    movedWhole? i n period = some result ↔
      (n * size).natAbs ≤ maxShift ∧ (i.shift (n * size)).InRange ∧ i.shift (n * size) = result := by
  rw [movedWhole?, fixed]
  simp only [Instant.inRange?, Option.ite_none_right_eq_some, Option.some.injEq]

-- A whole number of periods of one length is undone by the opposite number, and the difference tells the number,
-- whatever the fraction of a millisecond and on both sides of 1970.
theorem fixed_periods_undone (date amount opposite : Value) (unit : Option Value) (period : Period) (size n : Int)
    (d e : Instant) (named : Period.ofArgument unit = .ok period) (fixed : period.length = .inl size)
    (instant : date.toInstant? = some d) (inside : d.InRange) (outside : ¬d.IsLeapSecond)
    (whole : (amount.toNumber == Number.ofInt n) = true) (back : (opposite.toNumber == Number.ofInt (-n)) = true)
    (moved : dateAdd date amount unit = .ok (.date e)) :
    dateDiff date (.date e) unit = .ok (.number (Number.ofInt n)) ∧
      dateDiff (.date e) date unit = .ok (.number (Number.ofInt (-n))) ∧
        dateAdd (.date e) opposite unit = .ok (.date d) := by
  have reached := added_whole d n period date amount unit instant named whole e moved
  obtain ⟨short, _, rfl⟩ := (moved_whole_fixed d e n period size fixed).mp reached
  have later := d.shift_milliseconds (n * size) outside
  have opposed : -n * size = -(n * size) := Int.neg_mul n size
  refine ⟨?_, ?_, ?_⟩
  · refine date_diff_whole n period _ _ unit d _ named instant rfl ?_
    exact difference_fixed _ _ period size n fixed (by omega)
  · refine date_diff_whole (-n) period _ _ unit _ d named rfl instant ?_
    exact difference_fixed _ _ period size (-n) fixed (by omega)
  · have returned : movedWhole? (d.shift (n * size)) (-n) period = some d := by
      rw [moved_whole_fixed _ _ _ period size fixed, opposed, d.shift_back _ outside]
      exact ⟨by omega, inside, rfl⟩
    rw [date_add_whole _ (-n) period _ opposite unit rfl named back, returned]

theorem hours_undone :
    dateDiff (.date ⟨-1, 123456789⟩) (.date ⟨129599, 123456789⟩) (some (.text "hours")) = .ok (.number (Number.ofInt 36)) ∧
      dateDiff (.date ⟨129599, 123456789⟩) (.date ⟨-1, 123456789⟩) (some (.text "hours")) =
          .ok (.number (Number.ofInt (-36))) ∧
        dateAdd (.date ⟨129599, 123456789⟩) (.number (Number.ofInt (-36))) (some (.text "hours")) =
          .ok (.date ⟨-1, 123456789⟩) := by
  have named : Period.ofArgument (some (.text "hours")) = .ok .hours := rfl
  have whole : (Value.toNumber (.number (Number.ofInt 36)) == Number.ofInt 36) = true := by decide +kernel
  have back : (Value.toNumber (.number (Number.ofInt (-36))) == Number.ofInt (-36)) = true := by decide +kernel
  have moved : dateAdd (.date ⟨-1, 123456789⟩) (.number (Number.ofInt 36)) (some (.text "hours")) =
      .ok (.date ⟨129599, 123456789⟩) := by
    rw [date_add_whole ⟨-1, 123456789⟩ 36 .hours _ _ _ rfl named whole]
    rfl
  exact fixed_periods_undone (.date ⟨-1, 123456789⟩) (.number (Number.ofInt 36)) (.number (Number.ofInt (-36))) _ .hours
    3600000 36 ⟨-1, 123456789⟩ ⟨129599, 123456789⟩ named rfl rfl (by decide) (by decide) whole back moved

end FormulaField.Dates
