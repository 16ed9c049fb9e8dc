import FormulaField.Proofs.Calendar.Months
import FormulaField.Proofs.Function.Periods

set_option autoImplicit false

namespace FormulaField.Dates

open Calendar (Instant)

theorem moved_whole_months (i : Instant) (n : Int) (result : Instant) (moved : movedWhole? i n .months = some result) :
    i.MonthsAfter n result := by
  have unfolded : movedWhole? i n .months =
      if (n * 1).natAbs ≤ maxMonths then (i.addMonths (n * 1)).inRange? else none := rfl
  rw [unfolded, Int.mul_one, Instant.inRange?] at moved
  simp only [Option.ite_none_right_eq_some, Option.some.injEq] at moved
  obtain ⟨_, _, rfl⟩ := moved
  exact i.add_months_after n

theorem moved_whole_years (i : Instant) (n : Int) : movedWhole? i n .years = movedWhole? i (12 * n) .months := by
  have years : movedWhole? i n .years =
      if (n * 12).natAbs ≤ maxMonths then (i.addMonths (n * 12)).inRange? else none := rfl
  have months : movedWhole? i (12 * n) .months =
      if (12 * n * 1).natAbs ≤ maxMonths then (i.addMonths (12 * n * 1)).inRange? else none := rfl
  rw [years, months, Int.mul_one, Int.mul_comm]

theorem difference_months (start finish : Instant) (n : Int) (after : start.MonthsAfter n finish) :
    difference start finish .months = n := by
  have count := after.months
  have unfolded : difference start finish .months =
      (finish.date.year - start.date.year) * 12 + finish.date.month - start.date.month := rfl
  rw [unfolded]
  omega

theorem difference_years (start finish : Instant) (n : Int) (after : start.MonthsAfter (12 * n) finish) :
    difference start finish .years = n := by
  have count := after.months
  have first := start.month_bounds
  have last := finish.month_bounds
  have unfolded : difference start finish .years = finish.date.year - start.date.year := rfl
  rw [unfolded]
  omega

-- An instant that is moved by whole months or years arrives that many months later on the calendar at the same time
-- of day, unless it leaves the range, and the difference tells the number.
theorem calendar_periods_counted (date : Value) (months years : Option Value) (d : Instant)
    (instant : date.toInstant? = some d) (monthly : Period.ofArgument months = .ok .months)
    (yearly : Period.ofArgument years = .ok .years) :
    (∀ (n : Int) (amount : Value) (e : Instant), (amount.toNumber == Number.ofInt n) = true →
        dateAdd date amount months = .ok (.date e) →
          d.MonthsAfter n e ∧ dateDiff date (.date e) months = .ok (.number (Number.ofInt n))) ∧
      ∀ (n : Int) (amount twelvefold : Value), (amount.toNumber == Number.ofInt n) = true →
        (twelvefold.toNumber == Number.ofInt (12 * n)) = true →
          dateAdd date amount years = dateAdd date twelvefold months ∧
            (dateAdd date amount years = .ok .empty ∨
              ∃ e, dateAdd date amount years = .ok (.date e) ∧
                dateDiff date (.date e) years = .ok (.number (Number.ofInt n))) := by
  constructor
  · intro n amount e whole added
    have moved := added_whole d n .months date amount months instant monthly whole e added
    have after := moved_whole_months d n e moved
    exact ⟨after, date_diff_whole n .months _ _ months d e monthly instant rfl (difference_months d e n after)⟩
  · intro n amount twelvefold whole twelveWhole
    have byYears := date_add_whole d n .years date amount years instant yearly whole
    have byMonths := date_add_whole d (12 * n) .months date twelvefold months instant monthly twelveWhole
    have same : dateAdd date amount years = dateAdd date twelvefold months := by
      rw [byYears, byMonths, moved_whole_years]
    refine ⟨same, ?_⟩
    cases moved : movedWhole? d (12 * n) .months with
    | none =>
        rw [same, byMonths, moved]
        exact .inl rfl
    | some e =>
        have after := moved_whole_months d (12 * n) e moved
        rw [same, byMonths, moved]
        exact .inr ⟨e, rfl, date_diff_whole n .years _ _ years d e yearly instant rfl (difference_years d e n after)⟩

theorem last_of_january_counted :
    dateAdd (.date ⟨1706745599, 999999999⟩) (.number (Number.ofInt 1)) (some (.text "Months")) =
        .ok (.date ⟨1709251199, 999999999⟩) ∧
      Instant.MonthsAfter ⟨1706745599, 999999999⟩ 1 ⟨1709251199, 999999999⟩ ∧
      dateDiff (.date ⟨1706745599, 999999999⟩) (.date ⟨1709251199, 999999999⟩) (some (.text "Months")) =
        .ok (.number (Number.ofInt 1)) ∧
      dateAdd (.date ⟨1706745599, 999999999⟩) (.number (Number.ofInt (-72))) (some (.text "Months")) =
        .ok (.date ⟨1517443199, 999999999⟩) ∧
      dateAdd (.date ⟨1706745599, 999999999⟩) (.number (Number.ofInt (-6))) (some (.text "years")) =
        .ok (.date ⟨1517443199, 999999999⟩) ∧
      dateDiff (.date ⟨1706745599, 999999999⟩) (.date ⟨1517443199, 999999999⟩) (some (.text "years")) =
        .ok (.number (Number.ofInt (-6))) := by
  have monthly : Period.ofArgument (some (.text "Months")) = .ok .months := rfl
  have yearly : Period.ofArgument (some (.text "years")) = .ok .years := rfl
  have one : (Value.toNumber (.number (Number.ofInt 1)) == Number.ofInt 1) = true := by decide +kernel
  have six : (Value.toNumber (.number (Number.ofInt (-6))) == Number.ofInt (-6)) = true := by decide +kernel
  have twelvefold : (Value.toNumber (.number (Number.ofInt (-72))) == Number.ofInt (12 * -6)) = true := by decide +kernel
  have added : dateAdd (.date ⟨1706745599, 999999999⟩) (.number (Number.ofInt 1)) (some (.text "Months")) =
      .ok (.date ⟨1709251199, 999999999⟩) := by
    rw [date_add_whole ⟨1706745599, 999999999⟩ 1 .months _ _ _ rfl monthly one]
    rfl
  have earlier : dateAdd (.date ⟨1706745599, 999999999⟩) (.number (Number.ofInt (-72))) (some (.text "Months")) =
      .ok (.date ⟨1517443199, 999999999⟩) := by
    rw [date_add_whole ⟨1706745599, 999999999⟩ (12 * -6) .months _ _ _ rfl monthly twelvefold]
    rfl
  obtain ⟨counted, tied⟩ := calendar_periods_counted (.date ⟨1706745599, 999999999⟩) (some (.text "Months"))
    (some (.text "years")) ⟨1706745599, 999999999⟩ rfl monthly yearly
  obtain ⟨after, told⟩ := counted 1 (.number (Number.ofInt 1)) ⟨1709251199, 999999999⟩ one added
  obtain ⟨same, nothing | ⟨e, moved, toldYears⟩⟩ := tied (-6) _ _ six twelvefold
  · rw [same, earlier] at nothing
    cases nothing
  · have there := moved
    rw [same, earlier] at there
    cases there
    exact ⟨added, after, told, earlier, moved, toldYears⟩

end FormulaField.Dates
