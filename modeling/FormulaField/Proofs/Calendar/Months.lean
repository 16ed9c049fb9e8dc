import FormulaField.Proofs.Calendar.Range

set_option autoImplicit false

namespace FormulaField.Calendar

theorem year_of_its_day (date : Date) (valid : date.IsValid) : yearOfDay date.dayNumber = date.year := by
  obtain ⟨after, before⟩ := day_within_year date valid
  obtain ⟨least, most⟩ := year_of_day date.dayNumber
  rcases Int.lt_trichotomy (yearOfDay date.dayNumber) date.year with early | same | late
  · have monotone := days_before_monotone (yearOfDay date.dayNumber + 1) date.year early
    omega
  · exact same
  · have monotone := days_before_monotone (date.year + 1) (yearOfDay date.dayNumber) late
    omega

theorem month_and_day_of (lengths : List Nat) (month index day : Nat) (inside : index < lengths.length)
    (short : day < lengths.getD index 0) :
    monthAndDay month ((lengths.take index).sum + day) lengths = (month + index, day + 1) := by
  induction lengths generalizing month index with
  | nil => exact absurd inside (Nat.not_lt_zero _)
  | cons length later ih =>
      rw [monthAndDay]
      cases index with
      | zero =>
          rw [List.getD_cons_zero] at short
          rw [List.take_zero, List.sum_nil, Nat.zero_add, if_pos short]
          rfl
      | succ index =>
          rw [List.getD_cons_succ] at short
          rw [List.take_succ_cons, List.sum_cons, if_neg (by omega), Nat.add_assoc, Nat.add_sub_cancel_left,
            ih (month + 1) index (Nat.lt_of_succ_lt_succ inside) short, Nat.add_assoc, Nat.add_comm 1]

theorem date_of_its_day (date : Date) (valid : date.IsValid) : Date.ofDayNumber date.dayNumber = date := by
  obtain ⟨january, december, first, last⟩ := valid
  have place : (date.dayNumber - daysBeforeYear date.year).toNat =
      ((monthLengths date.year).take (date.month - 1)).sum + (date.day - 1) := by
    rw [Date.dayNumber, daysBeforeMonth, days_before_sum]
    omega
  have twelve : (monthLengths date.year).length = 12 := rfl
  rw [monthLength] at last
  rw [Date.ofDayNumber, year_of_its_day date ⟨january, december, first, last⟩, place,
    month_and_day_of _ _ _ _ (by omega) (by omega), Nat.add_sub_cancel' january, Nat.sub_add_cancel first]

theorem month_length_least (year : Int) (month : Nat) (january : 1 ≤ month) (december : month ≤ 12) :
    28 ≤ monthLength year month := by
  have all : ∀ length ∈ monthLengths year, 28 ≤ length := by
    rw [monthLengths]
    split <;> decide
  have twelve : (monthLengths year).length = 12 := rfl
  rw [monthLength, List.getD_eq_getElem _ _ (by omega)]
  exact all _ (List.getElem_mem _)

namespace Date

theorem add_months_valid (date : Date) (valid : date.IsValid) (months : Int) : (date.addMonths months).IsValid := by
  obtain ⟨_, _, first, _⟩ := valid
  have month : ((date.year * 12 + date.month - 1 + months) % 12).toNat + 1 ≤ 12 := by omega
  have least := month_length_least ((date.year * 12 + date.month - 1 + months) / 12) _ (Nat.le_add_left 1 _) month
  rw [addMonths]
  exact ⟨Nat.le_add_left 1 _, month, Nat.le_min.mpr ⟨first, by omega⟩, Nat.min_le_right _ _⟩

theorem add_months_count (date : Date) (months : Int) :
    12 * (date.addMonths months).year + (date.addMonths months).month = 12 * date.year + date.month + months := by
  rw [addMonths]
  simp only
  omega

end Date

namespace Instant

theorem date_of_date_time (date : Date) (valid : date.IsValid) (secondOfDay nanos : Nat) (within : secondOfDay < 86400) :
    (ofDateTime date secondOfDay nanos).date = date ∧ (ofDateTime date secondOfDay nanos).secondOfDay = secondOfDay := by
  have day : (ofDateTime date secondOfDay nanos).dayNumber = date.dayNumber := by
    rw [dayNumber, ofDateTime, secondsPerDay]
    simp only
    omega
  constructor
  · rw [Instant.date, day, date_of_its_day date valid]
  · rw [Instant.secondOfDay, ofDateTime, secondsPerDay]
    simp only
    omega

-- One instant is another moved by months: the time of day stays, and the day is the last of the month where the month
-- has none with that number.
structure MonthsAfter (start : Instant) (months : Int) (finish : Instant) : Prop where
  secondOfDay : finish.secondOfDay = start.secondOfDay
  nanos : finish.nanos = start.nanos
  months : 12 * finish.date.year + finish.date.month = 12 * start.date.year + start.date.month + months
  day : finish.date.day = min start.date.day (monthLength finish.date.year finish.date.month)

theorem add_months_after (i : Instant) (months : Int) : i.MonthsAfter months (i.addMonths months) := by
  have valid := i.date.add_months_valid (date_of_day i.dayNumber).1 months
  have within : i.secondOfDay < 86400 := by
    rw [secondOfDay, secondsPerDay]
    omega
  obtain ⟨date, time⟩ := date_of_date_time _ valid i.secondOfDay i.nanos within
  rw [addMonths]
  refine ⟨time, rfl, ?_, ?_⟩
  · rw [date]
    exact i.date.add_months_count months
  · rw [date]
    rfl

theorem month_bounds (i : Instant) : 1 ≤ i.date.month ∧ i.date.month ≤ 12 :=
  ⟨(date_of_day i.dayNumber).1.1, (date_of_day i.dayNumber).1.2.1⟩

end Instant

end FormulaField.Calendar
