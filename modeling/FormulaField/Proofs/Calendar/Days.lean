import FormulaField.Calendar.Date
import Mathlib

set_option autoImplicit false

namespace FormulaField.Calendar

theorem leap_year_iff (year : Int) : isLeapYear year = true ↔ year % 4 = 0 ∧ (year % 100 ≠ 0 ∨ year % 400 = 0) := by
  simp [isLeapYear]

theorem year_length (year : Int) :
    daysBeforeYear (year + 1) = daysBeforeYear year + ((monthLengths year).sum : Nat) := by
  by_cases leap : isLeapYear year = true
  · have length : (monthLengths year).sum = 366 := by simp [monthLengths, leap]
    rw [leap_year_iff] at leap
    rw [length, daysBeforeYear, daysBeforeYear]
    omega
  · have length : (monthLengths year).sum = 365 := by simp [monthLengths, leap]
    rw [leap_year_iff] at leap
    rw [length, daysBeforeYear, daysBeforeYear]
    omega

-- 146097 days are 400 years, and no year is two days off their mean.
theorem year_of_day (day : Int) : daysBeforeYear (yearOfDay day) ≤ day ∧ day < daysBeforeYear (yearOfDay day + 1) := by
  rw [yearOfDay]
  split
  next before =>
    rw [daysBeforeYear] at before
    constructor
    · rw [daysBeforeYear]
      omega
    · rw [daysBeforeYear]
      omega
  next notBefore =>
    split
    next after =>
      rw [daysBeforeYear] at after
      refine ⟨by rw [daysBeforeYear]; omega, ?_⟩
      rw [daysBeforeYear]
      omega
    next notAfter => exact ⟨by omega, by omega⟩

theorem days_before_sum (lengths : List Nat) (n : Nat) : lengths.foldl (· + ·) n = n + lengths.sum := by
  induction lengths generalizing n with
  | nil => rfl
  | cons length later ih => rw [List.foldl_cons, ih, List.sum_cons, Nat.add_assoc]

theorem month_and_day (lengths : List Nat) (month dayOfYear : Nat) (inside : dayOfYear < lengths.sum) :
    ∃ index day, monthAndDay month dayOfYear lengths = (month + index, day + 1) ∧ index < lengths.length ∧
      day < lengths.getD index 0 ∧ (lengths.take index).sum + day = dayOfYear := by
  induction lengths generalizing month dayOfYear with
  | nil => exact absurd inside (Nat.not_lt_zero _)
  | cons length later ih =>
      rw [monthAndDay]
      by_cases here : dayOfYear < length
      · rw [if_pos here]
        exact ⟨0, dayOfYear, rfl, by simp, by simpa using here, by simp⟩
      · rw [List.sum_cons] at inside
        obtain ⟨index, day, same, member, short, sum⟩ := ih (month + 1) (dayOfYear - length) (by omega)
        refine ⟨index + 1, day, ?_, by simpa using member, by simpa using short, ?_⟩
        · rw [if_neg here, same]
          simp [Nat.add_comm, Nat.add_left_comm]
        · rw [List.take_succ_cons, List.sum_cons]
          omega

theorem month_length_most (year : Int) (month : Nat) : monthLength year month ≤ 31 := by
  have all : ∀ length ∈ monthLengths year, length ≤ 31 := by
    rw [monthLengths]
    split <;> decide
  rw [monthLength]
  by_cases inside : month - 1 < (monthLengths year).length
  · rw [List.getD_eq_getElem _ _ inside]
    exact all _ (List.getElem_mem inside)
  · rw [List.getD_eq_default _ _ (Nat.le_of_not_lt inside)]
    exact Nat.zero_le _

theorem date_of_day (day : Int) : (Date.ofDayNumber day).IsValid ∧ (Date.ofDayNumber day).dayNumber = day := by
  obtain ⟨least, most⟩ := year_of_day day
  rw [year_length] at most
  obtain ⟨index, place, same, member, short, sum⟩ :=
    month_and_day (monthLengths (yearOfDay day)) 1 (day - daysBeforeYear (yearOfDay day)).toNat (by omega)
  have twelve : (monthLengths (yearOfDay day)).length = 12 := rfl
  have date : Date.ofDayNumber day = ⟨yearOfDay day, 1 + index, place + 1⟩ := by
    rw [Date.ofDayNumber, same]
  have month : 1 + index - 1 = index := by omega
  rw [date]
  refine ⟨⟨by simp, by simp only; omega, by simp, ?_⟩, ?_⟩
  · rw [monthLength]
    simp only [month]
    omega
  · rw [Date.dayNumber, daysBeforeMonth, days_before_sum]
    simp only [month]
    omega

end FormulaField.Calendar
