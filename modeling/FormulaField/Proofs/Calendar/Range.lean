import FormulaField.Proofs.Calendar.Proper

set_option autoImplicit false

namespace FormulaField.Calendar

open Reader

theorem days_before_monotone (year later : Int) (order : year ≤ later) : daysBeforeYear year ≤ daysBeforeYear later := by
  rw [daysBeforeYear, daysBeforeYear]
  omega

theorem month_within_year (lengths : List Nat) (index : Nat) :
    (lengths.take index).sum + lengths.getD index 0 ≤ lengths.sum := by
  induction lengths generalizing index with
  | nil => simp
  | cons length later ih =>
      cases index with
      | zero => simp
      | succ index =>
          rw [List.take_succ_cons, List.sum_cons, List.getD_cons_succ, List.sum_cons, Nat.add_assoc]
          exact Nat.add_le_add_left (ih index) length

theorem day_within_year (date : Date) (valid : date.IsValid) :
    daysBeforeYear date.year ≤ date.dayNumber ∧ date.dayNumber < daysBeforeYear (date.year + 1) := by
  obtain ⟨_, _, first, last⟩ := valid
  have within := month_within_year (monthLengths date.year) (date.month - 1)
  rw [monthLength] at last
  rw [year_length, Date.dayNumber, daysBeforeMonth, days_before_sum]
  omega

theorem day_in_range (date : Date) (valid : date.IsValid) (least : firstYear ≤ date.year) (most : date.year ≤ lastYear) :
    daysBeforeYear firstYear ≤ date.dayNumber ∧ date.dayNumber < daysBeforeYear (lastYear + 1) := by
  obtain ⟨after, before⟩ := day_within_year date valid
  exact ⟨(days_before_monotone _ _ least).trans after,
    before.trans_le (days_before_monotone _ _ (Int.add_le_add_right most 1))⟩

theorem first_day : daysBeforeYear firstYear = -96465292 := rfl

theorem last_day : daysBeforeYear (lastYear + 1) = 95026237 := rfl

namespace Instant

-- Within the years in range, and not past the leap second that may follow a second.
structure Representable (i : Instant) : Prop where
  inRange : i.InRange
  bounded : i.nanos < 2 * nanosPerSecond

def greatestSpan : Nat := Number.tenTo 16

theorem milliseconds_span (i : Instant) (representable : i.Representable) : i.milliseconds.natAbs ≤ greatestSpan := by
  obtain ⟨⟨least, most⟩, bounded⟩ := representable
  rw [first_day, dayNumber, secondsPerDay] at least
  rw [last_day, dayNumber, secondsPerDay] at most
  rw [nanosPerSecond] at bounded
  have span : greatestSpan = 10000000000000000 := rfl
  rw [milliseconds, span]
  omega

theorem year_range (i : Instant) (representable : i.Representable) :
    firstYear ≤ i.date.year ∧ i.date.year ≤ lastYear := by
  obtain ⟨least, most⟩ := representable.inRange
  obtain ⟨after, before⟩ := year_of_day i.dayNumber
  have year : i.date.year = yearOfDay i.dayNumber := rfl
  rw [year]
  constructor
  · by_contra early
    have monotone := days_before_monotone (yearOfDay i.dayNumber + 1) firstYear (by omega)
    omega
  · by_contra late
    have monotone := days_before_monotone (lastYear + 1) (yearOfDay i.dayNumber) (by omega)
    omega

theorem in_range_representable (i : Instant) (bounded : i.nanos < 2 * nanosPerSecond) (result : Instant)
    (kept : i.inRange? = some result) : result.Representable := by
  rw [inRange?] at kept
  split at kept
  next inside =>
    cases kept
    exact ⟨inside, bounded⟩
  next => cases kept

theorem of_milliseconds_bounded (ms : Int) : (ofMilliseconds ms).nanos < 2 * nanosPerSecond := by
  rw [ofMilliseconds, nanosPerSecond]
  simp only
  omega

theorem normal_bounded (seconds nanos : Int) : (shift.normal seconds nanos).nanos < 2 * nanosPerSecond := by
  rw [shift.normal, nanosPerSecond]
  simp only
  omega

theorem shift_bounded (i : Instant) (ms : Int) (bounded : i.nanos < 2 * nanosPerSecond) :
    (i.shift ms).nanos < 2 * nanosPerSecond := by
  rw [shift]
  split
  · split
    · exact normal_bounded _ _
    · split
      · exact normal_bounded _ _
      · rw [nanosPerSecond] at *
        simp only
        omega
  · exact normal_bounded _ _

theorem midnight_representable (i : Instant) (representable : i.Representable) : i.midnight.Representable := by
  have sameDay : i.midnight.dayNumber = i.dayNumber := by
    rw [midnight, dayNumber, secondsPerDay]
    simp only
    omega
  refine ⟨?_, Nat.mul_pos (by decide) (by decide)⟩
  rw [InRange, sameDay]
  exact representable.inRange

end Instant

theorem instant_of_in_range (date : Date) (hour minute second nanos : Nat) (hours : hour ≤ 23) (minutes : minute ≤ 59)
    (seconds : second ≤ 60) (i : Instant) (made : instantOf date hour minute second nanos = some i) : i.InRange := by
  rw [instantOf] at made
  split at made
  next inside =>
    obtain ⟨valid, least, most⟩ := inside
    obtain ⟨after, before⟩ := day_in_range date valid least most
    cases made
    rw [Instant.InRange, Instant.dayNumber, Instant.ofDateTime, Instant.secondsPerDay]
    by_cases sixty : second = 60
    · simp only [sixty, if_true]
      omega
    · simp only [sixty, if_false]
      omega
  next => cases made

theorem gives_within (low high : Nat) (reader : Reader Nat) : Gives (within low high reader) fun n => low ≤ n ∧ n ≤ high := by
  refine gives_after _ _ _ fun n => ?_
  intro cs a rest read
  split at read
  next inside =>
    cases read
    exact inside
  next => cases read

theorem gives_short (low high : Nat) : Gives (shortNumber low high) fun n => low ≤ n ∧ n ≤ high :=
  gives_after _ _ _ fun _ => gives_within low high _

theorem gives_hour_and_minute : Gives hourAndMinute fun time => time.1 ≤ 23 ∧ time.2 ≤ 59 := by
  refine gives_bind _ _ _ _ (gives_short 0 23) fun hour hours => gives_after _ _ _ fun _ => ?_
  refine gives_bind _ _ _ _ (gives_short 0 59) fun minute minutes => ?_
  intro cs time rest read
  cases read
  exact ⟨hours.2, minutes.2⟩

theorem gives_date_only_in_range : Gives dateOnly Instant.InRange :=
  gives_after _ _ _ fun _ => gives_lift _ _ (instant_of_in_range _ _ _ _ _ (by decide) (by decide) (by decide))

theorem gives_date_and_minute_in_range (separator : Reader Unit) : Gives (dateAndMinute separator) Instant.InRange := by
  refine gives_after _ _ _ fun date => gives_after _ _ _ fun _ => ?_
  refine gives_bind _ _ _ _ gives_hour_and_minute fun time inside => ?_
  exact gives_lift _ _ (instant_of_in_range _ _ _ _ _ inside.1 inside.2 (by decide))

theorem gives_date_and_second_in_range (separator : Reader Unit) : Gives (dateAndSecond separator) Instant.InRange := by
  refine gives_after _ _ _ fun date => gives_after _ _ _ fun _ => ?_
  refine gives_bind _ _ _ _ gives_hour_and_minute fun time inside => gives_after _ _ _ fun _ => ?_
  refine gives_bind _ _ _ _ (gives_short 0 60) fun second seconds => gives_after _ _ _ fun nanos => ?_
  exact gives_lift _ _ (instant_of_in_range _ _ _ _ _ inside.1 inside.2 seconds.2)

theorem gives_number (least most : Nat) : Gives (number least most) fun n => n < 10 ^ most := by
  intro cs n rest read
  rw [number] at read
  split at read
  · cases read
  · cases read
    have digits := all_of_take_while Number.isDigit (cs.take most)
    have bound := natural_bound _ 0 digits
    rw [Nat.zero_add, Nat.one_mul] at bound
    have short : ((cs.take most).takeWhile Number.isDigit).length ≤ most :=
      (List.takeWhile_sublist _).length_le.trans (List.length_take_le _ _)
    exact bound.trans_le (Nat.pow_le_pow_right (by decide) short)

theorem gives_offset_span : Gives offset fun east => east.natAbs < 86400 := by
  have span : Gives offset.hoursAndMinutes fun east => east.natAbs < 86400 := by
    refine gives_bind _ _ _ _ (gives_within 0 23 _) fun hours atMost => gives_after _ _ _ fun _ => ?_
    refine gives_bind _ _ _ _ (gives_within 0 59 _) fun minutes atMost => ?_
    intro cs east rest read
    cases read
    omega
  intro cs east rest read
  have west : ∀ more, (offset.hoursAndMinutes more).map (fun r => (-r.1, r.2)) = some (east, rest) →
      east.natAbs < 86400 := by
    intro more found
    obtain ⟨⟨own, _⟩, inner, both⟩ := Option.map_eq_some_iff.mp found
    have short := span _ _ _ inner
    cases both
    omega
  unfold offset at read
  split at read
  · cases read
    decide
  · cases read
    decide
  · exact span _ _ _ read
  · exact west _ read
  · exact west _ read
  · cases read

-- A year of four digits is so far from the ends of the range that no offset from UTC leads out of it.
theorem offset_in_range (year month day hour minute second nanos : Nat) (four : year < 10 ^ 4) (hours : hour ≤ 23)
    (minutes : minute ≤ 59) (seconds : second ≤ 60) (east : Int) (span : east.natAbs < 86400) (i : Instant)
    (made : instantOf ⟨year, month, day⟩ hour minute second nanos = some i) :
    Instant.InRange { i with seconds := i.seconds - east } := by
  rw [instantOf] at made
  split at made
  next inside =>
    obtain ⟨after, before⟩ := day_within_year _ inside.1
    have late : daysBeforeYear 0 ≤ daysBeforeYear year := days_before_monotone _ _ (by omega)
    have early : daysBeforeYear (year + 1) ≤ daysBeforeYear 10000 := days_before_monotone _ _ (by omega)
    have first : daysBeforeYear 0 = -719528 := rfl
    have last : daysBeforeYear 10000 = 2932897 := rfl
    cases made
    rw [Instant.InRange, Instant.dayNumber, Instant.ofDateTime, Instant.secondsPerDay, first_day, last_day]
    by_cases sixty : second = 60
    · simp only [sixty, if_true] at *
      omega
    · simp only [sixty, if_false] at *
      omega
  next => cases made

theorem gives_date_time_in_range : Gives dateTimeWithOffset Instant.InRange := by
  refine gives_bind _ _ _ _ (gives_number 4 4) fun year four => gives_after _ _ _ fun _ => ?_
  refine gives_after _ _ _ fun month => gives_after _ _ _ fun _ => gives_after _ _ _ fun day => gives_after _ _ _ fun _ => ?_
  refine gives_bind _ _ _ _ (gives_within 0 23 _) fun hour hours => gives_after _ _ _ fun _ => ?_
  refine gives_bind _ _ _ _ (gives_within 0 59 _) fun minute minutes => gives_after _ _ _ fun _ => ?_
  refine gives_bind _ _ _ _ (gives_within 0 60 _) fun second seconds => gives_after _ _ _ fun nanos => ?_
  refine gives_bind _ _ _ _ gives_offset_span fun east span => ?_
  refine gives_bind _ _ (fun i => Instant.InRange { i with seconds := i.seconds - east }) _ (gives_lift _ _ ?_) ?_
  · exact offset_in_range year month day hour minute second nanos four hours.2 minutes.2 seconds.2 east span
  · intro i inside cs result rest read
    cases read
    exact inside

theorem of_text_in_range (s : String) (i : Instant) (read : Instant.ofText? s = some i) : i.InRange := by
  obtain ⟨reader, member, found⟩ := List.exists_of_findSome?_eq_some read
  have gives : Gives reader Instant.InRange := by
    simp only [List.mem_cons, List.not_mem_nil, or_false] at member
    rcases member with rfl | rfl | rfl | rfl | rfl | rfl
    · exact gives_date_time_in_range
    · exact gives_date_and_second_in_range _
    · exact gives_date_and_second_in_range _
    · exact gives_date_and_minute_in_range _
    · exact gives_date_and_minute_in_range _
    · exact gives_date_only_in_range
  rw [wholly] at found
  split at found
  next complete =>
    cases found
    exact gives _ _ _ complete
  next => cases found

theorem of_text_representable (s : String) (i : Instant) (read : Instant.ofText? s = some i) : i.Representable :=
  ⟨of_text_in_range s i read, (of_text_proper s i read).bounded⟩

end FormulaField.Calendar
