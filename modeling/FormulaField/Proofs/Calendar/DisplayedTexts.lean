import FormulaField.DisplayFormat
import FormulaField.Proofs.Calendar.Texts

set_option autoImplicit false

namespace FormulaField.Calendar

open FormulaField.Number (isDigit)
open Reader

theorem bind_unread {α β : Type} (reader : Reader α) (next : α → Reader β) (cs : List Char)
    (unread : reader cs = none) : (reader >>= next) cs = none := by
  have unfolded : (reader >>= next) cs = (reader cs).bind fun both => next both.1 both.2 := rfl
  rw [unfolded, unread, Option.bind_none]

theorem char_unread (c d : Char) (rest : List Char) (other : c ≠ d) : char c (d :: rest) = none := by
  rw [char, if_neg other]

theorem space_read (cs : List Char) (inked : Stops Text.isWhite cs) : space cs = some ((), cs) := by
  cases cs with
  | nil => rfl
  | cons c rest =>
      rw [space, Text.trimStart, List.dropWhile_cons_of_neg (by simp [inked c rfl])]

theorem year_read (year : Nat) (tail : List Char) (four : year < 10 ^ 4) :
    signedYear (padded 4 year ++ tail) = some ((year : Int), tail) := by
  have digits := padded_digits 4 year
  have length := padded_length 4 year (by decide) four
  have read := padded_read 1 4 year tail (by decide) (by decide) four
  cases same : padded 4 year with
  | nil =>
      rw [same] at length
      cases length
  | cons c rest =>
      have digit := digits c (by simp [same])
      have unsigned : c ≠ '-' ∧ c ≠ '+' := by
        constructor <;> rintro rfl <;> cases digit
      rw [same, List.cons_append] at read
      rw [signedYear, Text.trimStart, List.cons_append,
        List.dropWhile_cons_of_neg (by simp [Text.digit_not_white c digit])]
      split
      next sign => exact absurd (List.cons.inj sign).1 unsigned.1
      next sign => exact absurd (List.cons.inj sign).1 unsigned.2
      next =>
        rw [read]
        rfl

theorem short_read (low high n : Nat) (tail : List Char) (least : low ≤ n) (most : n ≤ high) (two : high < 10 ^ 2) :
    shortNumber low high (padded 2 n ++ tail) = some (n, tail) := by
  have fits := Nat.lt_of_le_of_lt most two
  rw [shortNumber, read_bind _ _ _ _ _ (space_read _ (padded_inked 2 n tail (by decide) fits))]
  exact within_read low high n _ _ _ (padded_read 1 2 n tail (by decide) (by decide) fits) least most

theorem trim_numbers (cs : List Char) (year last : Nat) (four : year < 10 ^ 4) (two : last < 10 ^ 2)
    (starts : padded 4 year <+: cs) (ends : padded 2 last <:+ cs) : Text.trim cs = cs := by
  obtain ⟨back, first⟩ := starts
  obtain ⟨front, second⟩ := ends
  refine trim_inked cs ?_ ?_
  · rw [← first]
    exact padded_inked 4 year back (by decide) four
  · have length := padded_length 2 last (by decide) two
    rw [← second, List.reverse_append]
    refine digits_inked _ _ ?_ fun c member => padded_digits 2 last c (List.mem_reverse.mp member)
    rw [← List.length_pos_iff, List.length_reverse, length]
    decide

namespace Instant

theorem loose_date_read (i : Instant) (least : 0 ≤ i.date.year) (most : i.date.year ≤ 9999) (tail : List Char) :
    looseDate (i.date.chars ++ tail) = some (i.date, tail) := by
  obtain ⟨january, december, first, last⟩ := (date_of_day i.dayNumber).1
  have days := last.trans (month_length_most _ _)
  have year : ((i.date.year.natAbs : Nat) : Int) = i.date.year := Int.natAbs_of_nonneg least
  rw [i.four_digit_date least most, List.append_assoc, List.cons_append, List.append_assoc, List.cons_append, looseDate,
    read_bind _ _ _ _ _ (year_read i.date.year.natAbs _ (by omega)), read_bind _ _ _ _ _ (char_read '-' _),
    read_bind _ _ _ _ _ (short_read 1 12 i.date.month _ january december (by decide)),
    read_bind _ _ _ _ _ (char_read '-' _),
    read_bind _ _ _ _ _ (short_read 1 31 i.date.day tail first days (by decide)), year]
  rfl

theorem hour_and_minute_read (i : Instant) (tail : List Char) :
    hourAndMinute (padded 2 i.hour ++ ':' :: (padded 2 i.minute ++ tail)) = some ((i.hour, i.minute), tail) := by
  obtain ⟨_, hours, minutes, _, _⟩ := i.time_of_day
  rw [hourAndMinute, read_bind _ _ _ _ _ (short_read 0 23 i.hour _ (Nat.zero_le _) hours (by decide)),
    read_bind _ _ _ _ _ (char_read ':' _),
    read_bind _ _ _ _ _ (short_read 0 59 i.minute tail (Nat.zero_le _) minutes (by decide))]
  rfl

theorem ordinary_time (i : Instant) (ordinary : ¬i.IsLeapSecond) :
    i.timeChars = padded 2 i.hour ++ ':' :: (padded 2 i.minute ++ ':' :: padded 2 i.second) := by
  rw [IsLeapSecond, Nat.not_le] at ordinary
  simp [timeChars, Nat.div_eq_of_lt ordinary]

theorem second_of_fields (i : Instant) (least : 0 ≤ i.date.year) (most : i.date.year ≤ 9999) :
    instantOf i.date i.hour i.minute i.second 0 = some ⟨i.seconds, 0⟩ := by
  have ordinary : ¬IsLeapSecond ⟨i.seconds, 0⟩ := by simp [IsLeapSecond, nanosPerSecond]
  have proper : Proper ⟨i.seconds, 0⟩ := ⟨Nat.mul_pos (by decide) (by decide), fun leap => absurd leap ordinary⟩
  have fields := cut_of_fields ⟨i.seconds, 0⟩ proper least most
  have year : ((i.date.year.natAbs : Nat) : Int) = i.date.year := Int.natAbs_of_nonneg least
  have date : (⟨i.date.year.natAbs, i.date.month, i.date.day⟩ : Date) = i.date := by rw [year]
  simp only [cut, Nat.zero_div, Nat.zero_mod, Nat.zero_mul, Nat.add_zero] at fields
  rw [← date]
  exact fields

theorem midnight_day (i : Instant) : i.midnight.dayNumber = i.dayNumber ∧ i.midnight.secondOfDay = 0 := by
  rw [midnight, dayNumber, secondOfDay, secondsPerDay]
  simp only
  omega

theorem midnight_of_date (i : Instant) (least : 0 ≤ i.date.year) (most : i.date.year ≤ 9999) :
    instantOf i.date 0 0 0 0 = some i.midnight := by
  obtain ⟨sameDay, start⟩ := i.midnight_day
  have date : i.midnight.date = i.date := by rw [Instant.date, sameDay, Instant.date]
  have fields := i.midnight.second_of_fields (date ▸ least) (date ▸ most)
  rw [date, hour, minute, second, start] at fields
  exact fields

theorem strict_date_time_unread (i : Instant) (ordinary : ¬i.IsLeapSecond) (least : 0 ≤ i.date.year)
    (most : i.date.year ≤ 9999) : dateTimeWithOffset (i.date.chars ++ ' ' :: i.timeChars) = none := by
  obtain ⟨january, december, first, last⟩ := (date_of_day i.dayNumber).1
  obtain ⟨_, hours, minutes, seconds, _⟩ := i.time_of_day
  have fields := fields_read i.date.year.natAbs i.date.month i.date.day i.hour i.minute i.second ' ' [] (by omega)
    ⟨january, december⟩ ⟨first, last.trans (month_length_most _ _)⟩ (by decide) hours minutes (by omega)
  rw [List.append_nil] at fields
  rw [i.ordinary_time ordinary, i.four_digit_date least most, List.append_assoc, List.cons_append, List.append_assoc,
    List.cons_append, fields]
  rfl

theorem strict_date_unread (i : Instant) (least : 0 ≤ i.date.year) (most : i.date.year ≤ 9999) :
    dateTimeWithOffset i.date.chars = none := by
  obtain ⟨january, december, first, last⟩ := (date_of_day i.dayNumber).1
  have days := last.trans (month_length_most _ _)
  have day := two_digits_read i.date.day 1 31 [] first days (by decide)
  rw [List.append_nil] at day
  rw [i.four_digit_date least most, dateTimeWithOffset,
    read_bind _ _ _ _ _ (padded_read 4 4 i.date.year.natAbs _ (Nat.le_refl 4) (by decide) (by omega)),
    read_bind _ _ _ _ _ (char_read '-' _),
    read_bind _ _ _ _ _ (two_digits_read i.date.month 1 12 _ january december (by decide)),
    read_bind _ _ _ _ _ (char_read '-' _), read_bind _ _ _ _ _ day]
  exact bind_unread _ _ _ rfl

theorem trim_date_text (i : Instant) (least : 0 ≤ i.date.year) (most : i.date.year ≤ 9999) :
    Text.trim i.date.chars = i.date.chars := by
  have days := (date_of_day i.dayNumber).1.2.2.2.trans (month_length_most _ _)
  refine trim_numbers _ i.date.year.natAbs i.date.day (by omega) (Nat.lt_of_le_of_lt days (by decide))
    ⟨_, (i.four_digit_date least most).symm⟩ ?_
  rw [Date.chars, List.append_cons]
  exact List.suffix_append _ _

theorem trim_date_time_text (i : Instant) (ordinary : ¬i.IsLeapSecond) (least : 0 ≤ i.date.year)
    (most : i.date.year ≤ 9999) : Text.trim (i.date.chars ++ ' ' :: i.timeChars) = i.date.chars ++ ' ' :: i.timeChars := by
  obtain ⟨_, _, _, seconds, _⟩ := i.time_of_day
  refine trim_numbers _ i.date.year.natAbs i.second (by omega) (Nat.lt_of_le_of_lt seconds (by decide)) ?_ ?_
  · rw [i.four_digit_date least most, List.append_assoc]
    exact List.prefix_append _ _
  · refine ⟨i.date.chars ++ ' ' :: padded 2 i.hour ++ ':' :: padded 2 i.minute ++ [':'], ?_⟩
    simp [i.ordinary_time ordinary]

theorem date_time_text_read (i : Instant) (ordinary : ¬i.IsLeapSecond) (least : 0 ≤ i.date.year)
    (most : i.date.year ≤ 9999) : ofText? i.dateTimeText = some ⟨i.seconds, 0⟩ := by
  obtain ⟨_, hours, minutes, seconds, _⟩ := i.time_of_day
  have loose := i.loose_date_read least most (' ' :: i.timeChars)
  have time := i.ordinary_time ordinary
  have spaced : space (' ' :: i.timeChars) = some ((), i.timeChars) := by
    have inked : Stops Text.isWhite i.timeChars := by
      rw [time]
      exact padded_inked 2 _ _ (by decide) (by omega)
    exact space_read i.timeChars inked
  have strict : wholly dateTimeWithOffset (i.date.chars ++ ' ' :: i.timeChars) = none := by
    rw [wholly, i.strict_date_time_unread ordinary least most]
  have lettered : wholly (dateAndSecond (char 'T')) (i.date.chars ++ ' ' :: i.timeChars) = none := by
    rw [wholly, dateAndSecond, read_bind _ _ _ _ _ loose, bind_unread _ _ _ (char_unread 'T' ' ' _ (by decide))]
  have second := short_read 0 60 i.second [] (Nat.zero_le _) (by omega) (by decide)
  rw [List.append_nil] at second
  have read : dateAndSecond space (i.date.chars ++ ' ' :: i.timeChars) = some (⟨i.seconds, 0⟩, []) := by
    rw [dateAndSecond, read_bind _ _ _ _ _ loose, read_bind _ _ _ _ _ spaced, time,
      read_bind _ _ _ _ _ (i.hour_and_minute_read _)]
    dsimp only
    rw [read_bind _ _ _ _ _ (char_read ':' _), read_bind _ _ _ _ _ second, read_bind optionalFraction _ _ _ 0 rfl,
      i.second_of_fields least most]
    rfl
  rw [ofText?, dateTimeText, String.toList_ofList, ofChars?, i.trim_date_time_text ordinary least most, List.findSome?_cons,
    strict, List.findSome?_cons, lettered, List.findSome?_cons]
  simp only [wholly, read]

theorem date_text_read (i : Instant) (least : 0 ≤ i.date.year) (most : i.date.year ≤ 9999) :
    ofText? i.dateText = some i.midnight := by
  have loose := i.loose_date_read least most []
  rw [List.append_nil] at loose
  have strict : wholly dateTimeWithOffset i.date.chars = none := by
    rw [wholly, i.strict_date_unread least most]
  -- Nothing is left for a separator and a time of day.
  have untimed (separator : Reader Unit) (nothing : (separator >>= fun _ => hourAndMinute) [] = none) :
      wholly (dateAndSecond separator) i.date.chars = none ∧ wholly (dateAndMinute separator) i.date.chars = none := by
    have unread : separator [] = none ∨ ∃ rest, separator [] = some ((), rest) ∧ hourAndMinute rest = none := by
      cases separated : separator [] with
      | none => exact .inl rfl
      | some both =>
          rw [read_bind _ _ _ _ _ separated] at nothing
          exact .inr ⟨both.2, rfl, nothing⟩
    rw [wholly, wholly, dateAndSecond, dateAndMinute, read_bind _ _ _ _ _ loose, read_bind _ _ _ _ _ loose]
    rcases unread with none | ⟨rest, separated, none⟩
    · rw [bind_unread _ _ _ none, bind_unread _ _ _ none]
      exact ⟨rfl, rfl⟩
    · rw [read_bind _ _ _ _ _ separated, read_bind _ _ _ _ _ separated, bind_unread _ _ _ none, bind_unread _ _ _ none]
      exact ⟨rfl, rfl⟩
  have lettered := untimed (char 'T') rfl
  have spaced := untimed space rfl
  have read : dateOnly i.date.chars = some (i.midnight, []) := by
    rw [dateOnly, read_bind _ _ _ _ _ loose, i.midnight_of_date least most]
    rfl
  rw [ofText?, dateText, String.toList_ofList, ofChars?, i.trim_date_text least most]
  simp only [List.findSome?_cons, strict, lettered.1, lettered.2, spaced.1, spaced.2]
  simp only [wholly, read]

end Instant

end FormulaField.Calendar

namespace FormulaField

open Calendar (Instant)

theorem Value.date_texts_read_back (i : Instant) (ordinary : ¬i.IsLeapSecond) (least : 0 ≤ i.date.year)
    (most : i.date.year ≤ 9999) :
    Instant.ofText? (Value.date i).toText = some ⟨i.seconds, i.nanos / 1000000 * 1000000⟩ ∧
      (∀ decimals, Instant.ofText? (DisplayFormat.datetime.display decimals (.date i)) = some ⟨i.seconds, 0⟩) ∧
      ∀ decimals, Instant.ofText? (DisplayFormat.date.display decimals (.date i)) = some i.midnight := by
  have second : i.nanos < Instant.nanosPerSecond := Nat.lt_of_not_le ordinary
  have proper : i.Proper := ⟨by omega, fun leap => absurd leap ordinary⟩
  exact ⟨i.text_read proper least most, fun _ => i.date_time_text_read ordinary least most,
    fun _ => i.date_text_read least most⟩

def leapDayEnd : Instant := ⟨-57974401, 999999999⟩

theorem leap_day_texts_read_back :
    ¬leapDayEnd.IsLeapSecond ∧ 0 ≤ leapDayEnd.date.year ∧ leapDayEnd.date.year ≤ 9999 ∧
      leapDayEnd.date = ⟨1968, 2, 29⟩ ∧
      Instant.ofText? (Value.date leapDayEnd).toText = some ⟨-57974401, 999000000⟩ ∧
      Instant.ofText? (DisplayFormat.datetime.display 0 (.date leapDayEnd)) = some ⟨-57974401, 0⟩ ∧
      Instant.ofText? (DisplayFormat.date.display 0 (.date leapDayEnd)) = some ⟨-58060800, 0⟩ := by
  have ordinary : ¬leapDayEnd.IsLeapSecond := by decide
  have least : 0 ≤ leapDayEnd.date.year := by decide
  have most : leapDayEnd.date.year ≤ 9999 := by decide
  obtain ⟨text, second, day⟩ := Value.date_texts_read_back leapDayEnd ordinary least most
  exact ⟨ordinary, least, most, by decide, text, second 0, day 0⟩

end FormulaField
