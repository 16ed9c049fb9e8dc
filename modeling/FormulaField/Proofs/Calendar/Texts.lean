import FormulaField.Calendar.Reading
import FormulaField.Calendar.Writing
import FormulaField.Proofs.Calendar.Days
import FormulaField.Proofs.Formula.Tokens
import FormulaField.Proofs.Number.Text
import FormulaField.Proofs.Text.Characters

set_option autoImplicit false

namespace FormulaField.Calendar

open FormulaField.Number (isDigit naturalOf digits tenTo digits_read digits_are_digits natural_padded)
open Reader

theorem read_bind {α β : Type} (reader : Reader α) (next : α → Reader β) (cs rest : List Char) (a : α)
    (read : reader cs = some (a, rest)) : (reader >>= next) cs = next a rest := by
  have unfolded : (reader >>= next) cs = (reader cs).bind fun both => next both.1 both.2 := rfl
  rw [unfolded, read, Option.bind_some]

theorem padded_digits (width n : Nat) : ∀ c ∈ padded width n, isDigit c = true := by
  intro c member
  rcases List.mem_append.mp member with zero | digit
  · rw [List.eq_of_mem_replicate zero]
    rfl
  · exact digits_are_digits n c digit

theorem padded_length (width n : Nat) (some : 0 < width) (fits : n < 10 ^ width) : (padded width n).length = width := by
  have short := (Nat.length_toDigits_le_iff (by decide) some).mpr fits
  rw [padded, List.length_append, List.length_replicate]
  exact Nat.sub_add_cancel short

theorem padded_read (least width n : Nat) (tail : List Char) (enough : least ≤ width) (some : 0 < width)
    (fits : n < 10 ^ width) : number least width (padded width n ++ tail) = Option.some (n, tail) := by
  have length := padded_length width n some fits
  have taken : ((padded width n ++ tail).take width).takeWhile isDigit = padded width n := by
    rw [List.take_left' length]
    exact List.takeWhile_eq_self_iff.mpr (padded_digits width n)
  have value : naturalOf (padded width n) = n := (natural_padded _ _).trans (digits_read n)
  rw [number]
  simp only [taken]
  rw [length, if_neg (Nat.not_lt_of_le enough), List.drop_left' length, value]

theorem trim_inked (cs : List Char) (start : Stops Text.isWhite cs) (stop : Stops Text.isWhite cs.reverse) :
    Text.trim cs = cs := by
  have kept (ds : List Char) (starts : Stops Text.isWhite ds) : ds.dropWhile Text.isWhite = ds := by
    cases ds with
    | nil => rfl
    | cons d rest => exact List.dropWhile_cons_of_neg (by simp [starts d rfl])
  rw [Text.trim, Text.trimStart, kept cs start, Text.trimEnd, kept cs.reverse stop, List.reverse_reverse]

theorem digits_inked (ds tail : List Char) (some : ds ≠ []) (all : ∀ c ∈ ds, isDigit c = true) :
    Stops Text.isWhite (ds ++ tail) := by
  intro c member
  rw [List.head?_append_of_ne_nil _ some] at member
  exact Text.digit_not_white c (all c (List.mem_of_head? member))

theorem padded_inked (width n : Nat) (tail : List Char) (some : 0 < width) (fits : n < 10 ^ width) :
    Stops Text.isWhite (padded width n ++ tail) := by
  have length := padded_length width n some fits
  refine digits_inked _ _ ?_ (padded_digits width n)
  rw [← List.length_pos_iff, length]
  exact some

theorem within_read (low high n : Nat) (reader : Reader Nat) (cs rest : List Char) (read : reader cs = some (n, rest))
    (least : low ≤ n) (most : n ≤ high) : within low high reader cs = some (n, rest) := by
  rw [within, read_bind _ _ _ _ _ read, if_pos ⟨least, most⟩]
  rfl

theorem two_digits_read (n low high : Nat) (tail : List Char) (least : low ≤ n) (most : n ≤ high) (two : high < 10 ^ 2) :
    within low high (number 2 2) (padded 2 n ++ tail) = some (n, tail) :=
  within_read low high n _ _ _ (padded_read 2 2 n tail (Nat.le_refl 2) (by decide) (Nat.lt_of_le_of_lt most two)) least most

theorem char_read (c : Char) (rest : List Char) : char c (c :: rest) = some ((), rest) := by
  rw [char, if_pos rfl]

theorem fraction_read (ms : Nat) (fits : ms < 1000) (tail : List Char) (stops : Stops isDigit tail) :
    optionalFraction ('.' :: (padded 3 ms ++ tail)) = some (ms * 1000000, tail) := by
  have length := padded_length 3 ms (by decide) fits
  have taken := take_while_all isDigit (padded 3 ms) tail (padded_digits 3 ms) stops
  have some : (padded 3 ms).isEmpty = false := by
    rw [List.isEmpty_eq_false_iff, ← List.length_pos_iff, length]
    decide
  have kept : (padded 3 ms).take 9 = padded 3 ms := List.take_of_length_le (by omega)
  have value : naturalOf (padded 3 ms) = ms := (natural_padded _ _).trans (digits_read ms)
  have power : tenTo (9 - 3) = 1000000 := rfl
  rw [optionalFraction, fraction]
  simp only [taken, some, kept, length, value, power, List.drop_left' length]
  rfl

theorem one_of_read (options : List Char) (c : Char) (rest : List Char) (member : c ∈ options) :
    oneOf options (c :: rest) = some ((), rest) := by
  rw [oneOf, if_pos member]

-- What is left to read after the second: a fraction of it and the offset from UTC.
def afterSecond (date : Date) (hour minute second : Nat) : Reader Instant := do
  let nanos ← optionalFraction
  let east ← offset
  let i ← StateT.lift (instantOf date hour minute second nanos)
  return { i with seconds := i.seconds - east }

theorem fields_read (year month day hour minute second : Nat) (separator : Char) (tail : List Char)
    (fourDigits : year < 10 ^ 4) (months : 1 ≤ month ∧ month ≤ 12) (days : 1 ≤ day ∧ day ≤ 31)
    (separates : separator ∈ ['T', 't', ' ']) (hours : hour ≤ 23) (minutes : minute ≤ 59) (seconds : second ≤ 60) :
    dateTimeWithOffset (padded 4 year ++ '-' :: (padded 2 month ++ '-' :: (padded 2 day ++ separator :: (padded 2 hour ++
        ':' :: (padded 2 minute ++ ':' :: (padded 2 second ++ tail)))))) =
      afterSecond ⟨year, month, day⟩ hour minute second tail := by
  rw [dateTimeWithOffset,
    read_bind _ _ _ _ _ (padded_read 4 4 year _ (Nat.le_refl 4) (by decide) fourDigits), read_bind _ _ _ _ _ (char_read '-' _),
    read_bind _ _ _ _ _ (two_digits_read month 1 12 _ months.1 months.2 (by decide)), read_bind _ _ _ _ _ (char_read '-' _),
    read_bind _ _ _ _ _ (two_digits_read day 1 31 _ days.1 days.2 (by decide)),
    read_bind _ _ _ _ _ (one_of_read _ separator _ separates),
    read_bind _ _ _ _ _ (two_digits_read hour 0 23 _ (Nat.zero_le _) hours (by decide)), read_bind _ _ _ _ _ (char_read ':' _),
    read_bind _ _ _ _ _ (two_digits_read minute 0 59 _ (Nat.zero_le _) minutes (by decide)), read_bind _ _ _ _ _ (char_read ':' _),
    read_bind _ _ _ _ _ (two_digits_read second 0 60 _ (Nat.zero_le _) seconds (by decide))]
  rfl

theorem after_second_read (date : Date) (hour minute second ms : Nat) (milliseconds : ms < 1000) :
    afterSecond date hour minute second ('.' :: (padded 3 ms ++ ['Z'])) =
      (instantOf date hour minute second (ms * 1000000)).map fun i => (i, []) := by
  have letter : Stops isDigit ['Z'] := by
    intro c member
    cases member
    rfl
  rw [afterSecond, read_bind _ _ _ _ _ (fraction_read ms milliseconds _ letter), read_bind offset _ _ _ 0 rfl]
  cases instantOf date hour minute second (ms * 1000000) with
  | none => rfl
  | some i => exact congrArg (fun seconds => some (Instant.mk seconds i.nanos, [])) (Int.sub_zero i.seconds)

namespace Instant

def cut (i : Instant) : Instant := ⟨i.seconds, i.nanos / 1000000 * 1000000⟩

-- Nanoseconds from 10⁹ up are those of a leap second, which follows the last second of a minute.
structure Proper (i : Instant) : Prop where
  bounded : i.nanos < 2 * nanosPerSecond
  leap : i.IsLeapSecond → i.second = 59

theorem time_of_day (i : Instant) : i.hour * 3600 + i.minute * 60 + i.second = i.secondOfDay ∧ i.hour ≤ 23 ∧
    i.minute ≤ 59 ∧ i.second ≤ 59 ∧ i.seconds = i.dayNumber * secondsPerDay + i.secondOfDay := by
  rw [hour, minute, second, secondOfDay, dayNumber, secondsPerDay]
  omega

theorem leap_milliseconds (nanos : Nat) (least : 1000000000 ≤ nanos) (most : nanos < 2 * 1000000000) :
    nanos % 1000000000 / 1000000 * 1000000 + 1000000000 = nanos / 1000000 * 1000000 := by
  omega

theorem cut_of_fields (i : Instant) (proper : i.Proper) (least : 0 ≤ i.date.year) (most : i.date.year ≤ 9999) :
    instantOf ⟨i.date.year.natAbs, i.date.month, i.date.day⟩ i.hour i.minute (i.second + i.nanos / nanosPerSecond)
      (i.nanos % nanosPerSecond / 1000000 * 1000000) = some i.cut := by
  obtain ⟨valid, day⟩ := date_of_day i.dayNumber
  obtain ⟨sum, _, _, short, whole⟩ := i.time_of_day
  have bounded := proper.bounded
  have date : (⟨i.date.year.natAbs, i.date.month, i.date.day⟩ : Date) = Date.ofDayNumber i.dayNumber := by
    rw [Int.natAbs_of_nonneg least]
    rfl
  have calendar : (Date.ofDayNumber i.dayNumber).IsValid ∧ firstYear ≤ (Date.ofDayNumber i.dayNumber).year ∧
      (Date.ofDayNumber i.dayNumber).year ≤ lastYear := by
    have first : firstYear ≤ 0 := by decide
    have last : 9999 ≤ lastYear := by decide
    exact ⟨valid, first.trans least, most.trans last⟩
  rw [date, instantOf, if_pos calendar]
  simp only [ofDateTime, day, cut]
  rw [nanosPerSecond] at bounded
  rw [nanosPerSecond]
  by_cases leap : i.IsLeapSecond
  · have last := proper.leap leap
    rw [IsLeapSecond, nanosPerSecond] at leap
    have sixty : i.second + i.nanos / 1000000000 = 60 := by omega
    have time : i.hour * 3600 + i.minute * 60 + 59 = i.secondOfDay := by omega
    rw [if_pos sixty, if_pos sixty, time, leap_milliseconds i.nanos leap bounded, whole]
  · rw [IsLeapSecond, nanosPerSecond] at leap
    have below : ¬i.second + i.nanos / 1000000000 = 60 := by omega
    have time : i.hour * 3600 + i.minute * 60 + (i.second + i.nanos / 1000000000) = i.secondOfDay := by omega
    rw [if_neg below, if_neg below, time, Nat.mod_eq_of_lt (Nat.lt_of_not_le leap), whole, Nat.add_zero]

theorem four_digit_date (i : Instant) (least : 0 ≤ i.date.year) (most : i.date.year ≤ 9999) :
    i.date.chars = padded 4 i.date.year.natAbs ++ '-' :: (padded 2 i.date.month ++ '-' :: padded 2 i.date.day) := by
  simp [Date.chars, yearChars, least, most]

theorem four_digit_chars (i : Instant) (least : 0 ≤ i.date.year) (most : i.date.year ≤ 9999) :
    i.chars = padded 4 i.date.year.natAbs ++ '-' :: (padded 2 i.date.month ++ '-' :: (padded 2 i.date.day ++ 'T' ::
      (padded 2 i.hour ++ ':' :: (padded 2 i.minute ++ ':' :: (padded 2 (i.second + i.nanos / nanosPerSecond) ++
        '.' :: (padded 3 (i.nanos % nanosPerSecond / 1000000) ++ ['Z'])))))) := by
  simp [Instant.chars, i.four_digit_date least most, timeChars]

theorem chars_read (i : Instant) (proper : i.Proper) (least : 0 ≤ i.date.year) (most : i.date.year ≤ 9999) :
    dateTimeWithOffset i.chars = some (i.cut, []) := by
  have valid : i.date.IsValid := (date_of_day i.dayNumber).1
  obtain ⟨january, december, first, last⟩ := valid
  obtain ⟨_, hours, minutes, seconds, _⟩ := i.time_of_day
  have bounded := proper.bounded
  rw [nanosPerSecond] at bounded
  have part : i.nanos % nanosPerSecond / 1000000 < 1000 := by
    rw [nanosPerSecond]
    omega
  have sixty : i.second + i.nanos / nanosPerSecond ≤ 60 := by
    rw [nanosPerSecond]
    omega
  rw [i.four_digit_chars least most, fields_read _ _ _ _ _ _ 'T' _ (by omega) ⟨january, december⟩
    ⟨first, last.trans (month_length_most _ _)⟩ (by decide) hours minutes sixty, after_second_read _ _ _ _ _ part,
    cut_of_fields i proper least most, Option.map_some]

theorem trim_chars (i : Instant) (least : 0 ≤ i.date.year) (most : i.date.year ≤ 9999) :
    Text.trim i.chars = i.chars := by
  refine trim_inked _ ?_ ?_
  · rw [i.four_digit_chars least most]
    exact padded_inked 4 _ _ (by decide) (by omega)
  · rw [Instant.chars, List.reverse_append]
    intro c member
    cases member
    rfl

theorem text_read (i : Instant) (proper : i.Proper) (least : 0 ≤ i.date.year) (most : i.date.year ≤ 9999) :
    ofText? i.text = some i.cut := by
  have read := i.chars_read proper least most
  rw [ofText?, text, String.toList_ofList, ofChars?, i.trim_chars least most, List.findSome?_cons]
  simp [wholly, read]

end Instant

end FormulaField.Calendar
