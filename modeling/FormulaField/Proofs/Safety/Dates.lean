import FormulaField.Proofs.Calendar.Range
import FormulaField.Proofs.Function.Periods

set_option autoImplicit false

namespace FormulaField.Guarded

open Calendar (Instant)
open Dates (Period)

-- A number in two's complement with this many bits below the sign.
def word? (bits : Nat) (n : Int) : Option Int :=
  if -(Number.twoTo bits : Int) ≤ n ∧ n < Number.twoTo bits then some n else none

def quotient? (n divisor : Int) : Option Int := if divisor = 0 then none else word? 63 (n.tdiv divisor)

def duration? (ms : Int) : Option Int := if ms.natAbs < Number.twoTo 63 then some ms else none

def monthCount? (n : Int) : Option Nat := if 0 ≤ n ∧ n < Number.twoTo 32 then some n.toNat else none

def difference? (start finish : Instant) (period : Period) : Option Int :=
  match period.length with
  | .inl size => do
      let later ← word? 63 finish.milliseconds
      let earlier ← word? 63 start.milliseconds
      let span ← word? 63 (later - earlier)
      quotient? span size
  | .inr _ => do
      let later ← word? 31 finish.date.year
      let earlier ← word? 31 start.date.year
      let years ← word? 31 (later - earlier)
      if period = .years then return years
      else do
        let months ← word? 63 (years * 12)
        let sum ← word? 63 (months + finish.date.month)
        word? 63 (sum - start.date.month)

-- Only the outer option is for breaking off.
def moved? (i : Instant) (amount : Float) (period : Period) : Option (Option Instant) :=
  match period.length with
  | .inl size =>
      let product := amount * Number.ofInt size
      let ms := Number.roundHalfAway product
      if product.isFinite ∧ ms.natAbs ≤ Dates.maxShift then do
        let span ← duration? ms
        return (i.shift span).inRange?
      else some none
  | .inr size =>
      let months := Number.truncate amount * size
      if months.natAbs ≤ Dates.maxMonths then
        if 0 ≤ months then do
          let count ← monthCount? months
          return (i.addMonths count).inRange?
        else do
          let count ← monthCount? (-months)
          return (i.addMonths (-count)).inRange?
      else some none

theorem word_fits (bits : Nat) (n : Int) (fits : n.natAbs < Number.twoTo bits) : word? bits n = some n := by
  rw [word?, if_pos (by omega)]

theorem quotient_fits (n divisor : Int) (divisible : divisor ≠ 0) (fits : n.natAbs < Number.twoTo 63) :
    quotient? n divisor = some (n.tdiv divisor) := by
  rw [quotient?, if_neg divisible]
  exact word_fits 63 _ ((Int.natAbs_tdiv_le_natAbs n divisor).trans_lt fits)

theorem span_room : 2 * Instant.greatestSpan < Number.twoTo 63 := by decide

theorem years_room : 1000000 < Number.twoTo 31 := by decide

theorem months_room : 100000000 < Number.twoTo 63 := by decide

theorem difference_completes (start finish : Instant) (period : Period) (first : start.Representable)
    (last : finish.Representable) : difference? start finish period = some (Dates.difference start finish period) := by
  rw [difference?, Dates.difference]
  cases length : period.length with
  | inl size =>
      have earlier := start.milliseconds_span first
      have later := finish.milliseconds_span last
      have room := span_room
      have span : (finish.milliseconds - start.milliseconds).natAbs < Number.twoTo 63 := by omega
      simp only [word_fits 63 finish.milliseconds (by omega), word_fits 63 start.milliseconds (by omega),
        word_fits 63 _ span, quotient_fits _ size (period.fixed_size size length).1.ne' span, Option.bind_eq_bind,
        Option.bind_some]
  | inr months =>
      have earlier := start.year_range first
      have later := finish.year_range last
      rw [Calendar.firstYear, Calendar.lastYear] at earlier later
      have firstMonth : start.date.month ≤ 12 := (Calendar.date_of_day start.dayNumber).1.2.1
      have lastMonth : finish.date.month ≤ 12 := (Calendar.date_of_day finish.dayNumber).1.2.1
      have room := years_room
      have wide := months_room
      simp only [word_fits 31 finish.date.year (by omega), word_fits 31 start.date.year (by omega),
        word_fits 31 (finish.date.year - start.date.year) (by omega), Option.bind_eq_bind, Option.bind_some]
      by_cases years : period = .years
      · rw [if_pos years, if_pos years]
        rfl
      · rw [if_neg years, if_neg years, word_fits 63 _ (by omega), Option.bind_some, word_fits 63 _ (by omega),
          Option.bind_some, word_fits 63 _ (by omega)]

theorem shift_room : Dates.maxShift < Number.twoTo 63 := by decide

theorem months_fit (n : Int) (positive : 0 ≤ n) (fits : n.natAbs ≤ Dates.maxMonths) :
    monthCount? n = some n.toNat := by
  have room : Dates.maxMonths + 1 = Number.twoTo 32 := rfl
  rw [monthCount?, if_pos ⟨positive, by omega⟩]

theorem moved_completes (i : Instant) (amount : Float) (period : Period) :
    moved? i amount period = some (Dates.moved? i amount period) := by
  rw [moved?, Dates.moved?]
  cases length : period.length with
  | inl size =>
      simp only
      split
      next fits =>
        rw [duration?, if_pos (fits.2.trans_lt shift_room)]
        rfl
      next => rfl
  | inr size =>
      simp only
      split
      next fits =>
        split
        next positive =>
          rw [months_fit _ positive fits, Option.bind_eq_bind, Option.bind_some, Int.toNat_of_nonneg positive]
          rfl
        next negative =>
          have other : 0 ≤ -(Number.truncate amount * size) := by omega
          rw [months_fit _ other (by rwa [Int.natAbs_neg]), Option.bind_eq_bind, Option.bind_some,
            Int.toNat_of_nonneg other, Int.neg_neg]
          rfl
      next => rfl

theorem moved_representable (i : Instant) (amount : Float) (period : Period) (representable : i.Representable)
    (result : Instant) (moved : Dates.moved? i amount period = some result) : result.Representable := by
  rw [Dates.moved?] at moved
  split at moved
  · simp only at moved
    split at moved
    · exact Instant.in_range_representable _ (i.shift_bounded _ representable.bounded) result moved
    · cases moved
  · simp only at moved
    split at moved
    · exact Instant.in_range_representable (i.addMonths _) representable.bounded result moved
    · cases moved

end FormulaField.Guarded
