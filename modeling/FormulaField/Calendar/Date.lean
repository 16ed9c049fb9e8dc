/-!
Days of the proleptic Gregorian calendar, numbered from 1970-01-01. `Date.ofDayNumber` undoes
`Date.dayNumber`; the years that instants may fall in are bounded.
-/

set_option autoImplicit false

namespace FormulaField.Calendar

structure Date where
  year : Int
  month : Nat
  day : Nat
deriving DecidableEq

def isLeapYear (year : Int) : Bool := year % 4 == 0 && (year % 100 != 0 || year % 400 == 0)

def monthLengths (year : Int) : List Nat :=
  [31, if isLeapYear year then 29 else 28, 31, 30, 31, 30, 31, 31, 30, 31, 30, 31]

def monthLength (year : Int) (month : Nat) : Nat := (monthLengths year).getD (month - 1) 0

def daysBeforeYear (year : Int) : Int :=
  let past := year - 1
  365 * past + past / 4 - past / 100 + past / 400 - 719162

def daysBeforeMonth (year : Int) (month : Nat) : Nat :=
  ((monthLengths year).take (month - 1)).foldl (· + ·) 0

def Date.IsValid (date : Date) : Prop :=
  1 ≤ date.month ∧ date.month ≤ 12 ∧ 1 ≤ date.day ∧
    date.day ≤ monthLength date.year date.month

instance (date : Date) : Decidable date.IsValid := inferInstanceAs (Decidable (_ ∧ _ ∧ _ ∧ _))

def Date.dayNumber (date : Date) : Int :=
  daysBeforeYear date.year + daysBeforeMonth date.year date.month + date.day - 1

-- The year of a day: an estimate by the mean length of a year is off by at most one.
def yearOfDay (day : Int) : Int :=
  let estimate := (day + 719162) * 400 / 146097 + 1
  if day < daysBeforeYear estimate then estimate - 1
  else if daysBeforeYear (estimate + 1) ≤ day then estimate + 1
  else estimate

def monthAndDay (month : Nat) (dayOfYear : Nat) : List Nat → Nat × Nat
  | [] => (month, dayOfYear + 1)
  | length :: later =>
      if dayOfYear < length then (month, dayOfYear + 1)
      else monthAndDay (month + 1) (dayOfYear - length) later

def Date.ofDayNumber (day : Int) : Date :=
  let year := yearOfDay day
  let place := monthAndDay 1 (day - daysBeforeYear year).toNat (monthLengths year)
  ⟨year, place.1, place.2⟩

def firstYear : Int := -262143

def lastYear : Int := 262142

-- The date moved by months. The day stays, or becomes the last one of a shorter month.
def Date.addMonths (date : Date) (months : Int) : Date :=
  let total := date.year * 12 + date.month - 1 + months
  let year := total / 12
  let month := (total % 12).toNat + 1
  ⟨year, month, min date.day (monthLength year month)⟩

end FormulaField.Calendar
