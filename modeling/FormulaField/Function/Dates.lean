import FormulaField.Function.Signature
import FormulaField.Text.Case

/-!
Functions of instants. An argument that names no instant gives an empty value.
-/

set_option autoImplicit false

namespace FormulaField.Dates

open Calendar (Instant)

inductive Period where
  | milliseconds
  | seconds
  | minutes
  | hours
  | days
  | weeks
  | months
  | years
deriving DecidableEq

namespace Period

def names : Period → List String
  | .milliseconds => ["milliseconds", "millisecond", "ms"]
  | .seconds => ["seconds", "second"]
  | .minutes => ["minutes", "minute"]
  | .hours => ["hours", "hour"]
  | .days => ["days", "day"]
  | .weeks => ["weeks", "week"]
  | .months => ["months", "month"]
  | .years => ["years", "year"]

def all : List Period := [.milliseconds, .seconds, .minutes, .hours, .days, .weeks, .months, .years]

-- The length in milliseconds of a period that always has the same length, and otherwise the
-- length in months.
def length : Period → Int ⊕ Int
  | .milliseconds => .inl 1
  | .seconds => .inl 1000
  | .minutes => .inl 60000
  | .hours => .inl 3600000
  | .days => .inl 86400000
  | .weeks => .inl 604800000
  | .months => .inr 1
  | .years => .inr 12

def ofText (s : String) : Except EvaluationError Period :=
  let plain := String.ofList (Text.asciiLower (Text.trim s.toList))
  match all.find? (plain ∈ ·.names) with
  | some period => .ok period
  | none => .error (.unknownDateUnit s)

def ofArgument : Option Value → Except EvaluationError Period
  | some v => if v.isBlank then .ok .days else ofText v.toText
  | none => .ok .days

end Period

def component (part : Instant → Int) : Signature :=
  .one fun v => .ok (match v.toInstant? with
    | some i => .number (Number.ofInt (part i))
    | none => .empty)

-- Whole periods from one instant to another, toward zero. Months and years count the calendar
-- boundaries between the two, whatever the day.
def difference (start finish : Instant) (period : Period) : Int :=
  match period.length with
  | .inl size => (finish.milliseconds - start.milliseconds).tdiv size
  | .inr _ =>
      let years := finish.date.year - start.date.year
      if period = .years then years
      else years * 12 + finish.date.month - start.date.month

def maxShift : Nat := Number.tenTo 15

def maxMonths : Nat := Number.twoTo 32 - 1

-- The instant moved by a number of periods, if it stays in range. Periods of one length may be
-- fractions and are rounded to the millisecond; months and years are whole.
def moved? (i : Instant) (amount : Float) (period : Period) : Option Instant :=
  match period.length with
  | .inl size =>
      let product := amount * Number.ofInt size
      let ms := Number.roundHalfAway product
      if product.isFinite ∧ ms.natAbs ≤ maxShift then (i.shift ms).inRange? else none
  | .inr size =>
      let months := Number.truncate amount * size
      if months.natAbs ≤ maxMonths then (i.addMonths months).inRange? else none

def dateDiff (start finish : Value) (unit : Option Value) : Outcome := do
  let period ← Period.ofArgument unit
  match start.toInstant?, finish.toInstant? with
  | some start, some finish => return .number (Number.ofInt (difference start finish period))
  | _, _ => return .empty

def dateAdd (date amount : Value) (unit : Option Value) : Outcome := do
  let period ← Period.ofArgument unit
  match date.toInstant? with
  | some i =>
      if amount.toNumber.isFinite then
        match moved? i amount.toNumber period with
        | some result => return .date result
        | none => return .empty
      else return .empty
  | none => return .empty

def functions : List Function := [
  ⟨"TODAY", .date, .nullary fun now => .date now.midnight⟩,
  ⟨"NOW", .date, .nullary .date⟩,
  ⟨"YEAR", .date, component fun i => i.date.year⟩,
  ⟨"MONTH", .date, component fun i => i.date.month⟩,
  ⟨"DAY", .date, component fun i => i.date.day⟩,
  ⟨"HOUR", .date, component fun i => i.hour⟩,
  ⟨"MINUTE", .date, component fun i => i.minute⟩,
  ⟨"SECOND", .date, component fun i => i.second⟩,
  ⟨"DATEDIFF", .date, .twoOrThree dateDiff⟩,
  ⟨"DATEADD", .date, .twoOrThree dateAdd⟩]

end FormulaField.Dates
