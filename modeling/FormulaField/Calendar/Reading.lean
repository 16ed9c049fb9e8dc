import FormulaField.Calendar.Instant
import FormulaField.Number.Decimal
import FormulaField.Text.Words

set_option autoImplicit false

namespace FormulaField.Calendar

open FormulaField.Number (isDigit naturalOf)
open FormulaField.Text (trim trimStart)

abbrev Reader (α : Type) := StateT (List Char) Option α

namespace Reader

def number (least most : Nat) : Reader Nat := fun cs =>
  let ds := (cs.take most).takeWhile isDigit
  if ds.length < least then none else some (naturalOf ds, cs.drop ds.length)

def allDigits : Reader Nat := fun cs =>
  let ds := cs.takeWhile isDigit
  if ds.isEmpty then none else some (naturalOf ds, cs.drop ds.length)

def within (low high : Nat) (reader : Reader Nat) : Reader Nat := do
  let n ← reader
  if low ≤ n ∧ n ≤ high then return n else failure

def char (c : Char) : Reader Unit := fun
  | d :: rest => if c = d then some ((), rest) else none
  | [] => none

def oneOf (options : List Char) : Reader Unit := fun
  | d :: rest => if d ∈ options then some ((), rest) else none
  | [] => none

def space : Reader Unit := fun cs => some ((), trimStart cs)

-- Up to nine digits of a second; further digits are dropped.
def fraction : Reader Nat := fun cs =>
  let ds := cs.takeWhile isDigit
  if ds.isEmpty then none
  else
    let kept := ds.take 9
    some (naturalOf kept * Number.tenTo (9 - kept.length), cs.drop ds.length)

def optionalFraction : Reader Nat := fun
  | '.' :: rest => fraction rest
  | cs => some (0, cs)

end Reader

open Reader

-- The instant of a date and a time of day, if the calendar has the date. The second 60 is the
-- leap second after 59.
def instantOf (date : Date) (hour minute second nanos : Nat) : Option Instant :=
  if date.IsValid ∧ firstYear ≤ date.year ∧ date.year ≤ lastYear then
    let leap := second = 60
    some (Instant.ofDateTime date (hour * 3600 + minute * 60 + if leap then 59 else second)
      (nanos + if leap then Instant.nanosPerSecond else 0))
  else none

def offset : Reader Int := fun
  | 'Z' :: rest => some (0, rest)
  | 'z' :: rest => some (0, rest)
  | '+' :: rest => hoursAndMinutes rest
  | '-' :: rest => (hoursAndMinutes rest).map fun r => (-r.1, r.2)
  | '−' :: rest => (hoursAndMinutes rest).map fun r => (-r.1, r.2)
  | _ => none
where
  hoursAndMinutes : Reader Int := do
    let hours ← within 0 23 (number 2 2)
    char ':'
    let minutes ← within 0 59 (number 2 2)
    return hours * 3600 + minutes * 60

-- `2024-03-15T10:30:00.5+02:00`; the `T` may be small or a space.
def dateTimeWithOffset : Reader Instant := do
  let year ← number 4 4
  char '-'
  let month ← within 1 12 (number 2 2)
  char '-'
  let day ← within 1 31 (number 2 2)
  oneOf ['T', 't', ' ']
  let hour ← within 0 23 (number 2 2)
  char ':'
  let minute ← within 0 59 (number 2 2)
  char ':'
  let second ← within 0 60 (number 2 2)
  let nanos ← optionalFraction
  let east ← offset
  let i ← StateT.lift (instantOf ⟨year, month, day⟩ hour minute second nanos)
  return { i with seconds := i.seconds - east }

def signedYear : Reader Int := fun cs =>
  match trimStart cs with
  | '-' :: rest => (allDigits rest).map fun r => (-(r.1 : Int), r.2)
  | '+' :: rest => (allDigits rest).map fun r => ((r.1 : Int), r.2)
  | rest => (number 1 4 rest).map fun r => ((r.1 : Int), r.2)

def shortNumber (low high : Nat) : Reader Nat := do
  space
  within low high (number 1 2)

def looseDate : Reader Date := do
  let year ← signedYear
  char '-'
  let month ← shortNumber 1 12
  char '-'
  let day ← shortNumber 1 31
  return ⟨year, month, day⟩

def hourAndMinute : Reader (Nat × Nat) := do
  let hour ← shortNumber 0 23
  char ':'
  let minute ← shortNumber 0 59
  return (hour, minute)

def dateAndSecond (separator : Reader Unit) : Reader Instant := do
  let date ← looseDate
  separator
  let (hour, minute) ← hourAndMinute
  char ':'
  let second ← shortNumber 0 60
  let nanos ← optionalFraction
  StateT.lift (instantOf date hour minute second nanos)

def dateAndMinute (separator : Reader Unit) : Reader Instant := do
  let date ← looseDate
  separator
  let (hour, minute) ← hourAndMinute
  StateT.lift (instantOf date hour minute 0 0)

def dateOnly : Reader Instant := do
  let date ← looseDate
  StateT.lift (instantOf date 0 0 0 0)

def wholly (reader : Reader Instant) (cs : List Char) : Option Instant :=
  match reader cs with
  | some (i, []) => some i
  | _ => none

-- The instant that a text names. The forms are tried from the most to the least precise.
def Instant.ofChars? (cs : List Char) : Option Instant :=
  [dateTimeWithOffset, dateAndSecond (char 'T'), dateAndSecond space, dateAndMinute (char 'T'),
    dateAndMinute space, dateOnly].findSome? (wholly · (trim cs))

def Instant.ofText? (s : String) : Option Instant := Instant.ofChars? s.toList

end FormulaField.Calendar
