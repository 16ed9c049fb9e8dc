import FormulaField.Calendar.Instant
import FormulaField.Number.Decimal

/-!
Texts of instants. Years from 0 to 9999 have four digits; all others carry their sign.
-/

set_option autoImplicit false

namespace FormulaField.Calendar

open FormulaField.Number (digits)

def padded (width : Nat) (n : Nat) : List Char :=
  List.replicate (width - (digits n).length) '0' ++ digits n

def yearChars (year : Int) : List Char :=
  if 0 ≤ year ∧ year ≤ 9999 then padded 4 year.natAbs
  else (if year < 0 then '-' else '+') :: padded 4 year.natAbs

def Date.chars (date : Date) : List Char :=
  yearChars date.year ++ '-' :: padded 2 date.month ++ '-' :: padded 2 date.day

namespace Instant

-- Time of day down to the second, which is 60 inside a leap second.
def timeChars (i : Instant) : List Char :=
  padded 2 i.hour ++ ':' :: padded 2 i.minute ++ ':' ::
    padded 2 (i.second + i.nanos / nanosPerSecond)

def chars (i : Instant) : List Char :=
  i.date.chars ++ 'T' :: i.timeChars ++ '.' ::
    padded 3 (i.nanos % nanosPerSecond / 1000000) ++ ['Z']

def text (i : Instant) : String := String.ofList i.chars

def dateText (i : Instant) : String := String.ofList i.date.chars

def dateTimeText (i : Instant) : String := String.ofList (i.date.chars ++ ' ' :: i.timeChars)

end Instant

end FormulaField.Calendar
