import FormulaField.Calendar.Date

/-!
Instants in UTC: seconds since 1970-01-01T00:00:00Z and nanoseconds within the second. Inside a
leap second the nanoseconds reach from `10⁹` up to `2·10⁹`, counted from the second before.
-/

set_option autoImplicit false

namespace FormulaField.Calendar

structure Instant where
  seconds : Int
  nanos : Nat
deriving DecidableEq

namespace Instant

def secondsPerDay : Int := 86400

def nanosPerSecond : Nat := 1000000000

def dayNumber (i : Instant) : Int := i.seconds / secondsPerDay

def secondOfDay (i : Instant) : Nat := (i.seconds % secondsPerDay).toNat

def date (i : Instant) : Date := Date.ofDayNumber i.dayNumber

def hour (i : Instant) : Nat := i.secondOfDay / 3600

def minute (i : Instant) : Nat := i.secondOfDay / 60 % 60

def second (i : Instant) : Nat := i.secondOfDay % 60

def IsLeapSecond (i : Instant) : Prop := nanosPerSecond ≤ i.nanos

instance (i : Instant) : Decidable i.IsLeapSecond := inferInstanceAs (Decidable (_ ≤ _))

def InRange (i : Instant) : Prop :=
  daysBeforeYear firstYear ≤ i.dayNumber ∧ i.dayNumber < daysBeforeYear (lastYear + 1)

instance (i : Instant) : Decidable i.InRange := inferInstanceAs (Decidable (_ ∧ _))

def inRange? (i : Instant) : Option Instant := if i.InRange then some i else none

def ofDateTime (date : Date) (secondOfDay : Nat) (nanos : Nat) : Instant :=
  ⟨date.dayNumber * secondsPerDay + secondOfDay, nanos⟩

def milliseconds (i : Instant) : Int := i.seconds * 1000 + (i.nanos / 1000000 : Nat)

def ofMilliseconds (ms : Int) : Instant := ⟨ms / 1000, (ms % 1000).toNat * 1000000⟩

def midnight (i : Instant) : Instant := ⟨i.dayNumber * secondsPerDay, 0⟩

-- Chronological order; a leap second comes after the rest of the second it is counted from.
def before (a b : Instant) : Bool :=
  a.seconds < b.seconds || (a.seconds == b.seconds && a.nanos < b.nanos)

-- The instant moved by milliseconds. From inside a leap second a shift either stays inside that
-- second or leaves it, and then the leap second counts as the second before or after.
def shift (i : Instant) (ms : Int) : Instant :=
  let wholeSeconds := ms.tdiv 1000
  let partNanos := ms.tmod 1000 * 1000000
  let nanos : Int := i.nanos
  if nanosPerSecond ≤ nanos then
    if 0 < wholeSeconds ∨ (0 < partNanos ∧ 2 * nanosPerSecond - partNanos ≤ nanos) then
      normal (i.seconds + wholeSeconds) (nanos - nanosPerSecond + partNanos)
    else if wholeSeconds < 0 then
      normal (i.seconds + 1 + wholeSeconds) (nanos - nanosPerSecond + partNanos)
    else ⟨i.seconds, (nanos + partNanos).toNat⟩
  else normal (i.seconds + wholeSeconds) (nanos + partNanos)
where
  normal (seconds nanos : Int) : Instant :=
    ⟨seconds + nanos / nanosPerSecond, (nanos % nanosPerSecond).toNat⟩

def addMonths (i : Instant) (months : Int) : Instant :=
  ofDateTime (i.date.addMonths months) i.secondOfDay i.nanos

end Instant

end FormulaField.Calendar
