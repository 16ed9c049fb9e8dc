import FormulaField.Calendar.Reading
import FormulaField.Calendar.Writing
import FormulaField.Number.Layout
import FormulaField.Text.Words

/-!
Values of fields and formulas, and how each kind reads as a number, a text, a truth value and an
instant. None of the readings fails: what has no number reads as zero.
-/

set_option autoImplicit false

namespace FormulaField

open Calendar (Instant)

inductive Value where
  | empty
  | number (n : Float)
  | text (s : String)
  | boolean (b : Bool)
  | date (i : Instant)

instance : Inhabited Value := ⟨.empty⟩

-- The sign, digits and power of ten at the start of a text, with the rest of it. Decimal digits
-- of every script count as digits.
structure LeadingNumeral where
  negative : Bool
  numeral : Number.Numeral

namespace LeadingNumeral

open Text (isDecimalDigit)

def takeSign : List Char → Bool × List Char
  | '-' :: rest => (true, rest)
  | '+' :: rest => (false, rest)
  | cs => (false, cs)

def takeDigits? (cs : List Char) : Option (List Char × List Char × List Char) :=
  let whole := cs.takeWhile isDecimalDigit
  match whole, cs.dropWhile isDecimalDigit with
  | [], '.' :: rest =>
      let fraction := rest.takeWhile isDecimalDigit
      if fraction.isEmpty then none else some ([], fraction, rest.dropWhile isDecimalDigit)
  | [], _ => none
  | _, '.' :: rest => some (whole, rest.takeWhile isDecimalDigit, rest.dropWhile isDecimalDigit)
  | _, rest => some (whole, [], rest)

def takeExponent : List Char → Bool × List Char
  | e :: rest =>
      if e = 'e' ∨ e = 'E' then
        let signed := takeSign rest
        (signed.1, signed.2.takeWhile isDecimalDigit)
      else (false, [])
  | [] => (false, [])

def ofChars? (cs : List Char) : Option LeadingNumeral := do
  let (negative, unsigned) := takeSign cs
  let (whole, fraction, rest) ← takeDigits? unsigned
  let (below, power) := takeExponent rest
  let exponent : Int := Number.naturalOf power
  if (whole ++ fraction ++ power).all Text.isAsciiDigit then
    return ⟨negative, ⟨whole, fraction, if below then -exponent else exponent⟩⟩
  else failure

def value (n : LeadingNumeral) : Float := Number.ofDecimal n.negative n.numeral.decimal

end LeadingNumeral

-- The number that a text starts with after white space, and zero where it starts with none. A
-- numeral with a digit that is not ASCII names no number.
def leadingNumber (s : String) : Float :=
  match LeadingNumeral.ofChars? (Text.trimStart s.toList) with
  | some numeral => numeral.value
  | none => 0

namespace Value

def isEmpty : Value → Bool
  | .empty => true
  | _ => false

def isBlank : Value → Bool
  | .empty => true
  | .text s => s.isEmpty
  | _ => false

def kindName : Value → String
  | .empty => "empty"
  | .number _ => "number"
  | .text _ => "string"
  | .boolean _ => "boolean"
  | .date _ => "date"

def toNumber : Value → Float
  | .number n => n
  | .boolean b => if b then 1 else 0
  | .date i => Number.ofInt i.milliseconds
  | .text s => leadingNumber s
  | .empty => 0

def toText : Value → String
  | .empty => ""
  | .number n => Number.text n
  | .text s => s
  | .boolean b => if b then "TRUE" else "FALSE"
  | .date i => i.text

def isTruthy : Value → Bool
  | .empty => false
  | .number n => n != 0 && !n.isNaN
  | .text s => !s.isEmpty
  | .boolean b => b
  | .date _ => true

def leastMilliseconds : Int := -(Number.twoTo 63)

def greatestMilliseconds : Int := Number.twoTo 63 - 1

-- The reading as an instant: numbers are milliseconds since 1970 and texts name an instant.
def toInstant? : Value → Option Instant
  | .date i => some i
  | .number n =>
      if n.isFinite then
        (Instant.ofMilliseconds
          (Number.truncateWithin leastMilliseconds greatestMilliseconds n)).inRange?
      else none
  | .text s => Instant.ofText? s
  | _ => none

-- Equality without coercion: values of two kinds differ, and so does not-a-number from itself.
def equals : Value → Value → Bool
  | .empty, .empty => true
  | .number a, .number b => a == b
  | .text a, .text b => a == b
  | .boolean a, .boolean b => a == b
  | .date a, .date b => a == b
  | _, _ => false

-- A count or an offset: the number without its fraction, and zero below one.
def toCount (v : Value) : Nat :=
  (Number.truncateWithin 0 (Number.twoTo 64 - 1) v.toNumber).toNat

end Value

end FormulaField
