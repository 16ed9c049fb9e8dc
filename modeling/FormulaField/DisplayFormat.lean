import FormulaField.Text.Case
import FormulaField.Value

/-!
Display formats: how the value of a field is shown. A value that a format does not fit is shown
as its text, and an empty value as nothing.
-/

set_option autoImplicit false

namespace FormulaField

inductive DisplayFormat where
  | number
  | currency
  | percentage
  | date
  | datetime
  | text
deriving DecidableEq

structure UnknownFormat where
  name : String
deriving DecidableEq

def UnknownFormat.message (e : UnknownFormat) : String := "Invalid display format: " ++ e.name

namespace DisplayFormat

instance : Inhabited DisplayFormat := ⟨.number⟩

def name : DisplayFormat → String
  | .number => "number"
  | .currency => "currency"
  | .percentage => "percentage"
  | .date => "date"
  | .datetime => "datetime"
  | .text => "text"

def all : List DisplayFormat := [.number, .currency, .percentage, .date, .datetime, .text]

def named? (s : String) : Option DisplayFormat := all.find? (·.name = s)

-- The format that a user names: without regard to ASCII case and surrounding white space, and
-- `percent` is short for `percentage`.
def ofText (s : String) : Except UnknownFormat DisplayFormat :=
  let plain := String.ofList (Text.asciiLower (Text.trim s.toList))
  match if plain = "percent" then some percentage else named? plain with
  | some format => .ok format
  | none => .error ⟨s⟩

def maxDecimals : Nat := 100

-- A comma before every digit of the whole part that has a multiple of three digits from it to
-- the point, except before the first.
def groupDigits : List Char → List Char
  | [] => []
  | c :: rest =>
      if rest.length % 3 = 0 ∧ rest ≠ [] then c :: ',' :: groupDigits rest
      else c :: groupDigits rest

def groupThousands (cs : List Char) : List Char :=
  groupDigits (cs.takeWhile (· != '.')) ++ cs.dropWhile (· != '.')

def showNumber (format : DisplayFormat) (decimals : Nat) (n : Float) : List Char :=
  match format with
  | .currency =>
      Number.sign (n < 0) ++ '$' :: groupThousands (Number.fixed decimals n.abs)
  | .percentage => Number.fixed decimals (n * 100) ++ ['%']
  | _ => Number.fixed decimals n

def display (format : DisplayFormat) (decimals : Nat) (v : Value) : String :=
  let decimals := min decimals maxDecimals
  match format, v with
  | _, .empty => ""
  | .number, .number n =>
      if n.isFinite then String.ofList (showNumber .number decimals n) else v.toText
  | .currency, .number n =>
      if n.isFinite then String.ofList (showNumber .currency decimals n) else v.toText
  | .percentage, .number n =>
      if n.isFinite then String.ofList (showNumber .percentage decimals n) else v.toText
  | .date, v => match v.toInstant? with
      | some i => i.dateText
      | none => v.toText
  | .datetime, v => match v.toInstant? with
      | some i => i.dateTimeText
      | none => v.toText
  | _, v => v.toText

end DisplayFormat

end FormulaField
