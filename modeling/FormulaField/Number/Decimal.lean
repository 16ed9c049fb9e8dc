import FormulaField.Number.Binary

/-!
Decimals: reading digits into the nearest double, and choosing the decimal that stands for a
double in text. `shortest` gives the fewest digits that read back, and among those the decimal
nearest to the exact value.
-/

set_option autoImplicit false

namespace FormulaField.Number

structure Decimal where
  coefficient : Nat
  exponent : Int
deriving DecidableEq

def isDigit (c : Char) : Bool := '0' ≤ c && c ≤ '9'

def digitValue (c : Char) : Nat := c.toNat - '0'.toNat

def naturalOf (digits : List Char) : Nat := digits.foldl (fun n c => 10 * n + digitValue c) 0

def digits (n : Nat) : List Char := Nat.toDigits 10 n

-- The double nearest to a decimal. A positive decimal whose exponent alone puts it past the
-- largest or below the smallest double is decided without forming the power of ten.
def ofDecimal (negative : Bool) (d : Decimal) : Float :=
  if d.coefficient = 0 then zero negative
  else if 400 < d.exponent then infinity negative
  else if d.exponent < -((d.coefficient.log2 : Int) + 1100) then zero negative
  else if 0 ≤ d.exponent then ofRatio negative (d.coefficient * tenTo d.exponent.toNat) 1
  else ofRatio negative d.coefficient (tenTo (-d.exponent).toNat)

structure Numeral where
  whole : List Char
  fraction : List Char
  exponent : Int
deriving DecidableEq

def Numeral.decimal (n : Numeral) : Decimal :=
  ⟨naturalOf (n.whole ++ n.fraction), n.exponent - n.fraction.length⟩

def Numeral.value (n : Numeral) : Float := ofDecimal false n.decimal

def ratio (x : Float) : Nat × Nat :=
  let p := parts x
  if 0 ≤ p.exponent then (p.significand * twoTo p.exponent.toNat, 1)
  else (p.significand, twoTo (-p.exponent).toNat)

def inTens (num den : Nat) (exponent : Int) : Nat × Nat :=
  if 0 ≤ exponent then (num, den * tenTo exponent.toNat) else (num * tenTo (-exponent).toNat, den)

-- The least `k` with `num / den < 10 ^ k`, found from an estimate by the sizes in bits.
def decimalPoint (num den : Nat) : Int :=
  let estimate : Int := (((num.log2 : Int) - den.log2 - 1) * 30103) / 100000
  climb 4 estimate
where
  climb : Nat → Int → Int
    | 0, k => k
    | fuel + 1, k =>
        let scaled := inTens num den k
        if scaled.1 < scaled.2 then k else climb fuel (k + 1)

inductive Tie where
  | upper
  | even
deriving DecidableEq

def Tie.pick (tie : Tie) (lower : Nat) : Nat :=
  match tie with
  | .upper => lower + 1
  | .even => if lower % 2 = 0 then lower else lower + 1

-- The decimal in units of `10 ^ exponent` that reads back as the double, if there is one; of
-- two the nearer.
def readingBack? (tie : Tie) (x : Float) (exponent : Int) : Option Decimal :=
  let exact := ratio x
  let scaled := inTens exact.1 exact.2 exponent
  let lower := scaled.1 / scaled.2
  let twice := 2 * (scaled.1 % scaled.2)
  let reads (n : Nat) : Bool := magnitude (ofDecimal false ⟨n, exponent⟩) == magnitude x
  match reads lower, reads (lower + 1) with
  | true, true =>
      if twice < scaled.2 then some ⟨lower, exponent⟩
      else if scaled.2 < twice then some ⟨lower + 1, exponent⟩
      else some ⟨tie.pick lower, exponent⟩
  | true, false => some ⟨lower, exponent⟩
  | false, true => some ⟨lower + 1, exponent⟩
  | false, false => none

def exactDecimal (x : Float) : Decimal :=
  let p := parts x
  if 0 ≤ p.exponent then ⟨p.significand * twoTo p.exponent.toNat, 0⟩
  else ⟨p.significand * fiveTo (-p.exponent).toNat, p.exponent⟩

def shortestFrom (tie : Tie) (x : Float) : Nat → Int → Decimal
  | 0, _ => exactDecimal x
  | more + 1, exponent =>
      match readingBack? tie x exponent with
      | some d => d
      | none => shortestFrom tie x more (exponent - 1)

-- The shortest decimal that reads back as the magnitude of a finite double. The search starts
-- at the power of ten above the value, which stands for it when it rounds up to one.
def shortest (tie : Tie) (x : Float) : Decimal :=
  let exact := ratio x
  if exact.1 = 0 then ⟨0, 0⟩ else shortestFrom tie x 18 (decimalPoint exact.1 exact.2)

end FormulaField.Number
