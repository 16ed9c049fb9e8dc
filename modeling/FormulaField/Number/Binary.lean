import FormulaField.Number.Power

/-!
Doubles as exact binary fractions. A finite double is `± significand * 2 ^ exponent`, and
`ofRatio` gives the double nearest to a ratio of natural numbers, ties to the even significand.
Remainder, truncation and rounding are computed on the exact fraction.
-/

set_option autoImplicit false

namespace FormulaField.Number

structure Parts where
  negative : Bool
  significand : Nat
  exponent : Int
deriving DecidableEq

def magnitude (x : Float) : Nat := x.toBits.toNat % twoTo 63

def isNegative (x : Float) : Bool := twoTo 63 ≤ x.toBits.toNat

def infiniteMagnitude : Nat := 2047 * twoTo 52

def ofMagnitude (negative : Bool) (bits : Nat) : Float :=
  Float.ofBits (UInt64.ofNat (if negative then bits + twoTo 63 else bits))

def infinity (negative : Bool) : Float := ofMagnitude negative infiniteMagnitude

def notANumber : Float := Float.ofBits 0x7ff8000000000000

def zero (negative : Bool) : Float := ofMagnitude negative 0

-- The fraction a finite double stands for. Subnormal numbers have no implied leading bit.
def parts (x : Float) : Parts :=
  let biased : Nat := magnitude x / twoTo 52
  let fraction : Nat := magnitude x % twoTo 52
  if biased = 0 then ⟨isNegative x, fraction, -1074⟩
  else ⟨isNegative x, fraction + twoTo 52, (biased : Int) - 1075⟩

def roundHalfEven (num den : Nat) : Nat :=
  let quotient := num / den
  let twice := 2 * (num % den)
  if twice < den then quotient
  else if den < twice then quotient + 1
  else if quotient % 2 = 0 then quotient else quotient + 1

def inUnits (num den : Nat) (exponent : Int) : Nat × Nat :=
  if 0 ≤ exponent then (num, den * twoTo exponent.toNat) else (num * twoTo (-exponent).toNat, den)

-- The power of two in whose units the significand of the ratio has 53 bits, or the smallest
-- power there is.
def unitExponent (num den : Nat) : Int :=
  let guess : Int := (num.log2 : Int) - den.log2 - 52
  let units := inUnits num den guess
  max (if units.1 / units.2 < twoTo 52 then guess - 1 else guess) (-1074)

-- The magnitude bits of the double nearest to `num / den`. A significand that rounds up to
-- `2 ^ 53` carries into the exponent by itself.
def nearestMagnitude (num den : Nat) : Nat :=
  if num = 0 then 0 else
    let exponent := unitExponent num den
    let units := inUnits num den exponent
    min ((exponent + 1074).toNat * twoTo 52 + roundHalfEven units.1 units.2) infiniteMagnitude

def ofRatio (negative : Bool) (num den : Nat) : Float :=
  ofMagnitude negative (nearestMagnitude num den)

def ofScaled (negative : Bool) (significand : Nat) (exponent : Int) : Float :=
  if 0 ≤ exponent then ofRatio negative (significand * twoTo exponent.toNat) 1
  else ofRatio negative significand (twoTo (-exponent).toNat)

def ofNat (n : Nat) : Float := ofRatio false n 1

def ofInt (i : Int) : Float := ofRatio (i < 0) i.natAbs 1

def truncatedAbs (x : Float) : Nat :=
  let p := parts x
  if 0 ≤ p.exponent then p.significand * twoTo p.exponent.toNat
  else p.significand / twoTo (-p.exponent).toNat

def roundedAbs (x : Float) : Nat :=
  let p := parts x
  if 0 ≤ p.exponent then p.significand * twoTo p.exponent.toNat
  else (2 * p.significand + twoTo (-p.exponent).toNat) / (2 * twoTo (-p.exponent).toNat)

def truncate (x : Float) : Int :=
  if isNegative x then -(truncatedAbs x : Int) else (truncatedAbs x : Int)

def roundHalfAway (x : Float) : Int :=
  if isNegative x then -(roundedAbs x : Int) else (roundedAbs x : Int)

def roundWhole (x : Float) : Float :=
  if x.isFinite then ofRatio (isNegative x) (roundedAbs x) 1 else x

def isWhole (x : Float) : Bool :=
  let p := parts x
  x.isFinite && (0 ≤ p.exponent || p.significand % twoTo (-p.exponent).toNat == 0)

def truncateWithin (low high : Int) (x : Float) : Int :=
  if x.isNaN then 0
  else if x.isFinite then max low (min high (truncate x))
  else if isNegative x then low else high

-- The remainder of truncated division. It is exact and has the sign of the dividend.
def remainder (x y : Float) : Float :=
  if x.isNaN || y.isNaN || !x.isFinite || y == 0 then notANumber
  else if !y.isFinite then x
  else
    let p := parts x
    let q := parts y
    let unit := min p.exponent q.exponent
    let dividend := p.significand * twoTo (p.exponent - unit).toNat
    let divisor := q.significand * twoTo (q.exponent - unit).toNat
    ofScaled p.negative (dividend % divisor) unit

-- Powers by repeated squaring from the lowest bit of the exponent up. The accumulated result
-- is rounded after each product.
def powerBySquaring (fuel : Nat) (base : Float) (exponent : Nat) (result : Float) : Float :=
  match fuel with
  | 0 => result
  | fuel + 1 =>
      let result := if exponent % 2 = 1 then result * base else result
      if exponent / 2 = 0 then result
      else powerBySquaring fuel (base * base) (exponent / 2) result

def wholePower (base : Float) (exponent : Int) : Float :=
  let power := powerBySquaring (exponent.natAbs + 1) base exponent.natAbs 1
  if exponent < 0 then 1 / power else power

end FormulaField.Number
