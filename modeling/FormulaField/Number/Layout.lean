import FormulaField.Number.Decimal

set_option autoImplicit false

namespace FormulaField.Number

def sign (negative : Bool) : List Char := if negative then ['-'] else []

def pointBefore (places : Nat) (ds : List Char) : List Char :=
  if places = 0 then ds
  else
    let padded := List.replicate (places + 1 - ds.length) '0' ++ ds
    let whole := padded.length - places
    padded.take whole ++ '.' :: padded.drop whole

def positional (d : Decimal) : List Char :=
  if 0 ≤ d.exponent then digits (d.coefficient * tenTo d.exponent.toNat)
  else pointBefore (-d.exponent).toNat (digits d.coefficient)

def scientific (d : Decimal) : List Char :=
  let ds := digits d.coefficient
  let power := d.exponent + ds.length - 1
  let mantissa := match ds with
    | first :: second :: rest => first :: '.' :: second :: rest
    | short => short
  mantissa ++ 'e' :: (if power < 0 then '-' else '+') :: digits power.natAbs

-- Exactly `places` digits after the point, the exact value rounded with a half to even. A
-- minus stands before every number with the sign bit, also before zero.
def fixed (places : Nat) (x : Float) : List Char :=
  sign (isNegative x) ++
    if x.isFinite then
      let exact := ratio x
      pointBefore places (digits (roundHalfEven (exact.1 * tenTo places) exact.2))
    else if x.isNaN then "NaN".toList else "inf".toList

-- Whole numbers below this bound are written with all their digits and no sign on zero.
def wholeTextBound : Nat := tenTo 15

-- The text of a number in formulas: whole numbers as integers, all others with the fewest
-- digits that read back, never with a power of ten. A tie between two shortest forms goes up.
def chars (x : Float) : List Char :=
  if x.isNaN then "NaN".toList
  else if !x.isFinite then sign (isNegative x) ++ "Infinity".toList
  else if isWhole x && truncatedAbs x < wholeTextBound then
    sign (isNegative x && truncatedAbs x != 0) ++ digits (truncatedAbs x)
  else sign (isNegative x) ++ positional (shortest .upper x)

def text (x : Float) : String := String.ofList (chars x)

-- The text of a finite double in a JSON document: at least one decimal from `10⁻⁵` up to
-- below `10¹⁶`, otherwise a signed power of ten. A tie between two shortest forms goes to the even
-- digit.
def documentChars (x : Float) : List Char :=
  let d := shortest .even x
  let point := d.exponent + (digits d.coefficient).length
  sign (isNegative x) ++
    if d.coefficient = 0 then "0.0".toList
    else if -5 < point ∧ point ≤ 16 then
      if 0 ≤ d.exponent then positional d ++ ".0".toList else positional d
    else scientific d

end FormulaField.Number
