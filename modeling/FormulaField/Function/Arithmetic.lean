import FormulaField.Function.Signature

set_option autoImplicit false

namespace FormulaField.Arithmetic

def number (n : Float) : Outcome := .ok (.number n)

-- The sum from left to right. It starts from negative zero, the neutral element of addition.
def total (args : List Value) : Float :=
  args.foldl (fun sum v => sum + v.toNumber) (Number.zero true)

def average (args : List Value) : Float :=
  if args.isEmpty then Number.notANumber else total args / Number.ofNat args.length

-- The lesser of two numbers; what is not a number gives way, and of equals it is the last.
def lesser (a b : Float) : Float := if a.isNaN || b <= a then b else a

def greater (a b : Float) : Float := if a.isNaN || a <= b then b else a

def least (args : List Value) : Float :=
  args.foldl (fun m v => lesser m v.toNumber) (Number.infinity false)

def greatest (args : List Value) : Float :=
  args.foldl (fun m v => greater m v.toNumber) (Number.infinity true)

def places (decimals : Option Value) : Int :=
  match decimals with
  | some v => Number.truncateWithin (-(Number.twoTo 31)) (Number.twoTo 31 - 1) v.toNumber
  | none => 0

def round (n : Float) (decimals : Int) : Float :=
  let scale := Number.wholePower 10 decimals
  Number.roundWhole (n * scale) / scale

def power (base exponent : Float) : Float := Float.pow base exponent

def modulo (n divisor : Float) : Outcome :=
  if divisor == 0 then .error .divisionByZero else number (Number.remainder n divisor)

def divide (n divisor : Float) : Outcome :=
  if divisor == 0 then .error .divisionByZero else number (n / divisor)

def functions : List Function := [
  ⟨"SUM", .math, .variadic fun args => number (total args)⟩,
  ⟨"AVG", .math, .variadic fun args => number (average args)⟩,
  ⟨"MIN", .math, .atLeastOne fun first others => number (least (first :: others))⟩,
  ⟨"MAX", .math, .atLeastOne fun first others => number (greatest (first :: others))⟩,
  ⟨"ROUND", .math, .oneOrTwo fun v decimals => number (round v.toNumber (places decimals))⟩,
  ⟨"ABS", .math, .one fun v => number v.toNumber.abs⟩,
  ⟨"SQRT", .math, .one fun v => number v.toNumber.sqrt⟩,
  ⟨"POWER", .math, .two fun v exponent => number (power v.toNumber exponent.toNumber)⟩,
  ⟨"MOD", .math, .two fun v divisor => modulo v.toNumber divisor.toNumber⟩]

end FormulaField.Arithmetic
