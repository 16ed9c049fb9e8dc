import FormulaField.Value

/-!
What functions take and give. The counts of arguments that a function admits follow from its
signature. Only functions without arguments see the current instant.
-/

set_option autoImplicit false

namespace FormulaField

open Calendar (Instant)

inductive EvaluationError where
  | unknownFunction (name : String)
  | divisionByZero
  | tooFewArguments (function : String) (least : Nat) (actual : Nat)
  | tooManyArguments (function : String) (most : Nat) (actual : Nat)
  | unknownDateUnit (name : String)
deriving DecidableEq

namespace EvaluationError

def message : EvaluationError → String
  | .unknownFunction name => "Unknown function: " ++ name
  | .divisionByZero => "Division by zero"
  | .tooFewArguments function least actual =>
      "Wrong number of arguments for " ++ function ++ ": expected at least " ++ toString least ++
        ", got " ++ toString actual
  | .tooManyArguments function most actual =>
      "Wrong number of arguments for " ++ function ++ ": expected at most " ++ toString most ++
        ", got " ++ toString actual
  | .unknownDateUnit name => "Invalid argument: unknown date unit '" ++ name ++ "'"

end EvaluationError

abbrev Outcome := Except EvaluationError Value

inductive Category where
  | math
  | logical
  | text
  | date
  | info
deriving DecidableEq

def Category.name : Category → String
  | .math => "Math"
  | .logical => "Logical"
  | .text => "Text"
  | .date => "Date"
  | .info => "Info"

inductive Signature where
  | nullary (apply : Instant → Value)
  | one (apply : Value → Outcome)
  | oneOrTwo (apply : Value → Option Value → Outcome)
  | two (apply : Value → Value → Outcome)
  | twoOrThree (apply : Value → Value → Option Value → Outcome)
  | three (apply : Value → Value → Value → Outcome)
  | variadic (apply : List Value → Outcome)
  | atLeastOne (apply : Value → List Value → Outcome)

namespace Signature

def least : Signature → Nat
  | .nullary _ => 0
  | .one _ => 1
  | .oneOrTwo _ => 1
  | .two _ => 2
  | .twoOrThree _ => 2
  | .three _ => 3
  | .variadic _ => 0
  | .atLeastOne _ => 1

def most? : Signature → Option Nat
  | .nullary _ => some 0
  | .one _ => some 1
  | .oneOrTwo _ => some 2
  | .two _ => some 2
  | .twoOrThree _ => some 3
  | .three _ => some 3
  | .variadic _ => none
  | .atLeastOne _ => none

def outcome? (now : Instant) : Signature → List Value → Option Outcome
  | .nullary f, [] => some (.ok (f now))
  | .one f, [a] => f a
  | .oneOrTwo f, [a] => f a none
  | .oneOrTwo f, [a, b] => f a (some b)
  | .two f, [a, b] => f a b
  | .twoOrThree f, [a, b] => f a b none
  | .twoOrThree f, [a, b, c] => f a b (some c)
  | .three f, [a, b, c] => f a b c
  | .variadic f, args => f args
  | .atLeastOne f, a :: args => f a args
  | _, _ => none

end Signature

structure Function where
  name : String
  category : Category
  signature : Signature

namespace Function

def countError? (f : Function) (count : Nat) : Option EvaluationError :=
  if count < f.signature.least then some (.tooFewArguments f.name f.signature.least count)
  else match f.signature.most? with
    | some most => if most < count then some (.tooManyArguments f.name most count) else none
    | none => none

def checkCount (f : Function) (count : Nat) : Except EvaluationError Unit :=
  match f.countError? count with
  | some e => .error e
  | none => .ok ()

def apply (f : Function) (now : Instant) (args : List Value) : Outcome := do
  f.checkCount args.length
  match f.signature.outcome? now args with
  | some outcome => outcome
  | none => .ok .empty

end Function

end FormulaField
