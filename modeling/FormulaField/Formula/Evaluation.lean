import FormulaField.Formula.Basic
import FormulaField.Function.Table
import FormulaField.Record

/-!
The value of a formula in a context. Operands and arguments are evaluated from left to right
before the operation, and the first error is the result.
-/

set_option autoImplicit false

namespace FormulaField

open Calendar (Instant)

-- What a formula is evaluated against. Without a resolver the latest observation of a cell
-- counts.
structure Context where
  record : Record
  resolver : Option Resolver
  view : View
  now : Instant

namespace Context

def fieldValue (context : Context) (name : String) : Value :=
  match context.record[name]? with
  | none => .empty
  | some (.value v) => v
  | some (.cell cell) => (context.resolver.getD Cell.mostRecent) cell context.view

end Context

def UnaryOperator.apply (op : UnaryOperator) (v : Value) : Value :=
  match op with
  | .negate => .number (-v.toNumber)
  | .plus => .number v.toNumber
  | .not => .boolean !v.isTruthy

def BinaryOperator.apply (op : BinaryOperator) (a b : Value) : Outcome :=
  match op with
  | .add => Arithmetic.number (a.toNumber + b.toNumber)
  | .subtract => Arithmetic.number (a.toNumber - b.toNumber)
  | .multiply => Arithmetic.number (a.toNumber * b.toNumber)
  | .divide => Arithmetic.divide a.toNumber b.toNumber
  | .modulo => Arithmetic.modulo a.toNumber b.toNumber
  | .power => Arithmetic.number (Arithmetic.power a.toNumber b.toNumber)
  | .equal => .ok (.boolean (a.equals b))
  | .notEqual => .ok (.boolean !a.equals b)
  | .less => .ok (.boolean (a.toNumber < b.toNumber))
  | .lessEqual => .ok (.boolean (a.toNumber ≤ b.toNumber))
  | .greater => .ok (.boolean (b.toNumber < a.toNumber))
  | .greaterEqual => .ok (.boolean (b.toNumber ≤ a.toNumber))
  | .concat => .ok (.text (a.toText ++ b.toText))

mutual

def evaluate (context : Context) : Formula → Outcome
  | .literal v => .ok v
  | .field name => .ok (context.fieldValue name)
  | .unary op operand => do
      let v ← evaluate context operand
      return op.apply v
  | .binary op left right => do
      let a ← evaluate context left
      let b ← evaluate context right
      op.apply a b
  | .call name args =>
      match Function.named? name with
      | none => .error (.unknownFunction name)
      | some function => do
          function.checkCount args.length
          let values ← evaluateAll context args
          function.apply context.now values

def evaluateAll (context : Context) : List Formula → Except EvaluationError (List Value)
  | [] => .ok []
  | f :: rest => do
      let v ← evaluate context f
      let values ← evaluateAll context rest
      return v :: values

end

end FormulaField
