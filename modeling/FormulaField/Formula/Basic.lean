import FormulaField.Value
import Std.Data.ExtTreeSet

set_option autoImplicit false

namespace FormulaField

abbrev Names := Std.ExtTreeSet String

def Names.ofList (names : List String) : Names := names.foldl (·.insert ·) ∅

inductive UnaryOperator where
  | negate
  | plus
  | not
deriving DecidableEq

inductive BinaryOperator where
  | add
  | subtract
  | multiply
  | divide
  | power
  | modulo
  | equal
  | notEqual
  | less
  | lessEqual
  | greater
  | greaterEqual
  | concat
deriving DecidableEq

def UnaryOperator.symbol : UnaryOperator → List Char
  | .negate => ['-']
  | .plus => ['+']
  | .not => ['!']

def BinaryOperator.symbol : BinaryOperator → List Char
  | .add => ['+']
  | .subtract => ['-']
  | .multiply => ['*']
  | .divide => ['/']
  | .power => ['^']
  | .modulo => ['%']
  | .equal => ['=']
  | .notEqual => ['!', '=']
  | .less => ['<']
  | .lessEqual => ['<', '=']
  | .greater => ['>']
  | .greaterEqual => ['>', '=']
  | .concat => ['&']

inductive Formula where
  | literal (v : Value)
  | field (name : String)
  | unary (op : UnaryOperator) (operand : Formula)
  | binary (op : BinaryOperator) (left right : Formula)
  | call (name : String) (args : List Formula)

namespace Formula

instance : Inhabited Formula := ⟨.literal .empty⟩

mutual

def fieldNames : Formula → List String
  | .literal _ => []
  | .field name => [name]
  | .unary _ operand => operand.fieldNames
  | .binary _ left right => left.fieldNames ++ right.fieldNames
  | .call _ args => fieldNamesAll args

def fieldNamesAll : List Formula → List String
  | [] => []
  | f :: rest => f.fieldNames ++ fieldNamesAll rest

end

def fields (f : Formula) : Names := Names.ofList f.fieldNames

mutual

-- Trees of one shape with equal literals. A literal that is not a number equals none.
def equals : Formula → Formula → Bool
  | .literal a, .literal b => a.equals b
  | .field a, .field b => a == b
  | .unary op a, .unary op' b => op == op' && a.equals b
  | .binary op a b, .binary op' c d => op == op' && a.equals c && b.equals d
  | .call name args, .call name' args' => name == name' && equalsAll args args'
  | _, _ => false

def equalsAll : List Formula → List Formula → Bool
  | [], [] => true
  | a :: as, b :: bs => a.equals b && equalsAll as bs
  | _, _ => false

end

end Formula

end FormulaField
