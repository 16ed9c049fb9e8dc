import FormulaField.Formula.Basic

/-!
The canonical text of a formula: every operation in parentheses, strings in double quotes with a
backslash before quotes and backslashes.
-/

set_option autoImplicit false

namespace FormulaField.Formula

def escaped (cs : List Char) : List Char :=
  cs.flatMap fun c => if c = '"' ∨ c = '\\' then ['\\', c] else [c]

def literalChars : Value → List Char
  | .text s => '"' :: escaped s.toList ++ ['"']
  | v => v.toText.toList

mutual

def chars : Formula → List Char
  | .literal v => literalChars v
  | .field name => '{' :: name.toList ++ ['}']
  | .unary op operand => op.symbol ++ operand.chars
  | .binary op left right =>
      '(' :: left.chars ++ ' ' :: op.symbol ++ ' ' :: right.chars ++ [')']
  | .call name args => name.toList ++ '(' :: argumentChars args ++ [')']

def argumentChars : List Formula → List Char
  | [] => []
  | [f] => f.chars
  | f :: rest => f.chars ++ ',' :: ' ' :: argumentChars rest

end

def text (f : Formula) : String := String.ofList f.chars

end FormulaField.Formula
