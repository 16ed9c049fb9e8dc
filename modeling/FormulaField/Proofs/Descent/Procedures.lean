import FormulaField.Proofs.Descent.Program
import FormulaField.Proofs.Safety.Texts

/-!
The procedures that read a formula, over one text and one place in it. They look at the text only by cutting it at
bytes, count the open levels up and down, and repeat their loops until these end by themselves; the levels of nesting
of a chain are given back by its saved depth, those of everything else one by one.
-/

set_option autoImplicit false

namespace FormulaField.Descent

open Guarded (splitAtByte? minus? occurrenceByte?)
open Program (given get put loop call)

def fail {α : Type} (e : Nat → ParseError) : Program α := do
  let here ← get
  Program.fail (e here.position)

def moveBy (bytes : Nat) : Program Unit := do
  let here ← get
  put { here with position := here.position + bytes }

def descend : Program Unit := do
  let here ← get
  if Parser.maxDepth ≤ here.depth then Program.fail (.tooDeeplyNested here.position)
  else put { here with depth := here.depth + 1 }

-- Nothing is left of a level that is not open.
def ascend : Program Unit := do
  let here ← get
  let less ← given (minus? here.depth 1)
  put { here with depth := less }

section

variable (text : String)

def rest : Program (List Char) := do
  let here ← get
  let parts ← given (splitAtByte? here.position text.toList)
  return parts.2

def readSince (start : Nat) : Program (List Char) := do
  let here ← get
  let length ← given (minus? here.position start)
  let behind ← given (splitAtByte? start text.toList)
  let parts ← given (splitAtByte? length behind.2)
  return parts.1

def peek : Program (Option Char) := do
  let cs ← rest text
  return cs.head?

def advance : Program Unit := do
  match ← peek text with
  | some c => moveBy c.utf8Size
  | none => return ()

def skipTurn (test : Char → Bool) (_ : Unit) : Program (Unit ⊕ Unit) := do
  let next ← peek text
  if next.any test then do
    advance text
    return .inl ()
  else return .inr ()

def skip (test : Char → Bool) : Program Unit := loop (skipTurn text test) ()

def eat (symbol : List Char) : Program Bool := do
  skip text Text.isWhite
  let cs ← rest text
  if symbol.isPrefixOf cs then do
    moveBy (byteLength symbol)
    return true
  else return false

def eatFirst {α : Type} : List (List Char × α) → Program (Option α)
  | [] => return none
  | (symbol, result) :: others => do
      let taken ← eat text symbol
      if taken then return some result else eatFirst others

def closingParen : Program Unit := do
  let taken ← eat text [')']
  if taken then return () else fail .expectedClosingParen

def atFraction (cs : List Char) : Program Bool :=
  if ['.'].isPrefixOf cs then do
    let parts ← given (splitAtByte? 1 cs)
    return parts.2.head?.any Number.isDigit
  else return false

def fraction : Program Unit := do
  let cs ← rest text
  let more ← atFraction cs
  if more then do
    advance text
    skip text Number.isDigit
  else return ()

def number : Program Formula := do
  let start ← get
  skip text Number.isDigit
  fraction text
  let digits ← readSince text start.position
  return .literal (.number (Parser.numeral digits).1.value)

def stringTurn (quote : Char) (start : Nat) (content : List Char) : Program (List Char ⊕ List Char) := do
  match ← peek text with
  | none => Program.fail (.unterminatedString start)
  | some c =>
      if c = '\\' then do
        advance text
        match ← peek text with
        | some hidden => do
            advance text
            return .inl (content ++ [hidden])
        | none => Program.fail (.unterminatedString start)
      else do
        advance text
        if c = quote then return .inr content else return .inl (content ++ [c])

def string (quote : Char) : Program Formula := do
  let start ← get
  advance text
  let content ← loop (stringTurn text quote start.position) []
  return .literal (.text (String.ofList content))

def note (name : String) : Program Unit := do
  let here ← get
  put { here with dependencies := here.dependencies.insert name }

def fieldReference : Program Formula := do
  let start ← get
  advance text
  let inside ← rest text
  match occurrenceByte? ['}'] inside with
  | none => Program.fail (.unterminatedFieldReference start.position)
  | some close => do
      let parts ← given (splitAtByte? close inside)
      let name := String.ofList (Text.trim parts.1)
      moveBy (close + 1)
      note name
      return .field name

def word (name : List Char) (start : Nat) : Program Formula :=
  if Text.upper name = ['T', 'R', 'U', 'E'] then return .literal (.boolean true)
  else if Text.upper name = ['F', 'A', 'L', 'S', 'E'] then return .literal (.boolean false)
  else Program.fail (.unexpectedIdentifier (String.ofList name) start)

def identifier : Program Formula := do
  let start ← get
  skip text Parser.isNameCharacter
  let name ← readSince text start.position
  let next ← peek text
  if next = some '(' then do
    advance text
    call (.arguments (String.ofList (Text.upper name)))
  else word name start.position

def group : Program Formula := do
  advance text
  descend
  let content ← call (.chain .comparisons)
  closingParen text
  ascend
  return content

def primary : Program Formula := do
  skip text Text.isWhite
  match ← peek text with
  | none => Program.fail .unexpectedEnd
  | some c =>
      if Number.isDigit c then number text
      else if c = '"' ∨ c = '\'' then string text c
      else if c = '{' then fieldReference text
      else if c = '(' then group text
      else if Text.isAlphabetic c || c == '_' then identifier text
      else fail (.unexpectedCharacter c)

def unary : Program Formula := do
  match ← eatFirst text Parser.unaryOperators with
  | some op => do
      descend
      let operand ← call .unary
      ascend
      return .unary op operand
  | none => call .primary

def power : Program Formula := do
  let left ← call .unary
  let raised ← eat text ['^']
  if raised then do
    descend
    let right ← call .power
    ascend
    return .binary .power left right
  else return left

def operand : Chain → Procedure
  | .products => .power
  | .sums => .chain .products
  | .comparisons => .chain .sums

def chainTurn (kind : Chain) (left : Formula) : Program (Formula ⊕ Formula) := do
  match ← eatFirst text kind.operators with
  | some op => do
      descend
      let right ← call (operand kind)
      return .inl (.binary op left right)
  | none => return .inr left

def chain (kind : Chain) : Program Formula := do
  let base ← get
  let left ← call (operand kind)
  let whole ← loop (chainTurn text kind) left
  let here ← get
  put { here with depth := base.depth }
  return whole

def argumentTurn (args : List Formula) : Program (List Formula ⊕ List Formula) := do
  let item ← call (.chain .comparisons)
  let more ← eat text [',']
  if more then return .inl (args ++ [item])
  else do
    closingParen text
    return .inr (args ++ [item])

def arguments (name : String) : Program Formula := do
  let none ← eat text [')']
  if none then return .call name []
  else do
    descend
    let args ← loop (argumentTurn text) []
    ascend
    return .call name args

def body : Procedure → Program Formula
  | .chain kind => chain text kind
  | .power => power text
  | .unary => unary text
  | .primary => primary text
  | .arguments name => arguments text name

def formula : Program Formula := do
  let f ← call (.chain .comparisons)
  skip text Text.isWhite
  match ← peek text with
  | none => return f
  | some c => fail (.unexpectedCharacter c)

def start : Config := ⟨⟨0, 0, ∅⟩, formula text, .empty⟩

end

end FormulaField.Descent
