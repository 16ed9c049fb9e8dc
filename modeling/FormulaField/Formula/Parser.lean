import FormulaField.Formula.Basic
import FormulaField.Formula.Cursor
import FormulaField.Number.Decimal
import FormulaField.Text.Case

/-!
Reading formulas. From the loosest to the tightest binding there are comparisons, sums, products,
powers and signs; powers group to the right, the chains of the other binary operators to the left.

A formula may be nested only so deep, and a parser is built for each number of levels that are
left: groups, arguments, right sides and signs are read by the parsers for one level less, and so
is the rest of a chain after each of its operators.
-/

set_option autoImplicit false

namespace FormulaField

namespace Parser

open Text (isAlphabetic isAlphanumeric)

def maxDepth : Nat := 256

def comparisonOperators : List (List Char × BinaryOperator) :=
  [(['<', '='], .lessEqual), (['>', '='], .greaterEqual), (['!', '='], .notEqual),
    (['<'], .less), (['>'], .greater), (['='], .equal)]

def additiveOperators : List (List Char × BinaryOperator) :=
  [(['+'], .add), (['-'], .subtract), (['&'], .concat)]

def multiplicativeOperators : List (List Char × BinaryOperator) :=
  [(['*'], .multiply), (['/'], .divide), (['%'], .modulo)]

def unaryOperators : List (List Char × UnaryOperator) :=
  [(['-'], .negate), (['+'], .plus), (['!'], .not)]

structure Level where
  unary : Parser Formula
  power : Parser Formula
  factors : Formula → Parser Formula
  product : Parser Formula
  terms : Formula → Parser Formula
  sum : Parser Formula
  comparisons : Formula → Parser Formula
  comparison : Parser Formula

def descend (inner : Option Level) : Parser Level :=
  match inner with
  | some level => return level
  | none => do throw (.tooDeeplyNested (← position))

def closingParen : Parser Unit := do
  if ← eat [')'] then return () else throw (.expectedClosingParen (← position))

def numeral (cs : List Char) : Number.Numeral × Nat :=
  let whole := cs.takeWhile Number.isDigit
  match cs.drop whole.length with
  | '.' :: rest =>
      let fraction := rest.takeWhile Number.isDigit
      if fraction.isEmpty then (⟨whole, [], 0⟩, whole.length)
      else (⟨whole, fraction, 0⟩, whole.length + 1 + fraction.length)
  | _ => (⟨whole, [], 0⟩, whole.length)

def number : Parser Formula := do
  let (n, length) := numeral (← rest)
  advance length
  return .literal (.number n.value)

-- The content of a string up to its closing quote, and how many characters that takes with the
-- quote. A backslash takes the next character as it is.
def quoted? (quote : Char) : List Char → Option (List Char × Nat)
  | [] => none
  | '\\' :: [] => none
  | '\\' :: c :: cs => (quoted? quote cs).map fun r => (c :: r.1, r.2 + 2)
  | c :: cs =>
      if c = quote then some ([], 1) else (quoted? quote cs).map fun r => (c :: r.1, r.2 + 1)

def string (quote : Char) : Parser Formula := do
  match quoted? quote ((← rest).drop 1) with
  | some (content, length) =>
      advance (length + 1)
      return .literal (.text (String.ofList content))
  | none => throw (.unterminatedString (← position))

-- A reference reaches to the first closing brace; white space around the name is dropped.
def fieldReference : Parser Formula := do
  let inside := (← rest).drop 1
  let content := inside.takeWhile (· != '}')
  if content.length < inside.length then
    let name := String.ofList (Text.trim content)
    advance (content.length + 2)
    modify fun c => { c with reads := name :: c.reads }
    return .field name
  else throw (.unterminatedFieldReference (← position))

def isNameCharacter (c : Char) : Bool := isAlphanumeric c || c == '_'

-- One or more items with commas between them and a closing parenthesis after them. An item
-- takes at least a character, so as many as there are characters left are enough.
def argumentList (item : Parser Formula) : Nat → Parser (List Formula)
  | 0 => throw .unexpectedEnd
  | more + 1 => do
      let first ← item
      if ← eat [','] then return first :: (← argumentList item more)
      else
        closingParen
        return [first]

def arguments (inner : Option Level) : Parser (List Formula) := do
  if ← eat [')'] then return []
  else
    let level ← descend inner
    argumentList level.comparison ((← rest).length + 1)

def identifier (inner : Option Level) : Parser Formula := do
  let start ← position
  let name := (← rest).takeWhile isNameCharacter
  advance name.length
  let upper := Text.upper name
  match ← rest with
  | '(' :: _ =>
      advance 1
      return .call (String.ofList upper) (← arguments inner)
  | _ =>
      if upper = ['T', 'R', 'U', 'E'] then return .literal (.boolean true)
      else if upper = ['F', 'A', 'L', 'S', 'E'] then return .literal (.boolean false)
      else throw (.unexpectedIdentifier (String.ofList name) start)

def group (inner : Option Level) : Parser Formula := do
  advance 1
  let level ← descend inner
  let content ← level.comparison
  closingParen
  return content

def primary (inner : Option Level) : Parser Formula := do
  skipWhite
  match ← rest with
  | [] => throw .unexpectedEnd
  | c :: _ =>
      if Number.isDigit c then number
      else if c = '"' ∨ c = '\'' then string c
      else if c = '{' then fieldReference
      else if c = '(' then group inner
      else if isAlphabetic c || c == '_' then identifier inner
      else unexpected c

def unary (inner : Option Level) : Parser Formula := do
  match ← eatFirst unaryOperators with
  | some op =>
      let level ← descend inner
      return .unary op (← level.unary)
  | none => primary inner

def power (inner : Option Level) : Parser Formula := do
  let left ← unary inner
  if ← eat ['^'] then
    let level ← descend inner
    return .binary .power left (← level.power)
  else return left

-- The rest of a chain after its left part: each operator takes a right operand one level down.
def chain (operators : List (List Char × BinaryOperator)) (inner : Option Level)
    (operand : Level → Parser Formula) (continued : Level → Formula → Parser Formula)
    (left : Formula) : Parser Formula := do
  match ← eatFirst operators with
  | some op =>
      let level ← descend inner
      let right ← operand level
      continued level (.binary op left right)
  | none => return left

def factors (inner : Option Level) : Formula → Parser Formula :=
  chain multiplicativeOperators inner Level.power Level.factors

def product (inner : Option Level) : Parser Formula := do factors inner (← power inner)

def terms (inner : Option Level) : Formula → Parser Formula :=
  chain additiveOperators inner Level.product Level.terms

def sum (inner : Option Level) : Parser Formula := do terms inner (← product inner)

def comparisons (inner : Option Level) : Formula → Parser Formula :=
  chain comparisonOperators inner Level.sum Level.comparisons

def comparison (inner : Option Level) : Parser Formula := do comparisons inner (← sum inner)

def Level.over (inner : Option Level) : Level where
  unary := Parser.unary inner
  power := Parser.power inner
  factors := Parser.factors inner
  product := Parser.product inner
  terms := Parser.terms inner
  sum := Parser.sum inner
  comparisons := Parser.comparisons inner
  comparison := Parser.comparison inner

def level : Nat → Level
  | 0 => .over none
  | n + 1 => .over (some (level n))

def formula : Parser Formula := do
  let f ← (level maxDepth).comparison
  skipWhite
  match ← rest with
  | [] => return f
  | c :: _ => unexpected c

end Parser

-- The outcome of reading a formula. The dependencies are the references that were met, up to
-- the error if there is one.
structure Parsed where
  result : Except ParseError Formula
  dependencies : Names

def parseChars (cs : List Char) : Parsed :=
  match Parser.formula.run (Cursor.start cs) with
  | .ok f c => ⟨.ok f, Names.ofList c.reads⟩
  | .error e c => ⟨.error e, Names.ofList c.reads⟩

def parse (s : String) : Parsed := parseChars s.toList

def Parsed.isValid (p : Parsed) : Bool := p.result.isOk

end FormulaField
