import FormulaField.Proofs.Formula.Runs

/-!
The grammar of formulas, with the number of levels of nesting that are left to a phrase. Signs,
groups, lists of arguments, right sides of powers and the operators of a chain take one level each.
-/

set_option autoImplicit false

namespace FormulaField

open Number (Numeral)

-- The chains of binary operators that group to the left, from the tightest to the loosest.
inductive Chain where
  | products
  | sums
  | comparisons

inductive Phrase where
  | unary (f : Formula)
  | power (f : Formula)
  | chain (kind : Chain) (f : Formula)
  -- What follows the left part of a chain, from the first operator on.
  | rest (kind : Chain) (left f : Formula)
  | items (fs : List Formula)

namespace Chain

def operators : Chain → List (List Char × BinaryOperator)
  | .products => Parser.multiplicativeOperators
  | .sums => Parser.additiveOperators
  | .comparisons => Parser.comparisonOperators

def operand : Chain → Formula → Phrase
  | .products => .power
  | .sums => .chain .products
  | .comparisons => .chain .sums

def operandAt : Chain → Parser.Level → Parser Formula
  | .products => Parser.Level.power
  | .sums => Parser.Level.product
  | .comparisons => Parser.Level.sum

def restAt : Chain → Parser.Level → Formula → Parser Formula
  | .products => Parser.Level.factors
  | .sums => Parser.Level.terms
  | .comparisons => Parser.Level.comparisons

def parserAt : Chain → Parser.Level → Parser Formula
  | .products => Parser.Level.product
  | .sums => Parser.Level.sum
  | .comparisons => Parser.Level.comparison

theorem rest_over (kind : Chain) (inner : Option Parser.Level) (left : Formula) :
    kind.restAt (.over inner) left = Parser.chain kind.operators inner kind.operandAt kind.restAt left := by
  cases kind <;> rfl

theorem parser_over (kind : Chain) (inner : Option Parser.Level) :
    kind.parserAt (.over inner) = kind.operandAt (.over inner) >>= kind.restAt (.over inner) := by
  cases kind <;> rfl

end Chain

structure IsNumeral (n : Numeral) : Prop where
  nonempty : n.whole ≠ []
  whole : ∀ c ∈ n.whole, Number.isDigit c = true
  fraction : ∀ c ∈ n.fraction, Number.isDigit c = true
  plain : n.exponent = 0

def numeralChars (n : Numeral) : List Char :=
  n.whole ++ match n.fraction with
    | [] => []
    | c :: rest => '.' :: c :: rest

inductive Quoted (quote : Char) : List Char → List Char → Prop where
  | close : Quoted quote [] [quote]
  | hidden (c : Char) (content cs : List Char) (rest : Quoted quote content cs) :
      Quoted quote (c :: content) ('\\' :: c :: cs)
  | plain (c : Char) (content cs : List Char) (notQuote : c ≠ quote) (notHiding : c ≠ '\\')
      (rest : Quoted quote content cs) : Quoted quote (c :: content) (c :: cs)

def startsName (c : Char) : Bool := Text.isAlphabetic c || c == '_'

structure IsName (cs : List Char) : Prop where
  start : ∃ c rest, cs = c :: rest ∧ startsName c = true
  inside : ∀ c ∈ cs, Parser.isNameCharacter c = true

theorem name_of_all (c : Char) (rest : List Char) (starts : startsName c = true)
    (inside : (c :: rest).all Parser.isNameCharacter = true) : IsName (c :: rest) :=
  ⟨⟨c, rest, rfl, starts⟩, List.all_eq_true.mp inside⟩

def booleanWord (b : Bool) : List Char := if b then ['T', 'R', 'U', 'E'] else ['F', 'A', 'L', 'S', 'E']

inductive Written : Nat → Phrase → List Char → Prop where
  | spaced (n : Nat) (f : Formula) (white cs : List Char) (isWhite : White white)
      (inner : Written n (.unary f) cs) : Written n (.unary f) (white ++ cs)
  | number (n : Nat) (numeral : Numeral) (proper : IsNumeral numeral) :
      Written n (.unary (.literal (.number numeral.value))) (numeralChars numeral)
  | string (n : Nat) (quote : Char) (content cs : List Char) (isQuote : quote = '"' ∨ quote = '\'')
      (quoted : Quoted quote content cs) :
      Written n (.unary (.literal (.text (String.ofList content)))) (quote :: cs)
  | field (n : Nat) (content : List Char) (unclosed : '}' ∉ content) :
      Written n (.unary (.field (String.ofList (Text.trim content)))) ('{' :: content ++ ['}'])
  | boolean (n : Nat) (b : Bool) (name : List Char) (isName : IsName name)
      (word : Text.upper name = booleanWord b) : Written n (.unary (.literal (.boolean b))) name
  | callEmpty (n : Nat) (name white : List Char) (isName : IsName name) (isWhite : White white) :
      Written n (.unary (.call (String.ofList (Text.upper name)) [])) (name ++ '(' :: white ++ [')'])
  | call (n : Nat) (name : List Char) (fs : List Formula) (cs : List Char) (isName : IsName name)
      (items : Written n (.items fs) cs) :
      Written (n + 1) (.unary (.call (String.ofList (Text.upper name)) fs)) (name ++ '(' :: cs)
  | group (n : Nat) (f : Formula) (cs white : List Char) (isWhite : White white)
      (content : Written n (.chain .comparisons f) cs) :
      Written (n + 1) (.unary f) ('(' :: cs ++ white ++ [')'])
  | signed (n : Nat) (op : UnaryOperator) (symbol : List Char) (f : Formula) (cs : List Char)
      (member : (symbol, op) ∈ Parser.unaryOperators) (operand : Written n (.unary f) cs) :
      Written (n + 1) (.unary (.unary op f)) (symbol ++ cs)
  | base (n : Nat) (f : Formula) (cs : List Char) (inner : Written n (.unary f) cs) :
      Written n (.power f) cs
  | raised (n : Nat) (a b : Formula) (cs white ds : List Char) (isWhite : White white)
      (left : Written (n + 1) (.unary a) cs) (right : Written n (.power b) ds) :
      Written (n + 1) (.power (.binary .power a b)) (cs ++ white ++ '^' :: ds)
  | chain (n : Nat) (kind : Chain) (left f : Formula) (cs ds : List Char)
      (first : Written n (kind.operand left) cs) (others : Written n (.rest kind left f) ds) :
      Written n (.chain kind f) (cs ++ ds)
  | done (n : Nat) (kind : Chain) (f : Formula) : Written n (.rest kind f f) []
  | next (n : Nat) (kind : Chain) (op : BinaryOperator) (symbol : List Char) (left right f : Formula)
      (white cs ds : List Char) (isWhite : White white) (member : (symbol, op) ∈ kind.operators)
      (operand : Written n (kind.operand right) cs)
      (others : Written n (.rest kind (.binary op left right) f) ds) :
      Written (n + 1) (.rest kind left f) (white ++ symbol ++ cs ++ ds)
  | last (n : Nat) (f : Formula) (cs white : List Char) (isWhite : White white)
      (item : Written n (.chain .comparisons f) cs) : Written n (.items [f]) (cs ++ white ++ [')'])
  | more (n : Nat) (f : Formula) (fs : List Formula) (cs white ds : List Char) (isWhite : White white)
      (item : Written n (.chain .comparisons f) cs) (others : Written n (.items fs) ds) :
      Written n (.items (f :: fs)) (cs ++ white ++ ',' :: ds)

theorem power_operand (n : Nat) (kind : Chain) (f : Formula) (cs : List Char) (power : Written n (.power f) cs) :
    Written n (kind.operand f) cs := by
  have product : Written n (.chain .products f) cs := by
    simpa using Written.chain n .products f f cs [] power (.done n .products f)
  cases kind with
  | products => exact power
  | sums => exact product
  | comparisons => simpa [Chain.operand] using Written.chain n .sums f f cs [] product (.done n .sums f)

theorem chain_comparisons (n : Nat) (kind : Chain) (f : Formula) (cs : List Char)
    (written : Written n (.chain kind f) cs) : Written n (.chain .comparisons f) cs := by
  cases kind with
  | products =>
      have sum : Written n (.chain .sums f) cs := by
        simpa using Written.chain n .sums f f cs [] written (.done n .sums f)
      simpa using Written.chain n .comparisons f f cs [] sum (.done n .comparisons f)
  | sums => simpa using Written.chain n .comparisons f f cs [] written (.done n .comparisons f)
  | comparisons => exact written

theorem power_comparisons (n : Nat) (f : Formula) (cs : List Char) (power : Written n (.power f) cs) :
    Written n (.chain .comparisons f) cs := by
  refine chain_comparisons n .products f cs ?_
  simpa using Written.chain n .products f f cs [] power (.done n .products f)

theorem operator_kind (op : BinaryOperator) : op = .power ∨ ∃ kind : Chain, (op.symbol, op) ∈ kind.operators := by
  cases op with
  | power => exact .inl rfl
  | multiply => exact .inr ⟨.products, by decide⟩
  | divide => exact .inr ⟨.products, by decide⟩
  | modulo => exact .inr ⟨.products, by decide⟩
  | add => exact .inr ⟨.sums, by decide⟩
  | subtract => exact .inr ⟨.sums, by decide⟩
  | concat => exact .inr ⟨.sums, by decide⟩
  | equal => exact .inr ⟨.comparisons, by decide⟩
  | notEqual => exact .inr ⟨.comparisons, by decide⟩
  | less => exact .inr ⟨.comparisons, by decide⟩
  | lessEqual => exact .inr ⟨.comparisons, by decide⟩
  | greater => exact .inr ⟨.comparisons, by decide⟩
  | greaterEqual => exact .inr ⟨.comparisons, by decide⟩

theorem sign_member (op : UnaryOperator) : (op.symbol, op) ∈ Parser.unaryOperators := by
  cases op <;> decide

end FormulaField
