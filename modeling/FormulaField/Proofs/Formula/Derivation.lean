import FormulaField.Proofs.Formula.NestingBound

set_option autoImplicit false

namespace FormulaField

inductive Construct where
  | primary (f : Formula)
  | unary (f : Formula)
  | power (f : Formula)
  | chain (kind : Chain) (f : Formula)
  | arguments (fs : List Formula)

namespace Chain

def joins : Chain → List BinaryOperator
  | .products => [.multiply, .divide, .modulo]
  | .sums => [.add, .subtract, .concat]
  | .comparisons => [.equal, .notEqual, .less, .lessEqual, .greater, .greaterEqual]

def tighter : Chain → Formula → Construct
  | .products => .power
  | .sums => .chain .products
  | .comparisons => .chain .sums

end Chain

def EndsWord (rest : List Char) : Prop := ∀ c ∈ rest.head?, Parser.isNameCharacter c = false ∧ c ≠ '('

inductive Derivation : Construct → List Char → List Char → Type where
  | number {rest : List Char} (numeral : Number.Numeral) (proper : IsNumeral numeral) :
      Derivation (.primary (.literal (.number numeral.value))) (numeralChars numeral) rest
  | string {content cs rest : List Char} (quote : Char) (isQuote : quote = '"' ∨ quote = '\'')
      (quoted : Quoted quote content cs) :
      Derivation (.primary (.literal (.text (String.ofList content)))) (quote :: cs) rest
  | field {rest : List Char} (content : List Char) (unclosed : '}' ∉ content) :
      Derivation (.primary (.field (String.ofList (Text.trim content)))) ('{' :: content ++ ['}']) rest
  | boolean {name rest : List Char} (b : Bool) (isName : IsName name) (word : Text.upper name = booleanWord b)
      (ends : EndsWord rest) : Derivation (.primary (.literal (.boolean b))) name rest
  | callEmpty {name white rest : List Char} (isName : IsName name) (isWhite : White white) :
      Derivation (.primary (.call (String.ofList (Text.upper name)) [])) (name ++ '(' :: white ++ [')']) rest
  | call {name cs rest : List Char} {fs : List Formula} (isName : IsName name)
      (arguments : Derivation (.arguments fs) cs rest) :
      Derivation (.primary (.call (String.ofList (Text.upper name)) fs)) (name ++ '(' :: cs) rest
  | group {cs white rest : List Char} {f : Formula} (isWhite : White white)
      (content : Derivation (.chain .comparisons f) cs (white ++ ')' :: rest)) :
      Derivation (.primary f) ('(' :: cs ++ white ++ [')']) rest
  | unsigned {white cs rest : List Char} {f : Formula} (isWhite : White white)
      (token : Derivation (.primary f) cs rest) : Derivation (.unary f) (white ++ cs) rest
  | signed {white cs rest : List Char} {f : Formula} (op : UnaryOperator) (isWhite : White white)
      (operand : Derivation (.unary f) cs rest) : Derivation (.unary (.unary op f)) (white ++ op.symbol ++ cs) rest
  | base {cs rest : List Char} {f : Formula} (only : Derivation (.unary f) cs rest) : Derivation (.power f) cs rest
  | raised {cs white ds rest : List Char} {a b : Formula} (isWhite : White white)
      (left : Derivation (.unary a) cs (white ++ '^' :: ds ++ rest)) (right : Derivation (.power b) ds rest) :
      Derivation (.power (.binary .power a b)) (cs ++ white ++ '^' :: ds) rest
  | single {cs rest : List Char} {f : Formula} (kind : Chain) (operand : Derivation (kind.tighter f) cs rest) :
      Derivation (.chain kind f) cs rest
  | joined {cs white ds rest : List Char} {a b : Formula} (kind : Chain) (op : BinaryOperator) (isWhite : White white)
      (member : op ∈ kind.joins) (left : Derivation (.chain kind a) cs (white ++ op.symbol ++ ds ++ rest))
      (right : Derivation (kind.tighter b) ds rest) :
      Derivation (.chain kind (.binary op a b)) (cs ++ white ++ op.symbol ++ ds) rest
  | last {cs white rest : List Char} {f : Formula} (isWhite : White white)
      (item : Derivation (.chain .comparisons f) cs (white ++ ')' :: rest)) :
      Derivation (.arguments [f]) (cs ++ white ++ [')']) rest
  | more {cs white ds rest : List Char} {f : Formula} {fs : List Formula} (isWhite : White white)
      (item : Derivation (.chain .comparisons f) cs (white ++ ',' :: ds ++ rest))
      (others : Derivation (.arguments fs) ds rest) : Derivation (.arguments (f :: fs)) (cs ++ white ++ ',' :: ds) rest

namespace Derivation

def operators {c : Construct} {cs rest : List Char} : Derivation c cs rest → Nat
  | .joined _ _ _ _ left _ => left.operators + 1
  | _ => 0

-- The greatest depth that is reached. A group, arguments, the operand of a sign and the right side of a
-- power lie one level down, and an operand of a chain as many as operators of the chain were read before.
def depth {c : Construct} {cs rest : List Char} : Derivation c cs rest → Nat
  | .number _ _ => 0
  | .string _ _ _ => 0
  | .field _ _ => 0
  | .boolean _ _ _ _ => 0
  | .callEmpty _ _ => 0
  | .call _ arguments => 1 + arguments.depth
  | .group _ content => 1 + content.depth
  | .unsigned _ token => token.depth
  | .signed _ _ operand => 1 + operand.depth
  | .base only => only.depth
  | .raised _ left right => max left.depth (1 + right.depth)
  | .single _ operand => operand.depth
  | .joined _ _ _ _ left right => max left.depth (left.operators + 1 + right.depth)
  | .last _ item => item.depth
  | .more _ item others => max item.depth others.depth

end Derivation

def Derives (n : Nat) (c : Construct) (cs rest : List Char) : Prop :=
  ∃ d : Derivation c cs rest, d.depth ≤ n

theorem operator_joins (kind : Chain) (op : BinaryOperator) (symbol : List Char) :
    (symbol, op) ∈ kind.operators ↔ op ∈ kind.joins ∧ symbol = op.symbol := by
  cases kind <;> cases op <;>
    simp [Chain.operators, Chain.joins, BinaryOperator.symbol, Parser.multiplicativeOperators,
      Parser.additiveOperators, Parser.comparisonOperators]

theorem sign_symbol (op : UnaryOperator) (symbol : List Char) :
    (symbol, op) ∈ Parser.unaryOperators ↔ symbol = op.symbol := by
  cases op <;> simp [Parser.unaryOperators, UnaryOperator.symbol]

theorem ends_word (phrase : Phrase) (rest : List Char) (follows : Follows phrase rest) : EndsWord rest := by
  intro c member
  have apart := follows.token c member
  simp only [continuesToken, Bool.or_eq_false_iff, beq_eq_false_iff_ne] at apart
  exact ⟨apart.1.1, apart.2⟩

def Phrase.Derived (n : Nat) (cs rest : List Char) : Phrase → Prop
  | .unary f => Derives n (.unary f) cs rest
  | .power f => Derives n (.power f) cs rest
  | .chain kind f => Derives n (.chain kind f) cs rest
  | .rest kind left f => ∀ (before : List Char) (d : Derivation (.chain kind left) before (cs ++ rest)),
      d.depth ≤ n + d.operators → Derives (n + d.operators) (.chain kind f) (before ++ cs) rest
  | .items fs => Derives n (.arguments fs) cs rest

theorem operand_derived (n : Nat) (kind : Chain) (f : Formula) (cs rest : List Char) :
    (kind.operand f).Derived n cs rest ↔ Derives n (kind.tighter f) cs rest := by
  cases kind <;> rfl

theorem derives_spaced (n : Nat) (f : Formula) (white cs rest : List Char) (isWhite : White white)
    (derived : Derives n (.unary f) cs rest) : Derives n (.unary f) (white ++ cs) rest := by
  obtain ⟨d, within⟩ := derived
  cases d with
  | unsigned spaceWhite token =>
      rw [← List.append_assoc]
      exact ⟨.unsigned (white_append white _ isWhite spaceWhite) token, within⟩
  | signed op spaceWhite operand =>
      rw [← List.append_assoc, ← List.append_assoc]
      exact ⟨.signed op (white_append white _ isWhite spaceWhite) operand, within⟩

theorem derives_token (n : Nat) (f : Formula) (cs rest : List Char) (d : Derivation (.primary f) cs rest)
    (within : d.depth ≤ n) : Derives n (.unary f) cs rest := by
  have nothing : White [] := by simp [White]
  have spaced : Derives n (.unary f) ([] ++ cs) rest := ⟨.unsigned nothing d, within⟩
  exact spaced

theorem written_derived (n : Nat) (phrase : Phrase) (cs : List Char) (written : Written n phrase cs)
    (rest : List Char) (follows : Follows phrase rest) : phrase.Derived n cs rest := by
  induction written generalizing rest with
  | spaced n f white cs isWhite inner ih => exact derives_spaced n f white cs rest isWhite (ih rest follows)
  | number n numeral proper => exact derives_token n _ _ rest (.number numeral proper) (Nat.zero_le n)
  | string n quote content cs isQuote quoted =>
      exact derives_token n _ _ rest (.string quote isQuote quoted) (Nat.zero_le n)
  | field n content unclosed => exact derives_token n _ _ rest (.field content unclosed) (Nat.zero_le n)
  | boolean n b name isName word =>
      exact derives_token n _ _ rest (.boolean b isName word (ends_word _ rest follows)) (Nat.zero_le n)
  | callEmpty n name white isName isWhite =>
      exact derives_token n _ _ rest (.callEmpty isName isWhite) (Nat.zero_le n)
  | call n name fs cs isName items ih =>
      obtain ⟨d, within⟩ := ih rest ⟨follows.token, by simp [Phrase.continuing]⟩
      exact derives_token (n + 1) _ _ rest (.call isName d) (by rw [Derivation.depth]; omega)
  | group n f cs white isWhite content ih =>
      have followsContent := follows_character (.chain .comparisons f) white rest ')' isWhite (by decide) (by decide)
        (by simp [Phrase.continuing, Chain.continuing])
      obtain ⟨d, within⟩ := ih (white ++ ')' :: rest) followsContent
      exact derives_token (n + 1) _ _ rest (.group isWhite d) (by rw [Derivation.depth]; omega)
  | signed n op symbol f cs member operand ih =>
      obtain ⟨d, within⟩ := ih rest ⟨follows.token, by simp [Phrase.continuing]⟩
      have nothing : White [] := by simp [White]
      have spaced : Derives (n + 1) (.unary (.unary op f)) ([] ++ op.symbol ++ cs) rest :=
        ⟨.signed op nothing d, by rw [Derivation.depth]; omega⟩
      rw [(sign_symbol op symbol).mp member]
      exact spaced
  | base n f cs inner ih =>
      obtain ⟨d, within⟩ := ih rest ⟨follows.token, by simp [Phrase.continuing]⟩
      exact ⟨.base d, within⟩
  | raised n a b cs white ds isWhite left right ihLeft ihRight =>
      obtain ⟨second, withinRight⟩ := ihRight rest ⟨follows.token, follows.operator⟩
      obtain ⟨first, withinLeft⟩ := ihLeft (white ++ '^' :: ds ++ rest) (by
        rw [List.append_assoc]
        exact follows_character _ white _ '^' isWhite (by decide) (by decide) (by simp [Phrase.continuing]))
      exact ⟨.raised isWhite first second, by rw [Derivation.depth]; omega⟩
  | chain n kind left f cs ds first others ihFirst ihOthers =>
      have followsRest : Follows (.rest kind left f) rest := ⟨follows.token, follows.operator⟩
      have operand := ihFirst (ds ++ rest) (rest_follows n kind left f left ds rest others followsRest)
      rw [operand_derived] at operand
      obtain ⟨d, within⟩ := operand
      exact ihOthers rest followsRest cs (.single kind d) within
  | done n kind f =>
      intro before d within
      rw [List.append_nil]
      exact ⟨d, within⟩
  | next n kind op symbol left right f white cs ds isWhite member operand others ihOperand ihOthers =>
      obtain ⟨joins, rfl⟩ := (operator_joins kind op symbol).mp member
      have followsRest : Follows (.rest kind (.binary op left right) f) rest := ⟨follows.token, follows.operator⟩
      have derived := ihOperand (ds ++ rest) (rest_follows n kind _ f right ds rest others followsRest)
      rw [operand_derived] at derived
      obtain ⟨second, withinRight⟩ := derived
      intro before
      rw [List.append_assoc _ ds rest]
      intro first withinLeft
      have both : (Derivation.joined kind op isWhite joins first second).depth ≤ n + (first.operators + 1) := by
        rw [Derivation.depth]
        omega
      have whole := ihOthers rest followsRest _ (.joined kind op isWhite joins first second) both
      rw [Derivation.operators, ← Nat.add_assoc, Nat.add_right_comm] at whole
      simpa using whole
  | last n f cs white isWhite item ih =>
      have followsItem := follows_character (.chain .comparisons f) white rest ')' isWhite (by decide) (by decide)
        (by simp [Phrase.continuing, Chain.continuing])
      obtain ⟨d, within⟩ := ih (white ++ ')' :: rest) followsItem
      exact ⟨.last isWhite d, within⟩
  | more n f fs cs white ds isWhite item others ih ihOthers =>
      have followsItem := follows_character (.chain .comparisons f) white (ds ++ rest) ',' isWhite (by decide)
        (by decide) (by simp [Phrase.continuing, Chain.continuing])
      rw [← List.cons_append, ← List.append_assoc] at followsItem
      obtain ⟨first, withinFirst⟩ := ih (white ++ ',' :: ds ++ rest) followsItem
      obtain ⟨second, withinOthers⟩ := ihOthers rest ⟨follows.token, follows.operator⟩
      exact ⟨.more isWhite first second, by rw [Derivation.depth]; omega⟩

def Construct.Written (n operators : Nat) (cs : List Char) : Construct → Prop
  | .primary f => FormulaField.Written n (.unary f) cs
  | .unary f => FormulaField.Written n (.unary f) cs
  | .power f => FormulaField.Written n (.power f) cs
  | .chain kind f => operators ≤ n ∧ ∃ first before after, cs = before ++ after ∧
      FormulaField.Written n (kind.operand first) before ∧
      ∀ g more, FormulaField.Written (n - operators) (.rest kind f g) more →
        FormulaField.Written n (.rest kind first g) (after ++ more)
  | .arguments fs => FormulaField.Written n (.items fs) cs

theorem chain_written (n operators : Nat) (kind : Chain) (f : Formula) (cs : List Char)
    (written : (Construct.chain kind f).Written n operators cs) : Written n (.chain kind f) cs := by
  obtain ⟨_, first, before, after, rfl, operand, goesOn⟩ := written
  have others := goesOn f [] (.done _ kind f)
  rw [List.append_nil] at others
  exact .chain n kind first f before after operand others

theorem tighter_written (n operators : Nat) (kind : Chain) (f : Formula) (cs : List Char)
    (written : (kind.tighter f).Written n operators cs) : Written n (kind.operand f) cs := by
  cases kind with
  | products => exact written
  | sums => exact chain_written n operators .products f cs written
  | comparisons => exact chain_written n operators .sums f cs written

theorem derivation_written (c : Construct) (cs rest : List Char) (d : Derivation c cs rest) (n : Nat)
    (within : d.depth ≤ n) : c.Written n d.operators cs := by
  induction d generalizing n with
  | number numeral proper => exact .number n numeral proper
  | string quote isQuote quoted => exact .string n quote _ _ isQuote quoted
  | field content unclosed => exact .field n content unclosed
  | boolean b isName word ends => exact .boolean n b _ isName word
  | callEmpty isName isWhite => exact .callEmpty n _ _ isName isWhite
  | call isName arguments ih =>
      rw [Derivation.depth] at within
      obtain ⟨m, rfl⟩ := Nat.exists_eq_add_of_le' (Nat.le_of_add_right_le within)
      exact .call m _ _ _ isName (ih m (by omega))
  | group isWhite content ih =>
      rw [Derivation.depth] at within
      obtain ⟨m, rfl⟩ := Nat.exists_eq_add_of_le' (Nat.le_of_add_right_le within)
      exact .group m _ _ _ isWhite (chain_written m _ _ _ _ (ih m (by omega)))
  | unsigned isWhite token ih => exact .spaced n _ _ _ isWhite (ih n within)
  | signed op isWhite operand ih =>
      rw [Derivation.depth] at within
      obtain ⟨m, rfl⟩ := Nat.exists_eq_add_of_le' (Nat.le_of_add_right_le within)
      have sign := FormulaField.Written.signed m op op.symbol _ _ (sign_member op) (ih m (by omega))
      have spaced := FormulaField.Written.spaced _ _ _ _ isWhite sign
      rw [← List.append_assoc] at spaced
      exact spaced
  | base only ih => exact .base n _ _ (ih n within)
  | raised isWhite left right ihLeft ihRight =>
      rw [Derivation.depth] at within
      obtain ⟨m, rfl⟩ := Nat.exists_eq_add_of_le' (Nat.le_of_add_right_le (Nat.le_trans (Nat.le_max_right _ _) within))
      exact .raised m _ _ _ _ _ isWhite (ihLeft (m + 1) (by omega)) (ihRight m (by omega))
  | single kind operand ih =>
      refine ⟨Nat.zero_le n, _, _, [], (List.append_nil _).symm, tighter_written n _ kind _ _ (ih n within), ?_⟩
      intro g more others
      exact others
  | @joined cs white ds rest a b kind op isWhite member left right ihLeft ihRight =>
      rw [Derivation.depth] at within
      obtain ⟨m, rfl⟩ : ∃ m, n = m + (left.operators + 1) := Nat.exists_eq_add_of_le' (by omega)
      obtain ⟨_, first, before, after, same, operand, goesOn⟩ := ihLeft (m + (left.operators + 1)) (by omega)
      have inChain := (operator_joins kind op op.symbol).mpr ⟨member, rfl⟩
      have second := tighter_written m _ kind _ _ (ihRight m (by omega))
      have levels : m + (left.operators + 1) - left.operators = m + 1 := by omega
      rw [levels] at goesOn
      refine ⟨Nat.le_add_left _ m, first, before, after ++ (white ++ op.symbol ++ ds), ?_, operand, ?_⟩
      · rw [same]
        simp
      intro g more others
      rw [Derivation.operators, Nat.add_sub_cancel] at others
      have next := goesOn g _ (.next m kind op op.symbol a b g white ds more isWhite inChain second others)
      simpa using next
  | last isWhite item ih => exact .last n _ _ _ isWhite (chain_written n _ _ _ _ (ih n within))
  | more isWhite item others ih ihOthers =>
      rw [Derivation.depth] at within
      exact .more n _ _ _ _ _ isWhite (chain_written n _ _ _ _ (ih n (by omega))) (ihOthers n (by omega))

-- A text is read as a tree exactly when the grammar derives the tree from it, with white space at its end,
-- and no place of the derivation lies deeper than there are levels of nesting.
theorem parse_derives (s : String) (f : Formula) :
    (parse s).result = .ok f ↔
      ∃ cs white, s.toList = cs ++ white ∧ White white ∧
        ∃ d : Derivation (.chain .comparisons f) cs white, d.depth ≤ Parser.maxDepth := by
  constructor
  · intro accepted
    obtain ⟨cs, white, written, isWhite, split⟩ := parse_ok s f accepted
    exact ⟨cs, white, split, isWhite, written_derived _ _ cs written white (follows_nothing _ white isWhite)⟩
  · rintro ⟨cs, white, split, isWhite, d, within⟩
    have written := chain_written _ _ _ _ _ (derivation_written _ cs white d _ within)
    rw [parse_complete s f cs white written isWhite split]

end FormulaField
