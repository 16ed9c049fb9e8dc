import FormulaField.Proofs.Formula.Soundness
import FormulaField.Proofs.Formula.TokenRuns

set_option autoImplicit false

namespace FormulaField

open FormulaField.Parser (Level bind_run map_run)

namespace Chain

-- The characters whose operators a chain would go on with, with those of the tighter chains.
def continuing : Chain → List Char
  | .products => ['^', '*', '/', '%']
  | .sums => ['^', '*', '/', '%', '+', '-', '&']
  | .comparisons => ['^', '*', '/', '%', '+', '-', '&', '<', '>', '=', '!']

end Chain

namespace Phrase

def continuing : Phrase → List Char
  | .unary _ => []
  | .power _ => ['^']
  | .chain kind _ => kind.continuing
  | .rest kind _ _ => kind.continuing
  | .items _ => []

def Gives (n : Nat) (before after : Cursor) : Phrase → Prop
  | .unary f => (Parser.level n).unary.run before = .ok f after
  | .power f => (Parser.level n).power.run before = .ok f after
  | .chain kind f => (kind.parserAt (Parser.level n)).run before = .ok f after
  | .rest kind left f => (kind.restAt (Parser.level n) left).run before = .ok f after
  | .items fs => ∀ room, fs.length ≤ room →
      (Parser.argumentList (Parser.level n).comparison room).run before = .ok fs after

end Phrase

structure Follows (phrase : Phrase) (tail : List Char) : Prop where
  token : Stops continuesToken tail
  operator : ∀ c ∈ (tail.dropWhile Text.isWhite).head?, c ∉ phrase.continuing

def opensPhrase (c : Char) : Bool :=
  Number.isDigit c || startsName c || ['"', '\'', '{', '(', '-', '+', '!'].contains c

theorem opens_not (c d : Char) (opens : opensPhrase c = true) (away : opensPhrase d = false) : c ≠ d := by
  rintro rfl
  simp [opens] at away

theorem white_continues_no_token (c : Char) (white : Text.isWhite c = true) : continuesToken c = false := by
  have point : c ≠ '.' := by rintro rfl; simp [Text.isWhite] at white
  have paren : c ≠ '(' := by rintro rfl; simp [Text.isWhite] at white
  simp [continuesToken, Text.white_not_name_character c white, point, paren]

theorem opens_not_white (c : Char) (opens : opensPhrase c = true) : Text.isWhite c = false := by
  cases white : Text.isWhite c with
  | false => rfl
  | true =>
      have noName := Text.white_not_name_character c white
      simp only [Parser.isNameCharacter, Text.isAlphanumeric, Bool.or_eq_false_iff] at noName
      simp only [opensPhrase, startsName, Bool.or_eq_true, List.contains_iff_mem] at opens
      rcases opens with (digit | name) | symbol
      · simp [Text.digit_numeric c digit] at noName
      · simp [noName] at name
      · simp only [List.mem_cons, List.not_mem_nil, or_false] at symbol
        rcases symbol with rfl | rfl | rfl | rfl | rfl | rfl | rfl <;> simp [Text.isWhite] at white

theorem follows_nothing (phrase : Phrase) (white : List Char) (isWhite : White white) : Follows phrase white := by
  refine ⟨?_, ?_⟩
  · intro c member
    exact white_continues_no_token c (isWhite c (List.mem_of_mem_head? member))
  · intro c member
    have nothing : white.dropWhile Text.isWhite = [] := by
      simpa using drop_white_append white [] isWhite
    rw [nothing] at member
    cases member

theorem follows_character (phrase : Phrase) (white rest : List Char) (c : Char) (isWhite : White white)
    (notWhite : Text.isWhite c = false) (token : continuesToken c = false) (operator : c ∉ phrase.continuing) :
    Follows phrase (white ++ c :: rest) := by
  refine ⟨?_, ?_⟩
  · intro d member
    cases white with
    | nil =>
        cases member
        exact token
    | cons space more =>
        cases member
        exact white_continues_no_token _ (isWhite _ (by simp))
  · intro d member
    rw [drop_white_append white _ isWhite, List.dropWhile_cons_of_neg (by simp [notWhite])] at member
    cases member
    exact operator

theorem follows_tighter (phrase tighter : Phrase) (tail : List Char) (follows : Follows phrase tail)
    (fewer : ∀ c ∈ tighter.continuing, c ∈ phrase.continuing) : Follows tighter tail :=
  ⟨follows.token, fun c member inside => follows.operator c member (fewer c inside)⟩

theorem operator_start (kind : Chain) (op : BinaryOperator) (symbol : List Char) (f : Formula)
    (member : (symbol, op) ∈ kind.operators) :
    ∃ c ds, symbol = c :: ds ∧ Text.isWhite c = false ∧ continuesToken c = false ∧
      c ∉ (kind.operand f).continuing := by
  cases kind with
  | products =>
      simp only [Chain.operators, Parser.multiplicativeOperators, List.mem_cons, Prod.mk.injEq, List.not_mem_nil,
        or_false] at member
      rcases member with ⟨rfl, rfl⟩ | ⟨rfl, rfl⟩ | ⟨rfl, rfl⟩ <;>
        exact ⟨_, _, rfl, by decide, by decide, by simp [Chain.operand, Phrase.continuing]⟩
  | sums =>
      simp only [Chain.operators, Parser.additiveOperators, List.mem_cons, Prod.mk.injEq, List.not_mem_nil,
        or_false] at member
      rcases member with ⟨rfl, rfl⟩ | ⟨rfl, rfl⟩ | ⟨rfl, rfl⟩ <;>
        exact ⟨_, _, rfl, by decide, by decide, by simp [Chain.operand, Phrase.continuing, Chain.continuing]⟩
  | comparisons =>
      simp only [Chain.operators, Parser.comparisonOperators, List.mem_cons, Prod.mk.injEq, List.not_mem_nil,
        or_false] at member
      rcases member with ⟨rfl, rfl⟩ | ⟨rfl, rfl⟩ | ⟨rfl, rfl⟩ | ⟨rfl, rfl⟩ | ⟨rfl, rfl⟩ | ⟨rfl, rfl⟩ <;>
        exact ⟨_, _, rfl, by decide, by decide, by simp [Chain.operand, Phrase.continuing, Chain.continuing]⟩

-- The operators are told apart where no equals sign follows; the longer ones are tried first.
theorem operator_picked (kind : Chain) (op : BinaryOperator) (symbol cs : List Char)
    (member : (symbol, op) ∈ kind.operators) (notEquals : ∀ c ∈ cs.head?, c ≠ '=') :
    (kind.operators.find? fun entry => entry.1.isPrefixOf (symbol ++ cs)) = some (symbol, op) := by
  cases kind with
  | products =>
      simp only [Chain.operators, Parser.multiplicativeOperators, List.mem_cons, Prod.mk.injEq, List.not_mem_nil,
        or_false] at member
      rcases member with ⟨rfl, rfl⟩ | ⟨rfl, rfl⟩ | ⟨rfl, rfl⟩ <;> simp [Chain.operators, Parser.multiplicativeOperators]
  | sums =>
      simp only [Chain.operators, Parser.additiveOperators, List.mem_cons, Prod.mk.injEq, List.not_mem_nil,
        or_false] at member
      rcases member with ⟨rfl, rfl⟩ | ⟨rfl, rfl⟩ | ⟨rfl, rfl⟩ <;> simp [Chain.operators, Parser.additiveOperators]
  | comparisons =>
      have apart : ['='].isPrefixOf cs = false := by
        cases cs with
        | nil => rfl
        | cons c rest => simpa [List.isPrefixOf] using Ne.symm (notEquals c rfl)
      simp only [Chain.operators, Parser.comparisonOperators, List.mem_cons, Prod.mk.injEq, List.not_mem_nil,
        or_false] at member
      rcases member with ⟨rfl, rfl⟩ | ⟨rfl, rfl⟩ | ⟨rfl, rfl⟩ | ⟨rfl, rfl⟩ | ⟨rfl, rfl⟩ | ⟨rfl, rfl⟩ <;>
        simp [Chain.operators, Parser.comparisonOperators, apart]

theorem operators_refused (kind : Chain) (cs : List Char) (other : ∀ c ∈ cs.head?, c ∉ kind.continuing) :
    (kind.operators.find? fun entry => entry.1.isPrefixOf cs) = none := by
  cases cs with
  | nil => cases kind <;> simp [Chain.operators, Parser.multiplicativeOperators, Parser.additiveOperators,
      Parser.comparisonOperators]
  | cons c rest =>
      have away := other c rfl
      cases kind with
      | products =>
          simp only [Chain.continuing, List.mem_cons, List.not_mem_nil, or_false, not_or] at away
          simp [Chain.operators, Parser.multiplicativeOperators, eq_comm (b := c), away]
      | sums =>
          simp only [Chain.continuing, List.mem_cons, List.not_mem_nil, or_false, not_or] at away
          simp [Chain.operators, Parser.additiveOperators, eq_comm (b := c), away]
      | comparisons =>
          simp only [Chain.continuing, List.mem_cons, List.not_mem_nil, or_false, not_or] at away
          simp [Chain.operators, Parser.comparisonOperators, eq_comm (b := c), away]

theorem written_opens (n : Nat) (phrase : Phrase) (cs : List Char)
    (notRest : ∀ kind left f, phrase ≠ .rest kind left f) (written : Written n phrase cs) :
    ∃ white c rest, cs = white ++ c :: rest ∧ White white ∧ opensPhrase c = true := by
  have nothing : White [] := by simp [White]
  have name : ∀ cs rest : List Char, IsName cs → ∃ white c more, cs ++ rest = white ++ c :: more ∧ White white ∧
      opensPhrase c = true := by
    rintro cs rest ⟨⟨c, more, rfl, starts⟩, _⟩
    exact ⟨[], c, more ++ rest, rfl, nothing, by simp [opensPhrase, starts]⟩
  have further : ∀ cs rest : List Char,
      (∃ white c more, cs = white ++ c :: more ∧ White white ∧ opensPhrase c = true) →
        ∃ white c more, cs ++ rest = white ++ c :: more ∧ White white ∧ opensPhrase c = true := by
    rintro cs rest ⟨white, c, more, rfl, isWhite, opens⟩
    exact ⟨white, c, more ++ rest, by simp, isWhite, opens⟩
  induction written with
  | spaced n f white cs isWhite inner ih =>
      obtain ⟨space, c, more, rfl, spaceWhite, opens⟩ := ih (by simp)
      exact ⟨white ++ space, c, more, by simp, white_append white space isWhite spaceWhite, opens⟩
  | number n numeral proper =>
      obtain ⟨whole, fraction, exponent⟩ := numeral
      cases whole with
      | nil => exact absurd rfl proper.nonempty
      | cons d ds =>
          have digit : Number.isDigit d = true := proper.whole d (by simp)
          exact ⟨[], d, _, rfl, nothing, by simp [opensPhrase, digit]⟩
  | string n quote content cs isQuote quoted =>
      exact ⟨[], quote, cs, rfl, nothing, by rcases isQuote with rfl | rfl <;> decide⟩
  | field n content unclosed => exact ⟨[], '{', content ++ ['}'], rfl, nothing, by decide⟩
  | boolean n b cs isName word => simpa using name cs [] isName
  | callEmpty n cs white isName isWhite => simpa using name cs ('(' :: (white ++ [')'])) isName
  | call n cs fs ds isName items => exact name cs ('(' :: ds) isName
  | group n f cs white isWhite content => exact ⟨[], '(', cs ++ white ++ [')'], rfl, nothing, by decide⟩
  | signed n op symbol f cs member operand =>
      simp only [Parser.unaryOperators, List.mem_cons, Prod.mk.injEq, List.not_mem_nil, or_false] at member
      rcases member with ⟨rfl, rfl⟩ | ⟨rfl, rfl⟩ | ⟨rfl, rfl⟩ <;> exact ⟨[], _, cs, rfl, nothing, by decide⟩
  | base n f cs inner ih => exact ih (by simp)
  | raised n a b cs white ds isWhite left right ihLeft ihRight =>
      simpa using further cs (white ++ '^' :: ds) (ihLeft (by simp))
  | chain n kind left f cs ds first others ihFirst ihOthers =>
      exact further cs ds (ihFirst (by cases kind <;> simp [Chain.operand]))
  | done n kind f => exact absurd rfl (notRest _ _ _)
  | next => exact absurd rfl (notRest _ _ _)
  | last n f cs white isWhite item ih => simpa using further cs (white ++ [')']) (ih (by simp))
  | more n f fs cs white ds isWhite item others ih ihOthers =>
      simpa using further cs (white ++ ',' :: ds) (ih (by simp))

theorem next_opens (n : Nat) (phrase : Phrase) (cs tail : List Char)
    (notRest : ∀ kind left f, phrase ≠ .rest kind left f) (written : Written n phrase cs) :
    ∀ c ∈ ((cs ++ tail).dropWhile Text.isWhite).head?, opensPhrase c = true := by
  obtain ⟨white, c, rest, rfl, isWhite, opens⟩ := written_opens n phrase cs notRest written
  intro d member
  rw [List.append_assoc, drop_white_append white _ isWhite, List.cons_append,
    List.dropWhile_cons_of_neg (by simp [opens_not_white c opens])] at member
  cases member
  exact opens

theorem starts_no_equals (n : Nat) (phrase : Phrase) (cs tail : List Char)
    (notRest : ∀ kind left f, phrase ≠ .rest kind left f) (written : Written n phrase cs) :
    ∀ c ∈ (cs ++ tail).head?, c ≠ '=' := by
  obtain ⟨white, c, rest, rfl, isWhite, opens⟩ := written_opens n phrase cs notRest written
  intro d member
  cases white with
  | nil =>
      cases member
      exact opens_not c '=' opens (by decide)
  | cons space more =>
      cases member
      rintro rfl
      have equalsWhite := isWhite '=' (by simp)
      simp [Text.isWhite] at equalsWhite

theorem rest_follows (n : Nat) (kind : Chain) (left f operand : Formula) (cs tail : List Char)
    (others : Written n (.rest kind left f) cs) (follows : Follows (.rest kind left f) tail) :
    Follows (kind.operand operand) (cs ++ tail) := by
  cases others with
  | done =>
      refine follows_tighter _ _ tail follows ?_
      cases kind <;> simp [Chain.operand, Phrase.continuing, Chain.continuing]
  | next n kind op symbol left right f white cs ds isWhite member operand' others =>
      obtain ⟨c, rest, rfl, notWhite, token, away⟩ := operator_start kind op symbol operand member
      simpa using follows_character (kind.operand operand) white (rest ++ (cs ++ (ds ++ tail))) c isWhite notWhite
        token away

def below : Nat → Option Level
  | 0 => none
  | n + 1 => some (Parser.level n)

theorem level_over (n : Nat) : Parser.level n = .over (below n) := by
  cases n <;> rfl

theorem rest_stops (n : Nat) (kind : Chain) (f : Formula) (tail : List Char) (before : Cursor)
    (follows : Follows (.rest kind f f) tail) (here : before.Before tail) :
    (kind.restAt (Parser.level n) f).run before = .ok f before.skipWhite := by
  have nonempty : kind.operators ≠ [] := by cases kind <;> simp [Chain.operators, Parser.multiplicativeOperators,
    Parser.additiveOperators, Parser.comparisonOperators]
  have refused : (Parser.eatFirst kind.operators).run before = .ok none before.skipWhite := by
    rw [Parser.run_eat_first kind.operators nonempty, here, operators_refused kind _ follows.operator]
  rw [level_over, Chain.rest_over, Parser.chain, bind_run _ _ before _ none refused]
  rfl

theorem rest_goes_on (n : Nat) (kind : Chain) (op : BinaryOperator) (symbol : List Char) (left : Formula)
    (tail : List Char) (before : Cursor) (member : (symbol, op) ∈ kind.operators)
    (notEquals : ∀ c ∈ tail.head?, c ≠ '=') (here : before.Before (symbol ++ tail)) :
    ∃ middle : Cursor, middle.rest = tail ∧
      (kind.restAt (Parser.level n) left).run before =
        (do
          let level ← Parser.descend (below n)
          let right ← kind.operandAt level
          kind.restAt level (.binary op left right)).run middle := by
  obtain ⟨c, ds, rfl, notWhite, _, _⟩ := operator_start kind op symbol left member
  have split := Cursor.before_token before c (ds ++ tail) notWhite here
  rw [← List.cons_append] at split
  have nonempty : kind.operators ≠ [] := List.ne_nil_of_mem member
  have taken : (Parser.eatFirst kind.operators).run before =
      .ok (some op) (before.skipWhite.advance (c :: ds).length) := by
    rw [Parser.run_eat_first kind.operators nonempty, split, operator_picked kind op (c :: ds) tail member notEquals]
  refine ⟨_, Cursor.advance_rest before.skipWhite (c :: ds) tail split, ?_⟩
  rw [level_over, Chain.rest_over, Parser.chain, bind_run _ _ before _ (some op) taken]

theorem items_length (n : Nat) (fs : List Formula) (cs : List Char) (items : Written n (.items fs) cs) :
    fs.length ≤ cs.countP (!Text.isWhite ·) := by
  cases items with
  | last n f cs white isWhite item =>
      have paren : Text.isWhite ')' = false := by decide
      simp only [List.length_singleton, List.countP_append, List.countP_singleton, paren]
      simp only [Bool.not_false, if_true]
      omega
  | more n f fs cs white ds isWhite item others =>
      have rest := items_length n fs ds others
      have comma : Text.isWhite ',' = false := by decide
      simp only [List.length_cons, List.countP_append, List.countP_cons, comma]
      simp only [Bool.not_false, if_true]
      omega

theorem visible_length (cs : List Char) : cs.countP (!Text.isWhite ·) ≤ (cs.dropWhile Text.isWhite).length := by
  induction cs with
  | nil => simp
  | cons c rest ih =>
      cases white : Text.isWhite c with
      | true => simpa [List.countP_cons, List.dropWhile_cons, white] using ih
      | false => simpa [List.dropWhile_cons, white] using List.countP_le_length

theorem items_room (n : Nat) (fs : List Formula) (cs tail : List Char) (items : Written n (.items fs) cs) :
    fs.length ≤ ((cs ++ tail).dropWhile Text.isWhite).length + 1 := by
  have counted := items_length n fs cs items
  have visible := visible_length (cs ++ tail)
  rw [List.countP_append] at visible
  omega

theorem operand_gives (n : Nat) (kind : Chain) (f : Formula) (before after : Cursor) :
    (kind.operand f).Gives n before after ↔ (kind.operandAt (Parser.level n)).run before = .ok f after := by
  cases kind <;> rfl

theorem unary_gives (n : Nat) (f : Formula) (before after : Cursor) :
    (Phrase.unary f).Gives n before after ↔ (Parser.unary (below n)).run before = .ok f after := by
  rw [Phrase.Gives, level_over]
  rfl

theorem power_gives (n : Nat) (f : Formula) (before after : Cursor) :
    (Phrase.power f).Gives n before after ↔ (Parser.power (below n)).run before = .ok f after := by
  rw [Phrase.Gives, level_over]
  rfl

theorem chain_gives (n : Nat) (kind : Chain) (f : Formula) (before after : Cursor) :
    (Phrase.chain kind f).Gives n before after ↔
      (kind.operandAt (Parser.level n) >>= kind.restAt (Parser.level n)).run before = .ok f after := by
  rw [Phrase.Gives, level_over, Chain.parser_over]

theorem unary_of_token (n : Nat) (f : Formula) (c : Char) (rest tail : List Char) (before : Cursor)
    (here : before.Before (c :: rest)) (opens : opensPhrase c = true) (noSign : c ∉ ['-', '+', '!'])
    (ran : ∀ middle : Cursor, middle.rest = c :: rest →
      ∃ after, (Parser.token (below n) c).run middle = .ok f after ∧ after.rest = tail) :
    ∃ after, (Phrase.unary f).Gives n before after ∧ after.Before tail := by
  obtain ⟨middle, split, same⟩ := Parser.unary_token (below n) c rest before here (opens_not_white c opens) noSign
  obtain ⟨after, given, behind⟩ := ran middle split
  exact ⟨after, (unary_gives n f before after).mpr (same.trans given), Cursor.before_rest after tail behind⟩

theorem name_token (inner : Option Level) (c : Char) (starts : startsName c = true) :
    Parser.token inner c = Parser.identifier inner ∧ opensPhrase c = true ∧ c ∉ ['-', '+', '!'] := by
  have apart : ∀ d, startsName d = false → c ≠ d := by
    rintro d away rfl
    simp [starts] at away
  have noDigit : Number.isDigit c = false := by
    cases digit : Number.isDigit c with
    | false => rfl
    | true =>
        have away := Text.of_all_digits (fun c => !startsName c) (by decide) c digit
        simp [starts] at away
  refine ⟨?_, by simp [opensPhrase, starts], ?_⟩
  · simp [Parser.token, noDigit, starts, apart '"' (by decide), apart '\'' (by decide), apart '{' (by decide),
      apart '(' (by decide)]
  · simp [apart '-' (by decide), apart '+' (by decide), apart '!' (by decide)]

def Taken (n : Nat) (phrase : Phrase) (cs : List Char) : Prop :=
  ∀ (tail : List Char) (before : Cursor), Follows phrase tail → before.Before (cs ++ tail) →
    ∃ after, phrase.Gives n before after ∧ after.Before tail

theorem number_taken (n : Nat) (numeral : Number.Numeral) (proper : IsNumeral numeral) :
    Taken n (.unary (.literal (.number numeral.value))) (numeralChars numeral) := by
  intro tail before follows here
  obtain ⟨whole, fraction, exponent⟩ := numeral
  cases whole with
  | nil => exact absurd rfl proper.nonempty
  | cons d ds =>
      have digit : Number.isDigit d = true := proper.whole d (by simp)
      have noSign : d ∉ ['-', '+', '!'] := by
        simp only [List.mem_cons, List.not_mem_nil, or_false, not_or]
        refine ⟨?_, ?_, ?_⟩ <;> rintro rfl <;> simp [Number.isDigit] at digit
      refine unary_of_token n _ d _ tail before here (by simp [opensPhrase, digit]) noSign ?_
      intro middle split
      rw [Parser.token, if_pos digit]
      exact Parser.number_run ⟨d :: ds, fraction, exponent⟩ tail middle proper follows.token split

theorem string_taken (n : Nat) (quote : Char) (content body : List Char) (isQuote : quote = '"' ∨ quote = '\'')
    (quoted : Quoted quote content body) :
    Taken n (.unary (.literal (.text (String.ofList content)))) (quote :: body) := by
  intro tail before follows here
  have facts : Number.isDigit quote = false ∧ opensPhrase quote = true ∧ quote ∉ ['-', '+', '!'] ∧ quote ≠ '\\' := by
    rcases isQuote with rfl | rfl <;> decide
  refine unary_of_token n _ quote _ tail before here facts.2.1 facts.2.2.1 ?_
  intro middle split
  rw [Parser.token, if_neg (by simp [facts.1]), if_pos isQuote]
  exact Parser.string_run quote content body tail middle facts.2.2.2 quoted split

theorem field_taken (n : Nat) (content : List Char) (unclosed : '}' ∉ content) :
    Taken n (.unary (.field (String.ofList (Text.trim content)))) ('{' :: content ++ ['}']) := by
  intro tail before follows here
  rw [List.append_assoc] at here
  refine unary_of_token n _ '{' _ tail before here (by decide) (by decide) ?_
  intro middle split
  exact Parser.field_run content tail middle unclosed split

theorem boolean_taken (n : Nat) (b : Bool) (name : List Char) (isName : IsName name)
    (word : Text.upper name = booleanWord b) : Taken n (.unary (.literal (.boolean b))) name := by
  intro tail before follows here
  obtain ⟨c, rest, rfl, starts⟩ := isName.start
  obtain ⟨token, opens, noSign⟩ := name_token (below n) c starts
  refine unary_of_token n _ c _ tail before here opens noSign ?_
  intro middle split
  rw [token]
  exact Parser.identifier_boolean (below n) (c :: rest) tail b middle isName word follows.token split

theorem call_opened (n : Nat) (name tail : List Char) (before : Cursor) (isName : IsName name)
    (here : before.Before (name ++ '(' :: tail)) :
    ∃ opened : Cursor, opened.Before tail ∧ (Parser.unary (below n)).run before =
      (Formula.call (String.ofList (Text.upper name)) <$> Parser.arguments (below n)).run opened := by
  obtain ⟨c, rest, rfl, starts⟩ := isName.start
  obtain ⟨token, opens, noSign⟩ := name_token (below n) c starts
  obtain ⟨middle, split, toToken⟩ := Parser.unary_token (below n) c _ before here (opens_not_white c opens) noSign
  obtain ⟨opened, inside, same⟩ := Parser.identifier_call (below n) (c :: rest) tail middle isName split
  rw [token] at toToken
  exact ⟨opened, Cursor.before_rest opened tail inside, toToken.trans same⟩

theorem call_empty_taken (n : Nat) (name white : List Char) (isName : IsName name) (isWhite : White white) :
    Taken n (.unary (.call (String.ofList (Text.upper name)) [])) (name ++ '(' :: white ++ [')']) := by
  intro tail before follows here
  rw [List.append_assoc, List.append_assoc] at here
  obtain ⟨opened, inside, same⟩ := call_opened n name (white ++ ([')'] ++ tail)) before isName here
  obtain ⟨after, given, behind⟩ := Parser.arguments_empty (below n) tail opened
    ((Cursor.before_spaced opened white _ isWhite).mp inside)
  exact ⟨after, (unary_gives n _ before after).mpr (same.trans (map_run _ _ opened after [] given)),
    Cursor.before_rest after tail behind⟩

theorem arguments_run (n m : Nat) (fs : List Formula) (cs tail : List Char) (opened : Cursor)
    (items : Written m (.items fs) cs) (here : opened.Before (cs ++ tail)) :
    ∃ room, fs.length ≤ room ∧ (Parser.arguments (below n)).run opened =
      (do
        let level ← Parser.descend (below n)
        Parser.argumentList level.comparison room).run opened.skipWhite := by
  have noParen : ∀ d ∈ ((cs ++ tail).dropWhile Text.isWhite).head?, d ≠ ')' := by
    intro d member
    exact opens_not d ')' (next_opens m (.items fs) cs tail (by simp) items d member) (by decide)
  have room := items_room m fs cs tail items
  rw [← here] at room
  refine ⟨_, room, (Parser.arguments_listed (below n) (cs ++ tail) opened here noParen).trans ?_⟩
  cases n <;> rfl

theorem call_taken (n : Nat) (name : List Char) (fs : List Formula) (cs : List Char) (isName : IsName name)
    (items : Written n (.items fs) cs) (taken : Taken n (.items fs) cs) :
    Taken (n + 1) (.unary (.call (String.ofList (Text.upper name)) fs)) (name ++ '(' :: cs) := by
  intro tail before follows here
  rw [List.append_assoc] at here
  obtain ⟨opened, inside, same⟩ := call_opened (n + 1) name (cs ++ tail) before isName here
  obtain ⟨room, enough, listed⟩ := arguments_run (n + 1) n fs cs tail opened items inside
  obtain ⟨after, given, behind⟩ := taken tail opened.skipWhite ⟨follows.token, by simp [Phrase.continuing]⟩
    (Cursor.before_skip_white opened _ inside)
  refine ⟨after, (unary_gives (n + 1) _ before after).mpr (same.trans ?_), behind⟩
  exact map_run _ _ opened after fs (listed.trans (given room enough))

theorem group_opened (n : Nat) (tail : List Char) (before : Cursor) (here : before.Before ('(' :: tail)) :
    ∃ opened : Cursor, opened.Before tail ∧ (Parser.unary (below n)).run before =
      (do
        let level ← Parser.descend (below n)
        let content ← level.comparison
        Parser.closingParen
        return content).run opened := by
  obtain ⟨middle, split, toToken⟩ := Parser.unary_token (below n) '(' _ before here (by decide) (by decide)
  obtain ⟨opened, inside, same⟩ := Parser.group_run (below n) tail middle split
  exact ⟨opened, Cursor.before_rest opened tail inside, toToken.trans same⟩

theorem group_taken (n : Nat) (f : Formula) (cs white : List Char) (isWhite : White white)
    (content : Taken n (.chain .comparisons f) cs) : Taken (n + 1) (.unary f) ('(' :: cs ++ white ++ [')']) := by
  intro tail before follows here
  simp only [List.cons_append, List.append_assoc, List.nil_append] at here
  obtain ⟨opened, inside, same⟩ := group_opened (n + 1) (cs ++ (white ++ ')' :: tail)) before here
  obtain ⟨closing, given, atEnd⟩ := content (white ++ ')' :: tail) opened
    (follows_character _ white tail ')' isWhite (by decide) (by decide) (by simp [Phrase.continuing, Chain.continuing]))
    inside
  obtain ⟨after, closed, behind⟩ :=
    Parser.closing_paren_run tail closing ((Cursor.before_spaced closing white _ isWhite).mp atEnd)
  refine ⟨after, (unary_gives (n + 1) f before after).mpr (same.trans ?_), Cursor.before_rest after tail behind⟩
  exact (bind_run _ _ opened closing f given).trans (bind_run _ _ closing after () closed)

theorem signed_taken (n : Nat) (op : UnaryOperator) (symbol : List Char) (f : Formula) (cs : List Char)
    (member : (symbol, op) ∈ Parser.unaryOperators) (operand : Taken n (.unary f) cs) :
    Taken (n + 1) (.unary (.unary op f)) (symbol ++ cs) := by
  intro tail before follows here
  rw [List.append_assoc] at here
  obtain ⟨middle, split, same⟩ := Parser.unary_signed (below (n + 1)) op symbol (cs ++ tail) before member here
  obtain ⟨after, given, behind⟩ := operand tail middle ⟨follows.token, by simp [Phrase.continuing]⟩
    (Cursor.before_rest middle _ split)
  exact ⟨after, (unary_gives (n + 1) _ before after).mpr (same.trans (bind_run _ _ middle after f given)), behind⟩

theorem base_taken (n : Nat) (f : Formula) (cs : List Char) (inner : Taken n (.unary f) cs) :
    Taken n (.power f) cs := by
  intro tail before follows here
  obtain ⟨middle, given, behind⟩ := inner tail before ⟨follows.token, by simp [Phrase.continuing]⟩ here
  have refused := Parser.eat_refused '^' [] tail middle behind
    (fun c member same => follows.operator c member (by simp [Phrase.continuing, same]))
  refine ⟨middle.skipWhite, (power_gives n f before _).mpr ?_, Cursor.before_skip_white middle tail behind⟩
  rw [unary_gives] at given
  exact (bind_run _ _ before middle f given).trans (bind_run _ _ middle _ false refused)

theorem power_goes_on (n : Nat) (a : Formula) (cs white tail : List Char) (before : Cursor) (isWhite : White white)
    (left : Taken n (.unary a) cs) (here : before.Before (cs ++ white ++ '^' :: tail)) :
    ∃ middle : Cursor, middle.Before tail ∧ (Parser.power (below n)).run before =
      (do
        let level ← Parser.descend (below n)
        return Formula.binary .power a (← level.power)).run middle := by
  rw [List.append_assoc] at here
  obtain ⟨middle, given, behind⟩ := left (white ++ '^' :: tail) before
    (follows_character _ white _ '^' isWhite (by decide) (by decide) (by simp [Phrase.continuing])) here
  obtain ⟨caret, overCaret⟩ := Parser.eat_taken ['^'] tail '^' middle rfl (by decide)
    ((Cursor.before_spaced middle white _ isWhite).mp behind)
  rw [unary_gives] at given
  exact ⟨_, Cursor.before_rest _ _ overCaret, (bind_run _ _ before middle a given).trans (bind_run _ _ middle _ true caret)⟩

theorem raised_taken (n : Nat) (a b : Formula) (cs white ds : List Char) (isWhite : White white)
    (left : Taken (n + 1) (.unary a) cs) (right : Taken n (.power b) ds) :
    Taken (n + 1) (.power (.binary .power a b)) (cs ++ white ++ '^' :: ds) := by
  intro tail before follows here
  rw [List.append_assoc] at here
  obtain ⟨middle, behind, same⟩ := power_goes_on (n + 1) a cs white (ds ++ tail) before isWhite left here
  obtain ⟨after, given, atEnd⟩ := right tail middle ⟨follows.token, follows.operator⟩ behind
  exact ⟨after, (power_gives (n + 1) _ before after).mpr (same.trans (bind_run _ _ middle after b given)), atEnd⟩

theorem chain_taken (n : Nat) (kind : Chain) (left f : Formula) (cs ds : List Char)
    (others : Written n (.rest kind left f) ds) (first : Taken n (kind.operand left) cs)
    (rest : Taken n (.rest kind left f) ds) : Taken n (.chain kind f) (cs ++ ds) := by
  intro tail before follows here
  rw [List.append_assoc] at here
  have followsRest : Follows (.rest kind left f) tail := ⟨follows.token, follows.operator⟩
  obtain ⟨middle, given, behind⟩ :=
    first (ds ++ tail) before (rest_follows n kind left f left ds tail others followsRest) here
  obtain ⟨after, givenRest, atEnd⟩ := rest tail middle followsRest behind
  rw [operand_gives] at given
  exact ⟨after, (chain_gives n kind f before after).mpr ((bind_run _ _ before middle left given).trans givenRest), atEnd⟩

theorem done_taken (n : Nat) (kind : Chain) (f : Formula) : Taken n (.rest kind f f) [] := by
  intro tail before follows here
  exact ⟨before.skipWhite, rest_stops n kind f tail before follows here, Cursor.before_skip_white before tail here⟩

theorem next_taken (n : Nat) (kind : Chain) (op : BinaryOperator) (symbol : List Char) (left right f : Formula)
    (white cs ds : List Char) (isWhite : White white) (member : (symbol, op) ∈ kind.operators)
    (writtenOperand : Written n (kind.operand right) cs) (others : Written n (.rest kind (.binary op left right) f) ds)
    (operand : Taken n (kind.operand right) cs) (rest : Taken n (.rest kind (.binary op left right) f) ds) :
    Taken (n + 1) (.rest kind left f) (white ++ symbol ++ cs ++ ds) := by
  intro tail before follows here
  simp only [List.append_assoc] at here
  have notRest : ∀ other before after, kind.operand right ≠ .rest other before after := by
    cases kind <;> simp [Chain.operand]
  obtain ⟨middle, split, same⟩ := rest_goes_on (n + 1) kind op symbol left (cs ++ (ds ++ tail)) before member
    (starts_no_equals n _ cs _ notRest writtenOperand) ((Cursor.before_spaced before white _ isWhite).mp here)
  obtain ⟨behind, given, atRest⟩ := operand (ds ++ tail) middle
    (rest_follows n kind (.binary op left right) f right ds tail others ⟨follows.token, follows.operator⟩)
    (Cursor.before_rest middle _ split)
  obtain ⟨after, givenRest, atEnd⟩ := rest tail behind ⟨follows.token, follows.operator⟩ atRest
  rw [operand_gives] at given
  exact ⟨after, same.trans ((bind_run _ _ middle behind right given).trans givenRest), atEnd⟩

theorem last_taken (n : Nat) (f : Formula) (cs white : List Char) (isWhite : White white)
    (item : Taken n (.chain .comparisons f) cs) : Taken n (.items [f]) (cs ++ white ++ [')']) := by
  intro tail before follows here
  simp only [List.append_assoc] at here
  obtain ⟨middle, given, behind⟩ := item (white ++ ([')'] ++ tail)) before
    (follows_character _ white tail ')' isWhite (by decide) (by decide) (by simp [Phrase.continuing, Chain.continuing]))
    here
  have atParen := (Cursor.before_spaced middle white _ isWhite).mp behind
  have refused := Parser.eat_refused ',' [] ([')'] ++ tail) middle atParen (by
    intro c member
    cases member
    decide)
  obtain ⟨after, closed, atEnd⟩ :=
    Parser.closing_paren_run tail middle.skipWhite (Cursor.before_skip_white middle _ atParen)
  refine ⟨after, ?_, Cursor.before_rest after tail atEnd⟩
  intro room enough
  obtain ⟨more, rfl⟩ := Nat.exists_eq_add_of_lt enough
  refine (bind_run _ _ before middle f given).trans ((bind_run _ _ middle _ false refused).trans ?_)
  exact bind_run _ _ _ after () closed

theorem items_go_on (n : Nat) (f : Formula) (cs white tail : List Char) (before : Cursor) (isWhite : White white)
    (item : Taken n (.chain .comparisons f) cs) (here : before.Before (cs ++ white ++ ',' :: tail)) :
    ∃ middle : Cursor, middle.Before tail ∧
      ∀ more, (Parser.argumentList (Parser.level n).comparison (more + 1)).run before =
        ((f :: ·) <$> Parser.argumentList (Parser.level n).comparison more).run middle := by
  rw [List.append_assoc] at here
  obtain ⟨middle, given, behind⟩ := item (white ++ ',' :: tail) before
    (follows_character _ white _ ',' isWhite (by decide) (by decide) (by simp [Phrase.continuing, Chain.continuing]))
    here
  obtain ⟨comma, overComma⟩ := Parser.eat_taken [','] tail ',' middle rfl (by decide)
    ((Cursor.before_spaced middle white _ isWhite).mp behind)
  refine ⟨_, Cursor.before_rest _ _ overComma, ?_⟩
  intro more
  exact (bind_run _ _ before middle f given).trans (bind_run _ _ middle _ true comma)

theorem more_taken (n : Nat) (f : Formula) (fs : List Formula) (cs white ds : List Char) (isWhite : White white)
    (item : Taken n (.chain .comparisons f) cs) (others : Taken n (.items fs) ds) :
    Taken n (.items (f :: fs)) (cs ++ white ++ ',' :: ds) := by
  intro tail before follows here
  rw [List.append_assoc] at here
  obtain ⟨middle, behind, same⟩ := items_go_on n f cs white (ds ++ tail) before isWhite item here
  obtain ⟨after, given, atEnd⟩ := others tail middle ⟨follows.token, follows.operator⟩ behind
  refine ⟨after, ?_, atEnd⟩
  intro room enough
  obtain ⟨more, rfl⟩ := Nat.exists_eq_add_of_lt enough
  exact (same _).trans (map_run (f :: ·) _ middle after fs (given _ (by omega)))

-- By induction on the derivation: what is written is taken by the parser of its phrase.
theorem written_taken (n : Nat) (phrase : Phrase) (cs : List Char) (written : Written n phrase cs) :
    Taken n phrase cs := by
  induction written with
  | spaced n f white cs isWhite inner ih =>
      intro tail before follows here
      rw [List.append_assoc] at here
      exact ih tail before follows ((Cursor.before_spaced before white _ isWhite).mp here)
  | number n numeral proper => exact number_taken n numeral proper
  | string n quote content body isQuote quoted => exact string_taken n quote content body isQuote quoted
  | field n content unclosed => exact field_taken n content unclosed
  | boolean n b name isName word => exact boolean_taken n b name isName word
  | callEmpty n name white isName isWhite => exact call_empty_taken n name white isName isWhite
  | call n name fs cs isName items ih => exact call_taken n name fs cs isName items ih
  | group n f cs white isWhite content ih => exact group_taken n f cs white isWhite ih
  | signed n op symbol f cs member operand ih => exact signed_taken n op symbol f cs member ih
  | base n f cs inner ih => exact base_taken n f cs ih
  | raised n a b cs white ds isWhite left right ihLeft ihRight =>
      exact raised_taken n a b cs white ds isWhite ihLeft ihRight
  | chain n kind left f cs ds first others ihFirst ihOthers =>
      exact chain_taken n kind left f cs ds others ihFirst ihOthers
  | done n kind f => exact done_taken n kind f
  | next n kind op symbol left right f white cs ds isWhite member operand others ihOperand ihOthers =>
      exact next_taken n kind op symbol left right f white cs ds isWhite member operand others ihOperand ihOthers
  | last n f cs white isWhite item ih => exact last_taken n f cs white isWhite ih
  | more n f fs cs white ds isWhite item others ih ihOthers => exact more_taken n f fs cs white ds isWhite ih ihOthers

theorem parse_complete (s : String) (f : Formula) (cs white : List Char)
    (written : Written Parser.maxDepth (.chain .comparisons f) cs) (isWhite : White white)
    (split : s.toList = cs ++ white) : parse s = ⟨.ok f, f.fields⟩ := by
  obtain ⟨after, given, behind⟩ := written_taken Parser.maxDepth _ cs written white (Cursor.start s.toList)
    (follows_nothing _ white isWhite) (Cursor.before_rest _ _ split)
  have ended : after.skipWhite.rest = [] := by
    rw [behind]
    simpa using drop_white_append white [] isWhite
  have ran : Parser.formula.run (Cursor.start s.toList) = .ok f after.skipWhite := by
    refine (bind_run _ _ _ after f given).trans ?_
    rw [Parser.bind_skip_white, Parser.bind_rest, ended]
    rfl
  have accepted : parse s = ⟨.ok f, Names.ofList after.skipWhite.reads⟩ := by
    rw [parse, parseChars, ran]
  rw [accepted, (parse_sound s f _ accepted).1]

end FormulaField
