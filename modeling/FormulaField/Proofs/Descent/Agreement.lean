import FormulaField.Proofs.Descent.Tokens

set_option autoImplicit false

namespace FormulaField.Descent

open Program (call loop)

variable {text : String} {known : Names} {n : Nat} {c : Cursor}

def Procedure.parserAt (n : Nat) : Procedure → Parser Formula
  | .chain kind => kind.parserAt (Parser.level n)
  | .power => Parser.power (below n)
  | .unary => Parser.unary (below n)
  | .primary => Parser.primary (below n)
  | .arguments name => do return .call name (← Parser.arguments (below n))

def Agreed (text : String) (known : Names) (n : Nat) (p : Procedure) : Prop :=
  ∀ c, Inside text known n c → Agrees text known (· = n) (call p) n c ((p.parserAt n).run c)

-- A chain has taken a level for each of its operators when its loop ends.
def AgreedRest (text : String) (known : Names) (n : Nat) (kind : Chain) : Prop :=
  ∀ left c, Inside text known n c →
    Agrees text known (fun _ => True) (loop (chainTurn text kind) left) n c ((kind.restAt (Parser.level n) left).run c)

structure AgreedLevel (text : String) (known : Names) (n : Nat) : Prop where
  procedure : ∀ p, Agreed text known n p
  rest : ∀ kind, AgreedRest text known n kind

def AgreedBelow (text : String) (known : Names) (n : Nat) : Prop := ∀ m, n = m + 1 → AgreedLevel text known m

theorem operand_agreed (kind : Chain) (level : Agreed text known n (operand kind)) (inside : Inside text known n c) :
    Agrees text known (· = n) (call (operand kind)) n c ((kind.operandAt (Parser.level n)).run c) := by
  have agrees := level c inside
  cases kind with
  | products =>
      rw [operand, Procedure.parserAt, ← level_power] at agrees
      exact agrees
  | sums => exact agrees
  | comparisons => exact agrees

theorem group_agrees (lower : AgreedBelow text known n) (inside : Inside text known n c) :
    Agrees text known (· = n) (group text) n c ((Parser.group (below n)).run c) := by
  rw [Parser.group, Parser.bind_advance]
  refine completes_behind (yields_advance inside) ?_
  refine agrees_descend (inside_advance inside 1) ?_
  rintro m rfl opened
  refine agrees_bind ((lower m rfl).procedure (.chain .comparisons) _ opened) ?_
  rintro content _ after rfl behind _
  refine agrees_bind (agrees_closing_paren behind) ?_
  rintro _ _ last rfl closed _
  exact agrees_ascend closed inside.levels content

theorem argument_loop_agrees (level : Agreed text known n (.chain .comparisons)) (room : Nat) (args : List Formula)
    (inside : Inside text known n c) (enough : c.rest.length < room) :
    Agrees text known (· = n) (loop (argumentTurn text) args) n c
      ((do return args ++ (← Parser.argumentList (Parser.level n).comparison room) : Parser (List Formula)).run c) := by
  induction room generalizing c args with
  | zero => exact absurd enough (Nat.not_lt_zero _)
  | succ room ih =>
      refine agrees_loop ?_
      rw [Parser.argumentList, bind_assoc]
      refine turn_bind (level c inside) ?_
      rintro item _ behind rfl reached ran
      rw [bind_assoc]
      refine turn_bind (agrees_eat [','] reached) ?_
      rintro more _ after rfl further ate
      cases more with
      | true =>
          have shorter := comparison_shrinks _ c behind item ran
          obtain ⟨white, _, passed⟩ := Parser.eat_passed [','] behind after true ate
          have notLonger : after.rest.length ≤ behind.rest.length := by
            rw [passed.rest, List.length_append]
            exact Nat.le_add_left _ _
          have others := ih (args ++ [item]) further (by omega)
          refine turn_goes_on further ?_
          simp only [if_true, bind_assoc, pure_bind, List.append_assoc, List.singleton_append] at others ⊢
          exact others
      | false =>
          rw [if_neg Bool.false_ne_true, if_neg Bool.false_ne_true, bind_assoc]
          refine turn_bind (agrees_closing_paren further) ?_
          rintro _ _ last rfl closed _
          exact turn_done closed _ rfl

theorem arguments_agreed (lower : AgreedBelow text known n) (name : String) : Agreed text known n (.arguments name) := by
  intro c inside
  refine completes_call ?_
  rw [Procedure.parserAt, Parser.arguments, bind_assoc]
  refine agrees_bind (agrees_eat [')'] inside) ?_
  rintro empty _ after rfl behind _
  cases empty with
  | true => exact agrees_done behind _ rfl
  | false =>
      rw [if_neg Bool.false_ne_true, if_neg Bool.false_ne_true, bind_assoc]
      refine agrees_descend behind ?_
      rintro m rfl opened
      rw [bind_assoc, Parser.bind_rest]
      have args := argument_loop_agrees ((lower m rfl).procedure (.chain .comparisons)) _ [] opened (Nat.lt_succ_self _)
      simp only [List.nil_append, bind_pure] at args
      refine agrees_bind args ?_
      rintro fs _ last rfl closed _
      exact agrees_ascend closed inside.levels _

theorem word_agrees (name : List Char) (start : Nat) (tail : List Char) (inside : Inside text known n c)
    (other : ∀ more, tail ≠ '(' :: more) :
    Agrees text known (· = n) (word name start) n c ((Parser.afterName (below n) name start tail).run c) := by
  rw [Parser.afterName.eq_2 _ _ _ _ other, word]
  by_cases isTrue : Text.upper name = ['T', 'R', 'U', 'E']
  · rw [if_pos isTrue, if_pos isTrue]
    exact agrees_done inside _ rfl
  rw [if_neg isTrue, if_neg isTrue]
  by_cases isFalse : Text.upper name = ['F', 'A', 'L', 'S', 'E']
  · rw [if_pos isFalse, if_pos isFalse]
    exact agrees_done inside _ rfl
  · rw [if_neg isFalse, if_neg isFalse]
    exact agrees_throw inside _

theorem identifier_agrees (call : ∀ name, Agreed text known n (.arguments name)) (inside : Inside text known n c) :
    Agrees text known (· = n) (identifier text) n c ((Parser.identifier (below n)).run c) := by
  have fits := inside_fit inside
  generalize named : c.rest.takeWhile Parser.isNameCharacter = name
  have behind := inside_advance inside name.length
  have skipped := yields_skip Parser.isNameCharacter inside
  have again := yields_read_since inside name.length
  have taken : c.rest.take name.length = name := by
    rw [← named]
    exact (List.prefix_iff_eq_take.mp (List.takeWhile_prefix _)).symm
  rw [named] at skipped
  rw [taken] at again
  have ran : (Parser.identifier (below n)).run c =
      (Parser.afterName (below n) name c.position (c.advance name.length).rest).run (c.advance name.length) := by
    rw [Parser.identifier, Parser.bind_position, Parser.bind_rest]
    simp only [named]
    rfl
  rw [ran]
  refine completes_behind (yields_get fits) ?_
  refine completes_behind skipped ?_
  refine completes_behind again ?_
  refine completes_behind (yields_peek behind) ?_
  by_cases paren : (c.advance name.length).rest.head? = some '('
  · obtain ⟨tail, opened⟩ := List.head?_eq_some_iff.mp paren
    rw [if_pos paren, opened]
    refine completes_behind (yields_advance behind) ?_
    exact call (String.ofList (Text.upper name)) _ (inside_advance behind 1)
  · rw [if_neg paren]
    refine word_agrees name c.position _ behind ?_
    rintro more same
    exact paren (List.head?_eq_some_iff.mpr ⟨more, same⟩)

theorem primary_agreed (lower : AgreedBelow text known n) (call : ∀ name, Agreed text known n (.arguments name)) :
    Agreed text known n .primary := by
  intro c inside
  have behind := inside_white inside
  refine completes_call ?_
  refine completes_behind (yields_white inside) ?_
  refine completes_behind (yields_peek behind) ?_
  cases here : c.skipWhite.rest with
  | nil =>
      rw [Procedure.parserAt, Parser.primary, Parser.bind_skip_white, Parser.bind_rest, here]
      exact agrees_throw behind _
  | cons d tail =>
      rw [Procedure.parserAt, Parser.primary_token _ d tail c here]
      simp only [List.head?_cons, Parser.token]
      by_cases digit : Number.isDigit d = true
      · rw [if_pos digit, if_pos digit]
        exact agrees_number behind ⟨d, tail, here, digit⟩
      rw [if_neg digit, if_neg digit]
      by_cases quote : d = '"' ∨ d = '\''
      · rw [if_pos quote, if_pos quote]
        exact agrees_string d behind
      rw [if_neg quote, if_neg quote]
      by_cases brace : d = '{'
      · rw [if_pos brace, if_pos brace]
        exact agrees_field behind
      rw [if_neg brace, if_neg brace]
      by_cases paren : d = '('
      · rw [if_pos paren, if_pos paren]
        exact group_agrees lower behind
      rw [if_neg paren, if_neg paren]
      have same : startsName d = (Text.isAlphabetic d || d == '_') := rfl
      by_cases starts : startsName d = true
      · rw [if_pos starts, if_pos (same ▸ starts)]
        exact identifier_agrees call behind
      · rw [if_neg starts, if_neg (same ▸ starts)]
        exact agrees_fail behind _

theorem unary_agreed (lower : AgreedBelow text known n) (token : Agreed text known n .primary) :
    Agreed text known n .unary := by
  intro c inside
  refine completes_call ?_
  refine agrees_bind (agrees_eat_first Parser.unaryOperators inside) ?_
  rintro sign _ after rfl behind _
  cases sign with
  | none => exact token after behind
  | some op =>
      refine agrees_descend behind ?_
      rintro m rfl opened
      rw [level_unary]
      refine agrees_bind ((lower m rfl).procedure .unary _ opened) ?_
      rintro f _ last rfl closed _
      exact agrees_ascend closed inside.levels _

theorem power_agreed (lower : AgreedBelow text known n) (side : Agreed text known n .unary) :
    Agreed text known n .power := by
  intro c inside
  refine completes_call ?_
  refine agrees_bind (side c inside) ?_
  rintro left _ middle rfl reached _
  refine agrees_bind (agrees_eat ['^'] reached) ?_
  rintro raised _ after rfl behind _
  cases raised with
  | false => exact agrees_done behind left rfl
  | true =>
      refine agrees_descend behind ?_
      rintro m rfl opened
      rw [level_power]
      refine agrees_bind ((lower m rfl).procedure .power _ opened) ?_
      rintro right _ last rfl closed _
      exact agrees_ascend closed inside.levels _

theorem rest_agreed (lower : AgreedBelow text known n) (kind : Chain) : AgreedRest text known n kind := by
  intro left c inside
  rw [level_over, Chain.rest_over, Parser.chain]
  refine agrees_loop ?_
  refine turn_bind (agrees_eat_first kind.operators inside) ?_
  rintro found _ after rfl behind _
  cases found with
  | none => exact turn_done behind left trivial
  | some op =>
      refine turn_descend behind ?_
      rintro m rfl opened
      have level := lower m rfl
      refine turn_bind (operand_agreed kind (level.procedure (operand kind)) opened) ?_
      rintro right _ last rfl reached _
      exact turn_goes_on reached (level.rest kind _ last reached)

-- The saved depth gives all levels of the chain back.
theorem chain_agreed (kind : Chain) (first : Agreed text known n (operand kind)) (others : AgreedRest text known n kind) :
    Agreed text known n (.chain kind) := by
  intro c inside
  have fits := inside_fit inside
  rw [Procedure.parserAt, level_over, Chain.parser_over, ← level_over]
  refine completes_call ?_
  refine completes_behind (yields_get fits) ?_
  refine agrees_bind (operand_agreed kind first inside) ?_
  rintro left _ after rfl behind _
  rw [← bind_pure (kind.restAt _ left)]
  refine agrees_bind (others left after behind) ?_
  rintro whole m last _ ended _
  have restored : Inside text known _ last := ⟨ended.split, inside.levels, ended.known⟩
  refine completes_behind (yields_get (inside_fit ended)) ?_
  refine completes_behind (yields_put (inside_fit ended) (inside_fit restored)) ?_
  exact agrees_done restored whole rfl

theorem level_agreed_step (lower : AgreedBelow text known n) : AgreedLevel text known n := by
  have rest := rest_agreed lower
  have call := arguments_agreed lower
  have primary := primary_agreed lower call
  have unary := unary_agreed lower primary
  have power := power_agreed lower unary
  have products := chain_agreed .products power (rest .products)
  have sums := chain_agreed .sums products (rest .sums)
  refine ⟨fun p => ?_, rest⟩
  cases p with
  | chain kind =>
      cases kind with
      | products => exact products
      | sums => exact sums
      | comparisons => exact chain_agreed .comparisons sums (rest .comparisons)
  | power => exact power
  | unary => exact unary
  | primary => exact primary
  | arguments name => exact call name

theorem level_agreed (text : String) (known : Names) (n : Nat) : AgreedLevel text known n := by
  induction n with
  | zero => exact level_agreed_step (fun m same => by cases same)
  | succ n ih =>
      refine level_agreed_step ?_
      intro m same
      cases same
      exact ih

theorem formula_agrees (inside : Inside text known Parser.maxDepth c) :
    Agrees text known (· = Parser.maxDepth) (formula text) Parser.maxDepth c (Parser.formula.run c) := by
  have whole := (level_agreed text known Parser.maxDepth).procedure (.chain .comparisons) c inside
  refine agrees_bind whole ?_
  rintro f _ after rfl reached _
  have behind := inside_white reached
  rw [Parser.bind_skip_white, Parser.bind_rest]
  refine completes_behind (yields_white reached) ?_
  refine completes_behind (yields_peek behind) ?_
  cases after.skipWhite.rest with
  | nil => exact agrees_done behind f rfl
  | cons d tail => exact agrees_fail behind _

end FormulaField.Descent
