import FormulaField.Proofs.Formula.Beginnings
import FormulaField.Proofs.Formula.Failure

set_option autoImplicit false

namespace FormulaField

open FormulaField.Parser (Level bind_run bind_error)

variable {α β : Type}

namespace ParseError

def Holds (rest : List Char) : ParseError → Prop
  | .unterminatedString _ => ∃ quote cs, rest = quote :: cs ∧ (quote = '"' ∨ quote = '\'') ∧
      ∀ content body tail, Quoted quote content body → cs ≠ body ++ tail
  | .unterminatedFieldReference _ => ∃ cs, rest = '{' :: cs ∧ '}' ∉ cs
  | .unexpectedCharacter c _ => ∃ cs, rest = c :: cs
  | .expectedClosingParen _ => ∀ c ∈ rest.head?, Text.isWhite c = false ∧ c ≠ ')'
  | .unexpectedIdentifier name _ => ∃ cs tail, rest = cs ++ tail ∧ name = String.ofList cs ∧ IsName cs ∧
      (∀ c ∈ tail.head?, Parser.isNameCharacter c = false ∧ c ≠ '(') ∧ ∀ b, Text.upper cs ≠ booleanWord b
  | .tooDeeplyNested _ => True
  | .unexpectedEnd => rest = []

-- The levels that the text in front of an error takes where there are some.
def levels (n : Nat) : ParseError → Nat
  | .tooDeeplyNested _ => n + 1
  | _ => n

end ParseError

def ParseError.Marks (e : ParseError) (place : Cursor) : Prop :=
  match e.position? with
  | some position => position = place.position
  | none => place.rest = []

structure Cursor.StoppedAt (e : ParseError) (place after : Cursor) : Prop where
  marks : e.Marks place
  holds : e.Holds place.rest
  ended : e = .unexpectedEnd → after.rest = []
  reads : after.reads = place.reads

def StopsIn (n : Nat) (slot : Slot) (before : Cursor) (e : ParseError) (after : Cursor) : Prop :=
  ∃ cs names place, before.Passed cs names place ∧ Begun n slot cs names ∧ Cursor.StoppedAt e place after

def Located (n : Nat) (slot : Slot) (p : Parser α) : Prop :=
  ∀ before e after, p.run before = .error e after → StopsIn (e.levels n) slot before e after

theorem written_levels (n : Nat) (e : ParseError) (phrase : Phrase) (cs : List Char) (written : Written n phrase cs) :
    Written (e.levels n) phrase cs := by
  cases e with
  | tooDeeplyNested position => exact written_succ n phrase cs written
  | _ => exact written

theorem stops_here (n : Nat) (slot : Slot) (before after : Cursor) (e : ParseError) (begun : Begun n slot [] [])
    (stopped : Cursor.StoppedAt e before after) : StopsIn n slot before e after :=
  ⟨[], [], before, Cursor.passed_nothing before, begun, stopped⟩

theorem stops_behind (m n : Nat) (part slot : Slot) (before middle after : Cursor) (e : ParseError) (cs : List Char)
    (names : List String) (passed : before.Passed cs names middle) (stops : StopsIn m part middle e after)
    (step : ∀ ds more, Begun m part ds more → Begun n slot (cs ++ ds) (names ++ more)) :
    StopsIn n slot before e after := by
  obtain ⟨ds, more, place, further, begun, stopped⟩ := stops
  exact ⟨cs ++ ds, names ++ more, place, Cursor.passed_trans before middle place cs ds names more passed further,
    step ds more begun, stopped⟩

theorem bind_failed (p : Parser α) (q : α → Parser β) (before after : Cursor) (e : ParseError)
    (failed : (p >>= q).run before = .error e after) :
    p.run before = .error e after ∨ ∃ a middle, p.run before = .ok a middle ∧ (q a).run middle = .error e after := by
  cases ran : p.run before with
  | ok a middle =>
      rw [bind_run p q before middle a ran] at failed
      exact .inr ⟨a, middle, rfl, failed⟩
  | error e' after' =>
      rw [bind_error p q before after' e' ran] at failed
      cases failed
      exact .inl rfl

theorem return_failed (f : α → β) (p : Parser α) (before after : Cursor) (e : ParseError)
    (failed : (do return f (← p) : Parser β).run before = .error e after) : p.run before = .error e after := by
  rcases bind_failed _ _ before after e failed with here | ⟨a, middle, _, returned⟩
  · exact here
  · cases returned

theorem eat_failed (symbol : List Char) (q : Bool → Parser α) (before after : Cursor) (e : ParseError)
    (failed : (Parser.eat symbol >>= q).run before = .error e after) :
    ∃ taken white middle, White white ∧ before.Passed (white ++ if taken then symbol else []) [] middle ∧
      (q taken).run middle = .error e after := by
  rcases bind_failed _ _ before after e failed with never | ⟨taken, middle, ate, failed⟩
  · rw [Parser.run_eat] at never
    split at never <;> cases never
  · obtain ⟨white, isWhite, passed⟩ := Parser.eat_passed symbol before middle taken ate
    exact ⟨taken, white, middle, isWhite, passed, failed⟩

theorem eat_first_failed (symbols : List (List Char × β)) (q : Option β → Parser α) (before after : Cursor)
    (e : ParseError) (nonempty : symbols ≠ []) (failed : (Parser.eatFirst symbols >>= q).run before = .error e after) :
    ∃ white middle, White white ∧
      ((before.Passed white [] middle ∧ (q none).run middle = .error e after) ∨
        ∃ symbol op, (symbol, op) ∈ symbols ∧ before.Passed (white ++ symbol) [] middle ∧
          (q (some op)).run middle = .error e after) := by
  rcases bind_failed _ _ before after e failed with never | ⟨found, middle, ate, failed⟩
  · rw [Parser.run_eat_first symbols nonempty] at never
    split at never <;> cases never
  · obtain ⟨white, isWhite, passed⟩ := Parser.eat_first_passed symbols before middle found ate
    cases found with
    | none => exact ⟨white, middle, isWhite, .inl ⟨passed, failed⟩⟩
    | some op =>
        obtain ⟨symbol, member, overSymbol⟩ := passed
        exact ⟨white, middle, isWhite, .inr ⟨symbol, op, member, overSymbol, failed⟩⟩

theorem descend_failed (n : Nat) (q : Level → Parser α) (before after : Cursor) (e : ParseError) (goal : Nat → Prop)
    (failed : (Parser.descend (below n) >>= q).run before = .error e after)
    (deep : Cursor.StoppedAt e before after → goal 0)
    (lower : ∀ m, n = m + 1 → (q (Parser.level m)).run before = .error e after → goal (e.levels m)) :
    ∃ k, e.levels n = k + 1 ∧ goal k := by
  cases n with
  | zero =>
      cases failed
      exact ⟨0, rfl, deep ⟨rfl, trivial, by simp, rfl⟩⟩
  | succ m =>
      refine ⟨e.levels m, ?_, lower m rfl failed⟩
      cases e <;> rfl

theorem closing_paren_failed (before after : Cursor) (e : ParseError)
    (failed : Parser.closingParen.run before = .error e after) :
    ∃ white place, White white ∧ before.Passed white [] place ∧ Cursor.StoppedAt e place after := by
  have skipped := Cursor.passed_skip_white before
  refine ⟨_, before.skipWhite, white_take_while before.rest, skipped, ?_⟩
  have ate := Parser.run_eat [')'] before
  by_cases here : [')'].isPrefixOf before.skipWhite.rest = true
  · rw [if_pos here] at ate
    rw [Parser.closingParen, bind_run _ _ before _ true ate] at failed
    cases failed
  · rw [if_neg here] at ate
    rw [Parser.closingParen, bind_run _ _ before _ false ate] at failed
    cases failed
    refine ⟨rfl, ?_, by simp, rfl⟩
    intro c member
    rw [Cursor.skip_white_rest] at here member
    constructor
    · exact stops_drop_while Text.isWhite before.rest c member
    · rintro rfl
      obtain ⟨tail, split⟩ := List.head?_eq_some_iff.mp member
      simp [split] at here

theorem below_sound (n : Nat) : SoundBelow (below n) n := by
  cases n with
  | zero => simp [SoundBelow, below]
  | succ m =>
      intro level same
      cases same
      exact ⟨m, rfl, level_sound m⟩

theorem comparison_shrinks (n : Nat) (before after : Cursor) (f : Formula)
    (ran : (Parser.level n).comparison.run before = .ok f after) : after.rest.length < before.rest.length := by
  obtain ⟨cs, white, names, written, _, _, passed⟩ := (level_sound n).chain .comparisons before f after ran
  obtain ⟨space, c, rest, rfl, _, _⟩ := written_opens n _ cs (by simp) written
  rw [passed.rest]
  simp only [List.length_append, List.length_cons]
  omega

structure LocatedLevel (n : Nat) : Prop where
  unary : Located n .unary (Parser.level n).unary
  power : Located n .power (Parser.level n).power
  chain : ∀ kind : Chain, Located n (.chain kind) (kind.parserAt (Parser.level n))
  rest : ∀ (kind : Chain) left, Located n (.rest kind left) (kind.restAt (Parser.level n) left)

def LocatedBelow (n : Nat) : Prop := ∀ m, n = m + 1 → LocatedLevel m

theorem string_located (n : Nat) (quote : Char) (rest : List Char) (before after : Cursor) (e : ParseError)
    (isQuote : quote = '"' ∨ quote = '\'') (here : before.rest = quote :: rest)
    (failed : (Parser.string quote).run before = .error e after) : StopsIn n .unary before e after := by
  rw [Parser.string, Parser.bind_rest, here, List.drop_one, List.tail_cons] at failed
  cases quoted : Parser.quoted? quote rest with
  | some content =>
      rw [quoted] at failed
      cases failed
  | none =>
      rw [quoted] at failed
      cases failed
      have notHiding : quote ≠ '\\' := by rcases isQuote with rfl | rfl <;> decide
      have unclosed := (quoted_unread quote rest notHiding).mp quoted
      exact stops_here n .unary before before _ (.token n) ⟨rfl, ⟨quote, rest, here, isQuote, unclosed⟩, by simp, rfl⟩

theorem field_located (n : Nat) (rest : List Char) (before after : Cursor) (e : ParseError)
    (here : before.rest = '{' :: rest) (failed : Parser.fieldReference.run before = .error e after) :
    StopsIn n .unary before e after := by
  rw [Parser.fieldReference, Parser.bind_rest] at failed
  simp only [here, List.drop_one, List.tail_cons] at failed
  by_cases closed : (rest.takeWhile (· != '}')).length < rest.length
  · rw [if_pos closed] at failed
    cases failed
  · rw [if_neg closed] at failed
    cases failed
    refine stops_here n .unary before before _ (.token n) ⟨rfl, ⟨rest, here, ?_⟩, by simp, rfl⟩
    intro member
    have whole := (List.takeWhile_prefix (· != '}')).eq_of_length
      (Nat.le_antisymm (List.takeWhile_prefix (· != '}')).length_le (Nat.le_of_not_lt closed))
    rw [← whole] at member
    simpa using all_of_take_while (· != '}') rest '}' member

theorem enclosed_located (n : Nat) (level : LocatedLevel n) :
    Located n .enclosed (do
      let content ← (Parser.level n).comparison
      Parser.closingParen
      return content) := by
  intro before e after failed
  rcases bind_failed _ _ before after e failed with first | ⟨f, middle, ran, failed⟩
  · exact stops_behind _ _ (.chain .comparisons) _ before before after e [] [] (Cursor.passed_nothing before)
      (level.chain .comparisons before e after first) (fun ds more begun => .inside _ ds more begun)
  · obtain ⟨cs, white, written, isWhite, passed⟩ :=
      sound_passed n _ _ ((level_sound n).chain .comparisons) before middle f ran
    obtain ⟨space, place, spaceWhite, further, stopped⟩ :=
      closing_paren_failed middle after e (return_failed (fun _ => f) _ middle after e failed)
    have all := Cursor.passed_trans before middle place _ _ _ _ passed further
    rw [List.append_assoc, List.append_nil] at all
    exact ⟨_, _, place, all, .unclosed _ f cs _ (white_append white space isWhite spaceWhite)
      (written_levels n e _ cs written), stopped⟩

-- An item takes at least a character, so the room that there is for items never runs out.
theorem items_located (n room : Nat) (level : LocatedLevel n) (before after : Cursor) (e : ParseError)
    (enough : before.rest.length < room)
    (failed : (Parser.argumentList (Parser.level n).comparison room).run before = .error e after) :
    StopsIn (e.levels n) .items before e after := by
  induction room generalizing before with
  | zero => exact absurd enough (Nat.not_lt_zero _)
  | succ room ih =>
      rcases bind_failed _ _ before after e failed with first | ⟨f, behind, ran, failed⟩
      · exact stops_behind _ _ (.chain .comparisons) _ before before after e [] [] (Cursor.passed_nothing before)
          (level.chain .comparisons before e after first)
          (fun ds more begun => .item _ ds more (.inside _ ds more begun))
      obtain ⟨cs, white, written, isWhite, passed⟩ :=
        sound_passed n _ _ ((level_sound n).chain .comparisons) before behind f ran
      have content := written_levels n e _ cs written
      obtain ⟨taken, space, middle, spaceWhite, overComma, failed⟩ := eat_failed [','] _ behind after e failed
      have both := Cursor.passed_trans before behind middle _ _ _ _ passed overComma
      have allWhite := white_append white space isWhite spaceWhite
      cases taken with
      | true =>
          have shorter := comparison_shrinks n before behind f ran
          have notLonger : middle.rest.length ≤ behind.rest.length := by
            rw [overComma.rest, List.length_append]
            exact Nat.le_add_left _ _
          have others := ih middle (by omega) (return_failed (f :: ·) _ middle after e failed)
          refine stops_behind _ _ .items _ before middle after e _ _ both others ?_
          intro ds more begun
          simpa using Begun.more _ f cs (white ++ space) ds more allWhite content begun
      | false =>
          obtain ⟨last, place, lastWhite, further, stopped⟩ :=
            closing_paren_failed middle after e (return_failed (fun _ => [f]) _ middle after e failed)
          have all := Cursor.passed_trans before middle place _ _ _ _ both further
          refine ⟨_, _, place, all, ?_, stopped⟩
          simpa using Begun.item _ _ _
            (.unclosed _ f cs (white ++ space ++ last) (white_append _ last allWhite lastWhite) content)

theorem arguments_located (n : Nat) (lower : LocatedBelow n) (before after : Cursor) (e : ParseError)
    (failed : (Parser.arguments (below n)).run before = .error e after) :
    ∃ k, e.levels n = k + 1 ∧ StopsIn k .items before e after := by
  obtain ⟨taken, white, middle, isWhite, passed, failed⟩ := eat_failed [')'] _ before after e failed
  cases taken with
  | true => cases failed
  | false =>
      rw [if_neg Bool.false_ne_true, List.append_nil] at passed
      have behindWhite : ∀ k, StopsIn k .items middle e after → StopsIn k .items before e after := fun k stops =>
        stops_behind k k .items .items before middle after e white [] passed stops
          (fun ds more begun => .spaced k .items white ds more isWhite begun)
      refine descend_failed n _ middle after e _ failed ?_ ?_
      · exact fun stopped => behindWhite 0 (stops_here 0 .items middle after e (.item 0 [] [] (begun_enclosed 0)) stopped)
      · intro m isBelow failed
        exact behindWhite _ (items_located m _ (lower m isBelow) middle after e (Nat.lt_succ_self _) failed)

theorem identifier_located (n : Nat) (lower : LocatedBelow n) (c : Char) (rest : List Char) (before after : Cursor)
    (e : ParseError) (here : before.rest = c :: rest) (starts : startsName c = true)
    (failed : (Parser.identifier (below n)).run before = .error e after) :
    StopsIn (e.levels n) .unary before e after := by
  obtain ⟨name, tail, split, isName, stops⟩ := name_split c rest starts
  rw [← here] at split
  obtain ⟨behind, ran⟩ := Parser.identifier_named (below n) name tail before isName stops split
  rw [ran] at failed
  by_cases paren : ∃ more, tail = '(' :: more
  · obtain ⟨more, rfl⟩ := paren
    have overName := Cursor.passed_advance before name _ split
    have overParen := Cursor.passed_advance (before.advance name.length) ['('] more behind
    have passed := Cursor.passed_trans before _ _ _ _ _ _ overName overParen
    rw [Parser.afterName, Parser.bind_advance] at failed
    obtain ⟨k, levels, inside⟩ :=
      arguments_located n lower _ after e (return_failed (Formula.call (String.ofList (Text.upper name))) _ _ after e failed)
    rw [levels]
    refine stops_behind k (k + 1) .items .unary before _ after e _ _ passed inside ?_
    intro ds names begun
    simpa using Begun.call k name ds names isName begun
  · rw [Parser.afterName.eq_2 _ _ _ _ (fun more same => paren ⟨more, same⟩)] at failed
    by_cases isTrue : Text.upper name = ['T', 'R', 'U', 'E']
    · rw [if_pos isTrue] at failed
      cases failed
    rw [if_neg isTrue] at failed
    by_cases isFalse : Text.upper name = ['F', 'A', 'L', 'S', 'E']
    · rw [if_pos isFalse] at failed
      cases failed
    · rw [if_neg isFalse] at failed
      cases failed
      refine stops_here n .unary before _ _ (.token n) ⟨rfl, ⟨name, tail, split, rfl, isName, ?_, ?_⟩, by simp, rfl⟩
      · refine fun d member => ⟨stops d member, ?_⟩
        rintro rfl
        exact paren (List.head?_eq_some_iff.mp member)
      · intro b
        cases b with
        | true => exact isTrue
        | false => exact isFalse

theorem group_located (n : Nat) (lower : LocatedBelow n) (rest : List Char) (before after : Cursor) (e : ParseError)
    (here : before.rest = '(' :: rest) (failed : (Parser.group (below n)).run before = .error e after) :
    StopsIn (e.levels n) .unary before e after := by
  have overParen := Cursor.passed_advance before ['('] rest here
  obtain ⟨k, levels, inside⟩ := descend_failed n _ (before.advance 1) after e
    (fun k => StopsIn k .enclosed (before.advance 1) e after) failed
    (stops_here 0 .enclosed _ after e (begun_enclosed 0))
    (fun m isBelow failed => enclosed_located m (lower m isBelow) _ e after failed)
  rw [levels]
  exact stops_behind k (k + 1) .enclosed .unary before _ after e ['('] [] overParen inside
    (fun ds names begun => .group k ds names begun)

theorem token_located (n : Nat) (lower : LocatedBelow n) (c : Char) (rest : List Char) (before after : Cursor)
    (e : ParseError) (here : before.rest = c :: rest) (failed : (Parser.token (below n) c).run before = .error e after) :
    StopsIn (e.levels n) .unary before e after := by
  unfold Parser.token at failed
  by_cases digit : Number.isDigit c = true
  · rw [if_pos digit] at failed
    cases failed
  rw [if_neg digit] at failed
  by_cases quote : c = '"' ∨ c = '\''
  · rw [if_pos quote] at failed
    exact string_located _ c rest before after e quote here failed
  rw [if_neg quote] at failed
  by_cases brace : c = '{'
  · rw [if_pos brace] at failed
    exact field_located _ rest before after e (brace ▸ here) failed
  rw [if_neg brace] at failed
  by_cases paren : c = '('
  · rw [if_pos paren] at failed
    exact group_located n lower rest before after e (paren ▸ here) failed
  rw [if_neg paren] at failed
  by_cases starts : startsName c = true
  · rw [if_pos starts] at failed
    exact identifier_located n lower c rest before after e here starts failed
  · rw [if_neg starts] at failed
    cases failed
    exact stops_here n .unary before before _ (.token n) ⟨rfl, ⟨rest, here⟩, by simp, rfl⟩

theorem primary_located (n : Nat) (lower : LocatedBelow n) : Located n .unary (Parser.primary (below n)) := by
  intro before e after failed
  have skipped := Cursor.passed_skip_white before
  have isWhite := white_take_while before.rest
  suffices there : StopsIn (e.levels n) .unary before.skipWhite e after from
    stops_behind _ _ .unary .unary before _ after e _ [] skipped there
      (fun ds names begun => .spaced _ .unary _ ds names isWhite begun)
  cases here : before.skipWhite.rest with
  | nil =>
      rw [Parser.primary, Parser.bind_skip_white, Parser.bind_rest, here] at failed
      cases failed
      exact stops_here n .unary _ _ _ (.token n) ⟨here, here, fun _ => here, rfl⟩
  | cons c rest =>
      rw [Parser.primary_token _ c rest before here] at failed
      exact token_located n lower c rest _ after e here failed

theorem unary_located (n : Nat) (lower : LocatedBelow n) : Located n .unary (Parser.unary (below n)) := by
  intro before e after failed
  obtain ⟨white, middle, isWhite, plain | ⟨symbol, op, member, overSymbol, failed⟩⟩ :=
    eat_first_failed _ _ before after e (by simp [Parser.unaryOperators]) failed
  · obtain ⟨passed, failed⟩ := plain
    exact stops_behind _ _ .unary .unary before middle after e white [] passed
      (primary_located n lower middle e after failed) (fun ds names begun => .spaced _ .unary white ds names isWhite begun)
  · obtain ⟨k, levels, inside⟩ := descend_failed n _ middle after e (fun k => StopsIn k .unary middle e after) failed
      (stops_here 0 .unary middle after e (.token 0))
      (fun m isBelow failed => (lower m isBelow).unary middle e after (return_failed (Formula.unary op) _ _ _ _ failed))
    rw [levels]
    refine stops_behind k (k + 1) .unary .unary before middle after e _ [] overSymbol inside ?_
    intro ds names begun
    rw [List.append_assoc]
    exact .spaced _ .unary white _ names isWhite (.signed k op symbol ds names member begun)

theorem power_located (n : Nat) (lower : LocatedBelow n) : Located n .power (Parser.power (below n)) := by
  intro before e after failed
  rcases bind_failed _ _ before after e failed with first | ⟨left, behind, ran, failed⟩
  · exact stops_behind _ _ .unary .power before before after e [] [] (Cursor.passed_nothing before)
      (unary_located n lower before e after first) (fun ds names begun => .base _ ds names begun)
  obtain ⟨cs, white, written, isWhite, passed⟩ :=
    sound_passed n _ _ (unary_sound (below n) n (below_sound n)) before behind left ran
  obtain ⟨taken, space, middle, spaceWhite, overCaret, failed⟩ := eat_failed ['^'] _ behind after e failed
  have both := Cursor.passed_trans before behind middle _ _ _ _ passed overCaret
  cases taken with
  | false => cases failed
  | true =>
      obtain ⟨k, levels, inside⟩ := descend_failed n _ middle after e (fun k => StopsIn k .power middle e after) failed
        (stops_here 0 .power middle after e (begun_power 0))
        (fun m isBelow failed =>
          (lower m isBelow).power middle e after (return_failed (Formula.binary .power left) _ _ _ _ failed))
      have leftWritten := written_levels n e _ cs written
      rw [levels] at leftWritten ⊢
      refine stops_behind k (k + 1) .power .power before middle after e _ _ both inside ?_
      intro ds names begun
      simpa using Begun.raised k left cs (white ++ space) ds names (white_append white space isWhite spaceWhite)
        leftWritten begun

theorem operand_located (n : Nat) (kind : Chain) (level : LocatedLevel n) :
    Located n kind.operandSlot (kind.operandAt (Parser.level n)) := by
  cases kind with
  | products => exact level.power
  | sums => exact level.chain .products
  | comparisons => exact level.chain .sums

theorem rest_located (n : Nat) (lower : LocatedBelow n) (kind : Chain) (left : Formula) :
    Located n (.rest kind left) (kind.restAt (Parser.level n) left) := by
  intro before e after failed
  have nonempty : kind.operators ≠ [] := by
    cases kind <;> simp [Chain.operators, Parser.multiplicativeOperators, Parser.additiveOperators,
      Parser.comparisonOperators]
  rw [level_over, Chain.rest_over] at failed
  obtain ⟨white, middle, isWhite, plain | ⟨symbol, op, member, overSymbol, failed⟩⟩ :=
    eat_first_failed _ _ before after e nonempty failed
  · cases plain.2
  · -- The error is in the operand after the operator, or in the rest of the chain after that.
    have inOperand : ∀ k, StopsIn k kind.operandSlot middle e after →
        StopsIn (k + 1) (.rest kind left) before e after := by
      intro k stops
      refine stops_behind k (k + 1) kind.operandSlot _ before middle after e _ [] overSymbol stops ?_
      intro ds names begun
      rw [List.append_assoc]
      exact .spaced _ _ white _ names isWhite (.operand k kind op symbol left ds names member begun)
    obtain ⟨k, levels, stops⟩ := descend_failed n _ middle after e
      (fun k => StopsIn (k + 1) (.rest kind left) before e after) failed
      (fun stopped => inOperand 0 (stops_here 0 _ middle after e (begun_operand 0 kind) stopped)) (by
        intro m isBelow failed
        rcases bind_failed _ _ middle after e failed with first | ⟨right, behind, ran, failed⟩
        · exact inOperand _ (operand_located m kind (lower m isBelow) middle e after first)
        · obtain ⟨cs, space, written, spaceWhite, overRight⟩ :=
            sound_passed m _ _ (operand_sound _ m kind (level_sound m)) middle behind right ran
          have both := Cursor.passed_trans before middle behind _ _ _ _ overSymbol overRight
          refine stops_behind _ _ _ _ before behind after e _ _ both ((lower m isBelow).rest kind _ behind e after failed) ?_
          intro ds names begun
          have next := Begun.next _ kind op symbol left right cs (space ++ ds) names member
            (written_levels m e _ cs written) (.spaced _ _ space ds names spaceWhite begun)
          simpa using Begun.spaced _ _ white _ _ isWhite next)
    rw [levels]
    exact stops

theorem chain_located (n : Nat) (lower : LocatedBelow n) (kind : Chain)
    (operand : Located n kind.operandSlot (kind.operandAt (Parser.level n))) :
    Located n (.chain kind) (kind.parserAt (Parser.level n)) := by
  intro before e after failed
  rw [level_over, Chain.parser_over, ← level_over] at failed
  rcases bind_failed _ _ before after e failed with first | ⟨left, behind, ran, failed⟩
  · exact stops_behind _ _ kind.operandSlot _ before before after e [] [] (Cursor.passed_nothing before)
      (operand before e after first) (fun ds names begun => .first _ kind ds names begun)
  · obtain ⟨cs, white, written, isWhite, passed⟩ :=
      sound_passed n _ _ (operand_sound _ n kind (level_sound n)) before behind left ran
    refine stops_behind _ _ _ _ before behind after e _ _ passed
      (rest_located n lower kind left behind e after failed) ?_
    intro ds names begun
    rw [List.append_assoc]
    exact .others _ kind left cs _ names (written_levels n e _ cs written) (.spaced _ _ white ds names isWhite begun)

theorem level_located_step (n : Nat) (lower : LocatedBelow n) : LocatedLevel n := by
  have power : Located n .power (Parser.level n).power := by
    rw [level_power]
    exact power_located n lower
  have product := chain_located n lower .products power
  have sum := chain_located n lower .sums product
  refine ⟨?_, power, ?_, rest_located n lower⟩
  · rw [level_unary]
    exact unary_located n lower
  · intro kind
    cases kind with
    | products => exact product
    | sums => exact sum
    | comparisons => exact chain_located n lower .comparisons sum

theorem level_located (n : Nat) : LocatedLevel n := by
  induction n with
  | zero => exact level_located_step 0 (fun m same => by cases same)
  | succ n ih =>
      refine level_located_step (n + 1) ?_
      intro m same
      cases same
      exact ih

theorem formula_located (before after : Cursor) (e : ParseError) (failed : Parser.formula.run before = .error e after) :
    ∃ cs names place, before.Passed cs names place ∧ Cursor.StoppedAt e place after ∧ Reads cs names ∧
      ∃ f text white suffix, White white ∧ cs ++ suffix = text ++ white ∧
        Written (e.levels Parser.maxDepth) (.chain .comparisons f) text := by
  rcases bind_failed _ _ before after e failed with first | ⟨f, behind, ran, failed⟩
  · obtain ⟨cs, names, place, passed, begun, stopped⟩ :=
      (level_located Parser.maxDepth).chain .comparisons before e after first
    obtain ⟨f, suffix, written⟩ := completes_text _ _ cs (begun_completed _ _ cs names begun)
    exact ⟨cs, names, place, passed, stopped, begun_reads _ _ cs names begun, f, cs ++ suffix, [], suffix,
      by simp [White], by simp, written⟩
  · obtain ⟨cs, white, written, isWhite, passed⟩ :=
      sound_passed Parser.maxDepth _ _ ((level_sound Parser.maxDepth).chain .comparisons) before behind f ran
    have all := Cursor.passed_trans before behind _ _ _ _ _ passed (Cursor.passed_skip_white behind)
    have allWhite := white_append white _ isWhite (white_take_while behind.rest)
    rw [Parser.bind_skip_white, Parser.bind_rest] at failed
    cases here : behind.skipWhite.rest with
    | nil =>
        rw [here] at failed
        cases failed
    | cons c rest =>
        rw [here] at failed
        cases failed
        rw [List.append_assoc, List.append_nil] at all
        have reads := reads_before cs _ _ (written_reads _ _ cs written) (white_bare _ allWhite)
        exact ⟨_, _, behind.skipWhite, all, ⟨rfl, ⟨rest, here⟩, by simp, rfl⟩, reads, f, cs, _, [], allWhite,
          List.append_nil _, written⟩

-- The position of an error counts the bytes of the text in front of it, and what the error says is so of the text
-- behind that place; at an unexpected end there is none and the parser has read it all. Unless the error is one
-- of nesting, the text in front of it goes on to one that is accepted.
theorem errors_located (s : String) (e : ParseError) (rejected : (parse s).result = .error e) :
    ∃ before rest after, s.toList = before ++ rest ∧
      (∀ position, e.position? = some position → position = byteLength before) ∧ e.Holds rest ∧
      Parser.formula.run (Cursor.start s.toList) = .error e after ∧ (e = .unexpectedEnd → after.rest = []) ∧
      ((∀ position, e ≠ .tooDeeplyNested position) →
        ∃ suffix, (parse (String.ofList (before ++ suffix))).isValid = true) := by
  obtain ⟨after, failed⟩ : ∃ after, Parser.formula.run (Cursor.start s.toList) = .error e after := by
    rw [parse, parseChars] at rejected
    split at rejected
    next => cases rejected
    next e' after failed =>
      cases rejected
      exact ⟨after, failed⟩
  obtain ⟨cs, names, place, passed, stopped, _, f, text, white, suffix, isWhite, split, written⟩ :=
    formula_located _ after e failed
  refine ⟨cs, place.rest, after, passed.rest, ?_, stopped.holds, failed, stopped.ended, ?_⟩
  · intro position named
    have marks := stopped.marks
    simp only [ParseError.Marks, named] at marks
    rw [marks, passed.position]
    exact Nat.zero_add _
  · intro notDeep
    have levels : e.levels Parser.maxDepth = Parser.maxDepth := by
      cases e with
      | tooDeeplyNested position => exact absurd rfl (notDeep position)
      | _ => rfl
    rw [levels] at written
    refine ⟨suffix, ?_⟩
    rw [Parsed.isValid, parse_complete _ f text white written isWhite (String.toList_ofList.trans split)]
    rfl

theorem open_string_located :
    (parse "IF(\x7bé\x7d, 'it\\'s)").result = .error (.unterminatedString 9) ∧
      ∃ before rest, "IF(\x7bé\x7d, 'it\\'s)".toList = before ++ rest ∧ 9 = byteLength before ∧
        (ParseError.unterminatedString 9).Holds rest ∧
        ∃ suffix, (parse (String.ofList (before ++ suffix))).isValid = true := by
  have rejected : (parse "IF(\x7bé\x7d, 'it\\'s)").result = .error (.unterminatedString 9) := rfl
  obtain ⟨before, rest, _, split, position, holds, _, _, completed⟩ := errors_located _ _ rejected
  exact ⟨rejected, before, rest, split, position 9 rfl, holds, completed (by simp)⟩

end FormulaField
