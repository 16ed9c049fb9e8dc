import FormulaField.Proofs.Formula.Completeness

set_option autoImplicit false

namespace FormulaField

open FormulaField.Parser (Level bind_run bind_error)

variable {α β : Type} {error : ParseError → Prop}

def Fails (error : ParseError → Prop) (p : Parser α) (before : Cursor) : Prop :=
  ∃ e after, error e ∧ p.run before = .error e after

theorem bind_fails (p : Parser α) (q : α → Parser β) (before : Cursor) (fails : Fails error p before) :
    Fails error (p >>= q) before := by
  obtain ⟨e, after, isError, failed⟩ := fails
  exact ⟨e, after, isError, bind_error p q before after e failed⟩

theorem fails_behind (p : Parser α) (q : α → Parser β) (before after : Cursor) (a : α)
    (ran : p.run before = .ok a after) (fails : Fails error (q a) after) : Fails error (p >>= q) before := by
  rw [Fails, bind_run p q before after a ran]
  exact fails

theorem fails_same (p q : Parser α) (before middle : Cursor) (same : p.run before = q.run middle)
    (fails : Fails error q middle) : Fails error p before := by
  rw [Fails, same]
  exact fails

theorem fails_map (f : α → β) (p : Parser α) (before : Cursor) (fails : Fails error p before) :
    Fails error (f <$> p) before := by
  rw [map_eq_pure_bind]
  exact bind_fails p _ before fails

theorem level_unary (n : Nat) : (Parser.level n).unary = Parser.unary (below n) := by
  rw [level_over]
  rfl

theorem level_power (n : Nat) : (Parser.level n).power = Parser.power (below n) := by
  rw [level_over]
  rfl

theorem power_fails (n : Nat) (before : Cursor) (fails : Fails error (Parser.unary (below n)) before) :
    Fails error (Parser.power (below n)) before :=
  bind_fails _ _ before fails

theorem chain_fails (n : Nat) (kind : Chain) (before : Cursor)
    (fails : Fails error (kind.operandAt (Parser.level n)) before) :
    Fails error (kind.parserAt (Parser.level n)) before := by
  rw [level_over] at fails ⊢
  rw [Chain.parser_over]
  exact bind_fails _ _ before fails

theorem operand_fails (n : Nat) (kind : Chain) (before : Cursor)
    (fails : Fails error (Parser.level n).power before) : Fails error (kind.operandAt (Parser.level n)) before := by
  have product : Fails error (Parser.level n).product before := chain_fails n .products before fails
  cases kind with
  | products => exact fails
  | sums => exact product
  | comparisons => exact chain_fails n .sums before product

theorem rest_fails (n : Nat) (kind : Chain) (left : Formula) (before middle : Cursor)
    (ran : (kind.operandAt (Parser.level n)).run before = .ok left middle)
    (fails : Fails error (kind.restAt (Parser.level n) left) middle) :
    Fails error (kind.parserAt (Parser.level n)) before := by
  rw [level_over] at ran fails ⊢
  rw [Chain.parser_over]
  exact fails_behind _ _ before middle left ran fails

-- A chain stands at the start of the looser chains.
theorem comparison_fails (n : Nat) (kind : Chain) (before : Cursor)
    (fails : Fails error (kind.parserAt (Parser.level n)) before) : Fails error (Parser.level n).comparison before := by
  cases kind with
  | products => exact chain_fails n .comparisons before (chain_fails n .sums before fails)
  | sums => exact chain_fails n .comparisons before fails
  | comparisons => exact fails

theorem power_comparison_fails (n : Nat) (before : Cursor) (fails : Fails error (Parser.power (below n)) before) :
    Fails error (Parser.level n).comparison before := by
  rw [← level_power] at fails
  exact comparison_fails n .products before (chain_fails n .products before fails)

theorem formula_fails (s : String)
    (fails : Fails error (Parser.unary (below Parser.maxDepth)) (Cursor.start s.toList)) :
    ∃ e, error e ∧ (parse s).result = .error e := by
  have whole : Fails error Parser.formula (Cursor.start s.toList) :=
    bind_fails _ _ _ (power_comparison_fails Parser.maxDepth _ (power_fails Parser.maxDepth _ fails))
  obtain ⟨e, after, isError, failed⟩ := whole
  refine ⟨e, isError, ?_⟩
  rw [parse, parseChars, failed]

theorem unknown_word (name tail : List Char) (isName : IsName name) (stops : Stops Parser.isNameCharacter tail)
    (notCalled : ∀ c ∈ tail.head?, c ≠ '(') (unknown : ∀ b, Text.upper name ≠ booleanWord b) :
    (parse (String.ofList (name ++ tail))).isValid = false := by
  obtain ⟨c, letters, rfl, starts⟩ := isName.start
  obtain ⟨token, opens, noSign⟩ := name_token (below Parser.maxDepth) c starts
  have here : (Cursor.start (String.ofList (c :: letters ++ tail)).toList).Before (c :: (letters ++ tail)) :=
    Cursor.before_rest _ _ String.toList_ofList
  obtain ⟨middle, split, toToken⟩ :=
    Parser.unary_token (below Parser.maxDepth) c _ _ here (opens_not_white c opens) noSign
  obtain ⟨_, named⟩ := Parser.identifier_named (below Parser.maxDepth) (c :: letters) tail middle isName stops split
  rw [token] at toToken
  have notTrue : Text.upper (c :: letters) ≠ ['T', 'R', 'U', 'E'] := unknown true
  have notFalse : Text.upper (c :: letters) ≠ ['F', 'A', 'L', 'S', 'E'] := unknown false
  have fails : Fails (fun _ => True) (Parser.unary (below Parser.maxDepth))
      (Cursor.start (String.ofList (c :: letters ++ tail)).toList) := by
    refine fails_same _ _ _ _ (toToken.trans named) ?_
    rw [Parser.afterName.eq_2]
    · rw [if_neg notTrue, if_neg notFalse]
      exact ⟨_, _, trivial, rfl⟩
    · rintro rest rfl
      exact notCalled '(' rfl rfl
  obtain ⟨e, _, failed⟩ := formula_fails _ fails
  rw [Parsed.isValid, failed]
  rfl

end FormulaField
