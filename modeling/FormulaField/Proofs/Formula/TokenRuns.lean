import FormulaField.Proofs.Formula.Tokens
import FormulaField.Proofs.Text.Characters

set_option autoImplicit false

namespace FormulaField

open FormulaField.Parser (Level bind_run run_eat)

-- The cursor stands before a text, except for white space.
def Cursor.Before (c : Cursor) (cs : List Char) : Prop := c.skipWhite.rest = cs.dropWhile Text.isWhite

def continuesToken (c : Char) : Bool := Parser.isNameCharacter c || c == '.' || c == '('

theorem drop_white_append (white cs : List Char) (isWhite : White white) :
    (white ++ cs).dropWhile Text.isWhite = cs.dropWhile Text.isWhite :=
  List.dropWhile_append_of_pos isWhite

namespace Cursor

theorem before_spaced (c : Cursor) (white cs : List Char) (isWhite : White white) :
    c.Before (white ++ cs) ↔ c.Before cs := by
  rw [Before, Before, drop_white_append white cs isWhite]

theorem before_rest (c : Cursor) (cs : List Char) (same : c.rest = cs) : c.Before cs := by
  rw [Before, skip_white_rest, same]

theorem before_skip_white (c : Cursor) (cs : List Char) (before : c.Before cs) : c.skipWhite.Before cs := by
  rw [Before, skip_white_twice]
  exact before

theorem before_token (c : Cursor) (d : Char) (cs : List Char) (notWhite : Text.isWhite d = false)
    (before : c.Before (d :: cs)) : c.skipWhite.rest = d :: cs := by
  rw [before, List.dropWhile_cons_of_neg (by simp [notWhite])]

theorem advance_rest (c : Cursor) (cs tail : List Char) (split : c.rest = cs ++ tail) :
    (c.advance cs.length).rest = tail := by
  simp [advance, split]

end Cursor

namespace Parser

theorem eat_taken (symbol cs : List Char) (c : Char) (before : Cursor) (start : c ∈ symbol.head?)
    (notWhite : Text.isWhite c = false) (here : before.Before (symbol ++ cs)) :
    (eat symbol).run before = .ok true (before.skipWhite.advance symbol.length) ∧
      (before.skipWhite.advance symbol.length).rest = cs := by
  cases symbol with
  | nil => cases start
  | cons d ds =>
      cases start
      have split := Cursor.before_token before c (ds ++ cs) notWhite here
      refine ⟨?_, Cursor.advance_rest _ (c :: ds) cs split⟩
      rw [run_eat, if_pos]
      rw [split, ← List.cons_append]
      exact List.isPrefixOf_iff_prefix.mpr (List.prefix_append _ _)

theorem eat_refused (d : Char) (ds cs : List Char) (before : Cursor) (here : before.Before cs)
    (other : ∀ c ∈ (cs.dropWhile Text.isWhite).head?, c ≠ d) :
    (eat (d :: ds)).run before = .ok false before.skipWhite := by
  rw [run_eat, if_neg]
  rw [here]
  cases next : cs.dropWhile Text.isWhite with
  | nil => simp
  | cons c rest =>
      have different : d ≠ c := fun same => other c (by simp [next]) same.symm
      simp [different]

theorem run_eat_first {α : Type} (symbols : List (List Char × α)) (nonempty : symbols ≠ []) (c : Cursor) :
    (eatFirst symbols).run c =
      match symbols.find? fun entry => entry.1.isPrefixOf c.skipWhite.rest with
      | some entry => .ok (some entry.2) (c.skipWhite.advance entry.1.length)
      | none => .ok none c.skipWhite := by
  induction symbols generalizing c with
  | nil => exact absurd rfl nonempty
  | cons entry others ih =>
      obtain ⟨symbol, a⟩ := entry
      have ate := run_eat symbol c
      by_cases here : symbol.isPrefixOf c.skipWhite.rest = true
      · rw [if_pos here] at ate
        simp only [List.find?_cons, here]
        exact bind_run _ _ c _ true ate
      · rw [if_neg here] at ate
        simp only [List.find?_cons, here]
        have later : (eatFirst ((symbol, a) :: others)).run c = (eatFirst others).run c.skipWhite :=
          bind_run _ _ c _ false ate
        rw [later]
        cases others with
        | nil => rfl
        | cons next more => rw [ih (by simp) c.skipWhite, Cursor.skip_white_twice]

def token (inner : Option Level) (c : Char) : Parser Formula :=
  if Number.isDigit c then number
  else if c = '"' ∨ c = '\'' then string c
  else if c = '{' then fieldReference
  else if c = '(' then group inner
  else if startsName c then identifier inner
  else unexpected c

theorem primary_token (inner : Option Level) (c : Char) (rest : List Char) (before : Cursor)
    (here : before.skipWhite.rest = c :: rest) :
    (primary inner).run before = (token inner c).run before.skipWhite := by
  rw [primary, bind_skip_white, bind_rest, here]
  rfl

theorem sign_picked (op : UnaryOperator) (symbol cs : List Char) (member : (symbol, op) ∈ unaryOperators) :
    (unaryOperators.find? fun entry => entry.1.isPrefixOf (symbol ++ cs)) = some (symbol, op) := by
  simp only [unaryOperators, List.mem_cons, Prod.mk.injEq, List.not_mem_nil, or_false] at member
  rcases member with ⟨rfl, rfl⟩ | ⟨rfl, rfl⟩ | ⟨rfl, rfl⟩ <;> simp [unaryOperators]

theorem sign_refused (c : Char) (cs : List Char) (other : c ∉ ['-', '+', '!']) :
    (unaryOperators.find? fun entry => entry.1.isPrefixOf (c :: cs)) = none := by
  simp only [List.mem_cons, List.not_mem_nil, or_false, not_or] at other
  simp [unaryOperators, Ne.symm other.1, Ne.symm other.2.1, Ne.symm other.2.2]

theorem unary_token (inner : Option Level) (c : Char) (rest : List Char) (before : Cursor)
    (here : before.Before (c :: rest)) (notWhite : Text.isWhite c = false) (other : c ∉ ['-', '+', '!']) :
    ∃ middle : Cursor, middle.rest = c :: rest ∧ (unary inner).run before = (token inner c).run middle := by
  have split := Cursor.before_token before c rest notWhite here
  refine ⟨before.skipWhite, split, ?_⟩
  have noSign : (eatFirst unaryOperators).run before = .ok none before.skipWhite := by
    rw [run_eat_first unaryOperators (by simp [unaryOperators]), split, sign_refused c rest other]
  have primary := primary_token inner c rest before.skipWhite (by rw [Cursor.skip_white_twice, split])
  rw [Cursor.skip_white_twice] at primary
  exact (bind_run _ _ before before.skipWhite none noSign).trans primary

theorem unary_signed (inner : Option Level) (op : UnaryOperator) (symbol cs : List Char) (before : Cursor)
    (member : (symbol, op) ∈ unaryOperators) (here : before.Before (symbol ++ cs)) :
    ∃ middle : Cursor, middle.rest = cs ∧
      (unary inner).run before =
        (do
          let level ← descend inner
          return Formula.unary op (← level.unary)).run middle := by
  obtain ⟨c, ds, rfl, notWhite⟩ : ∃ c ds, symbol = c :: ds ∧ Text.isWhite c = false := by
    simp only [unaryOperators, List.mem_cons, Prod.mk.injEq, List.not_mem_nil, or_false] at member
    rcases member with ⟨rfl, rfl⟩ | ⟨rfl, rfl⟩ | ⟨rfl, rfl⟩ <;> exact ⟨_, _, rfl, by decide⟩
  have split := Cursor.before_token before c (ds ++ cs) notWhite here
  rw [← List.cons_append] at split
  refine ⟨_, Cursor.advance_rest before.skipWhite (c :: ds) cs split, ?_⟩
  have sign : (eatFirst unaryOperators).run before =
      .ok (some op) (before.skipWhite.advance (c :: ds).length) := by
    rw [run_eat_first unaryOperators (by simp [unaryOperators]), split, sign_picked op (c :: ds) cs member]
  exact bind_run _ _ before _ (some op) sign

theorem number_run (n : Number.Numeral) (tail : List Char) (before : Cursor) (proper : IsNumeral n)
    (stops : Stops continuesToken tail) (here : before.rest = numeralChars n ++ tail) :
    ∃ after, number.run before = .ok (.literal (.number n.value)) after ∧ after.rest = tail := by
  refine ⟨before.advance (numeralChars n).length, ?_, Cursor.advance_rest before _ tail here⟩
  have noNumeral : Stops continuesNumeral tail := by
    intro c member
    have apart := stops c member
    simp only [continuesToken, isNameCharacter, Text.isAlphanumeric, Bool.or_eq_false_iff] at apart
    simp only [continuesNumeral, Bool.or_eq_false_iff]
    refine ⟨?_, apart.1.2⟩
    cases digit : Number.isDigit c with
    | false => rfl
    | true => simp [Text.digit_numeric c digit] at apart
  rw [number, bind_rest, here, numeral_complete n tail proper noNumeral]
  rfl

theorem string_run (quote : Char) (content body tail : List Char) (before : Cursor) (notHiding : quote ≠ '\\')
    (quoted : Quoted quote content body) (here : before.rest = quote :: body ++ tail) :
    ∃ after, (string quote).run before = .ok (.literal (.text (String.ofList content))) after ∧
      after.rest = tail := by
  refine ⟨before.advance (quote :: body).length, ?_, Cursor.advance_rest before _ tail here⟩
  rw [string, bind_rest, here, List.cons_append, List.drop_one, List.tail_cons,
    quoted_complete quote content body tail notHiding quoted]
  rfl

theorem field_run (content tail : List Char) (before : Cursor) (unclosed : '}' ∉ content)
    (here : before.rest = '{' :: content ++ '}' :: tail) :
    ∃ after, fieldReference.run before = .ok (.field (String.ofList (Text.trim content))) after ∧
      after.rest = tail := by
  have inside : before.rest.drop 1 = content ++ '}' :: tail := by simp [here]
  have taken : (content ++ '}' :: tail).takeWhile (· != '}') = content :=
    brace_inside content _ unclosed (by simp [Stops])
  have passed : (before.advance (content.length + 2)).rest = tail := by
    simp [Cursor.advance, here]
  rw [fieldReference, bind_rest]
  simp only [inside, taken]
  rw [if_pos (by simp)]
  exact ⟨_, rfl, passed⟩

def afterName (inner : Option Level) (name : List Char) (start : Nat) : List Char → Parser Formula
  | '(' :: _ => do
      advance 1
      return .call (String.ofList (Text.upper name)) (← arguments inner)
  | _ =>
      if Text.upper name = ['T', 'R', 'U', 'E'] then return .literal (.boolean true)
      else if Text.upper name = ['F', 'A', 'L', 'S', 'E'] then return .literal (.boolean false)
      else throw (.unexpectedIdentifier (String.ofList name) start)

theorem identifier_named (inner : Option Level) (name tail : List Char) (before : Cursor) (isName : IsName name)
    (stops : Stops isNameCharacter tail) (here : before.rest = name ++ tail) :
    (before.advance name.length).rest = tail ∧
      (identifier inner).run before =
        (afterName inner name before.position tail).run (before.advance name.length) := by
  have behind := Cursor.advance_rest before name tail here
  refine ⟨behind, ?_⟩
  have taken : before.rest.takeWhile isNameCharacter = name := by
    rw [here]
    exact name_complete name tail isName stops
  rw [identifier, bind_position, bind_rest]
  simp only [taken]
  rw [bind_advance, bind_rest, behind]
  rfl

theorem identifier_boolean (inner : Option Level) (name tail : List Char) (b : Bool) (before : Cursor)
    (isName : IsName name) (word : Text.upper name = booleanWord b) (stops : Stops continuesToken tail)
    (here : before.rest = name ++ tail) :
    ∃ after, (identifier inner).run before = .ok (.literal (.boolean b)) after ∧ after.rest = tail := by
  have noName : Stops isNameCharacter tail := by
    intro c member
    have apart := stops c member
    simp only [continuesToken, Bool.or_eq_false_iff] at apart
    exact apart.1.1
  obtain ⟨behind, ran⟩ := identifier_named inner name tail before isName noName here
  refine ⟨before.advance name.length, ?_, behind⟩
  rw [ran, afterName.eq_2]
  · cases b <;> simp [word, booleanWord]
  · intro rest paren
    have apart := stops '(' (by simp [paren])
    simp [continuesToken] at apart

theorem identifier_call (inner : Option Level) (name tail : List Char) (before : Cursor) (isName : IsName name)
    (here : before.rest = name ++ '(' :: tail) :
    ∃ middle : Cursor, middle.rest = tail ∧ (identifier inner).run before =
      (Formula.call (String.ofList (Text.upper name)) <$> arguments inner).run middle := by
  have noName : Stops isNameCharacter ('(' :: tail) := by
    intro c member
    cases member
    decide
  obtain ⟨behind, ran⟩ := identifier_named inner name ('(' :: tail) before isName noName here
  refine ⟨(before.advance name.length).advance 1, ?_, ?_⟩
  · simp [Cursor.advance, here]
  · rw [ran]
    rfl

theorem group_run (inner : Option Level) (tail : List Char) (before : Cursor) (here : before.rest = '(' :: tail) :
    ∃ middle : Cursor, middle.rest = tail ∧ (group inner).run before =
      (do
        let level ← descend inner
        let content ← level.comparison
        closingParen
        return content).run middle :=
  ⟨before.advance 1, by simp [Cursor.advance, here], rfl⟩

theorem closing_paren_run (tail : List Char) (before : Cursor) (here : before.Before (')' :: tail)) :
    ∃ after, closingParen.run before = .ok () after ∧ after.rest = tail := by
  obtain ⟨ate, behind⟩ := eat_taken [')'] tail ')' before rfl (by decide) here
  exact ⟨_, bind_run _ _ before _ true ate, behind⟩

theorem arguments_empty (inner : Option Level) (tail : List Char) (before : Cursor)
    (here : before.Before (')' :: tail)) :
    ∃ after, (arguments inner).run before = .ok [] after ∧ after.rest = tail := by
  obtain ⟨ate, behind⟩ := eat_taken [')'] tail ')' before rfl (by decide) here
  exact ⟨_, bind_run _ _ before _ true ate, behind⟩

theorem arguments_listed (inner : Option Level) (cs : List Char) (before : Cursor) (here : before.Before cs)
    (other : ∀ c ∈ (cs.dropWhile Text.isWhite).head?, c ≠ ')') :
    (arguments inner).run before =
      (do
        let level ← descend inner
        argumentList level.comparison ((← rest).length + 1)).run before.skipWhite := by
  have refused := eat_refused ')' [] cs before here other
  rw [arguments, bind_run _ _ before before.skipWhite false refused]
  rfl

end Parser

end FormulaField
