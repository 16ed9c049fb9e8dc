import FormulaField.Proofs.Formula.Failure
import FormulaField.Proofs.Formula.Recased

set_option autoImplicit false

namespace FormulaField

open FormulaField.Parser (Level)
open Text (asciiLower toAsciiLower isAsciiLetter)

variable {α β : Type}

-- Two places of which the same was read.
structure Cursor.Alike (a b : Cursor) : Prop where
  rest : Recased a.rest b.rest
  position : a.position = b.position
  reads : a.reads = b.reads

def ParseError.lowered : ParseError → ParseError
  | .unexpectedCharacter c position => .unexpectedCharacter (toAsciiLower c) position
  | .unexpectedIdentifier name position => .unexpectedIdentifier (String.ofList (asciiLower name.toList)) position
  | e => e

inductive Agree : EStateM.Result ParseError Cursor α → EStateM.Result ParseError Cursor α → Prop where
  | ok (x : α) (a b : Cursor) (alike : a.Alike b) : Agree (.ok x a) (.ok x b)
  | error (e e' : ParseError) (a b : Cursor) (same : e.lowered = e'.lowered) (reads : a.reads = b.reads) :
      Agree (.error e a) (.error e' b)

def Steady (p : Parser α) : Prop := ∀ a b : Cursor, a.Alike b → Agree (p.run a) (p.run b)

namespace Cursor

theorem alike_over (a b : Cursor) (first other cs ds : List Char) (splitA : a.rest = first ++ cs)
    (splitB : b.rest = other ++ ds) (lowered : asciiLower first = asciiLower other) (recased : Recased cs ds)
    (alike : a.Alike b) : (a.advance first.length).Alike (b.advance first.length) := by
  have length := Text.lower_length first other lowered
  refine ⟨?_, ?_, alike.reads⟩
  · simpa [advance, splitA, splitB, length] using recased
  · simp [advance, splitA, splitB, length, alike.position, Text.lower_bytes first other lowered]

theorem alike_advance (a b : Cursor) (first rest : List Char) (isBare : Bare first) (split : a.rest = first ++ rest)
    (alike : a.Alike b) : (a.advance first.length).Alike (b.advance first.length) := by
  have recased := alike.rest
  rw [split] at recased
  obtain ⟨other, more, otherSplit, lowered, further⟩ := recased_split first rest b.rest isBare recased
  exact alike_over a b first other rest more split otherSplit lowered further alike

theorem alike_skip_white (a b : Cursor) (alike : a.Alike b) : a.skipWhite.Alike b.skipWhite := by
  have lowered := Text.lower_take_while Text.isWhite Text.caseless_white _ _ (recased_lower _ _ alike.rest)
  rw [skipWhite, skipWhite, ← Text.lower_length _ _ lowered]
  exact alike_advance a b _ _ (white_bare _ (white_take_while a.rest)) List.takeWhile_append_dropWhile.symm alike

end Cursor

theorem steady_bind (p : Parser α) (q : α → Parser β) (first : Steady p) (further : ∀ x, Steady (q x)) :
    Steady (p >>= q) := by
  intro a b alike
  have agree := first a b alike
  rw [EStateM.run_bind, EStateM.run_bind]
  generalize p.run a = resultA at agree ⊢
  generalize p.run b = resultB at agree ⊢
  cases agree with
  | ok x c d alike => exact further x c d alike
  | error e e' c d same reads => exact .error e e' c d same reads

theorem steady_return (x : α) : Steady (pure x : Parser α) := fun a b alike => .ok x a b alike

theorem steady_throw (error : Nat → ParseError) : Steady (do throw (error (← Parser.position)) : Parser α) := by
  intro a b alike
  exact .error _ _ a b (congrArg (fun position => (error position).lowered) alike.position) alike.reads

theorem steady_descend (inner : Option Level) (q : Level → Parser α)
    (below : ∀ level, inner = some level → Steady (q level)) : Steady (Parser.descend inner >>= q) := by
  cases inner with
  | some level => exact below level rfl
  | none =>
      intro a b alike
      exact .error (.tooDeeplyNested a.position) (.tooDeeplyNested b.position) a b
        (congrArg ParseError.tooDeeplyNested alike.position) alike.reads

structure IsMark (symbol : List Char) : Prop where
  bare : Bare symbol
  noLetter : symbol.any isAsciiLetter = false

instance (symbol : List Char) : Decidable (IsMark symbol) :=
  decidable_of_iff (Bare symbol ∧ symbol.any isAsciiLetter = false)
    ⟨fun both => ⟨both.1, both.2⟩, fun mark => ⟨mark.bare, mark.noLetter⟩⟩

theorem mark_starts (symbol cs ds : List Char) (isMark : IsMark symbol) (recased : Recased cs ds)
    (here : symbol.isPrefixOf cs = true) : symbol.isPrefixOf ds = true := by
  obtain ⟨rest, rfl⟩ := List.isPrefixOf_iff_prefix.mp here
  obtain ⟨other, more, rfl, lowered, _⟩ := recased_split symbol rest ds isMark.bare recased
  rw [Text.marks_kept symbol other lowered (by simpa using isMark.noLetter)]
  exact List.isPrefixOf_iff_prefix.mpr (List.prefix_append symbol more)

theorem steady_eat (symbol : List Char) (isMark : IsMark symbol) : Steady (Parser.eat symbol) := by
  intro a b alike
  have skipped := Cursor.alike_skip_white a b alike
  rw [Parser.run_eat, Parser.run_eat]
  by_cases here : symbol.isPrefixOf a.skipWhite.rest = true
  · rw [if_pos here, if_pos (mark_starts symbol _ _ isMark skipped.rest here)]
    obtain ⟨rest, split⟩ := List.isPrefixOf_iff_prefix.mp here
    exact .ok true _ _ (Cursor.alike_advance _ _ symbol rest isMark.bare split.symm skipped)
  · rw [if_neg here, if_neg (mt (mark_starts symbol _ _ isMark (recased_symm _ _ skipped.rest)) here)]
    exact .ok false _ _ skipped

theorem steady_eat_first (symbols : List (List Char × α)) (marks : ∀ entry ∈ symbols, IsMark entry.1) :
    Steady (Parser.eatFirst symbols) := by
  induction symbols with
  | nil => exact steady_return none
  | cons entry others ih =>
      refine steady_bind _ _ (steady_eat entry.1 (marks entry (by simp))) ?_
      intro taken
      cases taken with
      | true => exact steady_return (some entry.2)
      | false => exact ih (fun other member => marks other (List.mem_cons_of_mem entry member))

theorem steady_closing_paren : Steady Parser.closingParen := by
  refine steady_bind _ _ (steady_eat [')'] (by decide)) ?_
  intro taken
  cases taken with
  | true => exact steady_return ()
  | false => exact steady_throw .expectedClosingParen

theorem number_agrees (a b : Cursor) (c : Char) (rest : List Char) (alike : a.Alike b) (here : a.rest = c :: rest)
    (digit : Number.isDigit c = true) : Agree (Parser.number.run a) (Parser.number.run b) := by
  have same := numeral_lower a.rest b.rest (recased_lower _ _ alike.rest)
  obtain ⟨tail, split, proper, length⟩ := numeral_read a.rest _ _ ⟨c, rest, here, digit⟩ rfl
  have advanced := Cursor.alike_advance a b _ tail (numeral_bare _ proper) split alike
  rw [← length] at advanced
  rw [Parser.number, Parser.bind_rest, Parser.bind_rest, ← same]
  exact .ok _ _ _ advanced

theorem string_agrees (a b : Cursor) (quote : Char) (rest : List Char) (alike : a.Alike b)
    (here : a.rest = quote :: rest) (isQuote : quote = '"' ∨ quote = '\'') :
    Agree ((Parser.string quote).run a) ((Parser.string quote).run b) := by
  have recased := alike.rest
  rw [here] at recased
  generalize there : b.rest = other at recased
  have notHiding : quote ≠ '\\' := by rcases isQuote with rfl | rfl <;> decide
  rw [Parser.string, Parser.bind_rest, Parser.bind_rest, here, there]
  cases recased with
  | letter c d cs ds isBare => simp_all [Bare]
  | string quote content body cs ds isQuote quoted recased =>
      simp only [List.drop_one, List.tail_cons, quoted_complete quote content body _ notHiding quoted]
      exact .ok _ _ _ (Cursor.alike_over a b (quote :: body) (quote :: body) cs ds here there rfl recased alike)
  | reference => simp at isQuote
  | openString quote cs ds isQuote unclosed same =>
      have opened := unclosed_lower quote rest ds (quote_mark quote isQuote) same unclosed
      simp only [List.drop_one, List.tail_cons, (quoted_unread quote _ notHiding).mpr unclosed,
        (quoted_unread quote _ notHiding).mpr opened]
      exact .error _ _ a b (congrArg ParseError.unterminatedString alike.position) alike.reads
  | openReference => simp at isQuote

theorem field_agrees (a b : Cursor) (rest : List Char) (alike : a.Alike b) (here : a.rest = '{' :: rest) :
    Agree (Parser.fieldReference.run a) (Parser.fieldReference.run b) := by
  have recased := alike.rest
  rw [here] at recased
  generalize there : b.rest = other at recased
  rw [Parser.fieldReference, Parser.bind_rest, Parser.bind_rest, here, there]
  cases recased with
  | letter c d cs ds isBare => simp [Bare] at isBare
  | string quote content body cs ds isQuote => simp at isQuote
  | reference content cs ds unclosed recased =>
      have closed : ∀ more, (content ++ '}' :: more).takeWhile (· != '}') = content := fun more =>
        brace_inside content _ unclosed (by simp [Stops])
      have passed := Cursor.alike_over a b ('{' :: content ++ ['}']) _ cs ds (by simp [here]) (by simp [there]) rfl
        recased alike
      rw [List.length_append, List.length_cons, List.length_singleton] at passed
      simp only [List.drop_one, List.tail_cons, closed]
      rw [if_pos (by simp), if_pos (by simp)]
      exact .ok _ _ _ ⟨passed.rest, passed.position, congrArg (_ :: ·) passed.reads⟩
  | openString quote cs ds isQuote => simp at isQuote
  | openReference cs ds unclosed same =>
      have opened : ∀ content : List Char, '}' ∉ content → content.takeWhile (· != '}') = content := by
        intro content unclosed
        simpa using brace_inside content [] unclosed (by simp [Stops])
      have unclosedB : '}' ∉ ds := fun member => unclosed (Text.mark_member '}' rest ds (by decide) same member)
      simp only [List.drop_one, List.tail_cons, opened _ unclosed, opened _ unclosedB, Nat.lt_irrefl, if_false]
      exact .error (.unterminatedFieldReference _) (.unterminatedFieldReference _) a b
        (congrArg ParseError.unterminatedFieldReference alike.position) alike.reads

structure SteadyLevel (level : Level) : Prop where
  unary : Steady level.unary
  power : Steady level.power
  chain : ∀ kind : Chain, Steady (kind.parserAt level)
  rest : ∀ (kind : Chain) left, Steady (kind.restAt level left)

def SteadyBelow (inner : Option Level) : Prop := ∀ level, inner = some level → SteadyLevel level

theorem steady_items (item : Parser Formula) (steady : Steady item) (room : Nat) :
    Steady (Parser.argumentList item room) := by
  induction room with
  | zero =>
      intro a b alike
      exact .error .unexpectedEnd .unexpectedEnd a b rfl alike.reads
  | succ room ih =>
      refine steady_bind _ _ steady ?_
      intro first
      refine steady_bind _ _ (steady_eat [','] (by decide)) ?_
      intro taken
      cases taken with
      | true => exact steady_bind _ _ ih (fun others => steady_return (first :: others))
      | false => exact steady_bind _ _ steady_closing_paren (fun _ => steady_return [first])

theorem steady_arguments (inner : Option Level) (below : SteadyBelow inner) : Steady (Parser.arguments inner) := by
  refine steady_bind _ _ (steady_eat [')'] (by decide)) ?_
  intro taken
  cases taken with
  | true => exact steady_return []
  | false =>
      refine steady_descend inner _ ?_
      intro level here a b alike
      have length := Text.lower_length _ _ (recased_lower _ _ alike.rest)
      rw [Parser.bind_rest, Parser.bind_rest, length]
      exact steady_items _ ((below level here).chain .comparisons) _ a b alike

theorem steady_after_name (inner : Option Level) (below : SteadyBelow inner) (name other : List Char) (start : Nat)
    (lowered : asciiLower name = asciiLower other) (a b : Cursor) (alike : a.Alike b) :
    Agree ((Parser.afterName inner name start a.rest).run a) ((Parser.afterName inner other start b.rest).run b) := by
  have upper := Text.lower_upper name other lowered
  by_cases paren : ∃ more, a.rest = '(' :: more
  · obtain ⟨more, here⟩ := paren
    obtain ⟨d, others, there, same⟩ := recased_head '(' more b.rest (here ▸ alike.rest)
    have opened := Cursor.alike_advance a b ['('] more (by decide) here alike
    rw [here, there, Text.mark_kept '(' d same (by decide), Parser.afterName, Parser.afterName, upper]
    exact steady_bind _ _ (steady_arguments inner below) (fun args => steady_return _) _ _ opened
  · have noParen : ∀ more, b.rest = '(' :: more → False := by
      intro more there
      obtain ⟨d, others, here, same⟩ := recased_head '(' more a.rest (recased_symm _ _ (there ▸ alike.rest))
      exact paren ⟨others, by rw [here, Text.mark_kept '(' d same (by decide)]⟩
    rw [Parser.afterName.eq_2 _ _ _ _ (fun more here => paren ⟨more, here⟩), Parser.afterName.eq_2 _ _ _ _ noParen,
      upper]
    split_ifs
    · exact .ok _ a b alike
    · exact .ok _ a b alike
    · exact .error _ _ a b (by simp [ParseError.lowered, lowered]) alike.reads

theorem identifier_after_name (inner : Option Level) (c : Cursor) :
    (Parser.identifier inner).run c =
      (Parser.afterName inner (c.rest.takeWhile Parser.isNameCharacter) c.position
        (c.advance (c.rest.takeWhile Parser.isNameCharacter).length).rest).run
          (c.advance (c.rest.takeWhile Parser.isNameCharacter).length) := by
  rw [Parser.identifier, Parser.bind_position, Parser.bind_rest, Parser.bind_advance, Parser.bind_rest]
  rfl

theorem steady_identifier (inner : Option Level) (below : SteadyBelow inner) : Steady (Parser.identifier inner) := by
  intro a b alike
  have lowered := Text.lower_take_while Parser.isNameCharacter Text.caseless_name_character _ _
    (recased_lower _ _ alike.rest)
  have bare := bare_of Parser.isNameCharacter (by decide) _ (all_of_take_while Parser.isNameCharacter a.rest)
  have passed := Cursor.alike_advance a b _ _ bare List.takeWhile_append_dropWhile.symm alike
  rw [identifier_after_name, identifier_after_name, ← Text.lower_length _ _ lowered, ← alike.position]
  exact steady_after_name inner below _ _ a.position lowered _ _ passed

theorem group_agrees (inner : Option Level) (below : SteadyBelow inner) (a b : Cursor) (rest : List Char)
    (alike : a.Alike b) (here : a.rest = '(' :: rest) :
    Agree ((Parser.group inner).run a) ((Parser.group inner).run b) := by
  have passed := Cursor.alike_advance a b ['('] rest (by decide) here alike
  have content : Steady (do
      let level ← Parser.descend inner
      let content ← level.comparison
      Parser.closingParen
      return content) := by
    refine steady_descend inner _ ?_
    intro level isBelow
    refine steady_bind _ _ ((below level isBelow).chain .comparisons) ?_
    intro f
    exact steady_bind _ _ steady_closing_paren (fun _ => steady_return f)
  exact content _ _ passed

theorem unexpected_agrees (a b : Cursor) (c d : Char) (alike : a.Alike b) (same : toAsciiLower c = toAsciiLower d) :
    Agree ((Parser.unexpected c : Parser α).run a) ((Parser.unexpected d : Parser α).run b) :=
  .error (.unexpectedCharacter c a.position) (.unexpectedCharacter d b.position) a b
    (by rw [ParseError.lowered, ParseError.lowered, same, alike.position]) alike.reads

theorem token_agrees (inner : Option Level) (below : SteadyBelow inner) (a b : Cursor) (c d : Char)
    (cs : List Char) (alike : a.Alike b) (here : a.rest = c :: cs) (same : toAsciiLower c = toAsciiLower d) :
    Agree ((Parser.token inner c).run a) ((Parser.token inner d).run b) := by
  have kept : ∀ mark, isAsciiLetter mark = false → (c = mark ↔ d = mark) := by
    intro mark isMark
    constructor
    · rintro rfl
      exact Text.mark_kept c d same isMark
    · rintro rfl
      exact Text.mark_kept d c same.symm isMark
  have starts : startsName c = startsName d := Text.caseless_name_start c d same
  have quotes : (c = '"' ∨ c = '\'') ↔ (d = '"' ∨ d = '\'') :=
    or_congr (kept '"' (by decide)) (kept '\'' (by decide))
  unfold Parser.token
  rw [← Text.caseless_digit c d same, ← starts]
  by_cases digit : Number.isDigit c = true
  · rw [if_pos digit, if_pos digit]
    exact number_agrees a b c cs alike here digit
  rw [if_neg digit, if_neg digit]
  by_cases quote : c = '"' ∨ c = '\''
  · rw [if_pos quote, if_pos (quotes.mp quote), Text.mark_kept c d same (quote_mark c quote)]
    exact string_agrees a b c cs alike here quote
  rw [if_neg quote, if_neg (mt quotes.mpr quote)]
  by_cases brace : c = '{'
  · rw [if_pos brace, if_pos ((kept '{' (by decide)).mp brace)]
    exact field_agrees a b cs alike (brace ▸ here)
  rw [if_neg brace, if_neg (mt (kept '{' (by decide)).mpr brace)]
  by_cases paren : c = '('
  · rw [if_pos paren, if_pos ((kept '(' (by decide)).mp paren)]
    exact group_agrees inner below a b cs alike (paren ▸ here)
  rw [if_neg paren, if_neg (mt (kept '(' (by decide)).mpr paren)]
  by_cases name : startsName c = true
  · rw [if_pos name, if_pos name]
    exact steady_identifier inner below a b alike
  · rw [if_neg name, if_neg name]
    exact unexpected_agrees a b c d alike same

theorem steady_primary (inner : Option Level) (below : SteadyBelow inner) : Steady (Parser.primary inner) := by
  intro a b alike
  have skipped := Cursor.alike_skip_white a b alike
  cases here : a.skipWhite.rest with
  | nil =>
      have there := recased_nil b.skipWhite.rest (here ▸ skipped.rest)
      rw [Parser.primary, Parser.bind_skip_white, Parser.bind_skip_white, Parser.bind_rest, Parser.bind_rest, here,
        there]
      exact .error .unexpectedEnd .unexpectedEnd _ _ rfl skipped.reads
  | cons c cs =>
      obtain ⟨d, ds, there, same⟩ := recased_head c cs b.skipWhite.rest (here ▸ skipped.rest)
      rw [Parser.primary_token inner c cs a here, Parser.primary_token inner d ds b there]
      exact token_agrees inner below _ _ c d cs skipped here same

theorem steady_unary (inner : Option Level) (below : SteadyBelow inner) : Steady (Parser.unary inner) := by
  refine steady_bind _ _ (steady_eat_first Parser.unaryOperators (by decide)) ?_
  intro sign
  cases sign with
  | some op =>
      refine steady_descend inner _ ?_
      intro level isBelow
      exact steady_bind _ _ (below level isBelow).unary (fun f => steady_return (Formula.unary op f))
  | none => exact steady_primary inner below

theorem steady_power (inner : Option Level) (below : SteadyBelow inner) : Steady (Parser.power inner) := by
  refine steady_bind _ _ (steady_unary inner below) ?_
  intro left
  refine steady_bind _ _ (steady_eat ['^'] (by decide)) ?_
  intro taken
  cases taken with
  | true =>
      refine steady_descend inner _ ?_
      intro level isBelow
      exact steady_bind _ _ (below level isBelow).power (fun right => steady_return (Formula.binary .power left right))
  | false => exact steady_return left

theorem steady_operand (level : Level) (steady : SteadyLevel level) (kind : Chain) :
    Steady (kind.operandAt level) := by
  cases kind with
  | products => exact steady.power
  | sums => exact steady.chain .products
  | comparisons => exact steady.chain .sums

theorem steady_rest (inner : Option Level) (below : SteadyBelow inner) (kind : Chain) (left : Formula) :
    Steady (kind.restAt (.over inner) left) := by
  have marks : ∀ entry ∈ kind.operators, IsMark entry.1 := by cases kind <;> decide
  rw [Chain.rest_over]
  refine steady_bind _ _ (steady_eat_first kind.operators marks) ?_
  intro found
  cases found with
  | some op =>
      refine steady_descend inner _ ?_
      intro level isBelow
      refine steady_bind _ _ (steady_operand level (below level isBelow) kind) ?_
      intro right
      exact (below level isBelow).rest kind (.binary op left right)
  | none => exact steady_return left

theorem steady_chain (inner : Option Level) (below : SteadyBelow inner) (kind : Chain)
    (operand : Steady (kind.operandAt (.over inner))) : Steady (kind.parserAt (.over inner)) := by
  rw [Chain.parser_over]
  exact steady_bind _ _ operand (fun left => steady_rest inner below kind left)

theorem steady_over (inner : Option Level) (below : SteadyBelow inner) : SteadyLevel (.over inner) := by
  have power : Steady (Level.over inner).power := steady_power inner below
  have product := steady_chain inner below .products power
  have sum := steady_chain inner below .sums product
  refine ⟨steady_unary inner below, power, ?_, steady_rest inner below⟩
  intro kind
  cases kind with
  | products => exact product
  | sums => exact sum
  | comparisons => exact steady_chain inner below .comparisons sum

theorem steady_level (n : Nat) : SteadyLevel (Parser.level n) := by
  induction n with
  | zero => exact steady_over none (by simp [SteadyBelow])
  | succ n ih =>
      refine steady_over (some (Parser.level n)) ?_
      rintro level ⟨⟩
      exact ih

theorem steady_formula : Steady Parser.formula := by
  refine steady_bind _ _ ((steady_level Parser.maxDepth).chain .comparisons) ?_
  intro f a b alike
  have skipped := Cursor.alike_skip_white a b alike
  rw [Parser.bind_skip_white, Parser.bind_skip_white, Parser.bind_rest, Parser.bind_rest]
  cases here : a.skipWhite.rest with
  | nil =>
      rw [recased_nil b.skipWhite.rest (here ▸ skipped.rest)]
      exact .ok f _ _ skipped
  | cons c cs =>
      obtain ⟨d, ds, there, same⟩ := recased_head c cs b.skipWhite.rest (here ▸ skipped.rest)
      rw [there]
      exact unexpected_agrees _ _ c d skipped same

-- Texts that differ only in letter case outside of strings and references are accepted together, as one tree, or
-- rejected together, with errors of one kind at one position, and in both cases with the same dependencies.
theorem letter_case_irrelevant (s t : String) (recased : Recased s.toList t.toList) :
    (parse s).dependencies = (parse t).dependencies ∧
      (parse s).result.mapError ParseError.lowered = (parse t).result.mapError ParseError.lowered := by
  have agree := steady_formula (Cursor.start s.toList) (Cursor.start t.toList) ⟨recased, rfl, rfl⟩
  rw [parse, parse, parseChars, parseChars]
  generalize Parser.formula.run (Cursor.start s.toList) = first at agree ⊢
  generalize Parser.formula.run (Cursor.start t.toList) = second at agree ⊢
  cases agree with
  | ok f a b alike => exact ⟨congrArg Names.ofList alike.reads, rfl⟩
  | error e e' a b same reads => exact ⟨congrArg Names.ofList reads, congrArg Except.error same⟩

theorem shouted_name_rejected :
    Recased "\x7bQty\x7d&'A'+nAme'b".toList "\x7bQty\x7d&'A'+NAME'B".toList ∧
      (parse "\x7bQty\x7d&'A'+nAme'b").result = .error (.unexpectedIdentifier "nAme" 10) ∧
      (parse "\x7bQty\x7d&'A'+NAME'B").dependencies = (parse "\x7bQty\x7d&'A'+nAme'b").dependencies ∧
      (parse "\x7bQty\x7d&'A'+NAME'B").result.mapError ParseError.lowered =
        .error (.unexpectedIdentifier "name" 10) := by
  have opened : Recased "'b".toList "'B".toList :=
    .openString '\'' ['b'] ['B'] (.inr rfl) ((quoted_unread '\'' ['b'] (by decide)).mp rfl) rfl
  have name : Recased "nAme'b".toList "NAME'B".toList :=
    .letter 'n' 'N' _ _ (by decide) rfl (.letter 'A' 'A' _ _ (by decide) rfl
      (.letter 'm' 'M' _ _ (by decide) rfl (.letter 'e' 'E' _ _ (by decide) rfl opened)))
  have recased : Recased "\x7bQty\x7d&'A'+nAme'b".toList "\x7bQty\x7d&'A'+NAME'B".toList :=
    .reference ['Q', 't', 'y'] _ _ (by decide) (.letter '&' '&' _ _ (by decide) rfl
      (.string '\'' ['A'] ['A', '\''] _ _ (.inr rfl) (.plain 'A' _ _ (by decide) (by decide) .close)
        (.letter '+' '+' _ _ (by decide) rfl name)))
  have rejected : (parse "\x7bQty\x7d&'A'+nAme'b").result = .error (.unexpectedIdentifier "nAme" 10) := rfl
  obtain ⟨dependencies, result⟩ := letter_case_irrelevant _ _ recased
  refine ⟨recased, rejected, dependencies.symm, ?_⟩
  rw [← result, rejected]
  rfl

end FormulaField
