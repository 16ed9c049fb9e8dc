import FormulaField.Provenance
import FormulaField.Proofs.Formula.References
import FormulaField.Proofs.Text.Collapse

set_option autoImplicit false

namespace FormulaField

open Text (Behind EndsInk SingleSpaced Solid SpacedAt squeeze)

namespace Reading

def step : Reading → Char → Reading
  | .outside, c => if c = '"' ∨ c = '\'' then .string c else if c = '{' then .reference [] else .outside
  | .string quote, c => if c = '\\' then .hidden quote else if c = quote then .outside else .string quote
  | .hidden quote, _ => .string quote
  | .reference content, c => if c = '}' then .outside else .reference (c :: content)

def after (reading : Reading) (cs : List Char) : Reading := cs.foldl step reading

def inString : Reading → Bool
  | .string _ => true
  | .hidden _ => true
  | _ => false

theorem after_append (reading : Reading) (cs ds : List Char) :
    reading.after (cs ++ ds) = (reading.after cs).after ds := List.foldl_append

end Reading

theorem references_step (reading : Reading) (c : Char) (cs : List Char) :
    references reading (c :: cs) = references reading [c] ++ references (reading.step c) cs := by
  cases reading with
  | outside =>
      simp only [references, Reading.step]
      split_ifs <;> rfl
  | string quote =>
      simp only [references, Reading.step]
      split_ifs <;> rfl
  | hidden quote => rfl
  | reference content =>
      simp only [references, Reading.step]
      split_ifs <;> rfl

theorem references_append (reading : Reading) (cs ds : List Char) :
    references reading (cs ++ ds) = references reading cs ++ references (reading.after cs) ds := by
  induction cs generalizing reading with
  | nil => cases reading <;> rfl
  | cons c rest ih =>
      rw [List.cons_append, references_step, ih, references_step reading c rest, List.append_assoc]
      rfl

-- Reading comes out of a text where it went in, outside of strings and references.
def Closed (cs : List Char) : Prop := Reading.outside.after cs = .outside

theorem empty_reference (reading : Reading)
    (met : references reading ['{', '}'] = references .outside ['{', '}']) : reading = .outside := by
  have outside : references .outside ['{', '}'] = [String.ofList (Text.trim [])] := rfl
  rw [outside] at met
  cases reading with
  | outside => rfl
  | string quote =>
      have nothing : references (.string quote) ['{', '}'] = [] := by
        simp only [references]
        split_ifs <;> rfl
      rw [nothing] at met
      cases met
  | hidden quote =>
      have nothing : references (.hidden quote) ['{', '}'] = [] := by
        simp only [references]
        split_ifs <;> rfl
      rw [nothing] at met
      cases met
  | reference content =>
      have named : references (.reference content) ['{', '}'] =
          [String.ofList (Text.trim ('{' :: content).reverse)] := rfl
      rw [named, List.cons.injEq, String.ofList_inj] at met
      have isWhite := Text.white_of_trim ('{' :: content).reverse met.1 '{' (by simp)
      exact absurd isWhite (by decide)

theorem reads_closed (cs : List Char) (names : List String) (reads : Reads cs names) : Closed cs := by
  refine empty_reference _ ?_
  have here : references .outside cs = names := by simpa [references] using reads []
  have further := reads ['{', '}']
  rw [references_append, here, List.append_cancel_left_eq] at further
  exact further

theorem written_closed (n : Nat) (phrase : Phrase) (cs : List Char) (written : Written n phrase cs) : Closed cs := by
  have reads := written_reads n phrase cs written
  cases phrase with
  | rest kind left f =>
      obtain ⟨names, _, reads⟩ := reads
      exact reads_closed cs names reads
  | _ => exact reads_closed cs _ reads

theorem closed_append (cs ds : List Char) (first : Closed cs) (second : Closed ds) : Closed (cs ++ ds) := by
  rw [Closed, Reading.after_append, first]
  exact second

theorem bare_closed (cs : List Char) (isBare : Bare cs) : Closed cs := reads_closed cs [] (reads_bare cs isBare)

-- Inside of strings all white space is single, and inside of references that around their names apart.
structure SpacedOnce (cs : List Char) : Prop where
  strings : SpacedAt (fun before => (Reading.outside.after before).inString = true) cs
  names : ∀ name ∈ references .outside cs, SingleSpaced name.toList

theorem spaced_once_iff (cs : List Char) :
    SpacedOnce cs ↔
      SpacedAt (fun before => (Reading.outside.after before).inString = true) cs ∧
        ∀ name ∈ references .outside cs, SingleSpaced name.toList :=
  ⟨fun once => ⟨once.strings, once.names⟩, fun both => ⟨both.1, both.2⟩⟩

instance (cs : List Char) : Decidable (SpacedOnce cs) := decidable_of_iff' _ (spaced_once_iff cs)

theorem spaced_once_part (text before cs after : List Char) (split : text = before ++ (cs ++ after))
    (closed : Closed before) (once : SpacedOnce text) : SpacedOnce cs := by
  constructor
  · intro first run last inner inside isWhite
    have place : Reading.outside.after (before ++ first) = Reading.outside.after first := by
      rw [Reading.after_append, closed]
    exact once.strings (before ++ first) run (last ++ after) (by simp [split, inner])
      (by simpa only [place] using inside) isWhite
  · intro name member
    refine once.names name ?_
    rw [split, references_append, closed, references_append]
    simp [member]

theorem spaced_once_sides (cs gap ds : List Char) (closed : Closed cs) (isBare : Bare gap)
    (once : SpacedOnce (cs ++ gap ++ ds)) : SpacedOnce cs ∧ SpacedOnce ds :=
  ⟨spaced_once_part _ [] cs (gap ++ ds) (List.append_assoc cs gap ds) rfl once,
    spaced_once_part _ (cs ++ gap) ds [] (by simp) (closed_append cs gap closed (bare_closed gap isBare)) once⟩

theorem quoted_inside (quote : Char) (content body before after : List Char) (nonempty : after ≠ [])
    (quoted : Quoted quote content body) (split : body = before ++ after) :
    ((Reading.string quote).after before).inString = true := by
  induction quoted generalizing before with
  | close =>
      cases before with
      | nil => rfl
      | cons c rest =>
          simp only [List.cons_append, List.cons.injEq, List.nil_eq, List.append_eq_nil_iff] at split
          exact absurd split.2.2 nonempty
  | hidden c content cs inner ih =>
      rcases before with _ | ⟨d, _ | ⟨e, rest⟩⟩
      · rfl
      · cases split
        rfl
      · cases split
        exact ih rest rfl
  | plain c content cs notQuote notHiding inner ih =>
      cases before with
      | nil => rfl
      | cons d rest =>
          cases split
          rw [Reading.after, List.foldl_cons, Reading.step, if_neg notHiding, if_neg notQuote]
          exact ih rest rfl

theorem quoted_ends (quote : Char) (content body : List Char) (ink : Text.isWhite quote = false)
    (quoted : Quoted quote content body) : EndsInk body := by
  induction quoted with
  | close => exact ⟨[], quote, rfl, ink⟩
  | hidden c content cs inner ih => exact Text.ends_behind ['\\', c] cs ih
  | plain c content cs notQuote notHiding inner ih => exact Text.ends_behind [c] cs ih

theorem string_spaced (quote : Char) (content body : List Char) (isQuote : quote = '"' ∨ quote = '\'')
    (ink : Text.isWhite quote = false) (quoted : Quoted quote content body) (once : SpacedOnce (quote :: body)) :
    SingleSpaced (quote :: body) := by
  refine Text.spaced_ink quote body ink ?_
  intro before run after split _ isWhite
  by_cases nothing : run = []
  · exact .inl nothing
  have opened : Reading.outside.after (quote :: before) = (Reading.string quote).after before := by
    rw [Reading.after, List.foldl_cons, Reading.step, if_pos isQuote]
    rfl
  have inside := quoted_inside quote content body before (run ++ after) (by simp [nothing]) quoted (by simp [split])
  exact once.strings (quote :: before) run after (congrArg (quote :: ·) split) (by simpa only [opened] using inside)
    isWhite

def Phrase.Ends (cs : List Char) : Phrase → Prop
  | .rest _ _ _ => cs = [] ∨ EndsInk cs
  | _ => EndsInk cs

theorem operand_ends (kind : Chain) (f : Formula) (cs : List Char) : (kind.operand f).Ends cs ↔ EndsInk cs := by
  cases kind <;> rfl

theorem ends_rest (cs ds : List Char) (first : EndsInk cs) (others : ds = [] ∨ EndsInk ds) : EndsInk (cs ++ ds) := by
  rcases others with rfl | ends
  · rw [List.append_nil]
    exact first
  · exact Text.ends_behind cs ds ends

theorem name_solid (name : List Char) (isName : IsName name) : Solid name := by
  refine ⟨?_, ?_⟩
  · obtain ⟨c, rest, rfl, _⟩ := isName.start
    exact List.cons_ne_nil c rest
  · intro c member
    cases white : Text.isWhite c with
    | false => rfl
    | true =>
        have inside := isName.inside c member
        rw [Text.white_not_name_character c white] at inside
        cases inside

theorem numeral_solid (n : Number.Numeral) (proper : IsNumeral n) : Solid (numeralChars n) := by
  refine ⟨List.append_ne_nil_of_left_ne_nil proper.nonempty _, ?_⟩
  intro c member
  obtain ⟨whole, fraction, exponent⟩ := n
  rcases List.mem_append.mp member with inWhole | inFraction
  · exact Text.digit_not_white c (proper.whole c inWhole)
  cases fraction with
  | nil => cases inFraction
  | cons d rest =>
      rcases List.mem_cons.mp inFraction with rfl | digits
      · decide
      · exact Text.digit_not_white c (proper.fraction c digits)

theorem operator_solid (kind : Chain) (op : BinaryOperator) (symbol : List Char)
    (member : (symbol, op) ∈ kind.operators) : Solid symbol := by
  have all : ∀ entry ∈ kind.operators, entry.1 ≠ [] ∧ entry.1.all (fun c => !Text.isWhite c) = true := by
    cases kind <;> decide
  exact Text.solid_of_all symbol (all (symbol, op) member).1 (all (symbol, op) member).2

theorem sign_solid (op : UnaryOperator) (symbol : List Char) (member : (symbol, op) ∈ Parser.unaryOperators) :
    Solid symbol := by
  have all : ∀ entry ∈ Parser.unaryOperators, entry.1 ≠ [] ∧ entry.1.all (fun c => !Text.isWhite c) = true := by
    decide
  exact Text.solid_of_all symbol (all (symbol, op) member).1 (all (symbol, op) member).2

theorem written_ends (n : Nat) (phrase : Phrase) (cs : List Char) (written : Written n phrase cs) : phrase.Ends cs := by
  have closing : ∀ before, EndsInk (before ++ [')']) := fun before => ⟨before, ')', rfl, by decide⟩
  induction written with
  | spaced n f white cs isWhite inner ih => exact Text.ends_behind white cs ih
  | number n numeral proper =>
      exact Text.ends_solid _ (numeral_solid numeral proper)
  | string n quote content cs isQuote quoted =>
      have ink : Text.isWhite quote = false := by rcases isQuote with rfl | rfl <;> decide
      exact Text.ends_behind [quote] cs (quoted_ends quote content cs ink quoted)
  | field n content unclosed => exact ⟨'{' :: content, '}', rfl, by decide⟩
  | boolean n b name isName word => exact Text.ends_solid name (name_solid name isName)
  | callEmpty n name white isName isWhite => exact closing _
  | call n name fs cs isName items ih => exact Text.ends_behind name _ (Text.ends_behind ['('] cs ih)
  | group n f cs white isWhite content ih => exact closing _
  | signed n op symbol f cs member operand ih => exact Text.ends_behind symbol cs ih
  | base n f cs inner ih => exact ih
  | raised n a b cs white ds isWhite left right ihLeft ihRight =>
      exact Text.ends_behind _ _ (Text.ends_behind ['^'] ds ihRight)
  | chain n kind left f cs ds first others ihFirst ihOthers =>
      exact ends_rest cs ds ((operand_ends kind left cs).mp ihFirst) ihOthers
  | done n kind f => exact .inl rfl
  | next n kind op symbol left right f white cs ds isWhite member operand others ihOperand ihOthers =>
      have operand := Text.ends_behind (white ++ symbol) cs ((operand_ends kind right cs).mp ihOperand)
      exact .inr (ends_rest _ ds operand ihOthers)
  | last n f cs white isWhite item ih => exact closing _
  | more n f fs cs white ds isWhite item others ih ihOthers =>
      exact Text.ends_behind _ _ (Text.ends_behind [','] ds ihOthers)

theorem field_squeezed (n : Nat) (content : List Char) (unclosed : '}' ∉ content) (behind : Behind)
    (once : SpacedOnce ('{' :: content ++ ['}'])) :
    Written n (.unary (.field (String.ofList (Text.trim content)))) (squeeze behind ('{' :: content ++ ['}'])) := by
  have single : SingleSpaced (Text.trim content) := by
    have met := reads_field content unclosed []
    rw [List.append_nil] at met
    have member : String.ofList (Text.trim content) ∈ references .outside ('{' :: content ++ ['}']) :=
      met ▸ List.mem_append_left _ (List.mem_singleton.mpr rfl)
    simpa using once.names _ member
  obtain ⟨first, last, firstWhite, lastWhite, squeezed⟩ :=
    Text.squeeze_trimmed .text content [] '}' (by decide) single
  have noBrace : ∀ white, White white → '}' ∉ white := fun white isWhite member =>
    absurd (isWhite '}' member) (by decide)
  have inner : '}' ∉ first ++ (Text.trim content ++ last) := by
    simp only [List.mem_append, not_or]
    exact ⟨noBrace first firstWhite, fun member => unclosed (Text.mem_of_mem_trim content '}' member),
      noBrace last lastWhite⟩
  have written := Written.field n _ inner
  rw [Text.trim_between first _ last firstWhite lastWhite, Text.trim_trim] at written
  rw [List.cons_append, Text.squeeze_ink behind '{' _ (by decide), squeezed, squeeze]
  exact .spaced n _ _ _ behind.gap_white written

theorem written_squeezed (n : Nat) (phrase : Phrase) (cs : List Char) (written : Written n phrase cs)
    (once : SpacedOnce cs) (behind : Behind) : Written n phrase (squeeze behind cs) := by
  induction written generalizing behind with
  | spaced n f white cs isWhite inner ih =>
      obtain ⟨later, skipped⟩ := Text.squeeze_white_run behind white cs isWhite
      rw [skipped]
      exact ih (spaced_once_part _ white cs [] (by simp) (bare_closed white (white_bare white isWhite)) once) later
  | number n numeral proper =>
      rw [Text.squeeze_alone behind _ (numeral_solid numeral proper)]
      exact .spaced n _ _ _ behind.gap_white (.number n numeral proper)
  | string n quote content cs isQuote quoted =>
      have ink : Text.isWhite quote = false := by rcases isQuote with rfl | rfl <;> decide
      have ends := Text.ends_behind [quote] cs (quoted_ends quote content cs ink quoted)
      rw [Text.squeeze_phrase behind (quote :: cs) (by simpa using ink)
        (string_spaced quote content cs isQuote ink quoted once) ends]
      exact .spaced n _ _ _ behind.gap_white (.string n quote content cs isQuote quoted)
  | field n content unclosed => exact field_squeezed n content unclosed behind once
  | boolean n b name isName word =>
      rw [Text.squeeze_alone behind name (name_solid name isName)]
      exact .spaced n _ _ _ behind.gap_white (.boolean n b name isName word)
  | callEmpty n name white isName isWhite =>
      obtain ⟨later, skipped⟩ := Text.squeeze_white_run .text white [')'] isWhite
      rw [List.append_assoc, Text.squeeze_solid behind name _ (name_solid name isName), List.cons_append,
        Text.squeeze_ink .text '(' _ (by decide), skipped, Text.squeeze_ink later ')' [] (by decide)]
      have call := Written.callEmpty n name later.gap isName later.gap_white
      rw [List.append_assoc] at call
      exact .spaced n _ _ _ behind.gap_white call
  | call n name fs cs isName items ih =>
      have opened := bare_append name ['('] (name_bare name isName) (by decide)
      have part := spaced_once_part _ (name ++ ['(']) cs [] (by simp) (bare_closed _ opened) once
      rw [Text.squeeze_solid behind name _ (name_solid name isName), Text.squeeze_ink .text '(' cs (by decide)]
      exact .spaced _ _ _ _ behind.gap_white (.call n name fs _ isName (ih part .text))
  | group n f cs white isWhite content ih =>
      have part := spaced_once_part _ ['('] cs (white ++ [')']) (by simp) (bare_closed _ (by decide)) once
      obtain ⟨gap, gapWhite, joined⟩ :=
        Text.squeeze_joined .text cs white [] ')' (written_ends n _ cs content) isWhite (by decide)
      rw [List.cons_append, List.cons_append, Text.squeeze_ink behind '(' _ (by decide), joined]
      exact .spaced _ _ _ _ behind.gap_white (.group n f _ gap gapWhite (ih part .text))
  | signed n op symbol f cs member operand ih =>
      have part := spaced_once_part _ symbol cs [] (by simp) (bare_closed symbol (sign_bare op symbol member)) once
      rw [Text.squeeze_solid behind symbol cs (sign_solid op symbol member)]
      exact .spaced _ _ _ _ behind.gap_white (.signed n op symbol f _ member (ih part .text))
  | base n f cs inner ih => exact .base n f _ (ih once behind)
  | raised n a b cs white ds isWhite left right ihLeft ihRight =>
      have gapBare := bare_append white ['^'] (white_bare white isWhite) (by decide)
      have parts := spaced_once_sides cs (white ++ ['^']) ds (written_closed _ _ cs left) gapBare (by simpa using once)
      obtain ⟨gap, gapWhite, joined⟩ :=
        Text.squeeze_joined behind cs white ds '^' (written_ends _ _ cs left) isWhite (by decide)
      rw [joined]
      exact .raised n a b _ gap _ gapWhite (ihLeft parts.1 behind) (ihRight parts.2 .text)
  | chain n kind left f cs ds first others ihFirst ihOthers =>
      have ends := (operand_ends kind left cs).mp (written_ends n _ cs first)
      have parts := spaced_once_sides cs [] ds (written_closed n _ cs first) (by simp [Bare]) (by simpa using once)
      rw [Text.squeeze_append behind cs ds ends]
      exact .chain n kind left f _ _ (ihFirst parts.1 behind) (ihOthers parts.2 .text)
  | done n kind f => exact .done n kind f
  | next n kind op symbol left right f white cs ds isWhite member operand others ihOperand ihOthers =>
      have gapBare := bare_append white symbol (white_bare white isWhite) (operator_bare kind op symbol member)
      have behindSymbol :=
        spaced_once_part _ (white ++ symbol) (cs ++ ds) [] (by simp) (bare_closed _ gapBare) once
      have parts := spaced_once_sides cs [] ds (written_closed n _ cs operand) (by simp [Bare])
        (by simpa using behindSymbol)
      obtain ⟨gap, gapWhite, operator⟩ :=
        Text.squeeze_token behind white symbol (cs ++ ds) isWhite (operator_solid kind op symbol member)
      have ends := (operand_ends kind right cs).mp (written_ends n _ cs operand)
      rw [Text.squeeze_append .text cs ds ends] at operator
      have next := Written.next n kind op symbol left right f gap _ _ gapWhite member (ihOperand parts.1 .text)
        (ihOthers parts.2 .text)
      rw [List.append_assoc, List.append_assoc] at next ⊢
      exact operator ▸ next
  | last n f cs white isWhite item ih =>
      have part := spaced_once_part _ [] cs (white ++ [')']) (by simp) rfl once
      obtain ⟨gap, gapWhite, joined⟩ :=
        Text.squeeze_joined behind cs white [] ')' (written_ends n _ cs item) isWhite (by decide)
      rw [joined]
      exact .last n f _ gap gapWhite (ih part behind)
  | more n f fs cs white ds isWhite item others ih ihOthers =>
      have gapBare := bare_append white [','] (white_bare white isWhite) (by decide)
      have parts := spaced_once_sides cs (white ++ [',']) ds (written_closed _ _ cs item) gapBare (by simpa using once)
      obtain ⟨gap, gapWhite, joined⟩ :=
        Text.squeeze_joined behind cs white ds ',' (written_ends _ _ cs item) isWhite (by decide)
      rw [joined]
      exact .more n f fs _ gap _ gapWhite (ih parts.1 behind) (ihOthers parts.2 .text)

-- The definition of a value is read as its formula is, where no white space inside of a string or of the name of a
-- reference is collapsed. It is tidy for every text, and so it is its own definition.
theorem definition_keeps_meaning (s : String) (dependencies : Names) :
    (SpacedOnce s.toList → ∀ f names, parse s = ⟨.ok f, names⟩ →
      parse (Provenance.describe s dependencies).definition = ⟨.ok f, names⟩) ∧
    Text.Tidy (Provenance.describe s dependencies).definition.toList ∧
    ∀ others, (Provenance.describe (Provenance.describe s dependencies).definition others).definition =
      (Provenance.describe s dependencies).definition := by
  have tidy := Text.collapse_tidy s.toList
  refine ⟨?_, by simpa [Provenance.describe] using tidy, ?_⟩
  · intro once f names accepted
    obtain ⟨rfl, cs, white, written, isWhite, split⟩ := parse_sound s f names accepted
    obtain ⟨later, skipped⟩ := Text.squeeze_white_run .text white [] isWhite
    rw [List.append_nil, squeeze] at skipped
    have part := spaced_once_part s.toList [] cs white split rfl once
    have squeezed := written_squeezed _ _ cs written part .nothing
    refine parse_complete _ f (squeeze .nothing cs) [] squeezed (by simp [White]) ?_
    rw [Provenance.describe, String.toList_ofList, Text.collapse_squeeze, split,
      Text.squeeze_append .nothing cs white (written_ends _ _ cs written), skipped]
  · intro others
    rw [Provenance.describe, Provenance.describe, String.toList_ofList, Text.tidy_collapse _ tidy]

def spacedOut : String := "\t\x7b  unit price\u00a0\x7d &\n'it\\'s one'  "

def itemised : Formula := .binary .concat (.field "unit price") (.literal (.text "it's one"))

theorem spaced_out_accepted : parse spacedOut = ⟨.ok itemised, itemised.fields⟩ := by
  have white : ∀ cs : List Char, cs.all Text.isWhite = true → White cs := fun cs all => List.all_eq_true.mp all
  have field := Written.field 256 [' ', ' ', 'u', 'n', 'i', 't', ' ', 'p', 'r', 'i', 'c', 'e', '\u00a0'] (by decide)
  have text := Written.string 255 '\'' ['i', 't', '\'', 's', ' ', 'o', 'n', 'e']
    ['i', 't', '\\', '\'', 's', ' ', 'o', 'n', 'e', '\''] (by decide)
    (.plain 'i' _ _ (by decide) (by decide) (.plain 't' _ _ (by decide) (by decide) (.hidden '\'' _ _
      (.plain 's' _ _ (by decide) (by decide) (.plain ' ' _ _ (by decide) (by decide) (.plain 'o' _ _ (by decide)
        (by decide) (.plain 'n' _ _ (by decide) (by decide) (.plain 'e' _ _ (by decide) (by decide) .close))))))))
  have left := power_operand _ .sums _ _ (.base _ _ _ (.spaced _ _ ['\t'] _ (white ['\t'] rfl) field))
  have right := power_operand _ .sums _ _ (.base _ _ _ (.spaced _ _ ['\n'] _ (white ['\n'] rfl) text))
  have others := Written.next 255 .sums .concat ['&'] (.field "unit price") _ _ [' '] _ _ (white [' '] rfl) (by decide)
    right (.done _ _ _)
  have whole := chain_comparisons _ .sums _ _ (.chain 256 .sums _ _ _ _ left others)
  exact parse_complete spacedOut itemised _ [' ', ' '] whole (white [' ', ' '] rfl) rfl

theorem spaced_out_definition :
    SpacedOnce spacedOut.toList ∧ parse spacedOut = ⟨.ok itemised, itemised.fields⟩ ∧
      (Provenance.describe spacedOut itemised.fields).definition = "\x7b unit price \x7d & 'it\\'s one'" ∧
      parse "\x7b unit price \x7d & 'it\\'s one'" = ⟨.ok itemised, itemised.fields⟩ := by
  have once : SpacedOnce spacedOut.toList := by
    have met : references .outside spacedOut.toList = ["unit price"] := by decide
    refine ⟨by decide, ?_⟩
    rw [met]
    decide
  have defined : (Provenance.describe spacedOut itemised.fields).definition =
      "\x7b unit price \x7d & 'it\\'s one'" := by decide +kernel
  refine ⟨once, spaced_out_accepted, defined, ?_⟩
  rw [← defined]
  exact (definition_keeps_meaning spacedOut itemised.fields).1 once itemised itemised.fields spaced_out_accepted

end FormulaField
