import FormulaField.Proofs.Formula.Completeness

set_option autoImplicit false

namespace FormulaField

-- Where reading has come to. A backslash hides the next character of a string, and the content of a
-- reference is kept the latest character first.
inductive Reading where
  | outside
  | string (quote : Char)
  | hidden (quote : Char)
  | reference (content : List Char)

def references : Reading → List Char → List String
  | _, [] => []
  | .outside, c :: cs =>
      if c = '"' ∨ c = '\'' then references (.string c) cs
      else if c = '{' then references (.reference []) cs
      else references .outside cs
  | .string quote, c :: cs =>
      if c = '\\' then references (.hidden quote) cs
      else if c = quote then references .outside cs
      else references (.string quote) cs
  | .hidden quote, _ :: cs => references (.string quote) cs
  | .reference content, c :: cs =>
      if c = '}' then String.ofList (Text.trim content.reverse) :: references .outside cs
      else references (.reference (c :: content)) cs

-- A text with some references that leaves the reading outside of strings and references.
def Reads (cs : List Char) (names : List String) : Prop :=
  ∀ rest, references .outside (cs ++ rest) = names ++ references .outside rest

def Bare (cs : List Char) : Prop := ∀ c ∈ cs, c ≠ '"' ∧ c ≠ '\'' ∧ c ≠ '{'

instance (cs : List Char) : Decidable (Bare cs) := List.decidableBAll _ cs

theorem bare_append (cs ds : List Char) (first : Bare cs) (second : Bare ds) : Bare (cs ++ ds) := by
  intro c member
  rcases List.mem_append.mp member with inFirst | inSecond
  · exact first c inFirst
  · exact second c inSecond

theorem bare_of (p : Char → Bool) (none : p '"' = false ∧ p '\'' = false ∧ p '{' = false) (cs : List Char)
    (all : ∀ c ∈ cs, p c = true) : Bare cs := by
  intro c member
  have holds := all c member
  refine ⟨?_, ?_, ?_⟩
  · rintro rfl
    simp [none] at holds
  · rintro rfl
    simp [none] at holds
  · rintro rfl
    simp [none] at holds

theorem white_bare (cs : List Char) (isWhite : White cs) : Bare cs := bare_of Text.isWhite (by decide) cs isWhite

theorem name_bare (cs : List Char) (isName : IsName cs) : Bare cs :=
  bare_of Parser.isNameCharacter (by decide) cs isName.inside

theorem numeral_bare (n : Number.Numeral) (proper : IsNumeral n) : Bare (numeralChars n) := by
  have digits : ∀ cs, (∀ c ∈ cs, Number.isDigit c = true) → Bare cs := bare_of Number.isDigit (by decide)
  obtain ⟨whole, fraction, exponent⟩ := n
  refine bare_append whole _ (digits whole proper.whole) ?_
  cases fraction with
  | nil => exact bare_of Number.isDigit (by decide) [] (by simp)
  | cons c rest => exact bare_append ['.'] _ (by decide) (digits (c :: rest) proper.fraction)

theorem operator_bare (kind : Chain) (op : BinaryOperator) (symbol : List Char)
    (member : (symbol, op) ∈ kind.operators) : Bare symbol := by
  have all : ∀ entry ∈ kind.operators, Bare entry.1 := by cases kind <;> decide
  exact all (symbol, op) member

theorem sign_bare (op : UnaryOperator) (symbol : List Char) (member : (symbol, op) ∈ Parser.unaryOperators) :
    Bare symbol := by
  have all : ∀ entry ∈ Parser.unaryOperators, Bare entry.1 := by decide
  exact all (symbol, op) member

theorem reads_append (cs ds : List Char) (names more : List String) (first : Reads cs names) (second : Reads ds more) :
    Reads (cs ++ ds) (names ++ more) := by
  intro rest
  rw [List.append_assoc, first, second, List.append_assoc]

theorem reads_bare (cs : List Char) (isBare : Bare cs) : Reads cs [] := by
  intro rest
  induction cs with
  | nil => rfl
  | cons c cs ih =>
      obtain ⟨noDouble, noSingle, noBrace⟩ := isBare c (by simp)
      rw [List.cons_append, references, if_neg (by simp [noDouble, noSingle]), if_neg noBrace]
      exact ih (fun d member => isBare d (List.mem_cons_of_mem c member))

theorem reads_behind (cs ds : List Char) (names : List String) (isBare : Bare cs) (others : Reads ds names) :
    Reads (cs ++ ds) names :=
  reads_append cs ds [] names (reads_bare cs isBare) others

theorem reads_before (cs ds : List Char) (names : List String) (first : Reads cs names) (isBare : Bare ds) :
    Reads (cs ++ ds) names := by
  have both := reads_append cs ds names [] first (reads_bare ds isBare)
  rw [List.append_nil] at both
  exact both

theorem quoted_references (quote : Char) (content body rest : List Char) (isQuote : quote ≠ '\\')
    (quoted : Quoted quote content body) :
    references (.string quote) (body ++ rest) = references .outside rest := by
  induction quoted with
  | close => rw [List.singleton_append, references, if_neg isQuote, if_pos rfl]
  | hidden c content cs inner ih => rw [List.cons_append, List.cons_append, references, if_pos rfl, references, ih]
  | plain c content cs notQuote notHiding inner ih =>
      rw [List.cons_append, references, if_neg notHiding, if_neg notQuote, ih]

theorem reads_string (quote : Char) (content body : List Char) (isQuote : quote = '"' ∨ quote = '\'')
    (quoted : Quoted quote content body) : Reads (quote :: body) [] := by
  intro rest
  have notHiding : quote ≠ '\\' := by rcases isQuote with rfl | rfl <;> decide
  rw [List.cons_append, references, if_pos isQuote, quoted_references quote content body rest notHiding quoted]
  rfl

theorem closed_references (content rest known : List Char) (unclosed : '}' ∉ content) :
    references (.reference known) (content ++ '}' :: rest) =
      String.ofList (Text.trim (known.reverse ++ content)) :: references .outside rest := by
  induction content generalizing known with
  | nil => rw [List.nil_append, references, if_pos rfl, List.append_nil]
  | cons c content ih =>
      rw [List.mem_cons, not_or] at unclosed
      rw [List.cons_append, references, if_neg (Ne.symm unclosed.1), ih (c :: known) unclosed.2]
      simp

theorem reads_field (content : List Char) (unclosed : '}' ∉ content) :
    Reads ('{' :: content ++ ['}']) [String.ofList (Text.trim content)] := by
  intro rest
  have closed := closed_references content rest [] unclosed
  rw [List.cons_append, List.cons_append, references, if_neg (by decide), if_pos rfl, List.append_assoc]
  exact closed

def Phrase.Reads (cs : List Char) : Phrase → Prop
  | .unary f => FormulaField.Reads cs f.fieldNames
  | .power f => FormulaField.Reads cs f.fieldNames
  | .chain _ f => FormulaField.Reads cs f.fieldNames
  | .rest _ left f => ∃ names, f.fieldNames = left.fieldNames ++ names ∧ FormulaField.Reads cs names
  | .items fs => FormulaField.Reads cs (Formula.fieldNamesAll fs)

theorem operand_reads (kind : Chain) (f : Formula) (cs : List Char) :
    (kind.operand f).Reads cs ↔ Reads cs f.fieldNames := by
  cases kind <;> rfl

theorem written_reads (n : Nat) (phrase : Phrase) (cs : List Char) (written : Written n phrase cs) :
    phrase.Reads cs := by
  induction written with
  | spaced n f white cs isWhite inner ih => exact reads_behind white cs _ (white_bare white isWhite) ih
  | number n numeral proper => exact reads_bare _ (numeral_bare numeral proper)
  | string n quote content cs isQuote quoted => exact reads_string quote content cs isQuote quoted
  | field n content unclosed => exact reads_field content unclosed
  | boolean n b name isName word => exact reads_bare name (name_bare name isName)
  | callEmpty n name white isName isWhite =>
      have opened := bare_append ['('] white (by decide) (white_bare white isWhite)
      exact reads_bare _ (bare_append _ [')'] (bare_append name _ (name_bare name isName) opened) (by decide))
  | call n name fs cs isName items ih =>
      exact reads_behind name _ _ (name_bare name isName) (reads_behind ['('] cs _ (by decide) ih)
  | group n f cs white isWhite content ih =>
      have opened := reads_behind ['('] cs _ (by decide) ih
      exact reads_before _ [')'] _ (reads_before _ white _ opened (white_bare white isWhite)) (by decide)
  | signed n op symbol f cs member operand ih => exact reads_behind symbol cs _ (sign_bare op symbol member) ih
  | base n f cs inner ih => exact ih
  | raised n a b cs white ds isWhite left right ihLeft ihRight =>
      have first := reads_before cs white _ ihLeft (white_bare white isWhite)
      exact reads_append _ _ _ _ first (reads_behind ['^'] ds _ (by decide) ihRight)
  | chain n kind left f cs ds first others ihFirst ihOthers =>
      obtain ⟨names, fields, others⟩ := ihOthers
      rw [Phrase.Reads, fields]
      exact reads_append cs ds _ names ((operand_reads kind left cs).mp ihFirst) others
  | done n kind f => exact ⟨[], (List.append_nil _).symm, reads_bare [] (by decide)⟩
  | next n kind op symbol left right f white cs ds isWhite member operand others ihOperand ihOthers =>
      obtain ⟨names, fields, others⟩ := ihOthers
      rw [Formula.fieldNames, List.append_assoc] at fields
      have gap := bare_append white symbol (white_bare white isWhite) (operator_bare kind op symbol member)
      have operand := reads_behind _ cs _ gap ((operand_reads kind right cs).mp ihOperand)
      exact ⟨_, fields, reads_append _ ds _ names operand others⟩
  | last n f cs white isWhite item ih =>
      rw [Phrase.Reads, Formula.fieldNamesAll, Formula.fieldNamesAll, List.append_nil]
      exact reads_before _ [')'] _ (reads_before cs white _ ih (white_bare white isWhite)) (by decide)
  | more n f fs cs white ds isWhite item others ih ihOthers =>
      have first := reads_before cs white _ ih (white_bare white isWhite)
      exact reads_append _ _ _ _ first (reads_behind [','] ds _ (by decide) ihOthers)

end FormulaField
