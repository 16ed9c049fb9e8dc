import FormulaField.Proofs.Formula.Tokens

set_option autoImplicit false

namespace FormulaField

open FormulaField.Parser (Level bind_ok bind_run eat_passed eat_first_passed descend_ok closing_paren_passed)

-- A parser gives only what the grammar writes. The names in `known` were met before it starts.
def Sound (n : Nat) (phrase : Formula → Phrase) (known : List String) (p : Parser Formula) : Prop :=
  ∀ before f after, p.run before = .ok f after →
    ∃ cs white names, Written n (phrase f) cs ∧ White white ∧ f.fieldNames = known ++ names ∧
      before.Passed (cs ++ white) names after

theorem sound_passed (n : Nat) (phrase : Formula → Phrase) (p : Parser Formula) (sound : Sound n phrase [] p)
    (before after : Cursor) (f : Formula) (ran : p.run before = .ok f after) :
    ∃ cs white, Written n (phrase f) cs ∧ White white ∧ before.Passed (cs ++ white) f.fieldNames after := by
  obtain ⟨cs, white, names, written, isWhite, fields, passed⟩ := sound before f after ran
  rw [List.nil_append] at fields
  exact ⟨cs, white, written, isWhite, fields ▸ passed⟩

structure SoundLevel (level : Level) (n : Nat) : Prop where
  unary : Sound n .unary [] level.unary
  power : Sound n .power [] level.power
  chain : ∀ kind : Chain, Sound n (.chain kind) [] (kind.parserAt level)
  rest : ∀ (kind : Chain) left, Sound n (.rest kind left) left.fieldNames (kind.restAt level left)

def SoundBelow (inner : Option Level) (n : Nat) : Prop :=
  ∀ level, inner = some level → ∃ m, n = m + 1 ∧ SoundLevel level m

theorem operand_sound (level : Level) (n : Nat) (kind : Chain) (sound : SoundLevel level n) :
    Sound n kind.operand [] (kind.operandAt level) := by
  cases kind with
  | products => exact sound.power
  | sums => exact sound.chain .products
  | comparisons => exact sound.chain .sums

theorem descend_sound (inner : Option Level) (n : Nat) (before after : Cursor) (level : Level)
    (below : SoundBelow inner n) (ran : (Parser.descend inner).run before = .ok level after) :
    ∃ m, n = m + 1 ∧ SoundLevel level m ∧ after = before := by
  obtain ⟨found, same⟩ := descend_ok inner before after level ran
  obtain ⟨m, levels, sound⟩ := below level found
  exact ⟨m, levels, sound, same⟩

-- White space in front of the rest of a chain goes before its first operator, or stays behind.
theorem rest_spaced (n : Nat) (kind : Chain) (left f : Formula) (white cs more : List Char)
    (isWhite : White white) (moreWhite : White more) (others : Written n (.rest kind left f) cs) :
    ∃ ds space, Written n (.rest kind left f) ds ∧ White space ∧ white ++ (cs ++ more) = ds ++ space := by
  cases others with
  | done => exact ⟨[], white ++ more, .done n kind left, white_append white more isWhite moreWhite, by simp⟩
  | next n kind op symbol left right f space cs ds spaceWhite member operand others =>
      refine ⟨_, more, .next n kind op symbol left right f (white ++ space) cs ds
        (white_append white space isWhite spaceWhite) member operand others, moreWhite, ?_⟩
      simp

theorem written_spaced (n : Nat) (phrase : Phrase) (white cs : List Char) (isWhite : White white)
    (notRest : ∀ kind left f, phrase ≠ .rest kind left f) (written : Written n phrase cs) :
    Written n phrase (white ++ cs) := by
  induction written with
  | base n f cs inner ih => exact .base n f _ (ih (by simp))
  | raised n a b cs space ds spaceWhite left right ihLeft ihRight =>
      simpa using Written.raised n a b (white ++ cs) space ds spaceWhite (ihLeft (by simp)) right
  | chain n kind left f cs ds first others ihFirst ihOthers =>
      have operand : ∀ other before after, kind.operand left ≠ .rest other before after := by
        cases kind <;> simp [Chain.operand]
      simpa using Written.chain n kind left f (white ++ cs) ds (ihFirst operand) others
  | last n f cs space spaceWhite item ih => simpa using Written.last n f (white ++ cs) space spaceWhite (ih (by simp))
  | more n f fs cs space ds spaceWhite item others ih ihOthers =>
      simpa using Written.more n f fs (white ++ cs) space ds spaceWhite (ih (by simp)) others
  | done => exact absurd rfl (notRest _ _ _)
  | next => exact absurd rfl (notRest _ _ _)
  | number n numeral proper => exact .spaced n _ white _ isWhite (.number n numeral proper)
  | string n quote content cs isQuote quoted =>
      exact .spaced n _ white _ isWhite (.string n quote content cs isQuote quoted)
  | field n content unclosed => exact .spaced n _ white _ isWhite (.field n content unclosed)
  | boolean n b name isName word => exact .spaced n _ white _ isWhite (.boolean n b name isName word)
  | callEmpty n name space isName spaceWhite =>
      exact .spaced n _ white _ isWhite (.callEmpty n name space isName spaceWhite)
  | call n name fs cs isName items => exact .spaced _ _ white _ isWhite (.call n name fs cs isName items)
  | group n f cs space spaceWhite content => exact .spaced _ _ white _ isWhite (.group n f cs space spaceWhite content)
  | signed n op symbol f cs member operand =>
      exact .spaced _ _ white _ isWhite (.signed n op symbol f cs member operand)
  | spaced n f space cs spaceWhite inner =>
      exact .spaced n f white _ isWhite (.spaced n f space cs spaceWhite inner)

theorem number_sound (n : Nat) (before after : Cursor) (f : Formula)
    (digit : ∃ c rest, before.rest = c :: rest ∧ Number.isDigit c = true)
    (ran : Parser.number.run before = .ok f after) :
    ∃ cs, Written n (.unary f) cs ∧ before.Passed cs f.fieldNames after := by
  obtain ⟨cs, middle, read, rest⟩ := bind_ok _ _ before after f ran
  cases read
  cases numeral : Parser.numeral before.rest with
  | mk number length =>
      obtain ⟨tail, split, proper, exactly⟩ := numeral_read before.rest number length digit numeral
      rw [numeral] at rest
      cases rest
      refine ⟨numeralChars number, .number n number proper, ?_⟩
      rw [exactly]
      exact Cursor.passed_advance before _ tail split

theorem string_sound (n : Nat) (quote : Char) (rest : List Char) (before after : Cursor) (f : Formula)
    (isQuote : quote = '"' ∨ quote = '\'') (here : before.rest = quote :: rest)
    (ran : (Parser.string quote).run before = .ok f after) :
    ∃ cs, Written n (.unary f) cs ∧ before.Passed cs f.fieldNames after := by
  obtain ⟨cs, middle, read, finished⟩ := bind_ok _ _ before after f ran
  cases read
  rw [here, List.drop_one, List.tail_cons] at finished
  cases quoted : Parser.quoted? quote rest with
  | none =>
      rw [quoted] at finished
      cases finished
  | some result =>
      obtain ⟨content, length⟩ := result
      obtain ⟨body, tail, split, exactly, isQuoted⟩ := quoted_read quote rest content length quoted
      rw [quoted] at finished
      cases finished
      refine ⟨quote :: body, .string n quote content body isQuote isQuoted, ?_⟩
      have passed := Cursor.passed_advance before (quote :: body) tail (by rw [here, split, List.cons_append])
      rw [List.length_cons, ← exactly] at passed
      exact passed

theorem field_sound (n : Nat) (rest : List Char) (before after : Cursor) (f : Formula)
    (here : before.rest = '{' :: rest) (ran : Parser.fieldReference.run before = .ok f after) :
    ∃ cs, Written n (.unary f) cs ∧ before.Passed cs f.fieldNames after := by
  obtain ⟨cs, middle, read, finished⟩ := bind_ok _ _ before after f ran
  cases read
  simp only [here, List.drop_one, List.tail_cons] at finished
  have split := List.takeWhile_append_dropWhile (p := (· != '}')) (l := rest)
  have unclosed : '}' ∉ rest.takeWhile (· != '}') := by
    intro member
    simpa using all_of_take_while (· != '}') rest '}' member
  by_cases closed : (rest.takeWhile (· != '}')).length < rest.length
  · rw [if_pos closed] at finished
    cases finished
    cases closing : rest.dropWhile (· != '}') with
    | nil =>
        rw [closing, List.append_nil] at split
        rw [split] at closed
        exact absurd closed (Nat.lt_irrefl _)
    | cons c tail =>
        have brace : c = '}' := by
          have notOther := List.head?_dropWhile_not (· != '}') rest
          simpa [closing] using notOther
        rw [closing, brace] at split
        refine ⟨_, .field n _ unclosed, ?_⟩
        have passed := Cursor.passed_advance before ('{' :: rest.takeWhile (· != '}') ++ ['}']) tail
          (by rw [here]; simpa using split.symm)
        have length : ('{' :: rest.takeWhile (· != '}') ++ ['}']).length = (rest.takeWhile (· != '}')).length + 2 := by
          simp
        rw [length] at passed
        exact ⟨passed.rest, passed.position, congrArg (_ :: ·) passed.reads⟩
  · rw [if_neg closed] at finished
    obtain ⟨position, middle, _, threw⟩ := bind_ok _ _ before after f finished
    cases threw

theorem items_sound (n : Nat) (item : Parser Formula) (sound : Sound n (.chain .comparisons) [] item)
    (room : Nat) (before after : Cursor) (fs : List Formula)
    (ran : (Parser.argumentList item room).run before = .ok fs after) :
    ∃ cs, Written n (.items fs) cs ∧ before.Passed cs (Formula.fieldNamesAll fs) after := by
  induction room generalizing before fs with
  | zero => cases ran
  | succ room ih =>
      obtain ⟨first, afterFirst, ranFirst, rest⟩ := bind_ok _ _ before after fs ran
      obtain ⟨cs, white, names, written, isWhite, fields, passed⟩ := sound before first afterFirst ranFirst
      obtain ⟨taken, afterComma, ate, rest⟩ := bind_ok _ _ afterFirst after fs rest
      obtain ⟨space, spaceWhite, overComma⟩ := eat_passed [','] afterFirst afterComma taken ate
      have both := Cursor.passed_trans before afterFirst afterComma _ _ _ _ passed overComma
      have allWhite := white_append white space isWhite spaceWhite
      cases taken with
      | true =>
          obtain ⟨others, last, ranOthers, finished⟩ := bind_ok _ _ afterComma after fs rest
          cases finished
          obtain ⟨ds, writtenOthers, overOthers⟩ := ih afterComma others ranOthers
          have all := Cursor.passed_trans before afterComma after _ _ _ _ both overOthers
          exact ⟨_, .more n first others cs (white ++ space) ds allWhite written writtenOthers,
            by simpa [Formula.fieldNamesAll, fields] using all⟩
      | false =>
          obtain ⟨_, last, closed, finished⟩ := bind_ok _ _ afterComma after fs rest
          cases finished
          obtain ⟨more, moreWhite, overParen⟩ := closing_paren_passed afterComma after closed
          have all := Cursor.passed_trans before afterComma after _ _ _ _ both overParen
          exact ⟨_, .last n first cs (white ++ space ++ more) (white_append _ more allWhite moreWhite) written,
            by simpa [Formula.fieldNamesAll, fields] using all⟩

theorem arguments_sound (inner : Option Level) (n : Nat) (below : SoundBelow inner n) (name : List Char)
    (isName : IsName name) (before after : Cursor) (fs : List Formula)
    (ran : (Parser.arguments inner).run before = .ok fs after) :
    ∃ cs, Written n (.unary (.call (String.ofList (Text.upper name)) fs)) (name ++ '(' :: cs) ∧
      before.Passed cs (Formula.fieldNamesAll fs) after := by
  obtain ⟨taken, middle, ate, rest⟩ := bind_ok _ _ before after fs ran
  obtain ⟨white, isWhite, passed⟩ := eat_passed [')'] before middle taken ate
  cases taken with
  | true =>
      cases rest
      exact ⟨white ++ [')'], by simpa using Written.callEmpty n name white isName isWhite, passed⟩
  | false =>
      rw [if_neg Bool.false_ne_true] at rest
      obtain ⟨level, entered, descended, inside⟩ := bind_ok _ _ middle after fs rest
      obtain ⟨m, rfl, sound, rfl⟩ := descend_sound inner n middle entered level below descended
      obtain ⟨chars, same, read, listed⟩ := bind_ok _ _ entered after fs inside
      cases read
      obtain ⟨cs, written, further⟩ := items_sound m _ (sound.chain .comparisons) _ entered after fs listed
      have all := Cursor.passed_trans before entered after _ _ _ _ passed further
      exact ⟨white ++ cs, .call m name fs _ isName (written_spaced m _ white cs isWhite (by simp) written),
        by simpa using all⟩

theorem identifier_sound (inner : Option Level) (n : Nat) (below : SoundBelow inner n) (c : Char)
    (rest : List Char) (before after : Cursor) (f : Formula) (here : before.rest = c :: rest)
    (starts : startsName c = true) (ran : (Parser.identifier inner).run before = .ok f after) :
    ∃ cs, Written n (.unary f) cs ∧ before.Passed cs f.fieldNames after := by
  obtain ⟨_, atStart, read, named⟩ := bind_ok _ _ before after f ran
  cases read
  obtain ⟨_, atStart, read, named⟩ := bind_ok _ _ before after f named
  cases read
  obtain ⟨_, behind, advanced, named⟩ := bind_ok _ _ before after f named
  cases advanced
  have isName : IsName (before.rest.takeWhile Parser.isNameCharacter) := by
    rw [here]
    exact name_read c rest starts
  have overName := Cursor.passed_advance before (before.rest.takeWhile Parser.isNameCharacter) _
    List.takeWhile_append_dropWhile.symm
  revert named isName overName
  generalize before.rest.takeWhile Parser.isNameCharacter = name
  intro named isName overName
  obtain ⟨_, atEnd, read, named⟩ := bind_ok _ _ (before.advance name.length) after f named
  cases read
  split at named
  next tail paren =>
    obtain ⟨_, opened, advanced, called⟩ := bind_ok _ _ (before.advance name.length) after f named
    cases advanced
    obtain ⟨fs, closed, listed, finished⟩ := bind_ok _ _ _ after f called
    cases finished
    obtain ⟨cs, written, overList⟩ := arguments_sound inner n below name isName _ after fs listed
    have overParen := Cursor.passed_advance (before.advance name.length) ['('] tail paren
    have opening := Cursor.passed_trans before _ _ _ _ _ _ overName overParen
    have all := Cursor.passed_trans before _ after _ _ _ _ opening overList
    exact ⟨_, written, by simpa [Formula.fieldNames] using all⟩
  next =>
    by_cases isTrue : Text.upper name = ['T', 'R', 'U', 'E']
    · rw [if_pos isTrue] at named
      cases named
      exact ⟨name, .boolean n true name isName isTrue, overName⟩
    · rw [if_neg isTrue] at named
      by_cases isFalse : Text.upper name = ['F', 'A', 'L', 'S', 'E']
      · rw [if_pos isFalse] at named
        cases named
        exact ⟨name, .boolean n false name isName isFalse, overName⟩
      · rw [if_neg isFalse] at named
        cases named

theorem group_sound (inner : Option Level) (n : Nat) (below : SoundBelow inner n) (rest : List Char)
    (before after : Cursor) (f : Formula) (here : before.rest = '(' :: rest)
    (ran : (Parser.group inner).run before = .ok f after) :
    ∃ cs, Written n (.unary f) cs ∧ before.Passed cs f.fieldNames after := by
  obtain ⟨_, opened, advanced, inside⟩ := bind_ok _ _ before after f ran
  cases advanced
  have overParen := Cursor.passed_advance before ['('] rest here
  obtain ⟨level, entered, descended, content⟩ := bind_ok _ _ _ after f inside
  obtain ⟨m, rfl, sound, same⟩ := descend_sound inner n _ entered level below descended
  obtain ⟨g, behind, ranContent, closing⟩ := bind_ok _ _ entered after f content
  obtain ⟨_, closed, ranClosing, finished⟩ := bind_ok _ _ behind after f closing
  cases finished
  obtain ⟨cs, white, names, written, isWhite, fields, overContent⟩ :=
    sound.chain .comparisons entered f behind ranContent
  obtain ⟨space, spaceWhite, overClosing⟩ := closing_paren_passed behind after ranClosing
  rw [same] at overContent
  have opening := Cursor.passed_trans before _ behind _ _ _ _ overParen overContent
  have all := Cursor.passed_trans before behind after _ _ _ _ opening overClosing
  refine ⟨_, .group m f cs (white ++ space) (white_append white space isWhite spaceWhite) written, ?_⟩
  simpa [fields] using all

theorem primary_sound (inner : Option Level) (n : Nat) (below : SoundBelow inner n) :
    Sound n .unary [] (Parser.primary inner) := by
  intro before f after ran
  obtain ⟨_, skipped, skip, token⟩ := bind_ok _ _ before after f ran
  cases skip
  obtain ⟨_, atToken, read, token⟩ := bind_ok _ _ before.skipWhite after f token
  cases read
  suffices here : ∃ cs, Written n (.unary f) cs ∧ before.skipWhite.Passed cs f.fieldNames after by
    obtain ⟨cs, written, passed⟩ := here
    have all := Cursor.passed_trans before _ after _ _ _ _ (Cursor.passed_skip_white before) passed
    refine ⟨_, [], f.fieldNames, .spaced n f _ cs (white_take_while before.rest) written, by simp [White], by simp, ?_⟩
    simpa using all
  split at token
  next => cases token
  next c rest here =>
    by_cases digit : Number.isDigit c = true
    · rw [if_pos digit] at token
      exact number_sound n _ after f ⟨c, rest, here, digit⟩ token
    rw [if_neg digit] at token
    by_cases quote : c = '"' ∨ c = '\''
    · rw [if_pos quote] at token
      exact string_sound n c rest _ after f quote here token
    rw [if_neg quote] at token
    by_cases brace : c = '{'
    · rw [if_pos brace] at token
      exact field_sound n rest _ after f (brace ▸ here) token
    rw [if_neg brace] at token
    by_cases paren : c = '('
    · rw [if_pos paren] at token
      exact group_sound inner n below rest _ after f (paren ▸ here) token
    rw [if_neg paren] at token
    by_cases starts : (Text.isAlphabetic c || c == '_') = true
    · rw [if_pos starts] at token
      exact identifier_sound inner n below c rest _ after f here starts token
    · rw [if_neg starts] at token
      obtain ⟨_, atError, _, threw⟩ := bind_ok _ _ _ after f token
      cases threw

theorem unary_sound (inner : Option Level) (n : Nat) (below : SoundBelow inner n) :
    Sound n .unary [] (Parser.unary inner) := by
  intro before f after ran
  obtain ⟨found, middle, ate, operand⟩ := bind_ok _ _ before after f ran
  obtain ⟨white, isWhite, passed⟩ := eat_first_passed _ before middle found ate
  cases found with
  | none =>
      obtain ⟨cs, space, names, written, spaceWhite, fields, further⟩ :=
        primary_sound inner n below middle f after operand
      refine ⟨_, space, names, .spaced n f white cs isWhite written, spaceWhite, fields, ?_⟩
      simpa using Cursor.passed_trans before middle after _ _ _ _ passed further
  | some op =>
      obtain ⟨symbol, member, overSymbol⟩ := passed
      obtain ⟨level, entered, descended, signed⟩ := bind_ok _ _ middle after f operand
      obtain ⟨m, rfl, sound, rfl⟩ := descend_sound inner n middle entered level below descended
      obtain ⟨g, behind, ranOperand, finished⟩ := bind_ok _ _ entered after f signed
      cases finished
      obtain ⟨cs, space, names, written, spaceWhite, fields, further⟩ := sound.unary entered g after ranOperand
      refine ⟨_, space, names, .spaced _ _ white _ isWhite (.signed m op symbol g cs member written),
        spaceWhite, fields, ?_⟩
      simpa using Cursor.passed_trans before entered after _ _ _ _ overSymbol further

theorem power_sound (inner : Option Level) (n : Nat) (below : SoundBelow inner n) :
    Sound n .power [] (Parser.power inner) := by
  intro before f after ran
  obtain ⟨left, middle, ranLeft, rest⟩ := bind_ok _ _ before after f ran
  obtain ⟨cs, white, names, written, isWhite, fields, passed⟩ := unary_sound inner n below before left middle ranLeft
  obtain ⟨taken, behind, ate, raised⟩ := bind_ok _ _ middle after f rest
  obtain ⟨space, spaceWhite, overCaret⟩ := eat_passed ['^'] middle behind taken ate
  have both := Cursor.passed_trans before middle behind _ _ _ _ passed overCaret
  have allWhite := white_append white space isWhite spaceWhite
  cases taken with
  | false =>
      cases raised
      exact ⟨cs, white ++ space, names, .base n _ cs written, allWhite, fields, by simpa using both⟩
  | true =>
      rw [if_pos rfl] at raised
      obtain ⟨level, entered, descended, inside⟩ := bind_ok _ _ behind after f raised
      obtain ⟨m, rfl, sound, rfl⟩ := descend_sound inner n behind entered level below descended
      obtain ⟨right, last, ranRight, finished⟩ := bind_ok _ _ entered after f inside
      cases finished
      obtain ⟨ds, more, others, writtenRight, moreWhite, fieldsRight, overRight⟩ :=
        sound.power entered right after ranRight
      have all := Cursor.passed_trans before entered after _ _ _ _ both overRight
      refine ⟨_, more, names ++ others, .raised m left right cs (white ++ space) ds allWhite written writtenRight,
        moreWhite, by simp [Formula.fieldNames, fields, fieldsRight], ?_⟩
      simpa using all

theorem rest_sound (inner : Option Level) (n : Nat) (below : SoundBelow inner n) (kind : Chain)
    (left : Formula) : Sound n (.rest kind left) left.fieldNames (kind.restAt (.over inner) left) := by
  rw [Chain.rest_over]
  intro before f after ran
  obtain ⟨found, middle, ate, rest⟩ := bind_ok _ _ before after f ran
  obtain ⟨white, isWhite, passed⟩ := eat_first_passed _ before middle found ate
  cases found with
  | none =>
      cases rest
      exact ⟨[], white, [], .done n kind left, isWhite, by simp, by simpa using passed⟩
  | some op =>
      obtain ⟨symbol, member, overSymbol⟩ := passed
      obtain ⟨level, entered, descended, inside⟩ := bind_ok _ _ middle after f rest
      obtain ⟨m, rfl, sound, rfl⟩ := descend_sound inner n middle entered level below descended
      obtain ⟨right, behind, ranRight, continued⟩ := bind_ok _ _ entered after f inside
      obtain ⟨cs, space, names, writtenRight, spaceWhite, fieldsRight, overRight⟩ :=
        operand_sound level m kind sound entered right behind ranRight
      obtain ⟨ds, more, others, writtenOthers, moreWhite, fields, overOthers⟩ :=
        sound.rest kind (.binary op left right) behind f after continued
      obtain ⟨es, last, writtenRest, lastWhite, split⟩ :=
        rest_spaced m kind _ f space ds more spaceWhite moreWhite writtenOthers
      have both := Cursor.passed_trans before entered behind _ _ _ _ overSymbol overRight
      have all := Cursor.passed_trans before behind after _ _ _ _ both overOthers
      refine ⟨_, last, names ++ others, .next m kind op symbol left right f white cs es isWhite member
        writtenRight writtenRest, lastWhite, by simp [fields, Formula.fieldNames, fieldsRight], ?_⟩
      simpa [split] using all

theorem chain_sound (level : Level) (inner : Option Level) (n : Nat) (kind : Chain) (isOver : level = .over inner)
    (operand : Sound n kind.operand [] (kind.operandAt level))
    (rest : ∀ left, Sound n (.rest kind left) left.fieldNames (kind.restAt level left)) :
    Sound n (.chain kind) [] (kind.parserAt level) := by
  subst isOver
  rw [Chain.parser_over]
  intro before f after ran
  obtain ⟨left, middle, ranLeft, continued⟩ := bind_ok _ _ before after f ran
  obtain ⟨cs, white, names, written, isWhite, fields, passed⟩ := operand before left middle ranLeft
  obtain ⟨ds, more, others, writtenRest, moreWhite, fieldsRest, further⟩ := rest left middle f after continued
  obtain ⟨es, last, writtenOthers, lastWhite, split⟩ :=
    rest_spaced n kind left f white ds more isWhite moreWhite writtenRest
  have all := Cursor.passed_trans before middle after _ _ _ _ passed further
  refine ⟨_, last, names ++ others, .chain n kind left f cs es written writtenOthers, lastWhite,
    by simp [fieldsRest, fields], ?_⟩
  simpa [split] using all

theorem over_sound (inner : Option Level) (n : Nat) (below : SoundBelow inner n) :
    SoundLevel (.over inner) n := by
  have power : Sound n .power [] (Level.over inner).power := power_sound inner n below
  have rest := rest_sound inner n below
  have product := chain_sound (.over inner) inner n .products rfl power (rest .products)
  have sum := chain_sound (.over inner) inner n .sums rfl product (rest .sums)
  refine ⟨unary_sound inner n below, power, ?_, rest⟩
  intro kind
  cases kind with
  | products => exact product
  | sums => exact sum
  | comparisons => exact chain_sound (.over inner) inner n .comparisons rfl sum (rest .comparisons)

theorem level_sound (n : Nat) : SoundLevel (Parser.level n) n := by
  induction n with
  | zero => exact over_sound none 0 (by simp [SoundBelow])
  | succ n ih =>
      refine over_sound (some (Parser.level n)) (n + 1) ?_
      intro level same
      cases same
      exact ⟨n, rfl, ih⟩

theorem mem_names_of_list (names : List String) (name : String) : name ∈ Names.ofList names ↔ name ∈ names := by
  suffices grown : ∀ known : Names, name ∈ names.foldl (·.insert ·) known ↔ name ∈ names ∨ name ∈ known by
    simpa [Names.ofList] using grown ∅
  induction names with
  | nil => simp
  | cons first rest ih =>
      intro known
      rw [List.foldl_cons, ih, Std.ExtTreeSet.mem_insert, Std.compare_eq_iff_eq, List.mem_cons, eq_comm (a := first)]
      exact or_left_comm.trans or_assoc.symm

theorem names_of_list_reverse (names : List String) : Names.ofList names.reverse = Names.ofList names := by
  apply Std.ExtTreeSet.ext_mem
  intro name
  rw [mem_names_of_list, mem_names_of_list, List.mem_reverse]

theorem parse_sound (s : String) (f : Formula) (names : Names) (accepted : parse s = ⟨.ok f, names⟩) :
    names = f.fields ∧ ∃ cs white, Written Parser.maxDepth (.chain .comparisons f) cs ∧ White white ∧
      s.toList = cs ++ white := by
  rw [parse, parseChars] at accepted
  split at accepted
  next g last ran =>
    cases accepted
    obtain ⟨g, behind, ranFormula, finished⟩ := bind_ok _ _ _ last f ran
    obtain ⟨cs, white, reads, written, isWhite, fields, passed⟩ :=
      (level_sound Parser.maxDepth).chain .comparisons _ g behind ranFormula
    obtain ⟨_, skipped, skip, finished⟩ := bind_ok _ _ behind last f finished
    cases skip
    obtain ⟨_, atEnd, read, finished⟩ := bind_ok _ _ behind.skipWhite last f finished
    cases read
    split at finished
    next ended =>
      cases finished
      have all := Cursor.passed_trans _ behind _ _ _ _ _ passed (Cursor.passed_skip_white behind)
      have start : (Cursor.start s.toList).reads = [] := rfl
      refine ⟨?_, cs, _, written, white_append white _ isWhite (white_take_while behind.rest), ?_⟩
      · rw [all.reads, start, List.append_nil, List.append_nil, names_of_list_reverse, Formula.fields, fields,
          List.nil_append]
      · have whole := all.rest
        rw [ended, List.append_nil, List.append_assoc] at whole
        exact whole
    next c rest _ =>
      obtain ⟨_, atError, _, threw⟩ := bind_ok _ _ _ last f finished
      cases threw
  next => cases accepted

end FormulaField
