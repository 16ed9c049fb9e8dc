import FormulaField.Proofs.Formula.Grammar

set_option autoImplicit false

namespace FormulaField

open Number (Numeral)

def Stops (test : Char → Bool) (cs : List Char) : Prop := ∀ c ∈ cs.head?, test c = false

theorem take_while_all (test : Char → Bool) (cs tail : List Char) (all : ∀ c ∈ cs, test c = true)
    (stops : Stops test tail) : (cs ++ tail).takeWhile test = cs := by
  rw [List.takeWhile_append_of_pos all]
  cases tail with
  | nil => simp
  | cons c rest =>
      have away : ¬ test c = true := by simp [stops c rfl]
      rw [List.takeWhile_cons_of_neg away, List.append_nil]

theorem all_of_take_while (test : Char → Bool) (cs : List Char) :
    ∀ c ∈ cs.takeWhile test, test c = true := by
  intro c member
  exact List.all_eq_true.mp (List.all_takeWhile (l := cs) (p := test)) c member

theorem stops_drop_while (test : Char → Bool) (cs : List Char) : Stops test (cs.dropWhile test) := by
  intro c member
  have fails := List.head?_dropWhile_not test cs
  rw [member] at fails
  simpa using fails

theorem numeral_read (cs : List Char) (n : Numeral) (length : Nat)
    (digit : ∃ c rest, cs = c :: rest ∧ Number.isDigit c = true) (read : Parser.numeral cs = (n, length)) :
    ∃ tail, cs = numeralChars n ++ tail ∧ IsNumeral n ∧ length = (numeralChars n).length := by
  have nonempty : cs.takeWhile Number.isDigit ≠ [] := by
    obtain ⟨c, rest, rfl, isDigit⟩ := digit
    rw [List.takeWhile_cons_of_pos isDigit]
    simp
  have digits := all_of_take_while Number.isDigit cs
  have whole : cs = cs.takeWhile Number.isDigit ++ cs.drop (cs.takeWhile Number.isDigit).length :=
    (List.prefix_iff_eq_append.mp (List.takeWhile_prefix Number.isDigit)).symm
  simp only [Parser.numeral] at read
  split at read
  next rest after =>
    rw [after] at whole
    cases fraction : rest.takeWhile Number.isDigit with
    | nil =>
        rw [if_pos (by simp [fraction])] at read
        cases read
        exact ⟨'.' :: rest, by simpa [numeralChars] using whole, ⟨nonempty, digits, by simp, rfl⟩,
          by simp [numeralChars]⟩
    | cons d ds =>
        rw [if_neg (by simp [fraction])] at read
        cases read
        have fractionDigits := all_of_take_while Number.isDigit rest
        have inside := List.takeWhile_append_dropWhile (p := Number.isDigit) (l := rest)
        rw [fraction] at inside fractionDigits ⊢
        refine ⟨rest.dropWhile Number.isDigit, ?_, ⟨nonempty, digits, fractionDigits, rfl⟩, ?_⟩
        · simpa [numeralChars, inside] using whole
        · simp [numeralChars, Nat.add_assoc, Nat.add_comm 1]
  next =>
    cases read
    exact ⟨_, by simpa [numeralChars] using whole, ⟨nonempty, digits, by simp, rfl⟩, by simp [numeralChars]⟩

def continuesNumeral (c : Char) : Bool := Number.isDigit c || c == '.'

theorem numeral_complete (n : Numeral) (tail : List Char) (proper : IsNumeral n)
    (stops : Stops continuesNumeral tail) :
    Parser.numeral (numeralChars n ++ tail) = (n, (numeralChars n).length) := by
  obtain ⟨whole, fraction, exponent⟩ := n
  obtain ⟨_, wholeDigits, fractionDigits, plain⟩ := proper
  simp only at wholeDigits fractionDigits plain
  subst plain
  have noDigit : Stops Number.isDigit tail := by
    intro c member
    have both := stops c member
    simp only [continuesNumeral, Bool.or_eq_false_iff] at both
    exact both.1
  cases fraction with
  | nil =>
      have chars : numeralChars ⟨whole, [], 0⟩ = whole := by simp [numeralChars]
      rw [chars, Parser.numeral, take_while_all Number.isDigit whole tail wholeDigits noDigit]
      simp only [List.drop_left]
      cases tail with
      | nil => rfl
      | cons c rest =>
          have noPoint : c ≠ '.' := by
            have both := stops c rfl
            simp only [continuesNumeral, Bool.or_eq_false_iff, beq_eq_false_iff_ne] at both
            exact both.2
          split
          next same => exact absurd (List.cons.inj same).1 noPoint
          next => rfl
  | cons d ds =>
      have chars : numeralChars ⟨whole, d :: ds, 0⟩ = whole ++ '.' :: d :: ds := rfl
      have point : Stops Number.isDigit ('.' :: (d :: ds ++ tail)) := by
        intro c member
        cases member
        rfl
      rw [chars, List.append_assoc, List.cons_append, Parser.numeral,
        take_while_all Number.isDigit whole _ wholeDigits point]
      simp only [List.drop_left]
      rw [take_while_all Number.isDigit (d :: ds) tail fractionDigits noDigit]
      simp [Nat.add_comm, Nat.add_left_comm]

theorem quoted_plain (quote c : Char) (cs : List Char) (notHiding : c ≠ '\\') :
    Parser.quoted? quote (c :: cs) =
      if c = quote then some ([], 1) else (Parser.quoted? quote cs).map fun r => (c :: r.1, r.2 + 1) :=
  Parser.quoted?.eq_4 quote c cs (fun same _ => notHiding same) (fun _ _ same _ => notHiding same)

theorem quoted_read (quote : Char) (cs content : List Char) (length : Nat)
    (read : Parser.quoted? quote cs = some (content, length)) :
    ∃ body tail, cs = body ++ tail ∧ length = body.length ∧ Quoted quote content body := by
  induction cs using Parser.quoted?.induct quote generalizing content length with
  | case1 => simp [Parser.quoted?] at read
  | case2 => simp [Parser.quoted?] at read
  | case3 c cs ih =>
      simp only [Parser.quoted?, Option.map_eq_some_iff, Prod.mk.injEq] at read
      obtain ⟨⟨inner, innerLength⟩, readInner, rfl, rfl⟩ := read
      obtain ⟨body, tail, rfl, rfl, quoted⟩ := ih inner innerLength readInner
      exact ⟨'\\' :: c :: body, tail, rfl, rfl, .hidden c inner body quoted⟩
  | case4 cs notLast notHidden =>
      rw [Parser.quoted?.eq_4 quote quote cs notLast notHidden, if_pos rfl] at read
      cases read
      exact ⟨[quote], cs, rfl, rfl, .close⟩
  | case5 c cs notLast notHidden different ih =>
      rw [Parser.quoted?.eq_4 quote c cs notLast notHidden, if_neg different] at read
      simp only [Option.map_eq_some_iff, Prod.mk.injEq] at read
      obtain ⟨⟨inner, innerLength⟩, readInner, rfl, rfl⟩ := read
      obtain ⟨body, tail, rfl, rfl, quoted⟩ := ih inner innerLength readInner
      have notHiding : c ≠ '\\' := by
        intro same
        cases rest : body ++ tail with
        | nil => exact notLast same rest
        | cons d ds => exact notHidden d ds same rest
      exact ⟨c :: body, tail, rfl, rfl, .plain c inner body different notHiding quoted⟩

theorem quoted_complete (quote : Char) (content body tail : List Char) (notHiding : quote ≠ '\\')
    (quoted : Quoted quote content body) :
    Parser.quoted? quote (body ++ tail) = some (content, body.length) := by
  induction quoted with
  | close => rw [List.singleton_append, quoted_plain quote quote tail notHiding, if_pos rfl, List.length_singleton]
  | hidden c content cs rest ih =>
      rw [List.cons_append, List.cons_append, Parser.quoted?, ih]
      simp
  | plain c content cs notQuote plainCharacter rest ih =>
      rw [List.cons_append, quoted_plain quote c _ plainCharacter, if_neg notQuote, ih]
      simp

theorem quoted_unread (quote : Char) (cs : List Char) (notHiding : quote ≠ '\\') :
    Parser.quoted? quote cs = none ↔ ∀ content body tail, Quoted quote content body → cs ≠ body ++ tail := by
  constructor
  · rintro unread content body tail quoted rfl
    rw [quoted_complete quote content body tail notHiding quoted] at unread
    cases unread
  · intro unclosed
    cases read : Parser.quoted? quote cs with
    | none => rfl
    | some result =>
        obtain ⟨body, tail, split, _, quoted⟩ := quoted_read quote cs result.1 result.2 read
        exact absurd split (unclosed result.1 body tail quoted)

theorem brace_inside (content rest : List Char) (unclosed : '}' ∉ content) (stops : Stops (· != '}') rest) :
    (content ++ rest).takeWhile (· != '}') = content := by
  refine take_while_all _ content rest ?_ stops
  intro c member
  have different : c ≠ '}' := fun same => unclosed (same ▸ member)
  simpa using different

theorem name_complete (name tail : List Char) (isName : IsName name)
    (stops : Stops Parser.isNameCharacter tail) :
    (name ++ tail).takeWhile Parser.isNameCharacter = name :=
  take_while_all Parser.isNameCharacter name tail isName.inside stops

theorem name_read (c : Char) (rest : List Char) (starts : startsName c = true) :
    IsName ((c :: rest).takeWhile Parser.isNameCharacter) := by
  have inside : Parser.isNameCharacter c = true := by
    simp only [startsName, Bool.or_eq_true] at starts
    simp only [Parser.isNameCharacter, Text.isAlphanumeric, Bool.or_eq_true]
    exact starts.imp .inl id
  refine ⟨⟨c, rest.takeWhile Parser.isNameCharacter, List.takeWhile_cons_of_pos inside, starts⟩, ?_⟩
  exact all_of_take_while Parser.isNameCharacter (c :: rest)

theorem name_split (c : Char) (rest : List Char) (starts : startsName c = true) :
    ∃ name tail, c :: rest = name ++ tail ∧ IsName name ∧ Stops Parser.isNameCharacter tail :=
  ⟨_, _, List.takeWhile_append_dropWhile.symm, name_read c rest starts, stops_drop_while Parser.isNameCharacter _⟩

end FormulaField
