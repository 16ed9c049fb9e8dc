import FormulaField.Formula.Parser

set_option autoImplicit false

namespace FormulaField

def White (cs : List Char) : Prop := ∀ c ∈ cs, Text.isWhite c = true

-- From one cursor to another over some characters, with the references met on the way.
structure Cursor.Passed (before : Cursor) (cs : List Char) (names : List String) (after : Cursor) : Prop where
  rest : before.rest = cs ++ after.rest
  position : after.position = before.position + byteLength cs
  reads : after.reads = names.reverse ++ before.reads

theorem byte_length_append (cs ds : List Char) : byteLength (cs ++ ds) = byteLength cs + byteLength ds := by
  induction cs with
  | nil => simp [byteLength]
  | cons c rest ih =>
      rw [List.cons_append, byteLength, byteLength, ih]
      omega

theorem white_append (cs ds : List Char) (first : White cs) (second : White ds) : White (cs ++ ds) := by
  intro c member
  rcases List.mem_append.mp member with inFirst | inSecond
  · exact first c inFirst
  · exact second c inSecond

theorem white_take_while (cs : List Char) : White (cs.takeWhile Text.isWhite) := by
  induction cs with
  | nil => simp [White]
  | cons c rest ih =>
      by_cases white : Text.isWhite c = true
      · rw [List.takeWhile_cons_of_pos white]
        intro d member
        rcases List.mem_cons.mp member with same | later
        · exact same ▸ white
        · exact ih d later
      · rw [List.takeWhile_cons_of_neg white]
        simp [White]

namespace Cursor

theorem passed_nothing (c : Cursor) : c.Passed [] [] c := by
  constructor <;> simp [byteLength]

theorem passed_trans (before middle after : Cursor) (cs ds : List Char) (names more : List String)
    (first : before.Passed cs names middle) (second : middle.Passed ds more after) :
    before.Passed (cs ++ ds) (names ++ more) after := by
  refine ⟨?_, ?_, ?_⟩
  · rw [first.rest, second.rest, List.append_assoc]
  · rw [second.position, first.position, byte_length_append]
    omega
  · rw [second.reads, first.reads, List.reverse_append, List.append_assoc]

theorem passed_advance (c : Cursor) (cs ds : List Char) (split : c.rest = cs ++ ds) :
    c.Passed cs [] (c.advance cs.length) := by
  constructor <;> simp [advance, split]

theorem passed_skip_white (c : Cursor) : c.Passed (c.rest.takeWhile Text.isWhite) [] c.skipWhite :=
  passed_advance c _ (c.rest.dropWhile Text.isWhite) List.takeWhile_append_dropWhile.symm

theorem skip_white_rest (c : Cursor) : c.skipWhite.rest = c.rest.dropWhile Text.isWhite := by
  have split := (passed_skip_white c).rest
  exact (List.append_cancel_left (List.takeWhile_append_dropWhile.trans split)).symm

theorem passed_unique (before after other : Cursor) (cs : List Char) (names : List String)
    (first : before.Passed cs names after) (second : before.Passed cs names other) : after = other := by
  cases after with
  | mk rest position reads =>
      cases other with
      | mk rest' position' reads' =>
          have sameRest : rest = rest' := List.append_cancel_left (first.rest.symm.trans second.rest)
          have samePosition : position = position' := first.position.trans second.position.symm
          have sameReads : reads = reads' := first.reads.trans second.reads.symm
          rw [sameRest, samePosition, sameReads]

theorem skip_white_twice (c : Cursor) : c.skipWhite.skipWhite = c.skipWhite := by
  have nothing : c.skipWhite.rest.takeWhile Text.isWhite = [] := by
    rw [skip_white_rest]
    cases stop : c.rest.dropWhile Text.isWhite with
    | nil => rfl
    | cons d rest =>
        have notWhite := List.head?_dropWhile_not Text.isWhite c.rest
        rw [stop] at notWhite
        exact List.takeWhile_cons_of_neg (by simpa using notWhite)
  have passed := passed_skip_white c.skipWhite
  rw [nothing] at passed
  exact passed_unique c.skipWhite _ _ [] [] passed (passed_nothing c.skipWhite)

end Cursor

namespace Parser

variable {α β : Type}

theorem bind_run (p : Parser α) (q : α → Parser β) (before after : Cursor) (a : α)
    (ran : p.run before = .ok a after) : (p >>= q).run before = (q a).run after := by
  rw [EStateM.run_bind, ran]

theorem bind_error (p : Parser α) (q : α → Parser β) (before after : Cursor) (e : ParseError)
    (failed : p.run before = .error e after) : (p >>= q).run before = .error e after := by
  rw [EStateM.run_bind, failed]

theorem map_run (f : α → β) (p : Parser α) (before after : Cursor) (a : α)
    (ran : p.run before = .ok a after) : (f <$> p).run before = .ok (f a) after := by
  rw [map_eq_pure_bind, bind_run p _ before after a ran]
  rfl

theorem bind_ok (p : Parser α) (q : α → Parser β) (before after : Cursor) (b : β)
    (ran : (p >>= q).run before = .ok b after) :
    ∃ a middle, p.run before = .ok a middle ∧ (q a).run middle = .ok b after := by
  rw [EStateM.run_bind] at ran
  cases first : p.run before with
  | error e middle => simp [first] at ran
  | ok a middle => exact ⟨a, middle, rfl, by simpa only [first] using ran⟩

theorem bind_rest (q : List Char → Parser β) (c : Cursor) : (rest >>= q).run c = (q c.rest).run c := rfl

theorem bind_position (q : Nat → Parser β) (c : Cursor) : (position >>= q).run c = (q c.position).run c := rfl

theorem bind_advance (n : Nat) (q : Unit → Parser β) (c : Cursor) :
    (advance n >>= q).run c = (q ()).run (c.advance n) := rfl

theorem bind_skip_white (q : Unit → Parser β) (c : Cursor) :
    (skipWhite >>= q).run c = (q ()).run c.skipWhite := rfl

theorem run_eat (symbol : List Char) (c : Cursor) :
    (eat symbol).run c =
      if symbol.isPrefixOf c.skipWhite.rest then .ok true (c.skipWhite.advance symbol.length)
      else .ok false c.skipWhite := by
  rw [eat, bind_skip_white, bind_rest]
  split <;> rfl

theorem eat_passed (symbol : List Char) (before after : Cursor) (taken : Bool)
    (ran : (eat symbol).run before = .ok taken after) :
    ∃ white, White white ∧ before.Passed (white ++ if taken then symbol else []) [] after := by
  refine ⟨_, white_take_while before.rest, ?_⟩
  have skipped := Cursor.passed_skip_white before
  rw [run_eat] at ran
  by_cases here : symbol.isPrefixOf before.skipWhite.rest = true
  · rw [if_pos here] at ran
    cases ran
    obtain ⟨tail, split⟩ := List.isPrefixOf_iff_prefix.mp here
    exact Cursor.passed_trans before before.skipWhite _ _ symbol [] [] skipped
      (Cursor.passed_advance before.skipWhite symbol tail split.symm)
  · rw [if_neg here] at ran
    cases ran
    simpa using skipped

theorem eat_first_passed (symbols : List (List Char × α)) (before after : Cursor) (result : Option α)
    (ran : (eatFirst symbols).run before = .ok result after) :
    ∃ white, White white ∧
      match result with
      | some a => ∃ symbol, (symbol, a) ∈ symbols ∧ before.Passed (white ++ symbol) [] after
      | none => before.Passed white [] after := by
  induction symbols generalizing before with
  | nil =>
      cases ran
      exact ⟨[], by simp [White], Cursor.passed_nothing _⟩
  | cons entry others ih =>
      obtain ⟨symbol, a⟩ := entry
      obtain ⟨taken, middle, ate, finished⟩ := bind_ok (eat symbol) _ before after result ran
      obtain ⟨white, isWhite, passed⟩ := eat_passed symbol before middle taken ate
      cases taken with
      | true =>
          cases finished
          exact ⟨white, isWhite, symbol, by simp, by simpa using passed⟩
      | false =>
          rw [if_neg Bool.false_ne_true, List.append_nil] at passed
          obtain ⟨more, moreWhite, reached⟩ := ih middle finished
          refine ⟨white ++ more, white_append white more isWhite moreWhite, ?_⟩
          cases result with
          | none => exact Cursor.passed_trans before middle after white more [] [] passed reached
          | some b =>
              obtain ⟨found, member, further⟩ := reached
              refine ⟨found, List.mem_cons_of_mem _ member, ?_⟩
              have both := Cursor.passed_trans before middle after white _ [] [] passed further
              simpa using both

theorem descend_ok (inner : Option Level) (before after : Cursor) (level : Level)
    (ran : (descend inner).run before = .ok level after) : inner = some level ∧ after = before := by
  cases inner with
  | none => cases ran
  | some found =>
      cases ran
      exact ⟨rfl, rfl⟩

theorem closing_paren_passed (before after : Cursor) (ran : closingParen.run before = .ok () after) :
    ∃ white, White white ∧ before.Passed (white ++ [')']) [] after := by
  obtain ⟨taken, middle, ate, finished⟩ := bind_ok (eat [')']) _ before after () ran
  cases taken with
  | false => cases finished
  | true =>
      cases finished
      simpa using eat_passed [')'] before after true ate

end Parser

end FormulaField
