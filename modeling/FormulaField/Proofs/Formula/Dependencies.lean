import FormulaField.Proofs.Formula.Errors

set_option autoImplicit false

namespace FormulaField

open FormulaField.Parser (bind_ok)

def Cursor.Scanned (before after : Cursor) : Prop :=
  ∃ cs names, Reads cs names ∧ before.Passed cs names after

namespace Cursor

theorem scanned_bare (before after : Cursor) (cs : List Char) (isBare : Bare cs) (passed : before.Passed cs [] after) :
    before.Scanned after :=
  ⟨cs, [], reads_bare cs isBare, passed⟩

theorem scanned_trans (before middle after : Cursor) (first : before.Scanned middle) (second : middle.Scanned after) :
    before.Scanned after := by
  obtain ⟨cs, names, reads, passed⟩ := first
  obtain ⟨ds, more, readsMore, passedMore⟩ := second
  exact ⟨cs ++ ds, names ++ more, reads_append cs ds names more reads readsMore,
    passed_trans before middle after cs ds names more passed passedMore⟩

theorem scanned_skip_white (c : Cursor) : c.Scanned c.skipWhite :=
  scanned_bare c _ _ (white_bare _ (white_take_while c.rest)) (passed_skip_white c)

end Cursor

theorem comparison_scanned (n : Nat) (before after : Cursor) (f : Formula)
    (ran : (Parser.level n).comparison.run before = .ok f after) : before.Scanned after := by
  obtain ⟨cs, white, written, isWhite, passed⟩ :=
    sound_passed n _ _ ((level_sound n).chain .comparisons) before after f ran
  exact ⟨_, _, reads_before cs white _ (written_reads n _ cs written) (white_bare white isWhite), passed⟩

def textBefore : Nat → List Char → List Char
  | _, [] => []
  | position, c :: cs => if position = 0 then [] else c :: textBefore (position - c.utf8Size) cs

def Parsed.read (p : Parsed) (cs : List Char) : List Char :=
  match p.result with
  | .ok _ => cs
  | .error e => match e.position? with
      | some position => textBefore position cs
      | none => cs

theorem text_before (cs ds : List Char) : textBefore (byteLength cs) (cs ++ ds) = cs := by
  induction cs with
  | nil => cases ds <;> simp [textBefore, byteLength]
  | cons c rest ih =>
      have size := c.utf8Size_pos
      rw [List.cons_append, byteLength, textBefore, if_neg (by omega), Nat.add_sub_cancel_left, ih]

theorem scanned_references (text : List Char) (place : Cursor) (scanned : (Cursor.start text).Scanned place) :
    ∃ cs, text = cs ++ place.rest ∧ byteLength cs = place.position ∧ Reads cs (references .outside cs) ∧
      place.reads = (references .outside cs).reverse := by
  obtain ⟨cs, names, reads, passed⟩ := scanned
  have met := reads []
  rw [List.append_nil, references.eq_1, List.append_nil] at met
  refine ⟨cs, passed.rest, ?_, ?_, ?_⟩
  · rw [passed.position]
    exact (Nat.zero_add _).symm
  · rw [met]
    exact reads
  · rw [passed.reads, met]
    exact List.append_nil _

theorem accepted_scanned (s : String) (f : Formula) (after : Cursor)
    (ran : Parser.formula.run (Cursor.start s.toList) = .ok f after) :
    (Cursor.start s.toList).Scanned after ∧ after.rest = [] := by
  obtain ⟨g, middle, ranFormula, finished⟩ := bind_ok _ _ _ after f ran
  have scanned := comparison_scanned Parser.maxDepth _ middle g ranFormula
  have white := Cursor.scanned_skip_white middle
  rw [Parser.bind_skip_white, Parser.bind_rest] at finished
  cases here : middle.skipWhite.rest with
  | nil =>
      rw [here] at finished
      cases finished
      exact ⟨Cursor.scanned_trans _ _ _ scanned white, here⟩
  | cons c rest =>
      rw [here] at finished
      cases finished

theorem marked_text (e : ParseError) (place : Cursor) (text cs : List Char) (names : Names) (marks : e.Marks place)
    (split : text = cs ++ place.rest) (length : byteLength cs = place.position) :
    (Parsed.mk (.error e) names).read text = cs := by
  rw [ParseError.Marks] at marks
  cases named : e.position? with
  | some position =>
      simp only [named] at marks
      simp only [Parsed.read, named]
      rw [marks, ← length, split, text_before]
  | none =>
      simp only [named] at marks
      simp only [Parsed.read, named]
      rw [split, marks, List.append_nil]

theorem parse_met (s : String) :
    Reads ((parse s).read s.toList) (references .outside ((parse s).read s.toList)) ∧
      (parse s).dependencies = Names.ofList (references .outside ((parse s).read s.toList)) := by
  cases ran : Parser.formula.run (Cursor.start s.toList) with
  | ok f after =>
      obtain ⟨scanned, ended⟩ := accepted_scanned s f after ran
      obtain ⟨cs, split, _, reads, met⟩ := scanned_references s.toList after scanned
      have parsed : parse s = ⟨.ok f, Names.ofList after.reads⟩ := by rw [parse, parseChars, ran]
      have isRead : (Parsed.mk (.ok f) (Names.ofList after.reads)).read s.toList = cs := by
        rw [ended, List.append_nil] at split
        exact split
      rw [parsed, isRead, met, names_of_list_reverse]
      exact ⟨reads, rfl⟩
  | error e after =>
      obtain ⟨text, names, place, passed, stopped, whole, _⟩ := formula_located _ after e ran
      obtain ⟨cs, split, position, reads, met⟩ := scanned_references s.toList place ⟨text, names, whole, passed⟩
      have parsed : parse s = ⟨.error e, Names.ofList after.reads⟩ := by rw [parse, parseChars, ran]
      have isRead : (Parsed.mk (.error e) (Names.ofList after.reads)).read s.toList = cs :=
        marked_text e place s.toList cs _ stopped.marks split position
      rw [parsed, isRead, stopped.reads, met, names_of_list_reverse]
      exact ⟨reads, rfl⟩

-- The dependencies are the references that are closed in the part of the text that was read, and no string
-- or reference is open where that part ends, whatever comes after it. Those of an accepted text are the
-- fields of its tree.
theorem dependencies_are_references (s : String) :
    (parse s).dependencies = Names.ofList (references .outside ((parse s).read s.toList)) ∧
      (∀ rest, references .outside ((parse s).read s.toList ++ rest) =
        references .outside ((parse s).read s.toList) ++ references .outside rest) ∧
      ∀ f, (parse s).result = .ok f → (parse s).dependencies = f.fields := by
  obtain ⟨reads, met⟩ := parse_met s
  refine ⟨met, reads, ?_⟩
  intro f accepted
  cases parsed : parse s with
  | mk result names =>
      rw [parsed] at accepted
      subst accepted
      exact (parse_sound s f names parsed).1

-- The first braces are content of a string.
theorem field_beside_braces :
    (parse "'\x7ba\x7d' & \x7bb\x7d").result =
        .ok (.binary .concat (.literal (.text "\x7ba\x7d")) (.field "b")) ∧
      (parse "'\x7ba\x7d' & \x7bb\x7d").dependencies = Names.ofList ["b"] := by
  have accepted : (parse "'\x7ba\x7d' & \x7bb\x7d").result =
      .ok (.binary .concat (.literal (.text "\x7ba\x7d")) (.field "b")) := rfl
  exact ⟨accepted, (dependencies_are_references _).2.2 _ accepted⟩

example : references .outside "'\\'\x7ba\x7d' & \x7b it's \x7d + (\x7bb".toList = ["it's"] := by decide

end FormulaField
