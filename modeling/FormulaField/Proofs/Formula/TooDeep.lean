import FormulaField.Proofs.Formula.Canonical
import FormulaField.Proofs.Formula.Failure

set_option autoImplicit false

namespace FormulaField

def tooDeep : ParseError → Prop
  | .tooDeeplyNested _ => True
  | _ => False

theorem descend_too_deep {α : Type} (n : Nat) (q : Parser.Level → Parser α) (before : Cursor)
    (deep : ∀ m, n = m + 1 → Fails tooDeep (q (Parser.level m)) before) :
    Fails tooDeep (Parser.descend (below n) >>= q) before := by
  cases n with
  | zero => exact ⟨.tooDeeplyNested before.position, before, trivial, rfl⟩
  | succ m => exact deep m rfl

theorem right_too_deep (op : BinaryOperator) (left right : Formula) (n : Nat) (tail : List Char) (before : Cursor)
    (written : Written n (.unary left) left.chars)
    (here : before.Before (left.chars ++ ' ' :: op.symbol ++ ' ' :: right.chars ++ tail))
    (deep : ∀ m, n = m + 1 → ∀ middle : Cursor, middle.Before (right.chars ++ tail) →
      Fails tooDeep (Parser.unary (below m)) middle) :
    Fails tooDeep (Parser.level n).comparison before := by
  have deepSpaced : ∀ m, n = m + 1 → ∀ middle : Cursor, middle.Before ([' '] ++ (right.chars ++ tail)) →
      Fails tooDeep (Parser.level m).power middle := by
    intro m same middle behind
    rw [level_power]
    exact power_fails m middle (deep m same middle ((Cursor.before_spaced middle [' '] _ white_space).mp behind))
  rcases operator_kind op with rfl | ⟨kind, member⟩
  · have place : before.Before (left.chars ++ [' '] ++ '^' :: ([' '] ++ (right.chars ++ tail))) := by
      simpa [BinaryOperator.symbol] using here
    obtain ⟨middle, behind, same⟩ :=
      power_goes_on n left left.chars [' '] _ before white_space (written_taken n _ _ written) place
    refine power_comparison_fails n before (fails_same _ _ before middle same (descend_too_deep n _ middle ?_))
    intro m isBelow
    exact bind_fails _ _ middle (deepSpaced m isBelow middle behind)
  · obtain ⟨c, rest, start, notWhite, token, away⟩ := operator_start kind op op.symbol left member
    have place : before.Before (left.chars ++ ([' '] ++ c :: (rest ++ ([' '] ++ (right.chars ++ tail))))) := by
      simpa [start] using here
    have operand := power_operand n kind left _ (.base n left _ written)
    obtain ⟨middle, given, behind⟩ := written_taken n (kind.operand left) left.chars operand _ before
      (follows_character _ [' '] _ c white_space notWhite token away) place
    have atOperator := (Cursor.before_spaced middle [' '] _ white_space).mp behind
    rw [← List.cons_append, ← start] at atOperator
    obtain ⟨after, split, same⟩ := rest_goes_on n kind op op.symbol left _ middle member (by simp) atOperator
    rw [operand_gives] at given
    refine comparison_fails n kind before (rest_fails n kind left before middle given ?_)
    refine fails_same _ _ middle after same (descend_too_deep n _ after ?_)
    intro m isBelow
    exact bind_fails _ _ after (operand_fails m kind after (deepSpaced m isBelow after (Cursor.before_rest after _ split)))

mutual

theorem unary_too_deep (f : Formula) (n : Nat) (writable : f.Has .writable) (deep : n < f.need) (tail : List Char)
    (before : Cursor) (here : before.Before (f.chars ++ tail)) : Fails tooDeep (Parser.unary (below n)) before := by
  cases f with
  | literal v => exact absurd deep (Nat.not_lt_zero n)
  | field name => exact absurd deep (Nat.not_lt_zero n)
  | unary op operand =>
      rw [Formula.need] at deep
      rw [Formula.chars, List.append_assoc] at here
      obtain ⟨middle, split, same⟩ := Parser.unary_signed (below n) op op.symbol _ before (sign_member op) here
      refine fails_same _ _ before middle same (descend_too_deep n _ middle ?_)
      rintro m rfl
      rw [level_unary]
      exact bind_fails _ _ middle
        (unary_too_deep operand m writable (by omega) tail middle (Cursor.before_rest middle _ split))
  | binary op left right =>
      rw [Formula.need] at deep
      have place : before.Before ('(' :: (left.chars ++ ' ' :: op.symbol ++ ' ' :: right.chars ++ ')' :: tail)) := by
        simpa [Formula.chars] using here
      obtain ⟨opened, inside, same⟩ := group_opened n _ before place
      refine fails_same _ _ before opened same (descend_too_deep n _ opened ?_)
      rintro m rfl
      refine bind_fails _ _ opened ?_
      by_cases leftDeep : m < left.need
      · rw [List.append_assoc, List.append_assoc] at inside
        exact power_comparison_fails m opened
          (power_fails m opened (unary_too_deep left m writable.1 leftDeep _ opened inside))
      · refine right_too_deep op left right m _ opened (canonical_written left m writable.1 (by omega)) inside ?_
        rintro k rfl after atRight
        exact unary_too_deep right k writable.2 (by omega) _ after atRight
  | call name args =>
      obtain ⟨⟨_, isName⟩, others⟩ := writable
      cases args with
      | nil => exact absurd deep (Nat.not_lt_zero n)
      | cons f rest =>
          rw [Formula.need] at deep
          have place : before.Before (name.toList ++ '(' :: (Formula.argumentChars (f :: rest) ++ [')'] ++ tail)) := by
            simpa [Formula.chars] using here
          obtain ⟨opened, inside, same⟩ := call_opened n name.toList _ before isName place
          -- With enough levels the arguments would be read, so they start like arguments.
          have items := canonical_items f rest _ others (Nat.le_succ _)
          obtain ⟨room, enough, listed⟩ := arguments_run n _ (f :: rest) _ tail opened items inside
          refine fails_same _ _ before opened same (fails_map _ _ opened ?_)
          refine fails_same _ _ opened opened.skipWhite listed (descend_too_deep n _ opened.skipWhite ?_)
          rintro m rfl
          exact items_too_deep f rest m others deep tail opened.skipWhite (Cursor.before_skip_white opened _ inside)
            room enough
termination_by sizeOf f

theorem items_too_deep (f : Formula) (fs : List Formula) (n : Nat) (writable : Formula.HasAll .writable (f :: fs))
    (deep : n + 1 < Formula.needAll (f :: fs)) (tail : List Char) (before : Cursor)
    (here : before.Before (Formula.argumentChars (f :: fs) ++ [')'] ++ tail)) (room : Nat)
    (enough : (f :: fs).length ≤ room) :
    Fails tooDeep (Parser.argumentList (Parser.level n).comparison room) before := by
  rw [Formula.needAll] at deep
  obtain ⟨more, rfl⟩ := Nat.exists_eq_add_of_lt enough
  by_cases firstDeep : n < f.need
  · obtain ⟨after, place⟩ : ∃ after, before.Before (f.chars ++ after) := by
      cases fs with
      | nil => exact ⟨[')'] ++ tail, by simpa [Formula.argumentChars] using here⟩
      | cons g others => exact ⟨_, by simpa [Formula.argumentChars] using here⟩
    exact bind_fails _ _ before (power_comparison_fails n before
      (power_fails n before (unary_too_deep f n writable.1 firstDeep after before place)))
  · cases fs with
    | nil =>
        rw [Formula.needAll] at deep
        omega
    | cons g others =>
        have place : before.Before
            (f.chars ++ [] ++ ',' :: ([' '] ++ (Formula.argumentChars (g :: others) ++ [')'] ++ tail))) := by
          simpa [Formula.argumentChars] using here
        have item := power_comparisons n f _ (.base n f _ (canonical_written f n writable.1 (by omega)))
        obtain ⟨middle, behind, same⟩ :=
          items_go_on n f f.chars [] _ before (by simp [White]) (written_taken n _ _ item) place
        have atOthers := (Cursor.before_spaced middle [' '] _ white_space).mp behind
        refine fails_same _ _ before middle (same _) (fails_map _ _ middle ?_)
        exact items_too_deep g others n writable.2 (by omega) tail middle atOthers _ (by simp)
termination_by sizeOf (f :: fs)

end

end FormulaField
