import FormulaField.Proofs.Function.Occurrences
import FormulaField.Proofs.Pattern.RowSearch

set_option autoImplicit false

namespace FormulaField.Texts

open Calendar (Instant)

-- The text with its first occurrence replaced, and so on behind that occurrence. All else is kept.
inductive Replaced (sought replacement : List Char) : List Char → List Char → Prop
  | kept (cs : List Char) (nowhere : ∀ i, ¬HasAt cs sought i) : Replaced sought replacement cs cs
  | next (cs before after out : List Char) (split : cs = before ++ sought ++ after)
      (first : IsLeast {i | HasAt cs sought i} before.length) (behind : Replaced sought replacement after out) :
      Replaced sought replacement cs (before ++ replacement ++ out)

section

variable (sought replacement : List Char)

theorem replaced_unique (cs out other : List Char) (one : Replaced sought replacement cs out)
    (two : Replaced sought replacement cs other) : out = other := by
  induction one generalizing other with
  | kept cs nowhere =>
      cases two with
      | kept => rfl
      | next _ before after out split first behind => exact absurd first.1 (nowhere _)
  | next cs before after out split first behind ih =>
      cases two with
      | kept _ nowhere => exact absurd first.1 (nowhere _)
      | next _ before' after' out' split' first' behind' =>
          have same : before ++ (sought ++ after) = before' ++ (sought ++ after') := by
            rw [← List.append_assoc, ← split, split', List.append_assoc]
          obtain ⟨rfl, rest⟩ := List.append_inj same (first.unique first')
          obtain rfl := List.append_cancel_left rest
          rw [ih out' behind']

theorem replaced_at (cs out : List Char) (i : Nat) (first : IsLeast {i | HasAt cs sought i} i)
    (behind : Replaced sought replacement (cs.drop (i + sought.length)) out) :
    Replaced sought replacement cs (cs.take i ++ replacement ++ out) := by
  obtain ⟨inside, after, split⟩ := first.1
  have length : (cs.take i).length = i := List.length_take_of_le inside
  have rest : cs.drop (i + sought.length) = after := by
    rw [← List.drop_drop, ← split, List.drop_left]
  have whole : cs = cs.take i ++ sought ++ after := by
    rw [List.append_assoc, split, List.take_append_drop]
  exact .next cs (cs.take i) after out whole (length.symm ▸ first) (rest ▸ behind)

theorem replaced_later (c : Char) (cs out : List Char) (stops : ¬sought <+: c :: cs)
    (behind : Replaced sought replacement cs out) : Replaced sought replacement (c :: cs) (c :: out) := by
  have notFirst : ¬HasAt (c :: cs) sought 0 := fun has => stops ((has_at_first _ sought).mp has)
  cases behind with
  | kept _ nowhere =>
      refine .kept _ fun i has => ?_
      cases i with
      | zero => exact notFirst has
      | succ i => exact nowhere i ((has_at_later c cs sought i).mp has)
  | next _ before after out split first behind =>
      refine .next (c :: cs) (c :: before) after out (congrArg (c :: ·) split) ?_ behind
      refine ⟨(has_at_later c cs sought before.length).mpr first.1, fun i has => ?_⟩
      cases i with
      | zero => exact absurd has notFirst
      | succ i => exact Nat.succ_le_succ (first.2 ((has_at_later c cs sought i).mp has))

variable (given : sought ≠ [])

include given

theorem nothing_replaced : Replaced sought replacement [] [] := by
  refine .kept [] fun i has => ?_
  obtain rfl : i = 0 := Nat.le_zero.mp has.1
  exact given ((has_at_end [] sought).mp has)

theorem literal_replaced (fuel : Nat) (cs : List Char) (enough : cs.length ≤ fuel) :
    Replaced sought replacement cs (replaceLiteral sought replacement fuel cs) := by
  have longer := List.length_pos_iff.mpr given
  induction fuel generalizing cs with
  | zero =>
      obtain rfl := List.length_eq_zero_iff.mp (Nat.le_zero.mp enough)
      exact nothing_replaced sought replacement given
  | succ fuel ih =>
      cases cs with
      | nil => exact nothing_replaced sought replacement given
      | cons c cs =>
          rw [replaceLiteral]
          by_cases here : sought <+: c :: cs
          · rw [if_pos (List.isPrefixOf_iff_prefix.mpr here)]
            have first : IsLeast {i | HasAt (c :: cs) sought i} 0 :=
              ⟨(has_at_first _ sought).mpr here, fun i _ => Nat.zero_le i⟩
            have short : ((c :: cs).drop sought.length).length ≤ fuel := by
              rw [List.length_drop, List.length_cons]
              rw [List.length_cons] at enough
              omega
            refine replaced_at sought replacement (c :: cs) _ 0 first ?_
            rw [Nat.zero_add]
            exact ih _ short
          · rw [if_neg fun isPrefix => here (List.isPrefixOf_iff_prefix.mp isPrefix)]
            exact replaced_later sought replacement c cs _ here (ih cs (Nat.le_of_succ_le_succ enough))

open Pattern in
theorem matches_replaced (program : Program) (spells : Spells program 0 sought) (short : sought.length < program.size)
    (fuel : Nat) (p : Place) (afterMatch : Bool) (enough : p.after.length ≤ fuel) :
    Replaced sought replacement p.after (replaceFrom program replacement fuel p afterMatch) := by
  have longer := List.length_pos_iff.mpr given
  -- Every match takes at least one character off what is left of the text.
  induction fuel generalizing p afterMatch with
  | zero =>
      rw [replaceFrom, List.length_eq_zero_iff.mp (Nat.le_zero.mp enough)]
      exact nothing_replaced sought replacement given
  | succ fuel ih =>
      have first := first_occurrence p.after sought
      have found := row_found_next program sought given spells short p afterMatch
      rw [FoundFirst] at found
      rw [replaceFrom]
      cases occurs : firstOccurrence? sought p.after with
      | none =>
          rw [occurs] at first found
          rw [found]
          exact .kept p.after fun i => first i (Nat.zero_le i)
      | some i =>
          rw [occurs] at first found
          obtain ⟨start, last, found, index, _, after⟩ := found
          have least : IsLeast {i | HasAt p.after sought i} i :=
            ⟨first.1.2, fun j has => first.2 ⟨Nat.zero_le j, has⟩⟩
          have kept : start.index - p.index = i := by rw [index, Nat.add_sub_cancel_left]
          have rest : last.after.length ≤ fuel := by
            rw [after, List.length_drop]
            omega
          have behind := ih last true rest
          rw [after] at behind
          rw [found]
          simp only [kept]
          exact replaced_at sought replacement p.after _ i least behind

-- A pattern that is too large to be compiled is taken literally, which makes no difference.
theorem plain_replaced (cs : List Char) (plain : Pattern.Plain sought) :
    Replaced sought replacement cs (replace cs sought replacement) := by
  rw [replace, if_neg given, Pattern.plain_expression sought plain]
  by_cases compiled : (Pattern.characterRow sought).shape.fits = true
  · obtain ⟨spells, short⟩ := Pattern.row_spells sought given
    rw [if_pos compiled]
    exact matches_replaced sought replacement given _ spells short _ (.start cs) false (Nat.le_add_right _ 2)
  · rw [if_neg compiled]
    exact literal_replaced sought replacement given cs.length cs (Nat.le_refl _)

end

theorem plain_pattern_taken_literally (now : Instant) (v pattern replacement : Value) (given : characters pattern ≠ [])
    (plain : Pattern.Plain (characters pattern)) :
    ∃ function out, Function.named? "REPLACE" = some function ∧
      function.apply now [v, pattern, replacement] = text out ∧
      out = replaceLiteral (characters pattern) (characters replacement) (characters v).length (characters v) ∧
      ∀ other, Replaced (characters pattern) (characters replacement) (characters v) other ↔ other = out := by
  have replaced := plain_replaced _ (characters replacement) given (characters v) plain
  have literal := literal_replaced _ (characters replacement) given _ (characters v) (Nat.le_refl _)
  refine ⟨_, _, rfl, rfl, replaced_unique _ _ _ _ _ replaced literal, fun other => ⟨fun also => ?_, ?_⟩⟩
  · exact replaced_unique _ _ _ _ _ also replaced
  · rintro rfl
    exact replaced

theorem dollars_put_in :
    characters (.text "éé") ≠ [] ∧ Pattern.Plain (characters (.text "éé")) ∧
      ∃ function, Function.named? "REPLACE" = some function ∧
        function.apply ⟨0, 0⟩ [.text "ééé→éé", .text "éé", .text "$1"] = .ok (.text "$1é→$1") := by
  have given : characters (.text "éé") ≠ [] := by decide
  have plain : Pattern.Plain (characters (.text "éé")) := by decide
  obtain ⟨function, out, named, applied, literal, _⟩ :=
    plain_pattern_taken_literally ⟨0, 0⟩ (.text "ééé→éé") (.text "éé") (.text "$1") given plain
  have result : out = "$1é→$1".toList := literal.trans (by decide)
  rw [result] at applied
  exact ⟨given, plain, function, named, applied⟩

end FormulaField.Texts
