import FormulaField.Proofs.Formula.Grammar
import FormulaField.Proofs.Text.Characters

set_option autoImplicit false

namespace FormulaField.Text

def capitalCodes : List Nat := (List.range 26).map (65 + ·)

theorem lower_of_other (c : Char) (other : c.toNat ∉ capitalCodes) : toAsciiLower c = c := by
  rw [toAsciiLower, if_neg]
  intro capital
  simp only [Bool.and_eq_true, decide_eq_true_eq, Char.le_def, UInt32.le_iff_toNat_le] at capital
  have low : 65 ≤ c.toNat := capital.1
  have high : c.toNat ≤ 90 := capital.2
  exact other (List.mem_map.mpr ⟨c.toNat - 65, List.mem_range.mpr (by omega), by omega⟩)

-- What is seen of a character whatever its letter case is.
def Caseless {α : Type} (view : Char → α) : Prop :=
  ∀ c d, toAsciiLower c = toAsciiLower d → view c = view d

theorem caseless_of {α : Type} [DecidableEq α] (view : Char → α)
    (capitals : capitalCodes.all (fun code => view (toAsciiLower (Char.ofNat code)) = view (Char.ofNat code)) = true) :
    Caseless view := by
  have lowered : ∀ c, view (toAsciiLower c) = view c := by
    intro c
    by_cases capital : c.toNat ∈ capitalCodes
    · simpa using of_all_codes capitalCodes (fun c => view (toAsciiLower c) = view c) capitals c capital
    · rw [lower_of_other c capital]
  intro c d same
  rw [← lowered c, ← lowered d, same]

theorem caseless_digit : Caseless Number.isDigit := caseless_of _ (by decide)

theorem caseless_white : Caseless isWhite := caseless_of _ (by decide)

theorem caseless_name_character : Caseless Parser.isNameCharacter := caseless_of _ (by decide)

theorem caseless_name_start : Caseless startsName := caseless_of _ (by decide)

theorem caseless_upper : Caseless upperCharacter := caseless_of _ (by decide)

theorem caseless_size : Caseless Char.utf8Size := caseless_of _ (by decide)

theorem mark_kept (c d : Char) (same : toAsciiLower c = toAsciiLower d) (mark : isAsciiLetter c = false) : d = c := by
  have caseless : Caseless fun c => if isAsciiLetter c then none else some c := caseless_of _ (by decide)
  have seen := caseless c d same
  by_cases letter : isAsciiLetter d = true
  · simp [mark, letter] at seen
  · simpa [mark, letter] using seen.symm

theorem mark_apart (mark c d : Char) (isMark : isAsciiLetter mark = false) (same : toAsciiLower c = toAsciiLower d)
    (different : c ≠ mark) : d ≠ mark := by
  rintro rfl
  exact different (mark_kept d c same.symm isMark)

theorem mark_member (mark : Char) (cs ds : List Char) (isMark : isAsciiLetter mark = false)
    (same : asciiLower cs = asciiLower ds) (member : mark ∈ ds) : mark ∈ cs := by
  have image : toAsciiLower mark ∈ asciiLower cs := same ▸ List.mem_map_of_mem member
  obtain ⟨c, inside, lowered⟩ := List.mem_map.mp image
  exact mark_kept mark c lowered.symm isMark ▸ inside

theorem marks_kept (cs ds : List Char) (same : asciiLower cs = asciiLower ds)
    (marks : ∀ c ∈ cs, isAsciiLetter c = false) : ds = cs := by
  induction cs generalizing ds with
  | nil => exact List.map_eq_nil_iff.mp same.symm
  | cons c rest ih =>
      cases ds with
      | nil => cases same
      | cons d others =>
          simp only [asciiLower, List.map_cons, List.cons.injEq] at same
          rw [mark_kept c d same.1 (marks c (by simp)),
            ih others same.2 (fun e member => marks e (List.mem_cons_of_mem c member))]

theorem lower_length (cs ds : List Char) (same : asciiLower cs = asciiLower ds) : cs.length = ds.length := by
  simpa [asciiLower] using congrArg List.length same

theorem lower_map {α : Type} (view : Char → α) (caseless : Caseless view) (cs ds : List Char)
    (same : asciiLower cs = asciiLower ds) : cs.map view = ds.map view := by
  induction cs generalizing ds with
  | nil => rw [List.map_eq_nil_iff.mp same.symm]
  | cons c rest ih =>
      cases ds with
      | nil => cases same
      | cons d others =>
          simp only [asciiLower, List.map_cons, List.cons.injEq] at same
          rw [List.map_cons, List.map_cons, caseless c d same.1, ih others same.2]

theorem lower_take_while (test : Char → Bool) (caseless : Caseless test) (cs ds : List Char)
    (same : asciiLower cs = asciiLower ds) : asciiLower (cs.takeWhile test) = asciiLower (ds.takeWhile test) := by
  induction cs generalizing ds with
  | nil => rw [List.map_eq_nil_iff.mp same.symm]
  | cons c rest ih =>
      cases ds with
      | nil => cases same
      | cons d others =>
          simp only [asciiLower, List.map_cons, List.cons.injEq] at same
          have alike := caseless c d same.1
          by_cases passes : test c = true
          · rw [List.takeWhile_cons_of_pos passes, List.takeWhile_cons_of_pos (alike ▸ passes)]
            exact List.cons_eq_cons.mpr ⟨same.1, ih others same.2⟩
          · rw [List.takeWhile_cons_of_neg passes, List.takeWhile_cons_of_neg (alike ▸ passes)]

theorem digit_mark (c : Char) (digit : Number.isDigit c = true) : isAsciiLetter c = false := by
  simpa using of_all_digits (fun c => !isAsciiLetter c) (by decide) c digit

theorem lower_digits (cs ds : List Char) (same : asciiLower cs = asciiLower ds) :
    ds.takeWhile Number.isDigit = cs.takeWhile Number.isDigit :=
  marks_kept _ _ (lower_take_while Number.isDigit caseless_digit cs ds same)
    (fun c member => digit_mark c (List.all_eq_true.mp List.all_takeWhile c member))

theorem byte_length_fold (cs : List Char) : byteLength cs = (cs.map Char.utf8Size).foldr Nat.add 0 := by
  induction cs with
  | nil => rfl
  | cons c rest ih =>
      rw [byteLength, ih]
      rfl

theorem lower_bytes (cs ds : List Char) (same : asciiLower cs = asciiLower ds) : byteLength cs = byteLength ds := by
  rw [byte_length_fold, byte_length_fold, lower_map Char.utf8Size caseless_size cs ds same]

theorem lower_upper (cs ds : List Char) (same : asciiLower cs = asciiLower ds) : upper cs = upper ds := by
  rw [upper, upper, List.flatMap_def, List.flatMap_def, lower_map upperCharacter caseless_upper cs ds same]

end FormulaField.Text
