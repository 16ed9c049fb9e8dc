import FormulaField.Proofs.Number.Order
import FormulaField.Proofs.Value.DisplayedNumbers

set_option autoImplicit false

namespace FormulaField.Number

theorem zero_rank : (0 : Float).isNaN = false ∧ rank 0 = 0 := by decide +kernel

theorem below_zero (x : Float) (finite : x.isFinite = true) : x < 0 ↔ isNegative x = true ∧ magnitude x ≠ 0 := by
  rw [lt_iff, zero_rank.2, and_iff_right ⟨finite_number x finite, zero_rank.1⟩, rank]
  cases isNegative x with
  | true =>
      rw [if_pos rfl, and_iff_right rfl]
      omega
  | false =>
      rw [if_neg Bool.false_ne_true]
      exact iff_of_false (by omega) fun both => Bool.false_ne_true both.1

theorem negative_zero (x : Float) (finite : x.isFinite = true) :
    x = zero true ↔ isNegative x = true ∧ magnitude x = 0 := by
  constructor
  · rintro rfl
    decide +kernel
  · rintro ⟨negative, none⟩
    rw [← own_magnitude x finite, negative, none, zero]

end FormulaField.Number

namespace FormulaField.DisplayFormat

open Number (Numeral isDigit sign)

def withoutMarks (cs : List Char) : List Char := cs.filter fun c => c != '$' && c != ','

theorem without_marks_append (cs ds : List Char) : withoutMarks (cs ++ ds) = withoutMarks cs ++ withoutMarks ds :=
  List.filter_append ..

theorem digits_kept (ds : List Char) (all : ∀ c ∈ ds, isDigit c = true) : withoutMarks ds = ds :=
  List.filter_eq_self.mpr fun c member =>
    Text.of_all_digits (fun c => c != '$' && c != ',') (by decide) c (all c member)

theorem sign_kept (negative : Bool) : withoutMarks (sign negative) = sign negative := by
  cases negative <;> rfl

theorem ungrouped (ds cs : List Char) (grouped : Grouped ds cs) (all : ∀ c ∈ ds, isDigit c = true) :
    withoutMarks cs = ds := by
  induction grouped with
  | short => exact digits_kept _ all
  | group ds cs last three before ih =>
      obtain ⟨first, rest⟩ := List.forall_mem_append.mp all
      have comma : withoutMarks (',' :: last) = withoutMarks last := rfl
      rw [without_marks_append, ih first, comma, digits_kept last rest]

theorem numeral_ungrouped (numeral : Numeral) (proper : IsNumeral numeral) (grouped : List Char)
    (groups : Grouped numeral.whole grouped) :
    withoutMarks (numeralChars { numeral with whole := grouped }) = numeralChars numeral := by
  have point (ds : List Char) : withoutMarks ('.' :: ds) = '.' :: withoutMarks ds := rfl
  have kept := digits_kept numeral.fraction proper.fraction
  rw [numeralChars, numeralChars, without_marks_append, ungrouped _ _ groups proper.whole]
  cases same : numeral.fraction with
  | nil => rfl
  | cons c rest =>
      rw [same] at kept
      simp only [point, kept]

theorem signs_differ (n : Float) (finite : n.isFinite = true) :
    sign (Number.isNegative n) = sign (n = Number.zero true) ++ sign (n < 0) := by
  have below := Number.below_zero n finite
  have zero := Number.negative_zero n finite
  by_cases negative : Number.isNegative n = true
  · by_cases none : Number.magnitude n = 0
    · rw [decide_eq_true (zero.mpr ⟨negative, none⟩), decide_eq_false fun less => (below.mp less).2 none, negative]
      rfl
    · rw [decide_eq_false fun same => none (zero.mp same).2, decide_eq_true (below.mpr ⟨negative, none⟩), negative]
      rfl
  · rw [decide_eq_false fun same => negative (zero.mp same).1, decide_eq_false fun less => negative (below.mp less).1,
      Bool.eq_false_iff.mpr negative]
    rfl

theorem number_without_marks (n : Float) (decimals : Nat) (finite : n.isFinite = true) :
    (display .number decimals (.number n)).toList =
      sign (n = Number.zero true) ++ withoutMarks (display .currency decimals (.number n)).toList := by
  obtain ⟨numeral, grouped, proper, _, groups, number, currency⟩ := number_and_currency n decimals finite
  have unmarked (cs : List Char) : withoutMarks ('$' :: cs) = withoutMarks cs := rfl
  rw [number, currency, without_marks_append, sign_kept, unmarked, numeral_ungrouped numeral proper grouped groups,
    signs_differ n finite, List.append_assoc]

-- The amount reads as the number, as far as the number is not negative zero.
theorem amount_reads_as_number (n : Float) (decimals : Nat) (finite : n.isFinite = true) :
    (withoutMarks (display .currency decimals (.number n)).toList = (display .number decimals (.number n)).toList ↔
        n ≠ Number.zero true) ∧
      (n = Number.zero true → (display .number decimals (.number n)).toList =
        '-' :: withoutMarks (display .currency decimals (.number n)).toList) := by
  have shown := number_without_marks n decimals finite
  by_cases zero : n = Number.zero true
  · rw [decide_eq_true zero] at shown
    refine ⟨iff_of_false ?_ (not_not_intro zero), fun _ => shown⟩
    rw [shown]
    exact fun same => List.cons_ne_self _ _ same.symm
  · rw [decide_eq_false zero] at shown
    exact ⟨iff_of_true shown.symm zero, fun same => absurd same zero⟩

theorem amount_of_negative_reads :
    withoutMarks (display .currency 2 (.number (Float.ofBits 0xc0934a0000000000))).toList =
      (display .number 2 (.number (Float.ofBits 0xc0934a0000000000))).toList :=
  (amount_reads_as_number (Float.ofBits 0xc0934a0000000000) 2 (by decide +kernel)).1.mpr (by decide +kernel)

theorem negative_zero_differs :
    (Number.zero true).isFinite = true ∧ display .number 2 (.number (Number.zero true)) = "-0.00" ∧
      display .currency 2 (.number (Number.zero true)) = "$0.00" ∧
      withoutMarks (display .currency 2 (.number (Number.zero true))).toList ≠
        (display .number 2 (.number (Number.zero true))).toList := by
  decide +kernel

end FormulaField.DisplayFormat
