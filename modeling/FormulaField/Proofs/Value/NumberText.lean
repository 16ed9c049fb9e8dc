import FormulaField.Proofs.Number.Comparison
import FormulaField.Proofs.Number.Text
import FormulaField.Proofs.Value.LeadingNumeral

set_option autoImplicit false

namespace FormulaField

namespace LeadingNumeral

open Text (isAsciiDigit isWhite trimStart)

theorem sign_written (negative : Bool) : Sign negative (Number.sign negative) := by
  cases negative
  · exact .none
  · exact .minus

theorem numeral_written (negative : Bool) (n : Number.Numeral) (proper : IsNumeral n) :
    Written isAsciiDigit ⟨negative, n⟩ (Number.sign negative ++ numeralChars n) := by
  obtain ⟨whole, fraction, exponent⟩ := n
  obtain ⟨some, digits, further, plain⟩ := proper
  cases plain
  have placed : Places isAsciiDigit whole fraction (numeralChars ⟨whole, fraction, 0⟩) := by
    cases fraction with
    | nil =>
        rw [numeralChars, List.append_nil]
        exact .whole whole ⟨some, digits⟩
    | cons d ds => exact .pointed whole (d :: ds) ⟨some, digits⟩ further
  have written := Written.parts negative _ whole fraction _ false [] [] (sign_written negative) placed .none
  rwa [List.append_nil] at written

theorem written_trimmed (n : LeadingNumeral) (p : List Char) (written : Written isAsciiDigit n p) : trimStart p = p := by
  have ink : ∀ c ∈ p, isWhite c = false := by
    intro c member
    rcases written_characters n p written c member with digit | mark
    · exact Text.digit_not_white c digit
    · simp only [marks, List.mem_cons, List.not_mem_nil, or_false] at mark
      rcases mark with rfl | rfl | rfl | rfl | rfl <;> rfl
  cases p with
  | nil => rfl
  | cons c rest => exact List.dropWhile_cons_of_neg (by simp [ink c (by simp)])

end LeadingNumeral

namespace Value

theorem text_of_number (x : Float) (finite : x.isFinite = true) :
    (text (number x).toText).toNumber = Number.plain x := by
  obtain ⟨numeral, proper, reads, same⟩ := Number.chars_of_finite x finite
  have written := LeadingNumeral.numeral_written (Number.isNegative x && Number.magnitude x != 0) numeral proper
  rw [← same] at written
  rw [toText, Number.text, toNumber, leadingNumber, String.toList_ofList, LeadingNumeral.written_trimmed _ _ written,
    LeadingNumeral.whole_read _ _ written]
  exact reads _

-- The text of a finite number reads as the number; only the sign of a zero is not in it.
theorem number_text_reads_back (x : Float) (finite : x.isFinite = true) :
    ((text (number x).toText).toNumber == x) = true := by
  rw [text_of_number x finite]
  exact Number.plain_equals x finite

theorem least_text_reads_back :
    (Float.ofBits 0x8000000000000001).isFinite = true ∧
      ((text (number (Float.ofBits 0x8000000000000001)).toText).toNumber == Float.ofBits 0x8000000000000001) = true := by
  have finite : (Float.ofBits 0x8000000000000001).isFinite = true := by decide +kernel
  exact ⟨finite, number_text_reads_back _ finite⟩

end Value

end FormulaField
