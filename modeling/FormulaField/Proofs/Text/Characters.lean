import FormulaField.Formula.Parser
import Mathlib.Data.List.DropRight

set_option autoImplicit false

namespace FormulaField.Text

theorem runs_of_list (table : List Char) :
    Runs.ofText (String.ofList table) =
      ((splitAt ' ' (table.map fun c => if c = '\n' then ' ' else c)).filter (· ≠ [])).map Run.ofChars := by
  simp [Runs.ofText, entries]

def whiteCodes : List Nat :=
  [9, 10, 11, 12, 13, 0x20, 0x85, 0xA0, 0x1680, 0x2000, 0x2001, 0x2002, 0x2003, 0x2004, 0x2005, 0x2006, 0x2007,
    0x2008, 0x2009, 0x200A, 0x2028, 0x2029, 0x202F, 0x205F, 0x3000]

def digitCodes : List Nat := [48, 49, 50, 51, 52, 53, 54, 55, 56, 57]

theorem of_all_codes (codes : List Nat) (property : Char → Bool)
    (all : codes.all (fun code => property (Char.ofNat code)) = true) (c : Char) (member : c.toNat ∈ codes) :
    property c = true := by
  simpa only [Char.ofNat_toNat] using List.all_eq_true.mp all c.toNat member

theorem white_code (c : Char) (white : isWhite c = true) : c.toNat ∈ whiteCodes := by
  simp only [isWhite, Bool.or_eq_true, Bool.and_eq_true, decide_eq_true_eq, beq_iff_eq] at white
  simp only [whiteCodes, List.mem_cons, List.not_mem_nil, or_false]
  omega

theorem digit_code (c : Char) (digit : Number.isDigit c = true) : c.toNat ∈ digitCodes := by
  simp only [Number.isDigit, Bool.and_eq_true, decide_eq_true_eq, Char.le_def, UInt32.le_iff_toNat_le] at digit
  simp only [digitCodes, List.mem_cons, List.not_mem_nil, or_false]
  have low : 48 ≤ c.toNat := digit.1
  have high : c.toNat ≤ 57 := digit.2
  omega

theorem of_all_digits (property : Char → Bool)
    (all : digitCodes.all (fun code => property (Char.ofNat code)) = true) (c : Char) (digit : Number.isDigit c = true) :
    property c = true :=
  of_all_codes digitCodes property all c (digit_code c digit)

theorem digit_not_white (c : Char) (digit : Number.isDigit c = true) : isWhite c = false := by
  simpa using of_all_digits (fun c => !isWhite c) (by decide) c digit

-- White space and the caron that combines with the letter before it.
def betweenNames : List Nat := 0x30C :: whiteCodes

set_option maxRecDepth 100000 in
theorem between_not_alphabetic (c : Char) (member : c.toNat ∈ betweenNames) : alphabetic.contains c = false := by
  have all : betweenNames.all (fun code => !alphabetic.contains (Char.ofNat code)) = true := by
    rw [alphabetic, runs_of_list]
    decide +kernel
  simpa using of_all_codes betweenNames (fun c => !alphabetic.contains c) all c member

set_option maxRecDepth 100000 in
theorem between_not_numeric (c : Char) (member : c.toNat ∈ betweenNames) : numeric.contains c = false := by
  have all : betweenNames.all (fun code => !numeric.contains (Char.ofNat code)) = true := by
    rw [numeric, runs_of_list]
    decide +kernel
  simpa using of_all_codes betweenNames (fun c => !numeric.contains c) all c member

theorem digit_numeric (c : Char) (digit : Number.isDigit c = true) : isNumeric c = true := by
  exact of_all_digits isNumeric (by decide) c digit

theorem between_not_name_character (c : Char) (member : c.toNat ∈ betweenNames) :
    Parser.isNameCharacter c = false := by
  have ascii : betweenNames.all (fun code => !isAsciiLetter (Char.ofNat code) && !isAsciiDigit (Char.ofNat code) &&
      Char.ofNat code != '_') = true := by decide
  have all := of_all_codes betweenNames (fun c => !isAsciiLetter c && !isAsciiDigit c && c != '_') ascii c member
  simp only [Bool.and_eq_true, Bool.not_eq_true', bne_iff_ne] at all
  simp [Parser.isNameCharacter, isAlphanumeric, isAlphabetic, isNumeric, all, between_not_alphabetic c member,
    between_not_numeric c member]

theorem white_not_name_character (c : Char) (white : isWhite c = true) : Parser.isNameCharacter c = false :=
  between_not_name_character c (List.mem_cons_of_mem _ (white_code c white))

theorem trim_start_fixed (cs ds : List Char) (start : ds <+: trimStart cs) : trimStart ds = ds := by
  cases ds with
  | nil => rfl
  | cons d rest =>
      obtain ⟨more, split⟩ := start
      have notWhite := List.head?_dropWhile_not isWhite cs
      rw [← trimStart, ← split] at notWhite
      exact List.dropWhile_cons_of_neg (by simpa using notWhite)

theorem trim_initial (cs : List Char) : trim cs <+: trimStart cs := List.rdropWhile_prefix isWhite (trimStart cs)

theorem trim_trim (cs : List Char) : trim (trim cs) = trim cs := by
  have start : trimStart (trim cs) = trim cs := trim_start_fixed cs _ (trim_initial cs)
  rw [trim, start, trim]
  exact List.rdropWhile_idempotent isWhite (trimStart cs)

theorem mem_of_mem_trim (cs : List Char) (c : Char) (member : c ∈ trim cs) : c ∈ cs :=
  (List.dropWhile_suffix isWhite).subset ((trim_initial cs).subset member)

end FormulaField.Text
