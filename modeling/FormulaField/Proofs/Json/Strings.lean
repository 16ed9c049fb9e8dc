import FormulaField.Json.Reader
import FormulaField.Json.Writer

set_option autoImplicit false

namespace FormulaField.Json

open Lexeme

-- How a written character is read: as itself, or by its code if it has no short escape.
inductive Lexeme.Piece.Names (c : Char) : Piece → Prop
  | character : Names c (.character c)
  | unit (control : c.toNat < 32) : Names c (.unit c.toNat)

def ReadsPiece (cs : List Char) (piece : Piece) : Prop :=
  ∀ rest, pieces? (cs ++ rest) = (pieces? rest).map fun read => (piece :: read.1, read.2)

theorem short_read (letter c : Char) (short : shortEscape? letter = some c) :
    ReadsPiece ['\\', letter] (.character c) := by
  have notUnit : letter ≠ 'u' := by
    rintro rfl
    cases short
  intro rest
  simp only [List.cons_append, List.nil_append]
  rw [pieces?]
  · simp only [short]
    cases pieces? rest <;> rfl
  · rintro _ _ _ _ _ same
    exact absurd same notUnit

theorem code_read (code : Nat) (control : code < 32) :
    ReadsPiece ['\\', 'u', '0', '0', hexDigit (code / 16), hexDigit code] (.unit code) := by
  have all : ∀ code < 32, unit? '0' '0' (hexDigit (code / 16)) (hexDigit code) = some code := by decide
  intro rest
  simp only [List.cons_append, List.nil_append]
  rw [pieces?]
  simp only [all code control]
  cases pieces? rest <;> rfl

theorem plain_read (c : Char) (quote : c ≠ '"') (backslash : c ≠ '\\') (high : ¬c.toNat < 32) :
    ReadsPiece [c] (.character c) := by
  intro rest
  simp only [List.cons_append, List.nil_append]
  rw [pieces?]
  · rw [if_neg (by simp [backslash, high])]
    cases pieces? rest <;> rfl
  · exact quote
  · exact fun _ _ _ _ _ same => absurd same backslash
  · exact fun _ _ same => absurd same backslash

theorem escape_read (c : Char) : ∃ piece : Piece, piece.Names c ∧ ReadsPiece (escape c) piece := by
  rw [escape]
  by_cases quote : c = '"'
  · exact ⟨_, .character, by simpa [quote] using short_read '"' '"' rfl⟩
  by_cases backslash : c = '\\'
  · exact ⟨_, .character, by simpa [backslash] using short_read '\\' '\\' rfl⟩
  by_cases newLine : c = '\n'
  · exact ⟨_, .character, by simpa [newLine] using short_read 'n' '\n' rfl⟩
  by_cases carriage : c = '\r'
  · exact ⟨_, .character, by simpa [carriage] using short_read 'r' '\r' rfl⟩
  by_cases tab : c = '\t'
  · exact ⟨_, .character, by simpa [tab] using short_read 't' '\t' rfl⟩
  by_cases back : c.toNat = 8
  · have same : c = Char.ofNat 8 := back ▸ (Char.ofNat_toNat c).symm
    exact ⟨_, .character, by simpa [same] using short_read 'b' (Char.ofNat 8) rfl⟩
  by_cases feed : c.toNat = 12
  · have same : c = Char.ofNat 12 := feed ▸ (Char.ofNat_toNat c).symm
    exact ⟨_, .character, by simpa [same] using short_read 'f' (Char.ofNat 12) rfl⟩
  simp only [quote, backslash, newLine, carriage, tab, back, feed, if_false]
  by_cases control : c.toNat < 32
  · rw [if_pos control]
    exact ⟨_, .unit control, code_read c.toNat control⟩
  · rw [if_neg control]
    exact ⟨_, .character, plain_read c quote backslash control⟩

theorem unit_character (code : Nat) (rest : List Piece) (control : code < 32) :
    characters? (.unit code :: rest) = (characters? rest).map (Char.ofNat code :: ·) := by
  have low : isLowSurrogate code = false := by
    simp only [isLowSurrogate, Bool.and_eq_false_iff, decide_eq_false_iff_not]
    omega
  have high : isHighSurrogate code = false := by
    simp only [isHighSurrogate, Bool.and_eq_false_iff, decide_eq_false_iff_not]
    omega
  cases rest with
  | nil => simp [characters?, low, high]
  | cons piece rest => cases piece <;> simp [characters?, low, high]

theorem named_character (c : Char) (piece : Piece) (rest : List Piece) (named : piece.Names c) :
    characters? (piece :: rest) = (characters? rest).map (c :: ·) := by
  cases named with
  | character => rw [characters?]
  | unit control => rw [unit_character _ _ control, Char.ofNat_toNat]

theorem escapes_read (cs rest : List Char) :
    ∃ pieces, pieces? (cs.flatMap escape ++ '"' :: rest) = some (pieces, rest) ∧ characters? pieces = some cs := by
  induction cs with
  | nil => exact ⟨[], by simp [pieces?], rfl⟩
  | cons c cs ih =>
      obtain ⟨piece, named, reads⟩ := escape_read c
      obtain ⟨pieces, others, characters⟩ := ih
      refine ⟨piece :: pieces, ?_, ?_⟩
      · rw [List.flatMap_cons, List.append_assoc, reads, others]
        rfl
      · rw [named_character c piece pieces named, characters]
        rfl

theorem string_read (s : String) (rest : List Char) :
    string? (s.toList.flatMap escape ++ '"' :: rest) = some (some s, rest) := by
  obtain ⟨pieces, reads, characters⟩ := escapes_read s.toList rest
  rw [string?, reads]
  simp [characters]

end FormulaField.Json
