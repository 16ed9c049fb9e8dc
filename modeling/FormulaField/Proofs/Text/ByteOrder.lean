import Mathlib.Data.List.Lex

set_option autoImplicit false

namespace FormulaField.Text

def bytes (s : String) : List UInt8 := s.toUTF8.data.toList

theorem bytes_of_characters (s : String) : bytes s = s.toList.flatMap String.utf8EncodeChar := by
  have stored : s.toByteArray = s.toList.utf8Encode := by
    rw [← String.toByteArray_ofList, String.ofList_toList]
  rw [bytes, String.toUTF8, stored, List.utf8Encode, List.toList_data_toByteArray]

-- A code in digits of six bits, the first of them above a mark.
def sextets : Nat → Nat → Nat → List UInt8
  | 0, mark, code => [UInt8.ofNat (mark + code)]
  | more + 1, mark, code => sextets more mark (code / 64) ++ [UInt8.ofNat (code % 64 + 128)]

def firstSextet : Nat → Nat → Nat
  | 0, code => code
  | more + 1, code => firstSextet more (code / 64)

theorem sextets_first (more mark code : Nat) :
    ∃ rest, sextets more mark code = UInt8.ofNat (mark + firstSextet more code) :: rest := by
  induction more generalizing code with
  | zero => exact ⟨[], rfl⟩
  | succ more ih =>
      obtain ⟨rest, first⟩ := ih (code / 64)
      rw [sextets, first]
      exact ⟨_, rfl⟩

theorem byte_before (a b : Nat) (before : a < b) (small : b < 256) : UInt8.ofNat a < UInt8.ofNat b := by
  rw [UInt8.lt_iff_toNat_lt, UInt8.toNat_ofNat_of_lt' (before.trans small), UInt8.toNat_ofNat_of_lt' small]
  exact before

theorem sextets_before (more mark a b : Nat) (before : a < b) (small : mark + firstSextet more b < 256)
    (cs ds : List UInt8) : sextets more mark a ++ cs < sextets more mark b ++ ds := by
  induction more generalizing a b cs ds with
  | zero => exact List.cons_lt_cons_iff.mpr (.inl (byte_before _ _ (Nat.add_lt_add_left before mark) small))
  | succ more ih =>
      rw [sextets, sextets, List.append_assoc, List.append_assoc]
      rcases Nat.lt_or_eq_of_le (Nat.div_le_div_right (c := 64) before.le) with higher | same
      · exact ih (a / 64) (b / 64) higher small _ _
      · rw [same]
        refine List.append_left_lt (List.cons_lt_cons_iff.mpr (.inl (byte_before _ _ ?_ ?_))) <;> omega

-- The width of a character: how many bytes follow the first, and in which range the first byte is.
structure Encoded (c : Char) (more mark : Nat) : Prop where
  sextets : String.utf8EncodeChar c = sextets more mark c.val.toNat
  range : more = 0 ∧ mark = 0 ∧ c.val.toNat ≤ 127 ∧ firstSextet more c.val.toNat ≤ 127 ∨
    more = 1 ∧ mark = 192 ∧ 127 < c.val.toNat ∧ c.val.toNat ≤ 2047 ∧ firstSextet more c.val.toNat ≤ 31 ∨
    more = 2 ∧ mark = 224 ∧ 2047 < c.val.toNat ∧ c.val.toNat ≤ 65535 ∧ firstSextet more c.val.toNat ≤ 15 ∨
    more = 3 ∧ mark = 240 ∧ 65535 < c.val.toNat ∧ firstSextet more c.val.toNat ≤ 7

theorem encoded (c : Char) : ∃ more mark, Encoded c more mark := by
  have high : c.val.toNat < 1114112 := by
    rcases c.valid with low | ⟨_, high⟩
    · exact Nat.lt_trans low (by decide)
    · exact high
  by_cases one : c.val.toNat ≤ 127
  · refine ⟨0, 0, ⟨?_, .inl ⟨rfl, rfl, one, one⟩⟩⟩
    rw [String.utf8EncodeChar, if_pos one, sextets, Nat.zero_add]
  by_cases two : c.val.toNat ≤ 2047
  · refine ⟨1, 192, ⟨?_, .inr (.inl ⟨rfl, rfl, by omega, two, ?_⟩)⟩⟩
    · have lead : c.val.toNat / 64 % 32 + 192 = 192 + c.val.toNat / 64 := by omega
      rw [String.utf8EncodeChar, if_neg one, if_pos two, lead]
      rfl
    · change c.val.toNat / 64 ≤ 31
      omega
  by_cases three : c.val.toNat ≤ 65535
  · refine ⟨2, 224, ⟨?_, .inr (.inr (.inl ⟨rfl, rfl, by omega, three, ?_⟩))⟩⟩
    · have lead : c.val.toNat / 4096 % 16 + 224 = 224 + c.val.toNat / 64 / 64 := by omega
      rw [String.utf8EncodeChar, if_neg one, if_neg two, if_pos three, lead]
      rfl
    · change c.val.toNat / 64 / 64 ≤ 15
      omega
  · refine ⟨3, 240, ⟨?_, .inr (.inr (.inr ⟨rfl, rfl, by omega, ?_⟩))⟩⟩
    · have lead : c.val.toNat / 262144 % 8 + 240 = 240 + c.val.toNat / 64 / 64 / 64 := by omega
      have second : c.val.toNat / 4096 % 64 + 128 = c.val.toNat / 64 / 64 % 64 + 128 := by omega
      rw [String.utf8EncodeChar, if_neg one, if_neg two, if_neg three, lead, second]
      rfl
    · change c.val.toNat / 64 / 64 / 64 ≤ 7
      omega

theorem character_before (c d : Char) (before : c < d) (cs ds : List UInt8) :
    String.utf8EncodeChar c ++ cs < String.utf8EncodeChar d ++ ds := by
  have codes : c.val.toNat < d.val.toNat := before
  obtain ⟨more, mark, bytes, range⟩ := encoded c
  obtain ⟨more', mark', bytes', range'⟩ := encoded d
  rw [bytes, bytes']
  have small : mark' + firstSextet more' d.val.toNat < 256 := by omega
  have either : more = more' ∧ mark = mark' ∨
      mark + firstSextet more c.val.toNat < mark' + firstSextet more' d.val.toNat := by omega
  rcases either with ⟨rfl, rfl⟩ | first
  · exact sextets_before more mark _ _ codes small cs ds
  · obtain ⟨rest, same⟩ := sextets_first more mark c.val.toNat
    obtain ⟨rest', same'⟩ := sextets_first more' mark' d.val.toNat
    rw [same, same']
    exact List.cons_lt_cons_iff.mpr (.inl (byte_before _ _ first small))

theorem character_nonempty (c : Char) (cs : List UInt8) : [] < String.utf8EncodeChar c ++ cs := by
  obtain ⟨more, mark, bytes, _⟩ := encoded c
  obtain ⟨rest, first⟩ := sextets_first more mark c.val.toNat
  rw [bytes, first]
  exact List.nil_lt_cons _ _

theorem characters_before (cs ds : List Char) (before : cs < ds) :
    cs.flatMap String.utf8EncodeChar < ds.flatMap String.utf8EncodeChar := by
  induction cs generalizing ds with
  | nil =>
      cases ds with
      | nil => exact absurd before (List.not_lt_nil [])
      | cons d ds => exact character_nonempty d _
  | cons c cs ih =>
      cases ds with
      | nil => exact absurd before (List.not_lt_nil _)
      | cons d ds =>
          rcases List.cons_lt_cons_iff.mp before with smaller | ⟨rfl, later⟩
          · exact character_before c d smaller _ _
          · exact List.append_left_lt (ih ds later)

theorem characters_order (cs ds : List Char) :
    cs < ds ↔ cs.flatMap String.utf8EncodeChar < ds.flatMap String.utf8EncodeChar := by
  refine ⟨characters_before cs ds, fun before => ?_⟩
  by_contra notSmaller
  rcases List.le_iff_lt_or_eq.mp (List.not_lt.mp notSmaller) with larger | rfl
  · exact List.lt_asymm before (characters_before ds cs larger)
  · exact List.lt_irrefl _ before

theorem order_of_bytes (a b : String) : compare a b = .lt ↔ bytes a < bytes b := by
  rw [bytes_of_characters, bytes_of_characters, ← characters_order]
  exact compareOfLessAndEq_eq_lt

end FormulaField.Text
