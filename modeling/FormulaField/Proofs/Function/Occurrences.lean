import FormulaField.Function.Table
import FormulaField.Proofs.Safety.Texts
import FormulaField.Proofs.Value.Counts

set_option autoImplicit false

namespace FormulaField.Texts

open Calendar (Instant)

-- From a character on the text goes on with another one. Behind its last character it goes on with nothing.
def HasAt (cs sought : List Char) (i : Nat) : Prop := i ≤ cs.length ∧ sought <+: cs.drop i

theorem has_at_end (cs sought : List Char) : HasAt cs sought cs.length ↔ sought = [] := by
  rw [HasAt, List.drop_length, List.prefix_nil]
  exact and_iff_right (Nat.le_refl _)

theorem has_at_first (cs sought : List Char) : HasAt cs sought 0 ↔ sought <+: cs :=
  and_iff_right (Nat.zero_le _)

theorem has_at_later (c : Char) (cs sought : List Char) (i : Nat) :
    HasAt (c :: cs) sought (i + 1) ↔ HasAt cs sought i := by
  rw [HasAt, HasAt, List.drop_succ_cons, List.length_cons, Nat.add_le_add_iff_right]

theorem has_at_drop (cs sought : List Char) (start i : Nat) (inside : start ≤ cs.length) :
    HasAt (cs.drop start) sought i ↔ HasAt cs sought (start + i) := by
  have length : i ≤ cs.length - start ↔ start + i ≤ cs.length := by omega
  rw [HasAt, HasAt, List.drop_drop, List.length_drop, length]

def FirstFrom (cs sought : List Char) (start : Nat) : Option Nat → Prop
  | some i => IsLeast {i | start ≤ i ∧ HasAt cs sought i} i
  | none => ∀ i, start ≤ i → ¬HasAt cs sought i

theorem first_occurrence (cs sought : List Char) : FirstFrom cs sought 0 (firstOccurrence? sought cs) := by
  induction cs with
  | nil =>
      rw [firstOccurrence?]
      by_cases none : sought = []
      · rw [if_pos none]
        exact ⟨⟨Nat.le_refl 0, (has_at_end [] sought).mpr none⟩, fun i _ => Nat.zero_le i⟩
      · rw [if_neg none]
        intro i _ has
        obtain rfl : i = 0 := Nat.le_zero.mp has.1
        exact none ((has_at_end [] sought).mp has)
  | cons c cs ih =>
      rw [firstOccurrence?]
      by_cases here : sought <+: c :: cs
      · rw [if_pos (List.isPrefixOf_iff_prefix.mpr here)]
        exact ⟨⟨Nat.le_refl 0, (has_at_first _ sought).mpr here⟩, fun i _ => Nat.zero_le i⟩
      · rw [if_neg fun isPrefix => here (List.isPrefixOf_iff_prefix.mp isPrefix)]
        have notFirst : ¬HasAt (c :: cs) sought 0 := fun has => here ((has_at_first _ sought).mp has)
        cases found : firstOccurrence? sought cs with
        | none =>
            rw [found] at ih
            intro i _ has
            cases i with
            | zero => exact notFirst has
            | succ i => exact ih i (Nat.zero_le i) ((has_at_later c cs sought i).mp has)
        | some n =>
            rw [found] at ih
            obtain ⟨⟨_, has⟩, least⟩ := ih
            refine ⟨⟨Nat.zero_le _, (has_at_later c cs sought n).mpr has⟩, ?_⟩
            rintro i ⟨_, other⟩
            cases i with
            | zero => exact absurd other notFirst
            | succ i => exact Nat.succ_le_succ (least ⟨Nat.zero_le i, (has_at_later c cs sought i).mp other⟩)

theorem find_first (cs sought : List Char) (start : Nat) : FirstFrom cs sought start (find? sought cs start) := by
  rw [find?]
  by_cases inside : start ≤ cs.length
  · have first := first_occurrence (cs.drop start) sought
    have later (i : Nat) (from_ : start ≤ i) : HasAt (cs.drop start) sought (i - start) ↔ HasAt cs sought i := by
      rw [has_at_drop cs sought start _ inside, Nat.add_sub_cancel' from_]
    rw [if_pos inside]
    cases found : firstOccurrence? sought (cs.drop start) with
    | none =>
        rw [found] at first
        intro i from_ has
        exact first (i - start) (Nat.zero_le _) ((later i from_).mpr has)
    | some n =>
        rw [found] at first
        obtain ⟨⟨_, has⟩, least⟩ := first
        refine ⟨⟨Nat.le_add_right start n, (has_at_drop cs sought start n inside).mp has⟩, ?_⟩
        rintro i ⟨from_, other⟩
        have before := least ⟨Nat.zero_le _, (later i from_).mpr other⟩
        change start + n ≤ i
        omega
  · rw [if_neg inside]
    intro i from_ has
    exact inside (from_.trans has.1)

-- What a search has to give. A search over bytes comes to the same place without breaking off.
structure Located (cs sought : List Char) (start : Nat) (position : Option Nat) : Prop where
  first : FirstFrom cs sought start position
  nothing_at_end : position = some cs.length → sought = []
  beyond_end : cs.length < start → position = none
  bytes : Guarded.find? sought cs start = some position

theorem find_located (cs sought : List Char) (start : Nat) : Located cs sought start (find? sought cs start) := by
  have first := find_first cs sought start
  refine ⟨first, ?_, ?_, Guarded.find_completes sought cs start⟩
  · intro atEnd
    rw [atEnd] at first
    exact (has_at_end cs sought).mp first.1.2
  · intro beyond
    rw [find?, if_neg (Nat.not_le.mpr beyond)]

example : find? [] ['é'] 1 = some 1 ∧ find? [] ['é'] 2 = none := by decide

def startOf (start : Option Value) : Nat :=
  match start with
  | none => 0
  | some w => min (Number.wholePart w.toNumber) (2 ^ 64 - 1)

theorem start_is_count (start : Option Value) : (start.map Value.toCount).getD 0 = startOf start := by
  cases start with
  | none => rfl
  | some w => exact Value.count_is_whole_part w

theorem place_exact (position : Option Nat) (i : Nat) (here : position = some i) (small : i < 2 ^ 53) :
    (place position).toCount = i := by
  rw [here]
  exact Value.count_of_natural i small

theorem first_occurrence_found (now : Instant) (sought v : Value) (start : Option Value) :
    ∃ function position, Function.named? "FIND" = some function ∧
      function.apply now (sought :: v :: start.toList) = .ok (place position) ∧
      Located (characters v) (characters sought) (startOf start) position ∧
      ∀ i, position = some i → i < 2 ^ 53 → (place position).toCount = i := by
  refine ⟨_, _, rfl, ?_, find_located _ _ (startOf start), place_exact _⟩
  rw [← start_is_count]
  cases start with
  | none => rfl
  | some w => rfl

end FormulaField.Texts
