import FormulaField.Proofs.Safety.Texts

set_option autoImplicit false

namespace FormulaField.DisplayFormat

open Guarded (separated separated_cons group_digits_cons)
open Number (isDigit)

def withoutCommas (cs : List Char) : List Char := cs.filter (· != ',')

theorem without_commas_append (cs ds : List Char) : withoutCommas (cs ++ ds) = withoutCommas cs ++ withoutCommas ds :=
  List.filter_append ..

theorem without_commas_own (cs : List Char) (none : ',' ∉ cs) : withoutCommas cs = cs :=
  List.filter_eq_self.mpr fun _ member => bne_iff_ne.mpr (ne_of_mem_of_not_mem member none)

theorem without_commas_cons (c : Char) (cs : List Char) (other : c ≠ ',') :
    withoutCommas (c :: cs) = c :: withoutCommas cs :=
  List.filter_cons_of_pos (bne_iff_ne.mpr other)

-- The text from a comma in front of a digit on, with so many digits before the comma.
def CommaBefore (cs : List Char) (index : Nat) : Prop :=
  ∃ before c after, cs = before ++ ',' :: c :: after ∧ isDigit c = true ∧ (withoutCommas before).length = index

structure GroupedByThree (whole tail out : List Char) : Prop where
  same : withoutCommas out = whole ++ tail
  tailKept : out.dropWhile (· != '.') = tail
  placed : ∀ index < whole.length, CommaBefore out index ↔ index ≠ 0 ∧ (whole.length - index) % 3 = 0
  nowhereElse : ∀ before after, out = before ++ ',' :: after →
    (withoutCommas before).length < whole.length ∧ CommaBefore out (withoutCommas before).length

theorem digit_not_comma (c : Char) (digit : isDigit c = true) : c ≠ ',' := by
  rintro rfl
  cases digit

theorem separated_plain (ds : List Char) (all : ∀ c ∈ ds, isDigit c = true) : withoutCommas (separated ds) = ds := by
  induction ds with
  | nil => rfl
  | cons d rest ih =>
      obtain ⟨digit, others⟩ := List.forall_mem_cons.mp all
      have plain : withoutCommas (d :: separated rest) = d :: rest := by
        rw [without_commas_cons d _ (digit_not_comma d digit), ih others]
      rw [separated_cons]
      split
      · exact plain
      · exact plain

theorem grouped_plain (ds : List Char) (all : ∀ c ∈ ds, isDigit c = true) : withoutCommas (groupDigits ds) = ds := by
  cases ds with
  | nil => rfl
  | cons d rest =>
      obtain ⟨digit, others⟩ := List.forall_mem_cons.mp all
      rw [group_digits_cons, without_commas_cons d _ (digit_not_comma d digit), separated_plain rest others]

theorem separated_behind (front rest : List Char) (all : ∀ c ∈ front, isDigit c = true) :
    ∃ before, separated (front ++ rest) = before ++ separated rest ∧ withoutCommas before = front := by
  induction front with
  | nil => exact ⟨[], rfl, rfl⟩
  | cons d front ih =>
      obtain ⟨digit, others⟩ := List.forall_mem_cons.mp all
      obtain ⟨before, same, plain⟩ := ih others
      have kept : withoutCommas (d :: before) = d :: front := by
        rw [without_commas_cons d before (digit_not_comma d digit), plain]
      rw [List.cons_append, separated_cons, same]
      split
      · exact ⟨',' :: d :: before, rfl, kept⟩
      · exact ⟨d :: before, rfl, kept⟩

theorem comma_in_separated (ds before after : List Char) (all : ∀ c ∈ ds, isDigit c = true)
    (split : separated ds = before ++ ',' :: after) :
    ∃ d rest, ds = withoutCommas before ++ d :: rest ∧ (rest.length + 1) % 3 = 0 ∧ after = d :: separated rest := by
  induction ds generalizing before with
  | nil => cases before <;> cases split
  | cons d rest ih =>
      obtain ⟨digit, others⟩ := List.forall_mem_cons.mp all
      have notComma := digit_not_comma d digit
      have behind : ∀ before, d :: separated rest = before ++ ',' :: after →
          ∃ e tail, d :: rest = withoutCommas before ++ e :: tail ∧ (tail.length + 1) % 3 = 0 ∧ after = e :: separated tail := by
        intro before split
        cases before with
        | nil => exact absurd (List.cons.inj split).1 notComma
        | cons c before =>
            obtain ⟨rfl, further⟩ := List.cons.inj split
            obtain ⟨e, tail, same, three, reached⟩ := ih before others further
            exact ⟨e, tail, by rw [without_commas_cons d before notComma, same, List.cons_append], three, reached⟩
      rw [separated_cons] at split
      by_cases three : (rest.length + 1) % 3 = 0
      · rw [if_pos three] at split
        cases before with
        | nil => exact ⟨d, rest, rfl, three, (List.cons.inj split).2.symm⟩
        | cons c before =>
            obtain ⟨rfl, further⟩ := List.cons.inj split
            exact behind before further
      · rw [if_neg three] at split
        exact behind before split

theorem comma_in_group (ds before after : List Char) (all : ∀ c ∈ ds, isDigit c = true)
    (split : groupDigits ds = before ++ ',' :: after) :
    withoutCommas before ≠ [] ∧
      ∃ d rest, ds = withoutCommas before ++ d :: rest ∧ (rest.length + 1) % 3 = 0 ∧ after = d :: separated rest := by
  cases ds with
  | nil => cases before <;> cases split
  | cons d rest =>
      obtain ⟨digit, others⟩ := List.forall_mem_cons.mp all
      have notComma := digit_not_comma d digit
      rw [group_digits_cons] at split
      cases before with
      | nil => exact absurd (List.cons.inj split).1 notComma
      | cons c before =>
          obtain ⟨rfl, further⟩ := List.cons.inj split
          obtain ⟨e, tail, same, three, reached⟩ := comma_in_separated rest before after others further
          rw [without_commas_cons d before notComma, same]
          exact ⟨List.cons_ne_nil _ _, e, tail, rfl, three, reached⟩

theorem group_behind (front : List Char) (d : Char) (rest : List Char) (all : ∀ c ∈ front, isDigit c = true)
    (some : front ≠ []) (three : (rest.length + 1) % 3 = 0) :
    ∃ before, groupDigits (front ++ d :: rest) = before ++ ',' :: d :: separated rest ∧ withoutCommas before = front := by
  obtain ⟨c, front, rfl⟩ := List.exists_cons_of_ne_nil some
  obtain ⟨digit, others⟩ := List.forall_mem_cons.mp all
  obtain ⟨before, same, plain⟩ := separated_behind front (d :: rest) others
  rw [separated_cons, if_pos three] at same
  refine ⟨c :: before, by rw [List.cons_append, group_digits_cons, same, List.cons_append], ?_⟩
  rw [without_commas_cons c before (digit_not_comma c digit), plain]

theorem group_without_point (ds : List Char) (all : ∀ c ∈ ds, isDigit c = true) : ∀ c ∈ groupDigits ds, (c != '.') = true := by
  intro c member
  rw [bne_iff_ne]
  rintro rfl
  have kept : '.' ∈ withoutCommas (groupDigits ds) := List.mem_filter.mpr ⟨member, rfl⟩
  rw [grouped_plain ds all] at kept
  cases all '.' kept

variable (whole tail : List Char) (digits : ∀ c ∈ whole, isDigit c = true)

include digits

theorem comma_in_whole (before after : List Char) (plain : ',' ∉ tail)
    (split : groupDigits whole ++ tail = before ++ ',' :: after) :
    ∃ d rest, withoutCommas before ≠ [] ∧ whole = withoutCommas before ++ d :: rest ∧ (rest.length + 1) % 3 = 0 ∧
      after = d :: separated rest ++ tail := by
  rcases List.append_eq_append_iff.mp split with ⟨further, _, inTail⟩ | ⟨further, inWhole, reached⟩
  · exact absurd (inTail ▸ List.mem_append_right further (List.mem_cons_self ..)) plain
  · cases further with
    | nil => exact absurd (reached ▸ List.mem_cons_self : ',' ∈ [] ++ tail) plain
    | cons c middle =>
        obtain ⟨rfl, same⟩ := List.cons.inj reached
        obtain ⟨some, d, rest, split, three, behind⟩ := comma_in_group whole before middle digits inWhole
        exact ⟨d, rest, some, split, three, by rw [same, behind]; rfl⟩

theorem comma_placed (index : Nat) (inside : index < whole.length) (plain : ',' ∉ tail) :
    CommaBefore (groupDigits whole ++ tail) index ↔ index ≠ 0 ∧ (whole.length - index) % 3 = 0 := by
  constructor
  · rintro ⟨before, c, after, split, _, rfl⟩
    obtain ⟨d, rest, some, same, three, _⟩ := comma_in_whole whole tail digits before _ plain split
    refine ⟨fun none => some (List.length_eq_zero_iff.mp none), ?_⟩
    have length := congrArg List.length same
    rw [List.length_append, List.length_cons] at length
    rw [length, Nat.add_sub_cancel_left, three]
  · rintro ⟨notFirst, three⟩
    have split : whole = whole.take index ++ whole[index] :: whole.drop (index + 1) := by
      rw [← List.drop_eq_getElem_cons inside, List.take_append_drop]
    have front : (whole.take index).length = index := List.length_take_of_le inside.le
    have some : whole.take index ≠ [] := by
      rw [← List.length_pos_iff, front]
      exact Nat.pos_of_ne_zero notFirst
    have behind : ((whole.drop (index + 1)).length + 1) % 3 = 0 := by
      rw [List.length_drop, ← three]
      congr 1
      omega
    obtain ⟨before, same, kept⟩ := group_behind _ whole[index] _ (fun c member => digits c (List.mem_of_mem_take member))
      some behind
    rw [← split] at same
    exact ⟨before, _, _, by rw [same, List.append_assoc]; rfl, digits _ (List.getElem_mem inside), by rw [kept, front]⟩

theorem commas_between_digits (before after : List Char) (plain : ',' ∉ tail)
    (split : groupDigits whole ++ tail = before ++ ',' :: after) :
    (withoutCommas before).length < whole.length ∧
      CommaBefore (groupDigits whole ++ tail) (withoutCommas before).length := by
  obtain ⟨d, rest, _, same, _, behind⟩ := comma_in_whole whole tail digits before after plain split
  have length := congrArg List.length same
  rw [List.length_append, List.length_cons] at length
  refine ⟨by omega, before, d, separated rest ++ tail, by rw [split, behind]; rfl, ?_, rfl⟩
  exact digits d (same ▸ List.mem_append_right _ (List.mem_cons_self ..))

omit digits

def IsTail (tail : List Char) : Prop := tail = [] ∨ ∃ ds, tail = '.' :: ds ∧ ∀ c ∈ ds, isDigit c = true

theorem tail_characters (ending : IsTail tail) : ∀ c ∈ tail, c = '.' ∨ isDigit c = true := by
  rcases ending with rfl | ⟨ds, rfl, all⟩
  · exact List.forall_mem_nil _
  · exact List.forall_mem_cons.mpr ⟨.inl rfl, fun c member => .inr (all c member)⟩

theorem tail_plain (ending : IsTail tail) : ',' ∉ tail := by
  intro member
  rcases tail_characters tail ending ',' member with point | digit
  · cases point
  · cases digit

theorem tail_found (ending : IsTail tail) : tail.dropWhile (· != '.') = tail := by
  rcases ending with rfl | ⟨ds, rfl, _⟩ <;> rfl

include digits

theorem decimal_one_byte (ending : IsTail tail) : Guarded.OneByte (whole ++ tail) := by
  have digitOne : ∀ c, isDigit c = true → c.utf8Size = 1 := fun c digit => by
    simpa using Text.of_all_digits (fun c => c.utf8Size == 1) (by decide) c digit
  refine List.forall_mem_append.mpr ⟨fun c member => digitOne c (digits c member), ?_⟩
  intro c member
  rcases tail_characters tail ending c member with rfl | digit
  · rfl
  · exact digitOne c digit

theorem group_whole (ending : IsTail tail) : groupThousands (whole ++ tail) = groupDigits whole ++ tail := by
  have noPoint : ∀ c ∈ whole, (c != '.') = true := by
    intro c member
    rw [bne_iff_ne]
    rintro rfl
    cases digits '.' member
  have nothing : tail.takeWhile (· != '.') = [] := by rcases ending with rfl | ⟨ds, rfl, _⟩ <;> rfl
  rw [groupThousands, List.takeWhile_append_of_pos noPoint, List.dropWhile_append_of_pos noPoint, tail_found tail ending,
    nothing, List.append_nil]

-- A decimal is always grouped, with a comma before each digit that a multiple of three begins with, but the first.
theorem digits_in_threes (ending : IsTail tail) :
    Guarded.groupThousands? (whole ++ tail) = some (groupThousands (whole ++ tail)) ∧
      GroupedByThree whole tail (groupThousands (whole ++ tail)) := by
  have plain := tail_plain tail ending
  refine ⟨Guarded.group_thousands_completes _ (decimal_one_byte whole tail digits ending), ?_⟩
  rw [group_whole whole tail digits ending]
  constructor
  case same => rw [without_commas_append, grouped_plain whole digits, without_commas_own tail plain]
  case tailKept => rw [List.dropWhile_append_of_pos (group_without_point whole digits), tail_found tail ending]
  case placed => exact fun index inside => comma_placed whole tail digits index inside plain
  case nowhereElse => exact fun before after split => commas_between_digits whole tail digits before after plain split

omit digits

theorem six_digits_in_threes :
    GroupedByThree ['1', '2', '3', '4', '5', '6'] ['.', '7'] ['1', '2', '3', ',', '4', '5', '6', '.', '7'] ∧
      CommaBefore ['1', '2', '3', ',', '4', '5', '6', '.', '7'] 3 ∧
      ¬CommaBefore ['1', '2', '3', ',', '4', '5', '6', '.', '7'] 0 := by
  have grouped : GroupedByThree ['1', '2', '3', '4', '5', '6'] ['.', '7'] ['1', '2', '3', ',', '4', '5', '6', '.', '7'] :=
    (digits_in_threes ['1', '2', '3', '4', '5', '6'] ['.', '7'] (by simp [isDigit])
      (.inr ⟨['7'], rfl, by simp [isDigit]⟩)).2
  refine ⟨grouped, (grouped.placed 3 (by decide)).mpr (by decide), fun comma => ?_⟩
  exact absurd ((grouped.placed 0 (by decide)).mp comma) (by decide)

end FormulaField.DisplayFormat
