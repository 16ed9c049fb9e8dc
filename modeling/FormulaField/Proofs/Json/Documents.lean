import FormulaField.Proofs.Json.Decimals
import FormulaField.Proofs.Json.Strings

set_option autoImplicit false

namespace FormulaField.Json

open Lexeme Draft
open FormulaField.Number (isDigit digits sign isNegative)

mutual

def reread : Json → Draft
  | .null => .null
  | .boolean b => .boolean b
  | .integer i => .integer i
  | .decimal x => if x.isFinite then .decimal (reread? x) else .null
  | .text s => .text (some s)
  | .array items => .array (rereadItems items)
  | .object members => .object (rereadMembers members)

def rereadItems : List Json → List Draft
  | [] => []
  | item :: rest => item.reread :: rereadItems rest

def rereadMembers : List (String × Json) → List (Option String × Draft)
  | [] => []
  | (name, item) :: rest => (some name, item.reread) :: rereadMembers rest

end

mutual

def InWords : Json → Prop
  | .null => True
  | .boolean _ => True
  | .integer i => IsWord i
  | .decimal _ => True
  | .text _ => True
  | .array items => ItemsInWords items
  | .object members => MembersInWords members

def ItemsInWords : List Json → Prop
  | [] => True
  | item :: rest => item.InWords ∧ ItemsInWords rest

def MembersInWords : List (String × Json) → Prop
  | [] => True
  | (_, item) :: rest => item.InWords ∧ MembersInWords rest

end

theorem skip_blank (blank cs : List Char) (all : ∀ c ∈ blank, isSpace c = true) : skip (blank ++ cs) = skip cs :=
  List.dropWhile_append_of_pos all

theorem skip_word (c : Char) (cs : List Char) (word : isSpace c = false) : skip (c :: cs) = c :: cs := by
  simp [skip, word]

theorem skip_skip (cs : List Char) : skip (skip cs) = skip cs :=
  List.dropWhile_idempotent _ _

theorem new_line_blank (level : Nat) : ∀ c ∈ newLine level, isSpace c = true := by
  intro c member
  rcases List.mem_cons.mp member with rfl | space
  · rfl
  · rw [List.eq_of_mem_replicate space]
    rfl

theorem value_skip (fuel : Nat) (cs : List Char) : value? fuel (skip cs) = value? fuel cs := by
  cases fuel with
  | zero => rfl
  | succ fuel => simp only [value?, skip_skip]

theorem items_skip (fuel : Nat) (cs : List Char) : items? fuel (skip cs) = items? fuel cs := by
  cases fuel with
  | zero => rfl
  | succ fuel => simp only [items?, value_skip]

theorem members_skip (fuel : Nat) (cs : List Char) : members? fuel (skip cs) = members? fuel cs := by
  cases fuel with
  | zero => rfl
  | succ fuel => simp only [members?, skip_skip]

theorem digit_no_space (c : Char) (digit : isDigit c = true) : isSpace c = false := by
  rw [Bool.eq_false_iff]
  intro space
  simp only [isSpace, Bool.or_eq_true, beq_iff_eq] at space
  rcases space with ((rfl | rfl) | rfl) | rfl <;> cases digit

theorem number_value (fuel : Nat) (negative : Bool) (body tail : List Char)
    (first : ∃ c rest, body = c :: rest ∧ isDigit c = true) :
    value? (fuel + 1) (sign negative ++ body ++ tail) = number? negative (body ++ tail) := by
  obtain ⟨c, rest, rfl, digit⟩ := first
  cases negative with
  | true =>
      rw [value?]
      rfl
  | false =>
      rw [value?, sign, if_neg (by decide), List.nil_append, List.cons_append, skip_word c _ (digit_no_space c digit)]
      split
      case h_8 => rfl
      all_goals
        next same =>
          cases (List.cons.inj same).1
          cases digit

theorem integer_value (fuel : Nat) (i : Int) (tail : List Char) (word : IsWord i) (stops : Stops continuesNumber tail) :
    value? (fuel + 1) (integerChars i ++ tail) = some (.integer i, tail) := by
  have first : ∃ c rest, digits i.natAbs = c :: rest ∧ isDigit c = true := by
    simpa [numeralChars] using numeral_first ⟨digits i.natAbs, [], 0⟩ (Number.whole_digits _)
  rw [integerChars, number_value fuel _ _ tail first, word_read i tail word stops]

theorem decimal_value (fuel : Nat) (x : Float) (tail : List Char) (finite : x.isFinite = true)
    (stops : Stops continuesNumber tail) :
    value? (fuel + 1) (Number.documentChars x ++ tail) = some (.decimal (reread? x), tail) := by
  obtain ⟨body, d, chars, ⟨first, reads⟩, same⟩ := document_text x finite
  rw [chars, number_value fuel _ body tail first, reads tail stops, same]

theorem text_value (fuel : Nat) (s : String) (tail : List Char) :
    value? (fuel + 1) (quoted s ++ tail) = some (.text (some s), tail) := by
  rw [value?, quoted, List.cons_append, List.cons_append, skip_word _ _ rfl, List.append_assoc, List.singleton_append]
  simp only [string_read]
  rfl

theorem new_line_stops (level : Nat) (tail : List Char) : Stops continuesNumber (newLine level ++ tail) := by
  intro c member
  cases member
  rfl

theorem comma_stops (tail : List Char) : Stops continuesNumber (',' :: tail) := by
  intro c member
  cases member
  rfl

theorem skip_new_line (level : Nat) (c : Char) (tail : List Char) (word : isSpace c = false) :
    skip (newLine level ++ c :: tail) = c :: tail := by
  rw [skip_blank _ _ (new_line_blank level), skip_word c tail word]

theorem last_item (fuel : Nat) (cs rest tail : List Char) (item : Draft) (read : value? fuel cs = some (item, rest))
    (ended : skip rest = ']' :: tail) : items? (fuel + 1) cs = some ([item], tail) := by
  simp [items?, read, ended]

theorem next_item (fuel : Nat) (cs rest tail : List Char) (item : Draft) (items : List Draft) (after : List Char)
    (read : value? fuel cs = some (item, rest)) (next : skip rest = ',' :: tail)
    (others : items? fuel tail = some (items, after)) : items? (fuel + 1) cs = some (item :: items, after) := by
  simp [items?, read, next, others]

theorem last_member (fuel : Nat) (name : String) (cs rest tail : List Char) (item : Draft)
    (read : value? fuel cs = some (item, rest)) (ended : skip rest = '}' :: tail) :
    members? (fuel + 1) (quoted name ++ ':' :: cs) = some ([(some name, item)], tail) := by
  simp [members?, quoted, skip_word, isSpace, string_read, read, ended]

theorem next_member (fuel : Nat) (name : String) (cs rest tail : List Char) (item : Draft)
    (members : List (Option String × Draft)) (after : List Char) (read : value? fuel cs = some (item, rest))
    (next : skip rest = ',' :: tail) (others : members? fuel tail = some (members, after)) :
    members? (fuel + 1) (quoted name ++ ':' :: cs) = some ((some name, item) :: members, after) := by
  simp [members?, quoted, skip_word, isSpace, string_read, read, next, others]

-- What reads as items or members does not start with the closing bracket.
theorem array_value (fuel : Nat) (cs : List Char) (items : List Draft) (tail : List Char)
    (read : items? fuel (skip cs) = some (items, tail)) :
    value? (fuel + 1) ('[' :: cs) = some (.array items, tail) := by
  rw [value?, skip_word _ _ rfl]
  simp only
  split
  next rest same =>
    rw [same] at read
    rcases fuel with _ | _ | fuel <;> cases read
  next => simp [read]

theorem object_value (fuel : Nat) (cs : List Char) (members : List (Option String × Draft)) (tail : List Char)
    (read : members? fuel (skip cs) = some (members, tail)) :
    value? (fuel + 1) ('{' :: cs) = some (.object members, tail) := by
  rw [value?, skip_word _ _ rfl]
  simp only
  split
  next rest same =>
    rw [same] at read
    cases fuel <;> cases read
  next => simp [read]

theorem value_space (fuel : Nat) (cs : List Char) : value? fuel (' ' :: cs) = value? fuel cs := by
  rw [← value_skip, ← value_skip fuel cs]
  rfl

mutual

theorem value_read (level fuel : Nat) (j : Json) (tail : List Char) (words : j.InWords)
    (enough : (prettyChars level j).length ≤ fuel) (stops : Stops continuesNumber tail) :
    value? (fuel + 1) (prettyChars level j ++ tail) = some (j.reread, tail) := by
  cases j with
  | null => rfl
  | boolean b => cases b <;> rfl
  | integer i => exact integer_value fuel i tail words stops
  | decimal x =>
      rw [prettyChars, reread]
      by_cases finite : x.isFinite = true
      · rw [if_pos finite, if_pos finite, decimal_value fuel x tail finite stops]
      · rw [if_neg finite, if_neg finite]
        rfl
  | text s => exact text_value fuel s tail
  | array items =>
      cases items with
      | nil => rfl
      | cons item rest =>
          simp only [prettyChars, List.length_append, List.length_cons, List.length_nil] at enough
          obtain ⟨fuel, rfl⟩ : ∃ less, fuel = less + 1 := ⟨fuel - 1, by omega⟩
          have read := items_read (level + 1) fuel level item rest tail words (by omega)
          have chars : prettyChars level (.array (item :: rest)) ++ tail =
              '[' :: (prettyItems (level + 1) (item :: rest) ++ (newLine level ++ ']' :: tail)) := by
            simp [prettyChars]
          rw [chars, reread]
          exact array_value (fuel + 1) _ _ tail read
  | object members =>
      cases members with
      | nil => rfl
      | cons member rest =>
          obtain ⟨name, item⟩ := member
          simp only [prettyChars, List.length_append, List.length_cons, List.length_nil] at enough
          obtain ⟨fuel, rfl⟩ : ∃ less, fuel = less + 1 := ⟨fuel - 1, by omega⟩
          have read := members_read (level + 1) fuel level name item rest tail words (by omega)
          have chars : prettyChars level (.object ((name, item) :: rest)) ++ tail =
              '{' :: (prettyMembers (level + 1) ((name, item) :: rest) ++ (newLine level ++ '}' :: tail)) := by
            simp [prettyChars]
          rw [chars, reread]
          exact object_value (fuel + 1) _ _ tail read

theorem items_read (level fuel outer : Nat) (item : Json) (rest : List Json) (tail : List Char)
    (words : ItemsInWords (item :: rest)) (enough : (prettyItems level (item :: rest)).length ≤ fuel) :
    items? (fuel + 1) (skip (prettyItems level (item :: rest) ++ (newLine outer ++ ']' :: tail))) =
      some (rereadItems (item :: rest), tail) := by
  obtain ⟨here, others⟩ := words
  cases rest with
  | nil =>
      have longer : (prettyChars level item).length + 1 ≤ fuel := by
        simp only [prettyItems, newLine, List.length_append, List.length_cons] at enough
        omega
      obtain ⟨fuel, rfl⟩ : ∃ less, fuel = less + 1 := ⟨fuel - 1, by omega⟩
      have read := value_read level fuel item (newLine outer ++ ']' :: tail) here (by omega) (new_line_stops outer _)
      rw [prettyItems, List.append_assoc, skip_blank _ _ (new_line_blank level), items_skip]
      exact last_item _ _ _ tail _ read (skip_new_line outer ']' tail rfl)
  | cons next rest =>
      simp only [prettyItems, newLine, List.length_append, List.length_cons] at enough
      obtain ⟨fuel, rfl⟩ : ∃ less, fuel = less + 1 := ⟨fuel - 1, by omega⟩
      have read := value_read level fuel item (',' :: (prettyItems level (next :: rest) ++ (newLine outer ++ ']' :: tail)))
        here (by omega) (comma_stops _)
      have readRest := items_read level fuel outer next rest tail others (by omega)
      have chars : prettyItems level (item :: next :: rest) ++ (newLine outer ++ ']' :: tail) = newLine level ++
          (prettyChars level item ++ ',' :: (prettyItems level (next :: rest) ++ (newLine outer ++ ']' :: tail))) := by
        simp [prettyItems]
      rw [items_skip] at readRest
      rw [chars, skip_blank _ _ (new_line_blank level), items_skip]
      exact next_item _ _ _ _ _ _ _ read (skip_word ',' _ rfl) readRest

theorem members_read (level fuel outer : Nat) (name : String) (item : Json) (rest : List (String × Json))
    (tail : List Char) (words : MembersInWords ((name, item) :: rest))
    (enough : (prettyMembers level ((name, item) :: rest)).length ≤ fuel) :
    members? (fuel + 1) (skip (prettyMembers level ((name, item) :: rest) ++ (newLine outer ++ '}' :: tail))) =
      some (rereadMembers ((name, item) :: rest), tail) := by
  obtain ⟨here, others⟩ := words
  cases rest with
  | nil =>
      simp only [prettyMembers, newLine, List.length_append, List.length_cons] at enough
      obtain ⟨fuel, rfl⟩ : ∃ less, fuel = less + 1 := ⟨fuel - 1, by omega⟩
      have read := value_read level fuel item (newLine outer ++ '}' :: tail) here (by omega) (new_line_stops outer _)
      have chars : prettyMembers level [(name, item)] ++ (newLine outer ++ '}' :: tail) = newLine level ++
          (quoted name ++ ':' :: ' ' :: (prettyChars level item ++ (newLine outer ++ '}' :: tail))) := by
        simp [prettyMembers]
      rw [chars, skip_blank _ _ (new_line_blank level), members_skip]
      exact last_member _ _ _ _ tail _ ((value_space _ _).trans read) (skip_new_line outer '}' tail rfl)
  | cons next rest =>
      obtain ⟨nextName, nextItem⟩ := next
      simp only [prettyMembers, newLine, List.length_append, List.length_cons] at enough
      obtain ⟨fuel, rfl⟩ : ∃ less, fuel = less + 1 := ⟨fuel - 1, by omega⟩
      have read := value_read level fuel item
        (',' :: (prettyMembers level ((nextName, nextItem) :: rest) ++ (newLine outer ++ '}' :: tail)))
        here (by omega) (comma_stops _)
      have readRest := members_read level fuel outer nextName nextItem rest tail others (by omega)
      have chars : prettyMembers level ((name, item) :: (nextName, nextItem) :: rest) ++ (newLine outer ++ '}' :: tail) =
          newLine level ++ (quoted name ++ ':' :: ' ' :: (prettyChars level item ++
            ',' :: (prettyMembers level ((nextName, nextItem) :: rest) ++ (newLine outer ++ '}' :: tail)))) := by
        simp [prettyMembers]
      rw [members_skip] at readRest
      rw [chars, skip_blank _ _ (new_line_blank level), members_skip]
      exact next_member _ _ _ _ _ _ _ _ ((value_space _ _).trans read) (skip_word ',' _ rfl) readRest

end

theorem blank_stops (blank : List Char) (all : ∀ c ∈ blank, isSpace c = true) : Stops continuesNumber blank := by
  intro c member
  have space := all c (List.mem_of_mem_head? member)
  simp only [isSpace, Bool.or_eq_true, beq_iff_eq] at space
  rcases space with ((rfl | rfl) | rfl) | rfl <;> rfl

theorem document_read (j : Json) (blank : List Char) (words : j.InWords) (all : ∀ c ∈ blank, isSpace c = true) :
    Draft.ofChars? (prettyChars 0 j ++ blank) = some j.reread := by
  have enough : (prettyChars 0 j).length ≤ 2 * (prettyChars 0 j ++ blank).length + 1 := by
    rw [List.length_append]
    omega
  have none : skip blank = [] := List.dropWhile_eq_nil_iff.mpr all
  rw [Draft.ofChars?, value_read 0 _ j blank words enough (blank_stops blank all)]
  simp [none]

theorem pretty_read (j : Json) (words : j.InWords) : Draft.ofText? j.pretty = some j.reread := by
  have read := document_read j [] words (by simp)
  rw [List.append_nil] at read
  rw [Draft.ofText?, pretty, String.toList_ofList, read]

end FormulaField.Json
