import FormulaField.DisplayFormat
import FormulaField.Function.Texts
import FormulaField.Proofs.Formula.Runs
import FormulaField.Proofs.Number.Text
import FormulaField.Proofs.Text.Characters

set_option autoImplicit false

namespace FormulaField.Guarded

open Number (isDigit digits fixed pointBefore ratio roundHalfEven tenTo)

-- The characters before a byte and from it on; there are none where the byte is inside a character or past the end.
def splitAtByte? : Nat → List Char → Option (List Char × List Char)
  | 0, cs => some ([], cs)
  | _ + 1, [] => none
  | byte + 1, c :: cs =>
      if c.utf8Size ≤ byte + 1 then
        (splitAtByte? (byte + 1 - c.utf8Size) cs).map fun parts => (c :: parts.1, parts.2)
      else none

def minus? (a b : Nat) : Option Nat := if b ≤ a then some (a - b) else none

def fixed? (decimals : Nat) (x : Float) : Option (List Char) :=
  if decimals ≤ DisplayFormat.maxDecimals then some (Number.fixed decimals x) else none

theorem split_at_boundary (before after : List Char) :
    splitAtByte? (byteLength before) (before ++ after) = some (before, after) := by
  induction before with
  | nil =>
      rw [byteLength, splitAtByte?]
      rfl
  | cons c before ih =>
      have size := c.utf8Size_pos
      obtain ⟨byte, same⟩ := Nat.exists_eq_succ_of_ne_zero (Nat.ne_of_gt (Nat.add_pos_left size (byteLength before)))
      rw [byteLength, same, List.cons_append, splitAtByte?, if_pos (by omega)]
      rw [show byte + 1 - c.utf8Size = byteLength before by omega, ih]
      rfl

theorem split_at_character (cs : List Char) (n : Nat) :
    splitAtByte? (byteLength (cs.take n)) cs = some (cs.take n, cs.drop n) := by
  have split := split_at_boundary (cs.take n) (cs.drop n)
  rwa [List.take_append_drop] at split

-- Inside the one character of this text there is no cut.
example : splitAtByte? 1 ['é'] = none := rfl

def characterByte? (cs : List Char) (n : Nat) : Option Nat :=
  if n < cs.length then some (byteLength (cs.take n)) else none

def occurrenceByte? (sought : List Char) : List Char → Option Nat
  | [] => if sought = [] then some 0 else none
  | c :: cs =>
      if sought.isPrefixOf (c :: cs) then some 0 else (occurrenceByte? sought cs).map (c.utf8Size + ·)

def startByte? (cs : List Char) (start : Nat) : Option Nat :=
  match characterByte? cs start with
  | some byte => some byte
  | none => if start = cs.length then some (byteLength cs) else none

-- The place of the first occurrence from a character on: the search runs over bytes, and the characters before
-- the byte that it ends at are counted. Only the outer option is for breaking off.
def find? (sought cs : List Char) (start : Nat) : Option (Option Nat) :=
  match startByte? cs start with
  | none => some none
  | some first => do
      let (_, rest) ← splitAtByte? first cs
      match occurrenceByte? sought rest with
      | none => some none
      | some further => do
          let (before, _) ← splitAtByte? (first + further) cs
          return some before.length

theorem occurrence_byte (sought cs : List Char) :
    occurrenceByte? sought cs = (Texts.firstOccurrence? sought cs).map fun n => byteLength (cs.take n) := by
  induction cs with
  | nil =>
      rw [occurrenceByte?, Texts.firstOccurrence?]
      split
      · rfl
      · rfl
  | cons c cs ih =>
      rw [occurrenceByte?, Texts.firstOccurrence?]
      split
      · rfl
      · rw [ih, Option.map_map, Option.map_map]
        rfl

theorem start_byte (cs : List Char) (start : Nat) (inside : start ≤ cs.length) :
    startByte? cs start = some (byteLength (cs.take start)) := by
  rw [startByte?, characterByte?]
  rcases Nat.lt_or_eq_of_le inside with before | rfl
  · rw [if_pos before]
  · rw [if_neg (Nat.lt_irrefl _), List.take_length]
    exact if_pos rfl

theorem start_byte_outside (cs : List Char) (start : Nat) (outside : ¬start ≤ cs.length) : startByte? cs start = none := by
  rw [startByte?, characterByte?, if_neg (by omega)]
  exact if_neg (by omega)

theorem first_occurrence_inside (sought cs : List Char) (n : Nat) (found : Texts.firstOccurrence? sought cs = some n) :
    n ≤ cs.length := by
  induction cs generalizing n with
  | nil =>
      rw [Texts.firstOccurrence?] at found
      split at found
      · cases found
        exact Nat.le_refl 0
      · cases found
  | cons c cs ih =>
      rw [Texts.firstOccurrence?] at found
      split at found
      · cases found
        exact Nat.zero_le _
      · obtain ⟨earlier, here, rfl⟩ := Option.map_eq_some_iff.mp found
        exact Nat.succ_le_succ (ih earlier here)

theorem find_completes (sought cs : List Char) (start : Nat) :
    find? sought cs start = some (Texts.find? sought cs start) := by
  rw [find?, Texts.find?]
  by_cases inside : start ≤ cs.length
  · rw [start_byte cs start inside, if_pos inside]
    simp only [split_at_character, Option.bind_eq_bind, Option.bind_some, occurrence_byte]
    cases found : Texts.firstOccurrence? sought (cs.drop start) with
    | none => rfl
    | some n =>
        have within := first_occurrence_inside sought _ n found
        rw [List.length_drop] at within
        have bytes : byteLength (cs.take start) + byteLength ((cs.drop start).take n) = byteLength (cs.take (start + n)) := by
          rw [← byte_length_append, List.take_add]
        simp only [Option.map_some, bytes, split_at_character, Option.bind_some]
        rw [List.length_take, Nat.min_eq_left (by omega)]
        rfl
  · rw [start_byte_outside cs start inside, if_neg inside]

def right? (cs : List Char) (count : Nat) : Option (List Char) :=
  if cs.length ≤ count then some cs else (minus? cs.length count).map cs.drop

theorem right_completes (cs : List Char) (count : Nat) : right? cs count = some (Texts.right cs count) := by
  rw [right?, Texts.right]
  by_cases all : cs.length ≤ count
  · rw [if_pos all, Nat.sub_eq_zero_of_le all, List.drop_zero]
  · rw [if_neg all, minus?, if_pos (Nat.le_of_not_le all), Option.map_some]

-- Commas between the digits of a whole part, counted from the left: from each digit to the end there are as many
-- bytes as the part has after those before it.
def groupFrom? (total : Nat) : Nat → List Char → Option (List Char)
  | _, [] => some []
  | index, c :: rest => do
      let grouped ← groupFrom? total (index + 1) rest
      if index = 0 then return c :: grouped
      else do
        let left ← minus? total index
        return if left % 3 = 0 then ',' :: c :: grouped else c :: grouped

def groupThousands? (cs : List Char) : Option (List Char) := do
  let (whole, fraction) ← match occurrenceByte? ['.'] cs with
    | some byte => splitAtByte? byte cs
    | none => some (cs, [])
  let grouped ← groupFrom? (byteLength whole) 0 whole
  return grouped ++ fraction

def separated (cs : List Char) : List Char :=
  if cs.length % 3 = 0 ∧ cs ≠ [] then ',' :: DisplayFormat.groupDigits cs else DisplayFormat.groupDigits cs

theorem group_digits_cons (c : Char) (rest : List Char) :
    DisplayFormat.groupDigits (c :: rest) = c :: separated rest := by
  rw [DisplayFormat.groupDigits, separated]
  split
  · rfl
  · rfl

theorem separated_cons (c : Char) (rest : List Char) : separated (c :: rest) =
    if (rest.length + 1) % 3 = 0 then ',' :: c :: separated rest else c :: separated rest := by
  rw [separated, List.length_cons, group_digits_cons]
  by_cases third : (rest.length + 1) % 3 = 0
  · rw [if_pos third, if_pos ⟨third, List.cons_ne_nil c rest⟩]
  · rw [if_neg third, if_neg fun both => third both.1]

theorem group_from (total index : Nat) (cs : List Char) (length : index + cs.length = total) :
    groupFrom? total index cs = some (if index = 0 then DisplayFormat.groupDigits cs else separated cs) := by
  induction cs generalizing index with
  | nil => simp [groupFrom?, separated, DisplayFormat.groupDigits]
  | cons c rest ih =>
      rw [List.length_cons] at length
      have left : minus? total index = some (rest.length + 1) := by
        rw [minus?, if_pos (by omega)]
        congr 1
        omega
      rw [groupFrom?, ih (index + 1) (by omega), if_neg (Nat.succ_ne_zero index), group_digits_cons]
      simp only [Option.bind_eq_bind, Option.bind_some, Option.pure_def]
      by_cases first : index = 0
      · rw [if_pos first, if_pos first]
      · rw [if_neg first, if_neg first, left, Option.bind_some, separated_cons]

theorem character_byte (mark : Char) (cs : List Char) : occurrenceByte? [mark] cs =
    if mark ∈ cs then some (byteLength (cs.takeWhile (· != mark))) else none := by
  induction cs with
  | nil => rfl
  | cons c cs ih =>
      by_cases here : c = mark
      · subst here
        simp [occurrenceByte?, byteLength]
      · have other : mark ≠ c := fun same => here same.symm
        rw [occurrenceByte?, ih]
        by_cases later : mark ∈ cs
        · simp [other, here, later, byteLength]
        · simp [other, later]

def OneByte (cs : List Char) : Prop := ∀ c ∈ cs, c.utf8Size = 1

theorem byte_length_one (cs : List Char) (all : OneByte cs) : byteLength cs = cs.length := by
  induction cs with
  | nil => rfl
  | cons c cs ih =>
      rw [byteLength, all c (by simp), ih fun d member => all d (by simp [member]), List.length_cons, Nat.add_comm]

theorem group_thousands_completes (cs : List Char) (all : OneByte cs) :
    groupThousands? cs = some (DisplayFormat.groupThousands cs) := by
  have whole : OneByte (cs.takeWhile (· != '.')) := fun c member => all c ((List.takeWhile_sublist _).subset member)
  have grouped : groupFrom? (byteLength (cs.takeWhile (· != '.'))) 0 (cs.takeWhile (· != '.')) =
      some (DisplayFormat.groupDigits (cs.takeWhile (· != '.'))) := by
    rw [byte_length_one _ whole, group_from _ 0 _ (Nat.zero_add _), if_pos rfl]
  rw [groupThousands?, character_byte, DisplayFormat.groupThousands]
  by_cases point : '.' ∈ cs
  · have split := split_at_boundary (cs.takeWhile (· != '.')) (cs.dropWhile (· != '.'))
    rw [List.takeWhile_append_dropWhile] at split
    simp only [if_pos point, split, Option.bind_eq_bind, Option.bind_some, grouped, Option.pure_def]
  · have all : ∀ c ∈ cs, (c != '.') = true := fun c member => bne_iff_ne.mpr fun same => point (same ▸ member)
    rw [List.takeWhile_eq_self_iff.mpr all] at grouped ⊢
    simp only [if_neg point, Option.bind_eq_bind, Option.bind_some, grouped, Option.pure_def,
      List.dropWhile_eq_nil_iff.mpr all]

theorem digits_one_byte (n : Nat) : OneByte (digits n) := fun c member => by
  simpa using Text.of_all_digits (fun c => c.utf8Size == 1) (by decide) c (Number.digits_are_digits n c member)

theorem point_one_byte (places : Nat) (ds : List Char) (all : OneByte ds) : OneByte (pointBefore places ds) := by
  have padded : OneByte (List.replicate (places + 1 - ds.length) '0' ++ ds) := by
    intro c member
    rcases List.mem_append.mp member with zero | digit
    · rw [List.eq_of_mem_replicate zero]
      rfl
    · exact all c digit
  rw [pointBefore]
  split
  · exact all
  · intro c member
    rcases List.mem_append.mp member with before | rest
    · exact padded c (List.mem_of_mem_take before)
    · rcases List.mem_cons.mp rest with rfl | after
      · rfl
      · exact padded c (List.mem_of_mem_drop after)

theorem words_one_byte : OneByte "NaN".toList ∧ OneByte "inf".toList := by
  have notANumber : "NaN".toList = ['N', 'a', 'N'] := rfl
  have infinite : "inf".toList = ['i', 'n', 'f'] := rfl
  simp only [notANumber, infinite, OneByte, List.forall_mem_cons]
  exact ⟨⟨rfl, rfl, rfl, List.forall_mem_nil _⟩, rfl, rfl, rfl, List.forall_mem_nil _⟩

theorem fixed_one_byte (decimals : Nat) (x : Float) : OneByte (fixed decimals x) := by
  intro c member
  rw [fixed] at member
  rcases List.mem_append.mp member with sign | rest
  · rw [Number.sign] at sign
    split at sign
    · rw [List.mem_singleton.mp sign]
      rfl
    · cases sign
  · split at rest
    · exact point_one_byte _ _ (digits_one_byte _) c rest
    · split at rest
      · exact words_one_byte.1 c rest
      · exact words_one_byte.2 c rest

theorem fixed_completes (decimals : Nat) (x : Float) :
    fixed? (min decimals DisplayFormat.maxDecimals) x = some (fixed (min decimals DisplayFormat.maxDecimals) x) :=
  if_pos (Nat.min_le_right _ _)

def showNumber? (format : DisplayFormat) (decimals : Nat) (n : Float) : Option (List Char) :=
  match format with
  | .currency => do
      let amount ← fixed? decimals n.abs
      let grouped ← groupThousands? amount
      return Number.sign (n < 0) ++ '$' :: grouped
  | .percentage => do
      let amount ← fixed? decimals (n * 100)
      return amount ++ ['%']
  | _ => fixed? decimals n

def display? (format : DisplayFormat) (decimals : Nat) (v : Value) : Option String :=
  let decimals := min decimals DisplayFormat.maxDecimals
  match format, v with
  | _, .empty => some ""
  | .number, .number n =>
      if n.isFinite then (showNumber? .number decimals n).map String.ofList else some v.toText
  | .currency, .number n =>
      if n.isFinite then (showNumber? .currency decimals n).map String.ofList else some v.toText
  | .percentage, .number n =>
      if n.isFinite then (showNumber? .percentage decimals n).map String.ofList else some v.toText
  | .date, v => some (match v.toInstant? with
      | some i => i.dateText
      | none => v.toText)
  | .datetime, v => some (match v.toInstant? with
      | some i => i.dateTimeText
      | none => v.toText)
  | _, v => some v.toText

theorem show_number_completes (format : DisplayFormat) (decimals : Nat) (n : Float) :
    showNumber? format (min decimals DisplayFormat.maxDecimals) n =
      some (format.showNumber (min decimals DisplayFormat.maxDecimals) n) := by
  cases format with
  | currency =>
      simp only [showNumber?, fixed_completes, Option.bind_eq_bind, Option.bind_some,
        group_thousands_completes _ (fixed_one_byte _ _), Option.pure_def, DisplayFormat.showNumber]
  | percentage =>
      simp only [showNumber?, fixed_completes, Option.bind_eq_bind, Option.bind_some, Option.pure_def,
        DisplayFormat.showNumber]
  | number => exact fixed_completes decimals n
  | date => exact fixed_completes decimals n
  | datetime => exact fixed_completes decimals n
  | text => exact fixed_completes decimals n

theorem display_completes (format : DisplayFormat) (decimals : Nat) (v : Value) :
    display? format decimals v = some (format.display decimals v) := by
  cases v with
  | number n =>
      cases format with
      | number | currency | percentage =>
          simp only [display?, DisplayFormat.display, show_number_completes, Option.map_some]
          split
          · rfl
          · rfl
      | date | datetime | text => rfl
  | empty | text s | boolean b | date i => cases format <;> rfl

end FormulaField.Guarded
