import FormulaField.Proofs.Formula.Tokens
import FormulaField.Proofs.Text.Characters
import FormulaField.Value
import Mathlib.Data.Nat.Find

set_option autoImplicit false

namespace FormulaField.LeadingNumeral

open Number (naturalOf)
open Text (isAscii isAsciiDigit isDecimalDigit trimStart)

inductive Sign : Bool → List Char → Prop where
  | none : Sign false []
  | plus : Sign false ['+']
  | minus : Sign true ['-']

def scale (below : Bool) (ds : List Char) : Int := if below then -(naturalOf ds : Int) else naturalOf ds

section Form

variable (digit : Char → Bool)

def Digits (ds : List Char) : Prop := ds ≠ [] ∧ ∀ c ∈ ds, digit c = true

inductive Places : List Char → List Char → List Char → Prop where
  | whole (ds : List Char) (digits : Digits digit ds) : Places ds [] ds
  | pointed (ds fs : List Char) (digits : Digits digit ds) (further : ∀ c ∈ fs, digit c = true) :
      Places ds fs (ds ++ '.' :: fs)
  | fraction (fs : List Char) (digits : Digits digit fs) : Places [] fs ('.' :: fs)

inductive Power : Bool → List Char → List Char → Prop where
  | none : Power false [] []
  | scaled (mark : Char) (below : Bool) (sign ds : List Char) (isMark : mark = 'e' ∨ mark = 'E')
      (signed : Sign below sign) (digits : Digits digit ds) : Power below ds (mark :: (sign ++ ds))

inductive Written : LeadingNumeral → List Char → Prop where
  | parts (negative : Bool) (sign whole fraction places : List Char) (below : Bool) (ds power : List Char)
      (signed : Sign negative sign) (placed : Places digit whole fraction places) (powered : Power digit below ds power) :
      Written ⟨negative, ⟨whole, fraction, scale below ds⟩⟩ (sign ++ (places ++ power))

structure Longest (n : LeadingNumeral) (p cs : List Char) : Prop where
  written : Written digit n p
  start : p <+: cs
  longest : ∀ m q, Written digit m q → q <+: cs → q.length ≤ p.length

-- The number that a text starts with, and zero where it starts with none.
inductive StartsWith (cs : List Char) : Float → Prop where
  | numeral (n : LeadingNumeral) (p : List Char) (longest : Longest digit n p cs) : StartsWith cs n.value
  | nothing (none : ∀ n p, Written digit n p → ¬p <+: cs) : StartsWith cs 0

end Form

-- The longest numeral with digits of any script is one of ASCII.
def InAscii (cs : List Char) : Prop := ∀ n p, Longest isDecimalDigit n p cs → ∀ c ∈ p, isAscii c = true

def marks : List Char := ['+', '-', '.', 'e', 'E']

theorem mark_no_digit (c : Char) (mark : c ∈ marks) : isDecimalDigit c = false := by
  simp only [marks, List.mem_cons, List.not_mem_nil, or_false] at mark
  rcases mark with rfl | rfl | rfl | rfl | rfl <;> rfl

theorem mark_ascii (c : Char) (mark : c ∈ marks) : isAscii c = true := by
  simp only [marks, List.mem_cons, List.not_mem_nil, or_false] at mark
  rcases mark with rfl | rfl | rfl | rfl | rfl <;> rfl

theorem ascii_digit (c : Char) : isAsciiDigit c = true ↔ isDecimalDigit c = true ∧ isAscii c = true := by
  constructor
  · intro digit
    have code := Text.digit_code c digit
    have ascii : isAscii c = true := by
      simp only [Text.digitCodes, List.mem_cons, List.not_mem_nil, or_false] at code
      rw [isAscii, decide_eq_true_eq]
      omega
    rw [isDecimalDigit, if_pos ascii]
    exact ⟨digit, ascii⟩
  · rintro ⟨digit, ascii⟩
    rwa [isDecimalDigit, if_pos ascii] at digit

theorem sign_marks (negative : Bool) (sign : List Char) (signed : Sign negative sign) : sign ⊆ marks := by
  cases signed <;> decide

section Characters

variable {digit : Char → Bool}

theorem places_digits (whole fraction places : List Char) (placed : Places digit whole fraction places) :
    (∀ c ∈ whole ++ fraction, digit c = true) ∧ whole ++ fraction ⊆ places ∧
      ∀ c ∈ places, c ∈ whole ++ fraction ∨ c ∈ marks := by
  have point : '.' ∈ marks := by decide
  cases placed with
  | whole _ digits => exact ⟨by simpa using digits.2, by simp, by simp +contextual⟩
  | pointed _ _ digits further =>
      refine ⟨List.forall_mem_append.mpr ⟨digits.2, further⟩, by intro c; simp +contextual [or_imp], ?_⟩
      intro c member
      rcases List.mem_append.mp member with early | late
      · exact .inl (List.mem_append_left _ early)
      · rcases List.mem_cons.mp late with rfl | late
        · exact .inr point
        · exact .inl (List.mem_append_right _ late)
  | fraction _ digits =>
      refine ⟨digits.2, List.subset_cons_self _ _, ?_⟩
      intro c member
      rcases List.mem_cons.mp member with rfl | late
      · exact .inr point
      · exact .inl late

theorem power_digits (below : Bool) (ds power : List Char) (powered : Power digit below ds power) :
    (∀ c ∈ ds, digit c = true) ∧ ds ⊆ power ∧ ∀ c ∈ power, c ∈ ds ∨ c ∈ marks := by
  cases powered with
  | none => simp
  | scaled mark _ sign _ isMark signed digits =>
      refine ⟨digits.2, by intro c; simp +contextual, ?_⟩
      intro c member
      rcases List.mem_cons.mp member with rfl | later
      · rcases isMark with rfl | rfl <;> exact .inr (by decide)
      · rcases List.mem_append.mp later with inSign | late
        · exact .inr (sign_marks below sign signed inSign)
        · exact .inl late

theorem written_characters (n : LeadingNumeral) (p : List Char) (written : Written digit n p) :
    ∀ c ∈ p, digit c = true ∨ c ∈ marks := by
  obtain ⟨negative, sign, whole, fraction, places, below, ds, power, signed, placed, powered⟩ := written
  obtain ⟨placeDigits, _, placeCharacters⟩ := places_digits whole fraction places placed
  obtain ⟨powerDigits, _, powerCharacters⟩ := power_digits below ds power powered
  intro c member
  rcases List.mem_append.mp member with inSign | later
  · exact .inr (sign_marks negative sign signed inSign)
  rcases List.mem_append.mp later with inPlaces | inPower
  · exact (placeCharacters c inPlaces).imp (placeDigits c) id
  · exact (powerCharacters c inPower).imp (powerDigits c) id

theorem written_with (other : Char → Bool) (n : LeadingNumeral) (p : List Char) (written : Written digit n p)
    (same : ∀ c ∈ p, digit c = true → other c = true) : Written other n p := by
  obtain ⟨negative, sign, whole, fraction, places, below, ds, power, signed, placed, powered⟩ := written
  refine .parts negative sign whole fraction places below ds power signed ?_ ?_
  · obtain ⟨digits, inside, _⟩ := places_digits whole fraction places placed
    have all : ∀ c ∈ whole ++ fraction, other c = true :=
      fun c member => same c (by simp [inside member]) (digits c member)
    obtain ⟨wholeDigits, fractionDigits⟩ := List.forall_mem_append.mp all
    cases placed with
    | whole _ some => exact .whole whole ⟨some.1, wholeDigits⟩
    | pointed _ _ some _ => exact .pointed whole fraction ⟨some.1, wholeDigits⟩ fractionDigits
    | fraction _ some => exact .fraction fraction ⟨some.1, fractionDigits⟩
  · obtain ⟨digits, inside, _⟩ := power_digits below ds power powered
    have all : ∀ c ∈ ds, other c = true := fun c member => same c (by simp [inside member]) (digits c member)
    cases powered with
    | none => exact .none
    | scaled mark _ between _ isMark signed some => exact .scaled mark below between ds isMark signed ⟨some.1, all⟩

theorem longest_exists (cs : List Char) (n : LeadingNumeral) (p : List Char) (written : Written digit n p)
    (start : p <+: cs) : ∃ m q, Longest digit m q cs := by
  classical
  let lengths (length : Nat) : Prop := ∃ m q, Written digit m q ∧ q <+: cs ∧ q.length = length
  obtain ⟨m, q, own, inFront, length⟩ : lengths (Nat.findGreatest lengths cs.length) :=
    Nat.findGreatest_spec start.length_le ⟨n, p, written, start, rfl⟩
  refine ⟨m, q, own, inFront, fun other text otherWritten otherStart => ?_⟩
  rw [length]
  exact Nat.le_findGreatest otherStart.length_le ⟨other, text, otherWritten, otherStart, rfl⟩

theorem longest_text (n m : LeadingNumeral) (p q cs : List Char) (one : Longest digit n p cs)
    (other : Longest digit m q cs) : p = q :=
  (List.prefix_of_prefix_length_le one.start other.start (other.longest n p one.written one.start)).eq_of_length_le
    (one.longest m q other.written other.start)

theorem places_open (whole fraction places rest : List Char) (placed : Places digit whole fraction places) :
    ∀ c ∈ (places ++ rest).head?, digit c = true ∨ c = '.' := by
  have first (ds more : List Char) (digits : Digits digit ds) : ∀ c ∈ (ds ++ more).head?, digit c = true := by
    obtain ⟨d, others, rfl⟩ := List.exists_cons_of_ne_nil digits.1
    rintro c ⟨⟩
    exact digits.2 d (by simp)
  intro c member
  cases placed with
  | whole _ digits => exact .inl (first whole rest digits c member)
  | pointed _ _ digits further =>
      rw [List.append_assoc] at member
      exact .inl (first whole _ digits c member)
  | fraction _ digits =>
      cases member
      exact .inr rfl

theorem places_longer (whole fraction places : List Char) (c : Char) (placed : Places digit whole fraction places)
    (isDigit : digit c = true) : ∃ whole fraction, Places digit whole fraction (places ++ [c]) := by
  have longer (ds : List Char) (digits : ∀ d ∈ ds, digit d = true) : ∀ d ∈ ds ++ [c], digit d = true := by
    simpa [or_imp, forall_and, isDigit] using digits
  cases placed with
  | whole _ digits => exact ⟨_, _, .whole _ ⟨by simp, longer whole digits.2⟩⟩
  | pointed _ _ digits further =>
      rw [List.append_assoc, List.cons_append]
      exact ⟨_, _, .pointed whole _ digits (longer fraction further)⟩
  | fraction _ digits => exact ⟨_, _, .fraction _ ⟨by simp, longer fraction digits.2⟩⟩

theorem places_pointed (whole fraction places : List Char) (placed : Places digit whole fraction places)
    (noPoint : '.' ∉ places) : ∃ whole fraction, Places digit whole fraction (places ++ ['.']) := by
  cases placed with
  | whole _ digits => exact ⟨_, _, .pointed whole [] digits (by simp)⟩
  | pointed _ _ digits further => simp at noPoint
  | fraction _ digits => simp at noPoint

end Characters

theorem sign_taken (negative : Bool) (sign rest : List Char) (signed : Sign negative sign)
    (unsigned : ∀ c ∈ rest.head?, c ∉ ['-', '+']) : takeSign (sign ++ rest) = (negative, rest) := by
  cases signed with
  | none =>
      rw [List.nil_append, takeSign]
      · rintro more rfl
        exact unsigned '-' rfl (by decide)
      · rintro more rfl
        exact unsigned '+' rfl (by decide)
  | plus => rfl
  | minus => rfl

theorem sign_split (cs : List Char) : ∃ sign, Sign (takeSign cs).1 sign ∧ cs = sign ++ (takeSign cs).2 := by
  unfold takeSign
  split
  · exact ⟨['-'], .minus, rfl⟩
  · exact ⟨['+'], .plus, rfl⟩
  · exact ⟨[], .none, rfl⟩

theorem digit_no_sign (c : Char) (opens : isDecimalDigit c = true ∨ c = '.') : c ∉ ['-', '+'] := by
  intro member
  rcases opens with digit | rfl
  · have mark : c ∈ marks := by
      simp only [marks, List.mem_cons, List.not_mem_nil, or_false] at member ⊢
      tauto
    rw [mark_no_digit c mark] at digit
    cases digit
  · exact absurd member (by decide)

theorem drop_while_all (test : Char → Bool) (cs tail : List Char) (all : ∀ c ∈ cs, test c = true)
    (stops : Stops test tail) : (cs ++ tail).dropWhile test = tail := by
  have split := List.takeWhile_append_dropWhile (p := test) (l := cs ++ tail)
  rw [take_while_all test cs tail all stops] at split
  exact List.append_cancel_left split

structure EndsPlaces (places tail : List Char) : Prop where
  noDigit : Stops isDecimalDigit tail
  noPoint : '.' ∉ places → Stops (· == '.') tail

theorem places_taken (whole fraction places tail : List Char) (placed : Places isDecimalDigit whole fraction places)
    (ends : EndsPlaces places tail) : takeDigits? (places ++ tail) = some (whole, fraction, tail) := by
  have point (more : List Char) : Stops isDecimalDigit ('.' :: more) := by
    rintro c ⟨⟩
    rfl
  cases placed with
  | whole _ digits =>
      have noPoint := ends.noPoint fun member => absurd (digits.2 '.' member) (by decide)
      have taken := take_while_all isDecimalDigit whole tail digits.2 ends.noDigit
      have dropped := drop_while_all isDecimalDigit whole tail digits.2 ends.noDigit
      obtain ⟨d, ds, rfl⟩ := List.exists_cons_of_ne_nil digits.1
      simp only [takeDigits?, taken, dropped]
      split
      next nothing => cases nothing
      next nothing _ => cases nothing
      next => cases noPoint '.' rfl
      next => rfl
  | pointed _ _ digits further =>
      have taken := take_while_all isDecimalDigit whole ('.' :: (fraction ++ tail)) digits.2 (point _)
      have dropped := drop_while_all isDecimalDigit whole ('.' :: (fraction ++ tail)) digits.2 (point _)
      rw [List.append_assoc, List.cons_append]
      obtain ⟨d, ds, rfl⟩ := List.exists_cons_of_ne_nil digits.1
      simp only [takeDigits?, taken, dropped, take_while_all isDecimalDigit fraction tail further ends.noDigit,
        drop_while_all isDecimalDigit fraction tail further ends.noDigit]
  | fraction _ digits =>
      have taken := take_while_all isDecimalDigit [] ('.' :: (fraction ++ tail)) (by simp) (point _)
      have dropped := drop_while_all isDecimalDigit [] ('.' :: (fraction ++ tail)) (by simp) (point _)
      have some : fraction.isEmpty = false := by simpa using digits.1
      rw [List.nil_append] at taken dropped
      rw [List.cons_append]
      simp only [takeDigits?, taken, dropped, take_while_all isDecimalDigit fraction tail digits.2 ends.noDigit,
        drop_while_all isDecimalDigit fraction tail digits.2 ends.noDigit, some]
      rfl

theorem places_split (cs whole fraction rest : List Char) (taken : takeDigits? cs = some (whole, fraction, rest)) :
    ∃ places, Places isDecimalDigit whole fraction places ∧ places <+: cs := by
  have digits := all_of_take_while isDecimalDigit
  have split := List.takeWhile_append_dropWhile (p := isDecimalDigit) (l := cs)
  simp only [takeDigits?] at taken
  split at taken
  next more none point =>
    split at taken
    · cases taken
    next some =>
      cases taken
      rw [none, point, List.nil_append] at split
      refine ⟨_, .fraction _ ⟨by simpa using some, digits more⟩, ?_⟩
      rw [← split]
      exact List.cons_prefix_cons.mpr ⟨rfl, List.takeWhile_prefix _⟩
  next => cases taken
  next more point some =>
    cases taken
    rw [point] at split
    refine ⟨_, .pointed _ _ ⟨some, digits cs⟩ (digits more), ?_⟩
    conv_rhs => rw [← split]
    exact (List.prefix_append_right_inj _).mpr (List.cons_prefix_cons.mpr ⟨rfl, List.takeWhile_prefix _⟩)
  next some _ _ =>
    cases taken
    exact ⟨_, .whole _ ⟨some, digits cs⟩, List.takeWhile_prefix _⟩

def EndsPower (tail : List Char) : Prop :=
  ∀ mark below sign ds more, mark = 'e' ∨ mark = 'E' → Sign below sign → Digits isDecimalDigit ds →
    tail ≠ mark :: (sign ++ (ds ++ more))

theorem no_power_taken (tail : List Char) (ends : EndsPower tail) : (takeExponent tail).2 = [] := by
  cases tail with
  | nil => rfl
  | cons mark rest =>
      by_cases isMark : mark = 'e' ∨ mark = 'E'
      · rw [takeExponent, if_pos isMark]
        by_contra some
        obtain ⟨sign, signed, split⟩ := sign_split rest
        have digits := all_of_take_while isDecimalDigit (takeSign rest).2
        have whole := List.takeWhile_append_dropWhile (p := isDecimalDigit) (l := (takeSign rest).2)
        exact ends mark _ sign _ _ isMark signed ⟨some, digits⟩ (by rw [whole, ← split])
      · rw [takeExponent, if_neg isMark]

theorem power_taken (mark : Char) (below : Bool) (sign ds tail : List Char) (isMark : mark = 'e' ∨ mark = 'E')
    (signed : Sign below sign) (digits : Digits isDecimalDigit ds) (ends : Stops isDecimalDigit tail) :
    takeExponent (mark :: (sign ++ (ds ++ tail))) = (below, ds) := by
  have unsigned : ∀ c ∈ (ds ++ tail).head?, c ∉ ['-', '+'] := by
    intro c member
    exact digit_no_sign c (places_open ds [] ds tail (.whole ds digits) c member)
  rw [takeExponent, if_pos isMark, sign_taken below sign _ signed unsigned]
  simp only [take_while_all isDecimalDigit ds tail digits.2 ends]

def found? (cs : List Char) : Option (LeadingNumeral × List Char) :=
  (takeDigits? (takeSign cs).2).map fun (whole, fraction, rest) =>
    (⟨(takeSign cs).1, ⟨whole, fraction, scale (takeExponent rest).1 (takeExponent rest).2⟩⟩,
      whole ++ fraction ++ (takeExponent rest).2)

theorem of_chars_found (cs : List Char) :
    ofChars? cs = (found? cs).bind fun found => if found.2.all isAsciiDigit then some found.1 else none := by
  have unfolded : ofChars? cs = (takeDigits? (takeSign cs).2).bind fun parts =>
      if (parts.1 ++ parts.2.1 ++ (takeExponent parts.2.2).2).all isAsciiDigit then
        some ⟨(takeSign cs).1, ⟨parts.1, parts.2.1, scale (takeExponent parts.2.2).1 (takeExponent parts.2.2).2⟩⟩
      else none := rfl
  rw [unfolded, found?, Option.bind_map]
  rfl

theorem found_parts (negative : Bool) (sign whole fraction places rest : List Char) (signed : Sign negative sign)
    (placed : Places isDecimalDigit whole fraction places) (ends : EndsPlaces places rest) :
    found? (sign ++ (places ++ rest)) =
      some (⟨negative, ⟨whole, fraction, scale (takeExponent rest).1 (takeExponent rest).2⟩⟩,
        whole ++ fraction ++ (takeExponent rest).2) := by
  have unsigned : ∀ c ∈ (places ++ rest).head?, c ∉ ['-', '+'] :=
    fun c member => digit_no_sign c (places_open whole fraction places rest placed c member)
  rw [found?, sign_taken negative sign _ signed unsigned, places_taken whole fraction places rest placed ends,
    Option.map_some]

def Unlengthened (p tail : List Char) : Prop :=
  ∀ n more rest, tail = more ++ rest → Written isDecimalDigit n (p ++ more) → more = []

theorem longest_unlengthened (n : LeadingNumeral) (p tail : List Char)
    (longest : Longest isDecimalDigit n p (p ++ tail)) : Unlengthened p tail := by
  rintro m more rest rfl written
  have bound := longest.longest m (p ++ more) written (by simp)
  rw [List.length_append] at bound
  exact List.eq_nil_of_length_eq_zero (by omega)

theorem stops_unless (test : Char → Bool) (tail : List Char) (away : ∀ c rest, tail = [c] ++ rest → ¬test c = true) :
    Stops test tail := by
  intro c member
  obtain ⟨rest, rfl⟩ := List.head?_eq_some_iff.mp member
  exact Bool.eq_false_iff.mpr (away c rest rfl)

theorem plain_ends (negative : Bool) (sign whole fraction places tail : List Char) (signed : Sign negative sign)
    (placed : Places isDecimalDigit whole fraction places) (last : Unlengthened (sign ++ places) tail) :
    EndsPlaces places tail ∧ EndsPower tail := by
  have longer (whole fraction more rest : List Char) (split : tail = more ++ rest)
      (placed : Places isDecimalDigit whole fraction (places ++ more)) : more = [] := by
    have written := Written.parts negative sign whole fraction _ false [] [] signed placed .none
    rw [List.append_nil, ← List.append_assoc] at written
    exact last _ more rest split written
  refine ⟨⟨stops_unless _ _ fun c rest split digit => ?_, fun noPoint => stops_unless _ _ fun c rest split point => ?_⟩, ?_⟩
  · obtain ⟨_, _, further⟩ := places_longer whole fraction places c placed digit
    cases longer _ _ [c] rest split further
  · obtain ⟨_, _, further⟩ := places_pointed whole fraction places placed noPoint
    rw [beq_iff_eq] at point
    cases longer _ _ ['.'] rest (point ▸ split) further
  · intro mark below between ds more isMark powerSigned digits split
    have written := Written.parts negative sign whole fraction places below ds _ signed placed
      (.scaled mark below between ds isMark powerSigned digits)
    rw [← List.append_assoc] at written
    cases last _ _ more (by simp [split]) written

theorem scaled_ends (negative : Bool) (sign whole fraction places : List Char) (mark : Char) (below : Bool)
    (between ds tail : List Char) (signed : Sign negative sign) (placed : Places isDecimalDigit whole fraction places)
    (isMark : mark = 'e' ∨ mark = 'E') (powerSigned : Sign below between) (digits : Digits isDecimalDigit ds)
    (last : Unlengthened (sign ++ (places ++ mark :: (between ++ ds))) tail) : Stops isDecimalDigit tail := by
  refine stops_unless _ _ fun c rest split digit => ?_
  have longer : Digits isDecimalDigit (ds ++ [c]) := by
    refine ⟨by simp, ?_⟩
    simpa [or_imp, forall_and, digit] using digits.2
  have written := Written.parts negative sign whole fraction places below (ds ++ [c]) _ signed placed
    (.scaled mark below between (ds ++ [c]) isMark powerSigned longer)
  cases last _ [c] rest split (by simpa using written)

theorem mark_ends_places (places : List Char) (mark : Char) (rest : List Char) (isMark : mark = 'e' ∨ mark = 'E') :
    EndsPlaces places (mark :: rest) := by
  rcases isMark with rfl | rfl <;> refine ⟨?_, fun _ => ?_⟩ <;> rintro c ⟨⟩ <;> rfl

theorem digits_in_ascii (negative : Bool) (sign whole fraction places : List Char) (below : Bool) (ds power : List Char)
    (signed : Sign negative sign) (placed : Places isDecimalDigit whole fraction places)
    (powered : Power isDecimalDigit below ds power) :
    (whole ++ fraction ++ ds).all isAsciiDigit = true ↔ ∀ c ∈ sign ++ (places ++ power), isAscii c = true := by
  obtain ⟨placeDigits, inPlaces, placeCharacters⟩ := places_digits whole fraction places placed
  obtain ⟨powerDigits, inPower, powerCharacters⟩ := power_digits below ds power powered
  have ascii (ds : List Char) (digits : ∀ c ∈ ds, isAsciiDigit c = true) (c : Char) (either : c ∈ ds ∨ c ∈ marks) :
      isAscii c = true :=
    either.elim (fun digit => ((ascii_digit c).mp (digits c digit)).2) (mark_ascii c)
  rw [List.all_eq_true]
  constructor
  · intro all
    obtain ⟨inPlaceDigits, inPowerDigits⟩ := List.forall_mem_append.mp all
    refine List.forall_mem_append.mpr ⟨fun c member => mark_ascii c (sign_marks negative sign signed member), ?_⟩
    exact List.forall_mem_append.mpr ⟨fun c member => ascii _ inPlaceDigits c (placeCharacters c member),
      fun c member => ascii _ inPowerDigits c (powerCharacters c member)⟩
  · intro all
    obtain ⟨asciiPlaces, asciiPower⟩ := List.forall_mem_append.mp (List.forall_mem_append.mp all).2
    exact List.forall_mem_append.mpr
      ⟨fun c member => (ascii_digit c).mpr ⟨placeDigits c member, asciiPlaces c (inPlaces member)⟩,
        fun c member => (ascii_digit c).mpr ⟨powerDigits c member, asciiPower c (inPower member)⟩⟩

theorem longest_found (n : LeadingNumeral) (p tail : List Char) (longest : Longest isDecimalDigit n p (p ++ tail)) :
    ∃ ds, found? (p ++ tail) = some (n, ds) ∧ (ds.all isAsciiDigit = true ↔ ∀ c ∈ p, isAscii c = true) := by
  have last := longest_unlengthened n p tail longest
  obtain ⟨negative, sign, whole, fraction, places, below, ds, power, signed, placed, powered⟩ := longest.written
  refine ⟨whole ++ fraction ++ ds, ?_, digits_in_ascii negative sign whole fraction places below ds power signed placed powered⟩
  cases powered with
  | none =>
      rw [List.append_nil] at last ⊢
      obtain ⟨endsPlaces, endsPower⟩ := plain_ends negative sign whole fraction places tail signed placed last
      rw [List.append_assoc, found_parts negative sign whole fraction places tail signed placed endsPlaces,
        no_power_taken tail endsPower]
      cases (takeExponent tail).1 <;> rfl
  | scaled mark _ between _ isMark powerSigned digits =>
      have endsDigits := scaled_ends negative sign whole fraction places mark below between ds tail signed placed
        isMark powerSigned digits last
      have found := found_parts negative sign whole fraction places _ signed placed
        (mark_ends_places places mark (between ++ (ds ++ tail)) isMark)
      rw [power_taken mark below between ds tail isMark powerSigned digits endsDigits] at found
      simpa only [List.append_assoc, List.cons_append] using found

theorem found_written (cs : List Char) (found : found? cs ≠ none) : ∃ n p, Written isDecimalDigit n p ∧ p <+: cs := by
  rw [found?, Ne, Option.map_eq_none_iff] at found
  obtain ⟨⟨whole, fraction, rest⟩, taken⟩ := Option.ne_none_iff_exists'.mp found
  obtain ⟨sign, signed, split⟩ := sign_split cs
  obtain ⟨places, placed, start⟩ := places_split _ whole fraction rest taken
  refine ⟨_, _, .parts _ sign whole fraction places false [] [] signed placed .none, ?_⟩
  rw [split, List.append_nil]
  exact (List.prefix_append_right_inj sign).mpr start

theorem whole_found (n : LeadingNumeral) (p : List Char) (written : Written isDecimalDigit n p) :
    ∃ ds, found? p = some (n, ds) ∧ (ds.all isAsciiDigit = true ↔ ∀ c ∈ p, isAscii c = true) := by
  have longest : Longest isDecimalDigit n p (p ++ []) :=
    ⟨written, List.prefix_append p [], fun _ _ _ start => by simpa using start.length_le⟩
  simpa using longest_found n p [] longest

theorem written_unique (n m : LeadingNumeral) (p : List Char) (one : Written isDecimalDigit n p)
    (other : Written isDecimalDigit m p) : n = m := by
  obtain ⟨_, found, _⟩ := whole_found n p one
  obtain ⟨_, foundOther, _⟩ := whole_found m p other
  rw [found] at foundOther
  cases foundOther
  rfl

theorem ascii_written (n : LeadingNumeral) (p : List Char) (written : Written isAsciiDigit n p) :
    Written isDecimalDigit n p :=
  written_with isDecimalDigit n p written fun c _ digit => ((ascii_digit c).mp digit).1

theorem whole_read (n : LeadingNumeral) (p : List Char) (written : Written isAsciiDigit n p) : ofChars? p = some n := by
  obtain ⟨ds, found, ascii⟩ := whole_found n p (ascii_written n p written)
  have characters : ∀ c ∈ p, isAscii c = true := fun c member =>
    (written_characters n p written c member).elim (fun digit => ((ascii_digit c).mp digit).2) (mark_ascii c)
  rw [of_chars_found, found, Option.bind_some, if_pos (ascii.mpr characters)]

theorem starts_with_one (cs : List Char) : ∃ x, ∀ y, StartsWith isAsciiDigit cs y ↔ y = x := by
  by_cases some : ∃ n p, Written isAsciiDigit n p ∧ p <+: cs
  · obtain ⟨_, _, written, start⟩ := some
    obtain ⟨n, p, longest⟩ := longest_exists cs _ _ written start
    refine ⟨n.value, fun y => ⟨?_, fun same => same ▸ .numeral n p longest⟩⟩
    rintro (⟨m, q, other⟩ | nothing)
    · obtain rfl := longest_text n m p q cs longest other
      rw [written_unique n m p (ascii_written n p longest.written) (ascii_written m p other.written)]
    · exact absurd longest.start (nothing n p longest.written)
  · have nothing : ∀ n p, Written isAsciiDigit n p → ¬p <+: cs := fun n p written start => some ⟨n, p, written, start⟩
    refine ⟨0, fun y => ⟨?_, fun same => same ▸ .nothing nothing⟩⟩
    rintro (⟨n, p, longest⟩ | _)
    · exact absurd longest.start (nothing n p longest.written)
    · rfl

theorem longest_in_ascii (n : LeadingNumeral) (p cs : List Char) (longest : Longest isDecimalDigit n p cs)
    (ascii : ∀ c ∈ p, isAscii c = true) : Longest isAsciiDigit n p cs := by
  refine ⟨written_with isAsciiDigit n p longest.written fun c member digit => (ascii_digit c).mpr ⟨digit, ascii c member⟩,
    longest.start, fun m q written start => longest.longest m q (ascii_written m q written) start⟩

theorem in_ascii_iff (n : LeadingNumeral) (p cs : List Char) (longest : Longest isDecimalDigit n p cs) :
    InAscii cs ↔ ∀ c ∈ p, isAscii c = true := by
  refine ⟨fun all => all n p longest, fun ascii m q other => ?_⟩
  obtain rfl := longest_text n m p q cs longest other
  exact ascii

-- Of the longest numeral with digits of any script the value is read if it is in ASCII, and then it is the
-- number that the text starts with. Otherwise the text reads as zero, whatever it starts with.
theorem number_of_text (s : String) :
    ∃ x, (∀ y, StartsWith isAsciiDigit (trimStart s.toList) y ↔ y = x) ∧
      (InAscii (trimStart s.toList) → (Value.text s).toNumber = x) ∧
      (¬InAscii (trimStart s.toList) → (Value.text s).toNumber = 0) := by
  obtain ⟨x, only⟩ := starts_with_one (trimStart s.toList)
  refine ⟨x, only, ?_⟩
  rw [Value.toNumber, leadingNumber, of_chars_found]
  generalize trimStart s.toList = cs at only
  by_cases some : ∃ n p, Written isDecimalDigit n p ∧ p <+: cs
  · obtain ⟨_, _, written, start⟩ := some
    obtain ⟨n, p, longest⟩ := longest_exists cs _ _ written start
    obtain ⟨tail, rfl⟩ := longest.start
    obtain ⟨ds, found, ascii⟩ := longest_found n p tail longest
    rw [found, Option.bind_some, in_ascii_iff n p _ longest, ← ascii]
    by_cases inAscii : ds.all isAsciiDigit = true
    · have own := longest_in_ascii n p _ longest (ascii.mp inAscii)
      rw [if_pos inAscii]
      exact ⟨fun _ => (only n.value).mp (.numeral n p own), fun other => absurd inAscii other⟩
    · rw [if_neg inAscii]
      exact ⟨fun other => absurd other inAscii, fun _ => rfl⟩
  · have nothing : found? cs = none := Decidable.not_not.mp fun found => some (found_written cs found)
    have zero : x = 0 := ((only 0).mp (.nothing fun n p written start =>
      some ⟨n, p, ascii_written n p written, start⟩)).symm
    rw [nothing, zero]
    exact ⟨fun _ => rfl, fun _ => rfl⟩

theorem eastern_digit : isDecimalDigit '٣' = true := by
  rw [isDecimalDigit, if_neg (by decide), Text.decimalDigits, Text.runs_of_list]
  decide +kernel

theorem foreign_digit_hides_number :
    StartsWith isAsciiDigit (trimStart "12٣".toList) 12 ∧ (Value.text "12٣").toNumber = 0 ∧ (12 : Float) ≠ 0 := by
  have chars : trimStart "12٣".toList = ['1', '2', '٣'] := by decide
  have twelve : LeadingNumeral.value ⟨false, ⟨['1', '2'], [], scale false []⟩⟩ = 12 := by decide +kernel
  refine ⟨?_, ?_, by decide +kernel⟩
  · rw [chars, ← twelve]
    refine .numeral _ ['1', '2'] ⟨.parts false [] ['1', '2'] [] ['1', '2'] false [] [] .none (.whole _ ?_) .none, ?_, ?_⟩
    · exact ⟨List.cons_ne_nil _ _, List.all_eq_true.mp (by decide)⟩
    · exact ⟨['٣'], rfl⟩
    · intro m q written start
      by_contra long
      have whole : q = ['1', '2', '٣'] := start.eq_of_length_le (Nat.lt_of_not_le long)
      have characters := written_characters m q written '٣' (by simp [whole])
      revert characters
      decide
  · have digits : Digits isDecimalDigit ['1', '2', '٣'] := ⟨by simp, by simpa [eastern_digit] using by decide⟩
    have found := found_parts false [] _ [] _ [] .none (.whole _ digits) ⟨by simp [Stops], by simp [Stops]⟩
    rw [List.nil_append, List.append_nil] at found
    rw [Value.toNumber, leadingNumber, chars, of_chars_found, found, Option.bind_some, if_neg (by decide)]

end FormulaField.LeadingNumeral
