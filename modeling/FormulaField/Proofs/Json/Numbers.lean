import FormulaField.Json.Reader
import FormulaField.Json.Writer
import FormulaField.Proofs.Formula.Tokens
import FormulaField.Proofs.Number.Text

set_option autoImplicit false

namespace FormulaField.Json

open Lexeme
open FormulaField.Number (Numeral isDigit digitValue naturalOf digits tenTo digits_read digits_are_digits)

theorem digits_grow (ds : List Char) (n : Nat) : n ≤ ds.foldl (fun n c => 10 * n + digitValue c) n := by
  induction ds generalizing n with
  | nil => exact Nat.le_refl n
  | cons d ds ih => exact Nat.le_trans (by omega) (ih (10 * n + digitValue d))

theorem collect_all (ds : List Char) (significand : Nat)
    (small : ds.foldl (fun n c => 10 * n + digitValue c) significand ≤ maxSignificand) :
    collect significand ds = (ds.foldl (fun n c => 10 * n + digitValue c) significand, []) := by
  induction ds generalizing significand with
  | nil => rfl
  | cons d ds ih =>
      have fits := Nat.le_trans (digits_grow ds (10 * significand + digitValue d)) small
      rw [collect, if_neg (Nat.not_lt_of_le fits), ih _ small, List.foldl_cons]

-- The outcome once the digits of a number are read, before a power of ten or at the end.
def afterDigits (negative : Bool) (n : Numeral) (tail : List Char) : Option (Draft × List Char) :=
  let significand := naturalOf (n.whole ++ n.fraction)
  let places : Int := -(n.fraction.length : Int)
  match tail with
  | 'e' :: more =>
      (exponent? more).map fun read =>
        (.decimal (float? negative significand places read.1 read.2.1), read.2.2)
  | rest =>
      some (if n.fraction.isEmpty then whole negative significand
        else .decimal (float? negative significand places false []), rest)

theorem number_opens (ws : List Char) (nonempty : ws ≠ []) (leading : ws.length ≠ 1 → ws.head? ≠ some '0') :
    ¬(ws.isEmpty = true ∨ ws.length ≠ 1 ∧ ws.head? = some '0') := by
  rintro (empty | ⟨long, zero⟩)
  · exact nonempty (List.isEmpty_iff.mp empty)
  · exact leading long zero

theorem stops_number (tail : List Char) (stops : Stops (fun c => continuesNumeral c || c == 'E') tail) :
    ∀ c ∈ tail.head?, isDigit c = false ∧ c ≠ '.' ∧ c ≠ 'E' := by
  intro c member
  simpa [continuesNumeral, and_assoc] using stops c member

theorem whole_taken (negative : Bool) (ws tail : List Char) (exponent : Int) (nonempty : ws ≠ [])
    (digits : ∀ c ∈ ws, isDigit c = true) (leading : ws.length ≠ 1 → ws.head? ≠ some '0')
    (collected : collect 0 ws = (naturalOf ws, [])) (stops : Stops (fun c => continuesNumeral c || c == 'E') tail) :
    number? negative (ws ++ tail) = afterDigits negative ⟨ws, [], exponent⟩ tail := by
  have tests := stops_number tail stops
  have noDigit : Stops isDigit tail := fun c member => (tests c member).1
  rw [number?]
  simp only [take_while_all isDigit ws tail digits noDigit, List.drop_left]
  rw [if_neg (number_opens ws nonempty leading)]
  cases tail with
  | nil => simp [collected, collect, afterDigits, number?.plain]
  | cons c rest =>
      obtain ⟨_, noPoint, noCapital⟩ := tests c rfl
      by_cases power : c = 'e'
      · subst power
        simp [collected, collect, afterDigits, Option.map_eq_bind]
      · simp [collected, collect, afterDigits, number?.plain, noPoint, noCapital, power]

theorem fraction_taken (negative : Bool) (ws tail : List Char) (d : Char) (ds : List Char) (exponent : Int) (nonempty : ws ≠ [])
    (digits : ∀ c ∈ ws, isDigit c = true) (fraction : ∀ c ∈ d :: ds, isDigit c = true)
    (leading : ws.length ≠ 1 → ws.head? ≠ some '0') (collected : collect 0 ws = (naturalOf ws, []))
    (all : collect (naturalOf ws) (d :: ds) = (naturalOf (ws ++ d :: ds), []))
    (stops : Stops (fun c => continuesNumeral c || c == 'E') tail) :
    number? negative (ws ++ '.' :: d :: ds ++ tail) = afterDigits negative ⟨ws, d :: ds, exponent⟩ tail := by
  have tests := stops_number tail stops
  have noDigit : Stops isDigit tail := fun c member => (tests c member).1
  have point : Stops isDigit ('.' :: (d :: ds ++ tail)) := by
    intro c member
    cases member
    rfl
  rw [number?, List.append_assoc, List.cons_append]
  simp only [take_while_all isDigit ws _ digits point, List.drop_left]
  rw [if_neg (number_opens ws nonempty leading)]
  simp only [take_while_all isDigit (d :: ds) tail fraction noDigit, List.drop_left]
  cases tail with
  | nil => simp [collected, all, afterDigits, number?.plain]
  | cons c rest =>
      obtain ⟨_, _, noCapital⟩ := tests c rfl
      by_cases power : c = 'e'
      · subst power
        simp [collected, all, afterDigits, Option.map_eq_bind]
      · simp [collected, all, afterDigits, number?.plain, noCapital, power]

theorem digits_taken (negative : Bool) (n : Numeral) (tail : List Char) (proper : IsNumeral n)
    (leading : n.whole.length ≠ 1 → n.whole.head? ≠ some '0')
    (small : naturalOf (n.whole ++ n.fraction) ≤ maxSignificand)
    (stops : Stops (fun c => continuesNumeral c || c == 'E') tail) :
    number? negative (numeralChars n ++ tail) = afterDigits negative n tail := by
  obtain ⟨ws, fraction, exponent⟩ := n
  obtain ⟨nonempty, wholeDigits, fractionDigits, _⟩ := proper
  simp only at nonempty wholeDigits fractionDigits leading small
  rw [Number.natural_append] at small
  have all := collect_all fraction (naturalOf ws) small
  have first : collect 0 ws = (naturalOf ws, []) := collect_all ws 0 (Nat.le_trans (digits_grow fraction _) small)
  cases fraction with
  | nil =>
      have chars : numeralChars ⟨ws, [], exponent⟩ = ws := by simp [numeralChars]
      rw [chars]
      exact whole_taken negative ws tail exponent nonempty wholeDigits leading first stops
  | cons d ds =>
      have chars : numeralChars ⟨ws, d :: ds, exponent⟩ = ws ++ '.' :: d :: ds := rfl
      rw [← Number.natural_append] at all
      rw [chars]
      exact fraction_taken negative ws tail d ds exponent nonempty wholeDigits fractionDigits leading first all stops

theorem digits_step (n : Nat) (long : 10 ≤ n) : digits n = digits (n / 10) ++ [Nat.digitChar (n % 10)] :=
  Nat.toDigits_of_base_le (by decide) long

theorem digits_short (n : Nat) (short : n < 10) : digits n = [Nat.digitChar n] :=
  Nat.toDigits_of_lt_base short

theorem leading_digit (n : Nat) (positive : 0 < n) : (digits n).head? ≠ some '0' := by
  induction n using Nat.strongRecOn with
  | ind n ih =>
      by_cases short : n < 10
      · have chars : ∀ d < 10, 0 < d → Nat.digitChar d ≠ '0' := by decide
        simpa [digits_short n short] using chars n short positive
      · have some : digits (n / 10) ≠ [] := Nat.toDigits_ne_nil
        rw [digits_step n (by omega), List.head?_append_of_ne_nil _ some]
        exact ih (n / 10) (by omega) (by omega)

theorem no_leading_zero (n : Nat) (long : (digits n).length ≠ 1) : (digits n).head? ≠ some '0' := by
  by_cases positive : 0 < n
  · exact leading_digit n positive
  · refine absurd ?_ long
    rw [digits_short n (by omega), List.length_singleton]

def continuesNumber (c : Char) : Bool := continuesNumeral c || c == 'E' || c == 'e'

theorem stops_digits (tail : List Char) (stops : Stops continuesNumber tail) :
    Stops (fun c => continuesNumeral c || c == 'E') tail :=
  fun c member => (Bool.or_eq_false_iff.mp (stops c member)).1

theorem after_digits_end (negative : Bool) (n : Numeral) (tail : List Char) (stops : Stops continuesNumber tail) :
    afterDigits negative n tail =
      some (if n.fraction.isEmpty then whole negative (naturalOf (n.whole ++ n.fraction))
        else .decimal (float? negative (naturalOf (n.whole ++ n.fraction)) (-(n.fraction.length : Int)) false []), tail) := by
  rw [afterDigits]
  rintro more rfl
  cases stops 'e' rfl

theorem whole_read (negative : Bool) (n : Nat) (tail : List Char) (small : n ≤ maxSignificand)
    (stops : Stops continuesNumber tail) : number? negative (digits n ++ tail) = some (whole negative n, tail) := by
  have chars : numeralChars ⟨digits n, [], 0⟩ = digits n := by simp [numeralChars]
  have taken := digits_taken negative ⟨digits n, [], 0⟩ tail (Number.whole_digits n) (no_leading_zero n)
    (by simpa [digits_read] using small) (stops_digits tail stops)
  rw [chars] at taken
  rw [taken, after_digits_end negative _ tail stops]
  simp [digits_read]

def IsWord (i : Int) : Prop := -(2 : Int) ^ 63 ≤ i ∧ i < 2 ^ 64

theorem word_read (i : Int) (tail : List Char) (word : IsWord i) (stops : Stops continuesNumber tail) :
    number? (decide (i < 0)) (digits i.natAbs ++ tail) = some (.integer i, tail) := by
  obtain ⟨least, greatest⟩ := word
  have small : i.natAbs ≤ maxSignificand := by
    rw [maxSignificand, Number.twoTo, Nat.pow_eq]
    omega
  rw [whole_read _ _ tail small stops, whole]
  by_cases negative : i < 0
  · have fits : 1 ≤ i.natAbs ∧ i.natAbs ≤ Number.twoTo 63 := by
      rw [Number.twoTo, Nat.pow_eq]
      omega
    have back : -(i.natAbs : Int) = i := by omega
    rw [if_neg (by simp [negative]), if_pos fits, back]
  · have back : (i.natAbs : Int) = i := by omega
    rw [if_pos (by simp [negative]), back]

end FormulaField.Json
