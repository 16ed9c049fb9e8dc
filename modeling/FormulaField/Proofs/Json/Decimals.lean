import FormulaField.Proofs.Json.Numbers
import FormulaField.Proofs.Number.Shortest

set_option autoImplicit false

namespace FormulaField.Json

open Lexeme
open FormulaField.Number (Numeral Decimal isDigit digitValue naturalOf digits tenTo digits_read shortest isNegative
  documentChars)

def scaled? (negative : Bool) (d : Decimal) : Option Float := float? negative d.coefficient d.exponent false []

-- A whole number is written with a zero after the point, which counts as one of its digits.
def withPoint (d : Decimal) : Decimal := ⟨d.coefficient * tenTo (d.exponent.toNat + 1), -1⟩

def reread? (x : Float) : Option Float :=
  let d := shortest .even x
  if d.coefficient = 0 then scaled? (isNegative x) ⟨0, -1⟩
  else if 0 ≤ d.exponent ∧ d.exponent + (digits d.coefficient).length ≤ 16 then scaled? (isNegative x) (withPoint d)
  else scaled? (isNegative x) d

def ReadsDecimal (negative : Bool) (body : List Char) (d : Decimal) : Prop :=
  ∀ tail, Stops continuesNumber tail →
    number? negative (body ++ tail) = some (.decimal (scaled? negative d), tail)

theorem point_reads (negative : Bool) (n : Numeral) (proper : IsNumeral n)
    (leading : n.whole.length ≠ 1 → n.whole.head? ≠ some '0') (fraction : n.fraction ≠ [])
    (small : n.decimal.coefficient ≤ maxSignificand) : ReadsDecimal negative (numeralChars n) n.decimal := by
  intro tail stops
  have plain := proper.plain
  have some : n.fraction.isEmpty = false := by simpa using fraction
  rw [digits_taken negative n tail proper leading small (stops_digits tail stops),
    after_digits_end negative n tail stops, some, scaled?, Numeral.decimal, plain, Int.zero_sub]
  rfl

theorem float_power (negative : Bool) (significand : Nat) (places : Int) (below : Bool) (power : Nat)
    (small : power ≤ maxExponent) :
    float? negative significand places below (digits power) =
      scaled? negative ⟨significand, if below then places - power else places + power⟩ := by
  have none : naturalOf [] = 0 := rfl
  rw [scaled?, float?, float?, digits_read, none, if_neg (Nat.not_lt_of_le small), if_neg (Nat.not_lt_zero _)]
  cases below <;> simp

theorem exponent_read (power : Int) (tail : List Char) (stops : Stops isDigit tail) :
    exponent? ((if power < 0 then '-' else '+') :: digits power.natAbs ++ tail) =
      some (decide (power < 0), digits power.natAbs, tail) := by
  have taken := take_while_all isDigit (digits power.natAbs) tail (Number.digits_are_digits _) stops
  have some : (digits power.natAbs).isEmpty = false := List.isEmpty_eq_false_iff.mpr Nat.toDigits_ne_nil
  by_cases negative : power < 0
  · simp [exponent?, negative, taken, some]
  · simp [exponent?, negative, taken, some]

theorem power_reads (negative : Bool) (n : Numeral) (power : Int) (proper : IsNumeral n)
    (leading : n.whole.length ≠ 1 → n.whole.head? ≠ some '0')
    (small : n.decimal.coefficient ≤ maxSignificand) (smallPower : power.natAbs ≤ maxExponent) :
    ReadsDecimal negative (numeralChars n ++ 'e' :: (if power < 0 then '-' else '+') :: digits power.natAbs)
      ⟨n.decimal.coefficient, n.decimal.exponent + power⟩ := by
  intro tail stops
  have plain := proper.plain
  have noDigit : Stops isDigit tail := by
    intro c member
    have all := stops c member
    simp only [continuesNumber, continuesNumeral, Bool.or_eq_false_iff] at all
    exact all.1.1.1
  have e : Stops (fun c => continuesNumeral c || c == 'E')
      ('e' :: (if power < 0 then '-' else '+') :: (digits power.natAbs ++ tail)) := by
    intro c member
    cases member
    rfl
  rw [List.append_assoc, List.cons_append, List.cons_append, digits_taken negative n _ proper leading small e,
    afterDigits]
  have read := exponent_read power tail noDigit
  rw [List.cons_append] at read
  simp only [read, Option.map_some]
  rw [float_power negative _ _ _ _ smallPower, Numeral.decimal, plain, Int.zero_sub]
  by_cases below : power < 0
  · have sum : -(n.fraction.length : Int) - power.natAbs = -n.fraction.length + power := by omega
    simp only [below, decide_true, if_true, sum]
  · have sum : -(n.fraction.length : Int) + power.natAbs = -n.fraction.length + power := by omega
    simp only [below, decide_false, if_false, Bool.false_eq_true, sum]

theorem numeral_first (n : Numeral) (proper : IsNumeral n) :
    ∃ c rest, numeralChars n = c :: rest ∧ isDigit c = true := by
  cases whole : n.whole with
  | nil => exact absurd whole proper.nonempty
  | cons c rest => exact ⟨c, _, by rw [numeralChars, whole, List.cons_append], proper.whole c (by simp [whole])⟩

def IsText (negative : Bool) (d : Decimal) (body : List Char) : Prop :=
  (∃ c rest, body = c :: rest ∧ isDigit c = true) ∧ ReadsDecimal negative body d

theorem point_text (negative : Bool) (n : Numeral) (proper : IsNumeral n)
    (leading : n.whole.length ≠ 1 → n.whole.head? ≠ some '0') (fraction : n.fraction ≠ [])
    (small : n.decimal.coefficient ≤ maxSignificand) : IsText negative n.decimal (numeralChars n) :=
  ⟨numeral_first n proper, point_reads negative n proper leading fraction small⟩

theorem zero_text (negative : Bool) : IsText negative ⟨0, -1⟩ "0.0".toList := by
  refine point_text negative ⟨['0'], ['0'], 0⟩ ⟨by simp, by simp; rfl, by simp; rfl, rfl⟩ ?_ (by simp)
    (by decide +kernel)
  exact fun long => absurd rfl long

theorem whole_text (negative : Bool) (d : Decimal) (whole : 0 ≤ d.exponent)
    (small : (withPoint d).coefficient ≤ maxSignificand) :
    IsText negative (withPoint d) (Number.positional d ++ ".0".toList) := by
  have chars : Number.positional d ++ ".0".toList =
      numeralChars ⟨digits (d.coefficient * tenTo d.exponent.toNat), ['0'], 0⟩ := by
    rw [Number.positional, if_pos whole]
    rfl
  have same : (Numeral.mk (digits (d.coefficient * tenTo d.exponent.toNat)) ['0'] 0).decimal = withPoint d := by
    have zero : digitValue '0' = 0 := rfl
    have power : tenTo (d.exponent.toNat + 1) = tenTo d.exponent.toNat * 10 := by
      rw [tenTo, tenTo, Nat.pow_eq, Nat.pow_eq, Nat.pow_succ]
    rw [Numeral.decimal, Number.natural_append, withPoint, power]
    simp only [List.foldl_cons, List.foldl_nil, zero, digits_read, List.length_singleton, Nat.add_zero]
    rw [Nat.mul_comm 10, Nat.mul_assoc]
    rfl
  rw [chars, ← same]
  rw [← same] at small
  refine point_text negative _ ⟨Nat.toDigits_ne_nil, Number.digits_are_digits _, by simp; rfl, rfl⟩
    (no_leading_zero _) (by simp) small

theorem split_text (negative : Bool) (d : Decimal) (split : d.exponent < 0) (small : d.coefficient ≤ maxSignificand) :
    IsText negative d (Number.positional d) := by
  obtain ⟨n, proper, chars, same, wide⟩ := Number.point_numeral (-d.exponent).toNat d.coefficient (by omega)
  have value : n.decimal = d := by
    rw [same, Int.toNat_of_nonneg (by omega), Int.neg_neg]
  rw [Number.positional, if_neg (by omega), chars, ← value]
  refine point_text negative n proper ?_ ?_ (value ▸ small)
  · intro long
    obtain ⟨rest, same⟩ := wide long
    have some : 0 < n.whole.length := List.length_pos_iff.mpr proper.nonempty
    have leading := no_leading_zero d.coefficient
    rw [← same, List.length_append, List.head?_append_of_ne_nil _ proper.nonempty] at leading
    exact leading (by omega)
  · intro none
    have places := congrArg Decimal.exponent same
    simp only [Numeral.decimal, none, proper.plain, List.length_nil] at places
    omega

def pointAfterFirst : List Char → List Char
  | first :: second :: rest => first :: '.' :: second :: rest
  | short => short

theorem mantissa_numeral (c : Nat) :
    ∃ n, IsNumeral n ∧ n.whole.length = 1 ∧ n.decimal = ⟨c, 1 - (digits c).length⟩ ∧
      numeralChars n = pointAfterFirst (digits c) := by
  have all := Number.digits_are_digits c
  have value := digits_read c
  cases ds : digits c with
  | nil => exact absurd ds Nat.toDigits_ne_nil
  | cons first others =>
      rw [ds] at all value
      refine ⟨⟨[first], others, 0⟩, ⟨by simp, ?_, ?_, rfl⟩, rfl, ?_, ?_⟩
      · exact fun d member => List.mem_singleton.mp member ▸ all first (by simp)
      · exact fun d member => all d (List.mem_cons_of_mem _ member)
      · rw [Numeral.decimal, List.singleton_append, value]
        simp
      · cases others <;> rfl

theorem scientific_text (negative : Bool) (d : Decimal) (small : d.coefficient ≤ maxSignificand)
    (power : (d.exponent + (digits d.coefficient).length - 1).natAbs ≤ maxExponent) :
    IsText negative d (Number.scientific d) := by
  obtain ⟨n, proper, one, same, chars⟩ := mantissa_numeral d.coefficient
  have text : Number.scientific d = numeralChars n ++
      'e' :: (if d.exponent + (digits d.coefficient).length - 1 < 0 then '-' else '+') ::
        digits (d.exponent + (digits d.coefficient).length - 1).natAbs := by
    rw [chars, Number.scientific]
    rcases digits d.coefficient with _ | ⟨first, _ | ⟨second, rest⟩⟩ <;> rfl
  have value : (⟨n.decimal.coefficient, n.decimal.exponent + (d.exponent + (digits d.coefficient).length - 1)⟩ : Decimal) = d := by
    rw [same]
    simp only
    congr 1
    omega
  obtain ⟨c, rest, first, digit⟩ := numeral_first n proper
  rw [text]
  refine ⟨⟨c, _, by rw [first, List.cons_append], digit⟩, ?_⟩
  have reads := power_reads negative n (d.exponent + (digits d.coefficient).length - 1) proper (fun long => absurd one long)
    (by simpa [same] using small) power
  rwa [value] at reads

theorem max_significand : maxSignificand = 18446744073709551615 := by decide +kernel

theorem max_exponent : maxExponent = 2147483647 := by decide +kernel

theorem with_point_small (d : Decimal) (whole : 0 ≤ d.exponent) (near : d.exponent + (digits d.coefficient).length ≤ 16) :
    (withPoint d).coefficient ≤ maxSignificand := by
  have long : 0 < (digits d.coefficient).length := List.length_pos_iff.mpr Nat.toDigits_ne_nil
  have bound := (Nat.length_toDigits_le_iff (by decide) long).mp (Nat.le_refl (digits d.coefficient).length)
  have split : (digits d.coefficient).length + (d.exponent.toNat + 1) ≤ 17 := by omega
  calc d.coefficient * tenTo (d.exponent.toNat + 1)
      ≤ 10 ^ (digits d.coefficient).length * 10 ^ (d.exponent.toNat + 1) := Nat.mul_le_mul_right _ bound.le
    _ = 10 ^ ((digits d.coefficient).length + (d.exponent.toNat + 1)) := (Nat.pow_add 10 _ _).symm
    _ ≤ 10 ^ 17 := Nat.pow_le_pow_right (by decide) split
    _ ≤ maxSignificand := by
        rw [max_significand]
        decide

theorem shortest_power (x : Float) (finite : x.isFinite = true) (some : (shortest .even x).coefficient ≠ 0) :
    ((shortest .even x).exponent + (digits (shortest .even x).coefficient).length - 1).natAbs ≤ maxExponent := by
  have reads := Number.shortest_reads .even x finite
  have most := Number.finite_exponent x _ finite reads some
  have least := Number.least_exponent x _ reads (Number.shortest_some .even x some) some
  have short : (shortest .even x).coefficient < 10 ^ 18 :=
    Nat.lt_of_le_of_lt (Number.shortest_short .even x finite) (by decide)
  have bits := (Nat.log2_lt some).mpr (Nat.lt_of_lt_of_le short (by decide : 10 ^ 18 ≤ 2 ^ 60))
  have length : (digits (shortest .even x).coefficient).length ≤ 18 :=
    (Nat.length_toDigits_le_iff (by decide) (by decide)).mpr short
  rw [max_exponent]
  omega

theorem document_text (x : Float) (finite : x.isFinite = true) :
    ∃ body d, documentChars x = Number.sign (isNegative x) ++ body ∧ IsText (isNegative x) d body ∧
      scaled? (isNegative x) d = reread? x := by
  have short := Number.shortest_short .even x finite
  have ten : tenTo 17 = 10 ^ 17 := rfl
  have small : (shortest .even x).coefficient ≤ maxSignificand := by
    rw [max_significand]
    omega
  rw [documentChars, reread?]
  by_cases none : (shortest .even x).coefficient = 0
  · rw [if_pos none, if_pos none]
    exact ⟨_, _, rfl, zero_text _, rfl⟩
  rw [if_neg none, if_neg none]
  by_cases near : -5 < (shortest .even x).exponent + (digits (shortest .even x).coefficient).length ∧
      (shortest .even x).exponent + (digits (shortest .even x).coefficient).length ≤ 16
  · rw [if_pos near]
    by_cases whole : 0 ≤ (shortest .even x).exponent
    · rw [if_pos whole, if_pos ⟨whole, near.2⟩]
      exact ⟨_, _, rfl, whole_text _ _ whole (with_point_small _ whole near.2), rfl⟩
    · rw [if_neg whole, if_neg (fun both => whole both.1)]
      exact ⟨_, _, rfl, split_text _ _ (by omega) small, rfl⟩
  · rw [if_neg near, if_neg]
    · exact ⟨_, _, rfl, scientific_text _ _ small (shortest_power x finite none), rfl⟩
    · rintro ⟨whole, notLong⟩
      exact near ⟨by omega, notLong⟩

end FormulaField.Json
