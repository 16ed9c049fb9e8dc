import FormulaField.DisplayFormat
import FormulaField.Proofs.Calendar.Texts
import FormulaField.Proofs.Number.Comparison
import FormulaField.Proofs.Number.Products

set_option autoImplicit false

namespace FormulaField.Number

theorem point_decimals (places n : Nat) :
    ∃ numeral, IsNumeral numeral ∧ numeral.fraction.length = places ∧
      pointBefore places (digits n) = numeralChars numeral := by
  by_cases none : places = 0
  · refine ⟨⟨digits n, [], 0⟩, whole_digits n, none.symm, ?_⟩
    rw [pointBefore, if_pos none]
    simp [numeralChars]
  · obtain ⟨numeral, proper, same, value, _⟩ := point_numeral places n none
    have exponent := congrArg Decimal.exponent value
    rw [Numeral.decimal, proper.plain] at exponent
    simp only at exponent
    exact ⟨numeral, proper, by omega, same⟩

theorem fixed_form (places : Nat) (x : Float) (finite : x.isFinite = true) :
    fixed places x = sign (isNegative x) ++
      pointBefore places (digits (roundHalfEven ((ratio x).1 * tenTo places) (ratio x).2)) := by
  rw [fixed, if_pos finite]

theorem hundred_exact : (100 : Float).isFinite = true ∧ absolute 100 = 100 := by
  have own : (parts 100).significand = 7036874417766400 ∧ (parts 100).exponent = -46 := by decide +kernel
  refine ⟨by decide +kernel, ?_⟩
  rw [absolute, own.1, own.2]
  norm_num

end FormulaField.Number

namespace FormulaField.DisplayFormat

open Number (Numeral isDigit absolute largest sign digits)

-- An optional minus, one digit or more and, if there are decimals, a point and that many digits.
def HasDecimals (places : Nat) (cs : List Char) : Prop :=
  ∃ negative numeral, IsNumeral numeral ∧ numeral.fraction.length = places ∧ cs = sign negative ++ numeralChars numeral

-- Digits with a comma before every three of them that others stand before.
inductive Grouped : List Char → List Char → Prop where
  | short (ds : List Char) (some : ds ≠ []) (three : ds.length ≤ 3) : Grouped ds ds
  | group (ds cs last : List Char) (three : last.length = 3) (before : Grouped ds cs) :
      Grouped (ds ++ last) (cs ++ ',' :: last)

theorem group_short (ds : List Char) (three : ds.length ≤ 3) : groupDigits ds = ds := by
  match ds, three with
  | [], _ => rfl
  | [_], _ => rfl
  | [_, _], _ => rfl
  | [_, _, _], _ => rfl

theorem group_last (ds last : List Char) (some : ds ≠ []) (three : last.length = 3) :
    groupDigits (ds ++ last) = groupDigits ds ++ ',' :: last := by
  have lastSome : last ≠ [] := by
    rintro rfl
    cases three
  induction ds with
  | nil => exact absurd rfl some
  | cons d rest ih =>
      have length : (rest ++ last).length % 3 = rest.length % 3 := by
        rw [List.length_append, three, Nat.add_mod_right]
      have more : rest ++ last ≠ [] := List.append_ne_nil_of_right_ne_nil _ lastSome
      rw [List.cons_append, groupDigits, groupDigits, length]
      by_cases none : rest = []
      · rw [none, List.nil_append, if_pos ⟨rfl, lastSome⟩, if_neg (fun both => both.2 rfl), group_short last three.le]
        rfl
      · rw [ih none]
        by_cases whole : rest.length % 3 = 0
        · rw [if_pos ⟨whole, more⟩, if_pos ⟨whole, none⟩]
          rfl
        · rw [if_neg (fun both => whole both.1), if_neg (fun both => whole both.1)]
          rfl

theorem digits_grouped (ds : List Char) (some : ds ≠ []) : Grouped ds (groupDigits ds) := by
  by_cases three : ds.length ≤ 3
  · rw [group_short ds three]
    exact .short ds some three
  · have split := List.take_append_drop (ds.length - 3) ds
    have before : ds.take (ds.length - 3) ≠ [] := by
      rw [← List.length_pos_iff, List.length_take]
      omega
    have last : (ds.drop (ds.length - 3)).length = 3 := by
      rw [List.length_drop]
      omega
    have grouped := Grouped.group _ _ _ last (digits_grouped (ds.take (ds.length - 3)) before)
    rwa [← group_last _ _ before last, split] at grouped
termination_by ds.length
decreasing_by
  rw [List.length_take]
  omega

theorem thousands_grouped (numeral : Numeral) (proper : IsNumeral numeral) :
    groupThousands (numeralChars numeral) = numeralChars { numeral with whole := groupDigits numeral.whole } := by
  obtain ⟨whole, fraction, exponent⟩ := numeral
  have noPoint : ∀ c ∈ whole, (c != '.') = true := by
    intro c member
    rw [bne_iff_ne]
    rintro rfl
    cases proper.whole _ member
  rw [groupThousands, numeralChars, numeralChars, List.takeWhile_append_of_pos noPoint, List.dropWhile_append_of_pos noPoint]
  cases fraction with
  | nil => simp
  | cons c rest => simp

def Wordless (cs : List Char) : Prop := ∀ c ∈ cs, Text.isAlphabetic c = false

theorem wordless_append (cs ds : List Char) : Wordless (cs ++ ds) ↔ Wordless cs ∧ Wordless ds :=
  List.forall_mem_append

theorem wordless_cons (c : Char) (cs : List Char) : Wordless (c :: cs) ↔ Text.isAlphabetic c = false ∧ Wordless cs :=
  List.forall_mem_cons

theorem digits_wordless (cs : List Char) (all : ∀ c ∈ cs, isDigit c = true) : Wordless cs := by
  intro c member
  simpa using Text.of_all_digits (fun c => !Text.isAlphabetic c) (by decide) c (all c member)

theorem mark_wordless (c : Char) (mark : Text.isAlphabetic c = false) : Wordless [c] :=
  (wordless_cons c []).mpr ⟨mark, List.forall_mem_nil _⟩

theorem sign_wordless (negative : Bool) : Wordless (sign negative) := by
  cases negative with
  | false => exact List.forall_mem_nil _
  | true => exact mark_wordless '-' (by decide)

theorem numeral_wordless (numeral : Numeral) (whole : Wordless numeral.whole) (fraction : Wordless numeral.fraction) :
    Wordless (numeralChars numeral) := by
  rw [numeralChars, wordless_append]
  refine ⟨whole, ?_⟩
  cases same : numeral.fraction with
  | nil => exact List.forall_mem_nil _
  | cons c rest =>
      rw [same] at fraction
      exact (wordless_cons _ _).mpr ⟨by decide, fraction⟩

theorem grouped_wordless (ds cs : List Char) (grouped : Grouped ds cs) (wordless : Wordless ds) : Wordless cs := by
  induction grouped with
  | short => exact wordless
  | group ds cs last three before ih =>
      rw [wordless_append] at wordless
      rw [wordless_append, wordless_cons]
      exact ⟨ih wordless.1, by decide, wordless.2⟩

theorem decimals_wordless (places : Nat) (cs : List Char) (shaped : HasDecimals places cs) : Wordless cs := by
  obtain ⟨negative, numeral, proper, _, rfl⟩ := shaped
  rw [wordless_append]
  exact ⟨sign_wordless negative,
    numeral_wordless numeral (digits_wordless _ proper.whole) (digits_wordless _ proper.fraction)⟩

theorem padded_wordless (width n : Nat) : Wordless (Calendar.padded width n) :=
  digits_wordless _ (Calendar.padded_digits width n)

theorem date_wordless (date : Calendar.Date) : Wordless date.chars := by
  have year : Wordless (Calendar.yearChars date.year) := by
    rw [Calendar.yearChars]
    split
    · exact padded_wordless _ _
    · rw [wordless_cons]
      refine ⟨?_, padded_wordless _ _⟩
      split <;> decide
  rw [Calendar.Date.chars, wordless_append, wordless_append, wordless_cons, wordless_cons]
  exact ⟨⟨year, by decide, padded_wordless _ _⟩, by decide, padded_wordless _ _⟩

theorem time_wordless (i : Calendar.Instant) : Wordless i.timeChars := by
  rw [Calendar.Instant.timeChars, wordless_append, wordless_cons, wordless_append, wordless_cons]
  exact ⟨⟨padded_wordless _ _, by decide, padded_wordless _ _⟩, by decide, padded_wordless _ _⟩

theorem text_wordless (n : Float) (finite : n.isFinite = true) : Wordless (Value.number n).toText.toList := by
  obtain ⟨numeral, proper, _, same⟩ := Number.chars_of_finite n finite
  have shown : (Value.number n).toText.toList = Number.chars n := String.toList_ofList
  rw [shown, same, wordless_append]
  exact ⟨sign_wordless _, numeral_wordless numeral (digits_wordless _ proper.whole) (digits_wordless _ proper.fraction)⟩

theorem fixed_decimals (places : Nat) (x : Float) (finite : x.isFinite = true) : HasDecimals places (Number.fixed places x) := by
  obtain ⟨numeral, proper, length, same⟩ := Number.point_decimals places
    (Number.roundHalfEven ((Number.ratio x).1 * Number.tenTo places) (Number.ratio x).2)
  exact ⟨Number.isNegative x, numeral, proper, length, by rw [Number.fixed_form places x finite, same]⟩

theorem infinite_word (places : Nat) (x : Float) (infinite : ¬x.isFinite = true) : ¬Wordless (Number.fixed places x) := by
  intro wordless
  rw [Number.fixed, if_neg infinite, wordless_append] at wordless
  by_cases number : x.isNaN = true
  · rw [if_pos number] at wordless
    exact absurd (wordless.2 'N' (by decide)) (by decide)
  · rw [if_neg number] at wordless
    exact absurd (wordless.2 'i' (by decide)) (by decide)

variable (n : Float) (decimals : Nat) (finite : n.isFinite = true)

include finite

theorem display_numeric (format : DisplayFormat) (numeric : format ∈ [number, currency, percentage]) :
    (display format decimals (.number n)).toList = showNumber format (min decimals maxDecimals) n := by
  simp only [List.mem_cons, List.not_mem_nil, or_false] at numeric
  rcases numeric with rfl | rfl | rfl <;> rw [display, if_pos finite, String.toList_ofList]

theorem number_and_currency :
    ∃ numeral grouped, IsNumeral numeral ∧ numeral.fraction.length = min decimals maxDecimals ∧
      Grouped numeral.whole grouped ∧
      (display .number decimals (.number n)).toList = sign (Number.isNegative n) ++ numeralChars numeral ∧
      (display .currency decimals (.number n)).toList =
        sign (n < 0) ++ '$' :: numeralChars { numeral with whole := grouped } := by
  have unsignedFinite := Number.unsigned_finite n finite
  have ratio : Number.ratio (Number.unsigned n) = Number.ratio n := by
    rw [Number.ratio, Number.ratio, Number.unsigned_parts n finite]
  have plain (places : Nat) : showNumber .number places n = Number.fixed places n := rfl
  obtain ⟨numeral, proper, places, same⟩ := Number.point_decimals (min decimals maxDecimals)
    (Number.roundHalfEven ((Number.ratio n).1 * Number.tenTo (min decimals maxDecimals)) (Number.ratio n).2)
  refine ⟨numeral, groupDigits numeral.whole, proper, places, digits_grouped _ proper.nonempty, ?_, ?_⟩
  · rw [display_numeric n decimals finite .number (by decide), plain, Number.fixed_form _ n finite, same]
  · rw [display_numeric n decimals finite .currency (by decide), showNumber, Number.abs_unsigned n finite,
      Number.fixed_form _ _ unsignedFinite, Number.unsigned_not_negative n finite, ratio, same]
    exact congrArg (fun cs => sign (n < 0) ++ '$' :: cs) (thousands_grouped numeral proper)

theorem number_wordless : Wordless (display .number decimals (.number n)).toList := by
  obtain ⟨numeral, _, proper, places, _, shown, _⟩ := number_and_currency n decimals finite
  exact decimals_wordless _ _ ⟨_, numeral, proper, places, shown⟩

theorem currency_wordless : Wordless (display .currency decimals (.number n)).toList := by
  obtain ⟨numeral, grouped, proper, _, groups, _, shown⟩ := number_and_currency n decimals finite
  have whole := grouped_wordless _ _ groups (digits_wordless _ proper.whole)
  rw [shown, wordless_append, wordless_cons]
  exact ⟨sign_wordless _, by decide, numeral_wordless _ whole (digits_wordless _ proper.fraction)⟩

theorem hundredfold_finite : (n * 100).isFinite = true ↔ absolute n * 100 < largest + 2 ^ (970 : Int) := by
  obtain ⟨hundredFinite, value⟩ := Number.hundred_exact
  rw [Number.product_finite_iff n 100 finite hundredFinite, value]

theorem percentage_form :
    (display .percentage decimals (.number n)).toList = Number.fixed (min decimals maxDecimals) (n * 100) ++ ['%'] := by
  rw [display_numeric n decimals finite .percentage (by decide)]
  rfl

theorem percentage_wordless :
    Wordless (display .percentage decimals (.number n)).toList ↔ absolute n * 100 < largest + 2 ^ (970 : Int) := by
  rw [percentage_form n decimals finite, wordless_append, ← hundredfold_finite n finite]
  constructor
  · intro wordless
    by_contra infinite
    exact infinite_word _ _ infinite wordless.1
  · intro small
    exact ⟨decimals_wordless _ _ (fixed_decimals _ _ small), mark_wordless '%' (by decide)⟩

theorem instant_wordless (form : Calendar.Instant → String) (wordless : ∀ i, Wordless (form i).toList) :
    Wordless (match (Value.number n).toInstant? with
      | some i => form i
      | none => (Value.number n).toText).toList := by
  cases (Value.number n).toInstant? with
  | none => exact text_wordless n finite
  | some i => exact wordless i

theorem numbers_displayed :
    (∃ numeral grouped, IsNumeral numeral ∧ numeral.fraction.length = min decimals maxDecimals ∧
        Grouped numeral.whole grouped ∧
        (display .number decimals (.number n)).toList = sign (Number.isNegative n) ++ numeralChars numeral ∧
        (display .currency decimals (.number n)).toList =
          sign (n < 0) ++ '$' :: numeralChars { numeral with whole := grouped }) ∧
      ((∃ cs, HasDecimals (min decimals maxDecimals) cs ∧
          (display .percentage decimals (.number n)).toList = cs ++ ['%']) ↔
        absolute n * 100 < largest + 2 ^ (970 : Int)) ∧
      ∀ format, Wordless (display format decimals (.number n)).toList ↔
        (format = .percentage → absolute n * 100 < largest + 2 ^ (970 : Int)) := by
  refine ⟨number_and_currency n decimals finite, ?_, ?_⟩
  · constructor
    · rintro ⟨cs, shaped, shown⟩
      rw [← percentage_wordless n decimals finite, shown, wordless_append]
      exact ⟨decimals_wordless _ cs shaped, mark_wordless '%' (by decide)⟩
    · intro small
      rw [percentage_form n decimals finite]
      exact ⟨_, fixed_decimals _ _ ((hundredfold_finite n finite).mpr small), rfl⟩
  · intro format
    cases format with
    | percentage =>
        rw [percentage_wordless n decimals finite]
        exact ⟨fun small _ => small, fun small => small rfl⟩
    | number => exact iff_of_true (number_wordless n decimals finite) nofun
    | currency => exact iff_of_true (currency_wordless n decimals finite) nofun
    | date =>
        refine iff_of_true (instant_wordless n finite Calendar.Instant.dateText fun i => ?_) nofun
        rw [Calendar.Instant.dateText, String.toList_ofList]
        exact date_wordless i.date
    | datetime =>
        refine iff_of_true (instant_wordless n finite Calendar.Instant.dateTimeText fun i => ?_) nofun
        rw [Calendar.Instant.dateTimeText, String.toList_ofList, wordless_append, wordless_cons]
        exact ⟨date_wordless i.date, by decide, time_wordless i⟩
    | text => exact iff_of_true (text_wordless n finite) nofun

omit finite

example : display .currency 2 (.number (Float.ofBits 0xc0934a0000000000)) = "-$1,234.50" := by decide +kernel

theorem amount_displayed :
    Wordless (display .currency 2 (.number (Float.ofBits 0xc0934a0000000000))).toList ∧
      ∃ cs, HasDecimals 2 cs ∧ (display .percentage 2 (.number (Float.ofBits 0xc0934a0000000000))).toList = cs ++ ['%'] := by
  have finite : (Float.ofBits 0xc0934a0000000000).isFinite = true := by decide +kernel
  have small := (hundredfold_finite _ finite).mp (by decide +kernel)
  obtain ⟨_, percentage, letters⟩ := numbers_displayed _ 2 finite
  exact ⟨(letters .currency).mpr nofun, percentage.mpr small⟩

theorem greatest_percentage_infinite :
    (Float.ofBits 0x7fefffffffffffff).isFinite = true ∧
      display .percentage 0 (.number (Float.ofBits 0x7fefffffffffffff)) = "inf%" ∧
      ¬∃ cs, HasDecimals 0 cs ∧ (display .percentage 0 (.number (Float.ofBits 0x7fefffffffffffff))).toList = cs ++ ['%'] := by
  have shown : display .percentage 0 (.number (Float.ofBits 0x7fefffffffffffff)) = "inf%" := by decide +kernel
  refine ⟨by decide +kernel, shown, ?_⟩
  rintro ⟨cs, shaped, same⟩
  rw [shown] at same
  have letter : 'i' ∈ cs ++ ['%'] := same ▸ (by decide : 'i' ∈ "inf%".toList)
  rcases List.mem_append.mp letter with inside | last
  · exact absurd (decimals_wordless 0 cs shaped 'i' inside) (by decide)
  · exact absurd (List.mem_singleton.mp last) (by decide)

end FormulaField.DisplayFormat
