import FormulaField.Number.Layout
import FormulaField.Proofs.Formula.Grammar
import FormulaField.Proofs.Number.Decimal

set_option autoImplicit false

namespace FormulaField.Number

theorem natural_append (cs ds : List Char) :
    naturalOf (cs ++ ds) = ds.foldl (fun n c => 10 * n + digitValue c) (naturalOf cs) :=
  List.foldl_append

theorem natural_padded (zeros : Nat) (ds : List Char) :
    naturalOf (List.replicate zeros '0' ++ ds) = naturalOf ds := by
  have nothing : naturalOf (List.replicate zeros '0') = 0 := by
    induction zeros with
    | zero => rfl
    | succ zeros ih =>
        rw [List.replicate_succ', natural_append, ih]
        rfl
  rw [natural_append, nothing, naturalOf]

theorem digits_read (n : Nat) : naturalOf (digits n) = n :=
  Nat.ofDigitChars_eq_foldl.symm.trans Nat.ofDigitChars_ten_toDigits

theorem digits_are_digits (n : Nat) (c : Char) (member : c ∈ digits n) : isDigit c = true := by
  have digit := Nat.isDigit_of_mem_toDigits (by decide) (by decide) member
  simpa [isDigit, Char.isDigit, Char.le_def] using digit

theorem whole_digits (n : Nat) : IsNumeral ⟨digits n, [], 0⟩ :=
  ⟨Nat.toDigits_ne_nil, digits_are_digits n, by simp, rfl⟩

theorem whole_digits_decimal (n : Nat) : (Numeral.mk (digits n) [] 0).decimal = ⟨n, 0⟩ := by
  rw [Numeral.decimal]
  simp [digits_read]

theorem split_numeral (places : Nat) (ds : List Char) (some : places ≠ 0) (all : ∀ c ∈ ds, isDigit c = true)
    (long : places < ds.length) :
    ∃ numeral, IsNumeral numeral ∧ ds.take (ds.length - places) ++ '.' :: ds.drop (ds.length - places) = numeralChars numeral ∧
      numeral.decimal = ⟨naturalOf ds, -(places : Int)⟩ ∧ numeral.whole = ds.take (ds.length - places) := by
  have fraction : (ds.drop (ds.length - places)).length = places := by
    rw [List.length_drop]
    omega
  refine ⟨⟨ds.take (ds.length - places), ds.drop (ds.length - places), 0⟩, ⟨?_, ?_, ?_, rfl⟩, ?_, ?_, rfl⟩
  · intro none
    have length := congrArg List.length none
    rw [List.length_take, List.length_nil] at length
    omega
  · exact fun c member => all c (List.mem_of_mem_take member)
  · exact fun c member => all c (List.mem_of_mem_drop member)
  · rw [numeralChars]
    cases digits : ds.drop (ds.length - places) with
    | nil =>
        rw [digits, List.length_nil] at fraction
        exact absurd fraction.symm some
    | cons c rest => rfl
  · rw [Numeral.decimal]
    simp only [List.take_append_drop, fraction]
    rw [Int.zero_sub]

theorem point_numeral (places : Nat) (n : Nat) (some : places ≠ 0) :
    ∃ numeral, IsNumeral numeral ∧ pointBefore places (digits n) = numeralChars numeral ∧
      numeral.decimal = ⟨n, -(places : Int)⟩ ∧ (numeral.whole.length ≠ 1 → numeral.whole <+: digits n) := by
  have padding : ∀ c ∈ List.replicate (places + 1 - (digits n).length) '0' ++ digits n, isDigit c = true := by
    intro c member
    rcases List.mem_append.mp member with zero | digit
    · rw [List.eq_of_mem_replicate zero]
      rfl
    · exact digits_are_digits n c digit
  have length : (List.replicate (places + 1 - (digits n).length) '0' ++ digits n).length =
      places + 1 - (digits n).length + (digits n).length := by
    rw [List.length_append, List.length_replicate]
  obtain ⟨numeral, proper, chars, value, whole⟩ := split_numeral places _ some padding (by omega)
  rw [natural_padded, digits_read] at value
  refine ⟨numeral, proper, ?_, value, ?_⟩
  · rw [pointBefore, if_neg some]
    exact chars
  · intro notOne
    rw [whole, List.length_take, Nat.min_eq_left (Nat.sub_le _ _)] at notOne
    have none : places + 1 - (digits n).length = 0 := by omega
    rw [whole, none, List.replicate_zero, List.nil_append]
    exact List.take_prefix _ _

theorem of_decimal_whole (coefficient : Nat) (exponent : Int) (whole : 0 ≤ exponent) (small : exponent ≤ 400) :
    ofDecimal false ⟨coefficient, exponent⟩ =
      if coefficient = 0 then zero false else ofRatio false (coefficient * tenTo exponent.toNat) 1 := by
  have notHigh : ¬400 < exponent := by omega
  have notLow : ¬exponent < -((coefficient.log2 : Int) + 1100) := by omega
  rw [ofDecimal]
  simp only [if_neg notHigh, if_neg notLow, if_pos whole]

theorem positional_numeral (d : Decimal) (small : d.exponent ≤ 400) :
    ∃ numeral, IsNumeral numeral ∧ positional d = numeralChars numeral ∧
      ofDecimal false numeral.decimal = ofDecimal false d := by
  obtain ⟨coefficient, exponent⟩ := d
  rw [positional]
  by_cases whole : 0 ≤ exponent
  · refine ⟨⟨digits (coefficient * tenTo exponent.toNat), [], 0⟩, whole_digits _, ?_, ?_⟩
    · rw [if_pos whole]
      simp [numeralChars]
    · have one : tenTo (0 : Int).toNat = 1 := rfl
      have power : tenTo exponent.toNat ≠ 0 := (Nat.pow_pos (by decide)).ne'
      rw [whole_digits_decimal, of_decimal_whole _ 0 (Int.le_refl 0) (by decide), one, Nat.mul_one,
        of_decimal_whole coefficient exponent whole small]
      simp [power]
  · obtain ⟨numeral, proper, same, decimal, _⟩ := point_numeral (-exponent).toNat coefficient (by omega)
    refine ⟨numeral, proper, by rw [if_neg whole, same], ?_⟩
    rw [decimal, Int.toNat_of_nonneg (by omega), Int.neg_neg]

theorem finite_exponent (x : Float) (d : Decimal) (finite : x.isFinite = true)
    (reads : magnitude (ofDecimal false d) = magnitude x) (some : d.coefficient ≠ 0) : d.exponent ≤ 400 := by
  have bound := (finite_iff x).mp finite
  rw [← reads, ofDecimal, if_neg some] at bound
  by_cases high : 400 < d.exponent
  · rw [if_pos high, infinity, magnitude_of_magnitude false _ (Nat.le_refl _)] at bound
    exact absurd bound (Nat.lt_irrefl _)
  · omega

theorem least_exponent (x : Float) (d : Decimal) (reads : magnitude (ofDecimal false d) = magnitude x)
    (apart : magnitude x ≠ 0) (some : d.coefficient ≠ 0) : -((d.coefficient.log2 : Int) + 1100) ≤ d.exponent := by
  by_contra low
  by_cases high : 400 < d.exponent
  · omega
  · rw [ofDecimal, if_neg some, if_neg high, if_pos (by omega), zero, magnitude_of_magnitude false 0 (Nat.zero_le _)] at reads
    exact apart reads.symm

theorem shortest_some (tie : Tie) (x : Float) (some : (shortest tie x).coefficient ≠ 0) : magnitude x ≠ 0 := by
  intro none
  have bits := (parts_of_magnitude x).bits
  have significand : (parts x).significand = 0 := by omega
  have ratio : (ratio x).1 = 0 := by
    rw [ratio]
    split <;> simp [significand]
  rw [shortest, if_pos ratio] at some
  exact some rfl

theorem shortest_exponent (tie : Tie) (x : Float) (finite : x.isFinite = true) (apart : magnitude x ≠ 0) :
    (shortest tie x).exponent ≤ 400 := by
  have reads := shortest_reads tie x finite
  refine finite_exponent x _ finite reads ?_
  intro none
  rw [ofDecimal, if_pos none, zero, magnitude_of_magnitude false 0 (Nat.zero_le _)] at reads
  exact apart reads.symm

theorem truncated_zero (x : Float) (whole : isWhole x = true) : truncatedAbs x = 0 ↔ magnitude x = 0 := by
  rw [← absolute_zero x, ← whole_is_value x whole, Nat.cast_eq_zero]

theorem zero_whole (x : Float) (finite : x.isFinite = true) (none : magnitude x = 0) : isWhole x = true := by
  have bits := (parts_of_magnitude x).bits
  have significand : (parts x).significand = 0 := by omega
  simp [isWhole, finite, significand]

-- The text of a finite number is a numeral that reads as the number, after the sign of the number; a
-- zero has no sign.
theorem chars_of_finite (x : Float) (finite : x.isFinite = true) :
    ∃ numeral, IsNumeral numeral ∧
      (∀ negative, ofDecimal negative numeral.decimal = ofMagnitude negative (magnitude x)) ∧
      chars x = sign (isNegative x && magnitude x != 0) ++ numeralChars numeral := by
  suffices unsigned : ∃ numeral, IsNumeral numeral ∧ magnitude (ofDecimal false numeral.decimal) = magnitude x ∧
      chars x = sign (isNegative x && magnitude x != 0) ++ numeralChars numeral by
    obtain ⟨numeral, proper, reads, same⟩ := unsigned
    exact ⟨numeral, proper, fun negative => by rw [of_decimal_magnitude, reads], same⟩
  have number := finite_number x finite
  have notInfinite : ¬(!x.isFinite) = true := by
    rw [finite]
    decide
  rw [chars, if_neg (Bool.eq_false_iff.mp number), if_neg notInfinite]
  by_cases whole : (isWhole x && decide (truncatedAbs x < wholeTextBound)) = true
  · have value := whole_is_value x (Bool.and_eq_true_iff.mp whole).1
    have reads : magnitude (ofDecimal false ⟨truncatedAbs x, 0⟩) = magnitude x :=
      read_value x _ finite (by rw [Decimal.number, zpow_zero, mul_one, value])
    have none := truncated_zero x (Bool.and_eq_true_iff.mp whole).1
    refine ⟨⟨digits (truncatedAbs x), [], 0⟩, whole_digits _, by rw [whole_digits_decimal, reads], ?_⟩
    have sameSign : (truncatedAbs x != 0) = (magnitude x != 0) := by
      rw [Bool.eq_iff_iff, bne_iff_ne, bne_iff_ne, Ne, none]
    rw [if_pos whole, sameSign]
    simp [numeralChars]
  · have apart : magnitude x ≠ 0 := by
      intro none
      have isWhole := zero_whole x finite none
      refine whole ?_
      rw [isWhole, (truncated_zero x isWhole).mpr none]
      decide
    obtain ⟨numeral, proper, same, reads⟩ := positional_numeral (shortest .upper x) (shortest_exponent .upper x finite apart)
    refine ⟨numeral, proper, by rw [reads, shortest_reads .upper x finite], ?_⟩
    rw [if_neg whole, same, bne_iff_ne.mpr apart, Bool.and_true]

theorem chars_of_unsigned (x : Float) (finite : x.isFinite = true) (unsigned : isNegative x = false) :
    ∃ numeral, IsNumeral numeral ∧ chars x = numeralChars numeral ∧ numeral.value = x := by
  obtain ⟨numeral, proper, reads, same⟩ := chars_of_finite x finite
  refine ⟨numeral, proper, by simpa [unsigned, sign] using same, ?_⟩
  rw [Numeral.value, reads false, ← unsigned, own_magnitude x finite]

end FormulaField.Number
