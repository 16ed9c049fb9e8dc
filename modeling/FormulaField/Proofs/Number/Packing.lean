import FormulaField.Proofs.Number.Nearest

set_option autoImplicit false

namespace FormulaField.Number

open Float.Model (Format totalExponent)
open Float.Model.UnpackedFloat

theorem round_scaled (num den factor : Nat) (some : 0 < factor) :
    roundHalfEven (num * factor) (den * factor) = roundHalfEven num den := by
  have twice : 2 * (num % den * factor) = 2 * (num % den) * factor := (Nat.mul_assoc _ _ _).symm
  have less (a b : Nat) : a * factor < b * factor ↔ a < b := Nat.mul_lt_mul_right some
  rw [roundHalfEven, roundHalfEven, Nat.mul_div_mul_right _ _ some, Nat.mul_mod_mul_right, twice]
  simp only [less]

theorem round_same_ratio (num den other otherDen : Nat) (positive : 0 < den) (otherPositive : 0 < otherDen)
    (same : (num : ℚ) / den = other / otherDen) : roundHalfEven num den = roundHalfEven other otherDen := by
  have apart : (den : ℚ) ≠ 0 := Nat.cast_ne_zero.mpr positive.ne'
  have otherApart : (otherDen : ℚ) ≠ 0 := Nat.cast_ne_zero.mpr otherPositive.ne'
  have cross : num * otherDen = other * den := by
    rw [div_eq_div_iff apart otherApart] at same
    exact_mod_cast same
  rw [← round_scaled num den otherDen otherPositive, cross, Nat.mul_comm den, round_scaled other otherDen den positive]

-- What a significand keeps of a ratio: the whole part, and of the rest whether it is at least a half, and whether it is
-- anything but nothing or a half.
structure Shortened (num den : Nat) (em : ExtendedMantissa) : Prop where
  whole : em.mantissa = num / den
  round : em.roundBit = true ↔ den ≤ 2 * (num % den)
  sticky : em.stickyBit = true ↔ 2 * (num % den) ≠ 0 ∧ 2 * (num % den) ≠ den

theorem shortened_once (num den : Nat) (positive : 0 < den) (em : ExtendedMantissa) (shortened : Shortened num den em) :
    Shortened num (den * 2) em.shiftRightOne := by
  obtain ⟨whole, round, sticky⟩ := shortened
  have rest := Nat.mod_lt num positive
  have next : num % (den * 2) = num % den + den * (num / den % 2) := Nat.mod_mul
  have bit := Nat.mod_two_eq_zero_or_one (num / den)
  constructor
  · rw [ExtendedMantissa.shiftRightOne, whole, Nat.div_div_eq_div_mul]
  · rw [ExtendedMantissa.shiftRightOne, bne_iff_ne, whole, next]
    rcases bit with zero | one
    · rw [zero]
      omega
    · rw [one]
      omega
  · rw [ExtendedMantissa.shiftRightOne, Bool.or_eq_true, round, sticky, next]
    rcases bit with zero | one
    · rw [zero]
      omega
    · rw [one]
      omega

theorem shortened_quotient (num den : Nat) (positive : 0 < den) :
    Shortened num den (ExtendedMantissa.ofMantissaAndAccuracy (num / den) (accuracyOfFraction (num % den) den)) := by
  rw [accuracyOfFraction]
  by_cases none : num % den = 0
  · rw [if_pos none, ExtendedMantissa.ofMantissaAndAccuracy]
    exact ⟨rfl, iff_of_false nofun (by omega), iff_of_false nofun (by omega)⟩
  · rw [if_neg none]
    rcases lt_trichotomy (2 * (num % den)) den with less | half | more
    · rw [compare_lt_iff_lt.mpr less, ExtendedMantissa.ofMantissaAndAccuracy]
      exact ⟨rfl, iff_of_false nofun (by omega), iff_of_true rfl (by omega)⟩
    · rw [compare_eq_iff_eq.mpr half, ExtendedMantissa.ofMantissaAndAccuracy]
      exact ⟨rfl, iff_of_true rfl (by omega), iff_of_false nofun (by omega)⟩
    · rw [compare_gt_iff_gt.mpr more, ExtendedMantissa.ofMantissaAndAccuracy]
      exact ⟨rfl, iff_of_true rfl (by omega), iff_of_true rfl (by omega)⟩

theorem shortened (num den : Nat) (positive : 0 < den) (places : Nat) : Shortened num (den * 2 ^ places)
    (ExtendedMantissa.ofMantissaAndAccuracy (num / den) (accuracyOfFraction (num % den) den) >>> places) := by
  induction places with
  | zero =>
      rw [pow_zero, Nat.mul_one]
      exact shortened_quotient num den positive
  | succ places ih =>
      rw [Nat.pow_succ, ← Nat.mul_assoc]
      exact shortened_once num _ (Nat.mul_pos positive (Nat.pow_pos Nat.two_pos)) _ ih

theorem rounded_of_shortened (num den : Nat) (positive : 0 < den) (em : ExtendedMantissa)
    (shortened : Shortened num den em) : em.roundedMantissa = roundHalfEven num den := by
  obtain ⟨whole, round, sticky⟩ := shortened
  obtain ⟨own, roundBit, stickyBit⟩ := em
  simp only at whole round sticky
  rw [roundHalfEven, ← whole]
  cases roundBit with
  | false =>
      have short : 2 * (num % den) < den := Nat.lt_of_not_le fun long => Bool.false_ne_true (round.mpr long)
      rw [if_pos short]
      cases stickyBit <;> rfl
  | true =>
      have long := round.mp rfl
      cases stickyBit with
      | true =>
          have other := (sticky.mp rfl).2
          rw [if_neg (by omega), if_pos (by omega)]
          rfl
      | false =>
          have tie : 2 * (num % den) = den := by
            by_contra other
            exact Bool.false_ne_true (sticky.mpr ⟨by omega, other⟩)
          rw [if_neg (by omega), if_neg (by omega)]
          have even : ExtendedMantissa.roundedMantissa ⟨own, true, false⟩ = own + own % 2 := rfl
          rw [even]
          split <;> omega

theorem target_exponent (m : Nat) (e : Int) :
    Format.binary64.targetExponent (totalExponent m e) = max ((m.log2 : Int) + e - 52) (-1074) := by
  change max ((m.log2 : Int) + 1 + e - 53) (-1074) = _
  omega

theorem shift_exponent (m : Nat) (e : Int) (accuracy : Accuracy) :
    (shiftToTargetExponent Format.binary64 m e accuracy).2 = max e (max ((m.log2 : Int) + e - 52) (-1074)) := by
  rw [shiftToTargetExponent, target_exponent, shiftToExponent]
  simp only
  omega

theorem shift_mantissa (m : Nat) (e : Int) :
    (shiftToTargetExponent Format.binary64 m e .exact).1.mantissa =
      m / 2 ^ (max ((m.log2 : Int) + e - 52) (-1074) - e).toNat := by
  have whole := (shortened m 1 Nat.one_pos (max ((m.log2 : Int) + e - 52) (-1074) - e).toNat).whole
  rw [Nat.div_one, Nat.mod_one, Nat.one_mul] at whole
  rw [shiftToTargetExponent, target_exponent]
  exact whole

theorem log_short (n bits : Nat) (short : n < 2 ^ (bits + 1)) : n.log2 ≤ bits := by
  by_cases none : n = 0
  · rw [none, Nat.log2_zero]
    exact Nat.zero_le _
  · exact Nat.le_of_lt_succ ((Nat.log2_lt none).mpr short)

-- Where rounding carries into a further bit, the significand is cut once more, and that is exact.
theorem carried (r : Nat) (t : Int) (least : -1074 ≤ t) (short : r ≤ 2 ^ 53) :
    ((shiftToTargetExponent Format.binary64 r t .exact).1.mantissa, (shiftToTargetExponent Format.binary64 r t .exact).2) =
      if r = 2 ^ 53 then (2 ^ 52, t + 1) else (r, t) := by
  rw [shift_mantissa, shift_exponent]
  split
  next full =>
    have bits : r.log2 = 53 := by rw [full, Nat.log2_two_pow]
    have more : max t (max ((r.log2 : Int) + t - 52) (-1074)) = t + 1 := by omega
    have places : (max ((r.log2 : Int) + t - 52) (-1074) - t).toNat = 1 := by omega
    rw [more, places, full]
    rfl
  next notFull =>
    have bits := log_short r 52 (by omega)
    have same : max t (max ((r.log2 : Int) + t - 52) (-1074)) = t := by omega
    have places : (max ((r.log2 : Int) + t - 52) (-1074) - t).toNat = 0 := by omega
    rw [same, places, pow_zero, Nat.div_one]

def signOf (negative : Bool) : Sign := if negative then .negative else .positive

theorem sign_times (first second : Bool) : signOf first * signOf second = signOf (first != second) := by
  cases first <;> cases second <;> rfl

theorem sign_divided (first second : Bool) : signOf first / signOf second = signOf (first != second) := by
  cases first <;> cases second <;> rfl

theorem sign_of_components (sign : Sign) (exponent : BitVec Format.binary64.exponentBits)
    (mantissa : BitVec Format.binary64.mantissaBitsWithoutImplicit) :
    unpackSign (packComponents Format.binary64 sign exponent mantissa) = sign.toBitVec := by
  ext i inside
  obtain rfl : i = 0 := by omega
  have field (b : DoubleBits) : (unpackSign b)[0] = b.getLsbD 63 := by simp [unpackSign]
  rw [field, packComponents, BitVec.getLsbD_append, BitVec.getLsbD_append]
  rfl

theorem field_bits (b : DoubleBits) :
    b.toNat % 2 ^ 63 = (unpackExponent b).toNat * 2 ^ 52 + (unpackMantissa b).toNat := by
  rw [exponent_to_nat, mantissa_to_nat]
  omega

theorem packed_zero (sign : Sign) : (packedZero Format.binary64 sign).toNat % 2 ^ 63 = 0 := by
  cases sign <;> decide

theorem packed_sign (sign : Sign) (m : Nat) (e : Int) (positive : 0 < m) :
    unpackSign (pack Format.binary64 (.finite sign m e positive)) = sign.toBitVec := by
  rw [pack]
  split
  · rw [packedInfinity, sign_of_components]
  · split
    · rw [sign_of_components]
    · rw [sign_of_components]

theorem packed_magnitude (sign : Sign) (m : Nat) (e : Int) (positive : 0 < m) (least : -1074 ≤ e) (short : m < 2 ^ 53)
    (full : e = -1074 ∨ 2 ^ 52 ≤ m) :
    (pack Format.binary64 (.finite sign m e positive)).toNat % 2 ^ 63 =
      min ((e + 1074).toNat * 2 ^ 52 + m) infiniteMagnitude := by
  have top : infiniteMagnitude = 2047 * 2 ^ 52 := rfl
  rw [pack, field_bits]
  by_cases far : 2 ^ Format.binary64.exponentBits ≤
      (e + Format.binary64.exponentBias + Format.binary64.mantissaBitsWithoutImplicit).toNat + 1
  · rw [if_pos far, packedInfinity, unpackExponent_packComponents, unpackMantissa_packComponents]
    have exponent : 2048 ≤ (e + 1023 + 52).toNat + 1 := far
    have ones : (-BitVec.ofNat Format.binary64.exponentBits 1).toNat = 2047 := rfl
    have none : (0 : BitVec Format.binary64.mantissaBitsWithoutImplicit).toNat = 0 := rfl
    rw [ones, none, top]
    omega
  · rw [if_neg far]
    have exponent : ¬2048 ≤ (e + 1023 + 52).toNat + 1 := far
    have bits : m.log2 + 1 = Format.binary64.mantissaBits ↔ 2 ^ 52 ≤ m := by
      change m.log2 + 1 = 53 ↔ _
      have above := (Nat.le_log2 positive.ne' (k := 52)).symm
      have below := (Nat.log2_lt positive.ne' (k := 53)).mpr short
      omega
    by_cases normal : 2 ^ 52 ≤ m
    · rw [if_pos (bits.mpr normal), unpackExponent_packComponents, unpackMantissa_packComponents, BitVec.toNat_ofNat,
        BitVec.toNat_ofNat]
      change (e + 1023 + 52).toNat % 2048 * 2 ^ 52 + m % 2 ^ 52 = _
      omega
    · rw [if_neg fun all => normal (bits.mp all), unpackExponent_packComponents, unpackMantissa_packComponents,
        BitVec.toNat_ofNat]
      change 0 % 2048 * 2 ^ 52 + m % 2 ^ 52 = _
      omega

theorem packed_result (sign : Sign) (m : Nat) (e : Int) (least : -1074 ≤ e) (short : m < 2 ^ 53)
    (full : e = -1074 ∨ 2 ^ 52 ≤ m) (x : Float.Model.UnpackedFloat)
    (made : x = if h : m = 0 then .zero sign else .finite sign m e (Nat.pos_of_ne_zero h)) :
    unpackSign (pack Format.binary64 x) = sign.toBitVec ∧
      (pack Format.binary64 x).toNat % 2 ^ 63 = min ((e + 1074).toNat * 2 ^ 52 + m) infiniteMagnitude := by
  rw [made]
  split
  next none =>
    have zero : pack Format.binary64 (.zero sign) = packedZero Format.binary64 sign := rfl
    have smallest : e = -1074 := by omega
    rw [zero, packed_zero, none, smallest, packedZero, sign_of_components]
    exact ⟨rfl, rfl⟩
  next some => exact ⟨packed_sign sign m e _, packed_magnitude sign m e _ least short full⟩

theorem of_packed (x : Float) (negative : Bool) (m : Nat) (bound : m ≤ infiniteMagnitude)
    (sign : unpackSign (ownBits x) = (signOf negative).toBitVec) (field : (ownBits x).toNat % 2 ^ 63 = m) :
    x = ofMagnitude negative m := by
  have range : x.toBits.toNat < 2 ^ 64 := x.toBits.toNat_lt
  have same : (ownBits x).toNat = x.toBits.toNat := rfl
  have bit := congrArg BitVec.toNat sign
  rw [sign_to_nat, same] at bit
  rw [same] at field
  apply Float.toBits_inj.mp
  apply UInt64.toNat_inj.mp
  rw [bits_of_magnitude _ _ bound]
  cases negative with
  | false =>
      change x.toBits.toNat / 2 ^ 63 % 2 = 0 at bit
      simp only [Bool.false_eq_true, if_false]
      omega
  | true =>
      change x.toBits.toNat / 2 ^ 63 % 2 = 1 at bit
      simp only [if_true]
      omega

theorem of_packed_zero (x : Float) (negative : Bool)
    (packed : ownBits x = pack Format.binary64 (.zero (signOf negative))) : x = zero negative := by
  refine of_packed x negative 0 (Nat.zero_le _) ?_ ?_
  · rw [packed]
    cases negative <;> decide
  · rw [packed]
    cases negative <;> decide

theorem of_packed_infinity (x : Float) (negative : Bool)
    (packed : ownBits x = pack Format.binary64 (.infinity (signOf negative))) : x = infinity negative := by
  refine of_packed x negative _ (Nat.le_refl _) ?_ ?_
  · rw [packed]
    cases negative <;> decide
  · rw [packed]
    cases negative <;> decide

theorem of_packed_not_number (x : Float) (packed : ownBits x = pack Format.binary64 .notANumber) : x.isNaN = true := by
  have unpacked : x.isNaN = (unpack Format.binary64 (ownBits x)).isNaN := rfl
  rw [unpacked, packed]
  decide

theorem product_bits (x y : Float) : ownBits (x * y) = pack Format.binary64
    (mul Format.binary64 (unpack Format.binary64 (ownBits x)) (unpack Format.binary64 (ownBits y))) := rfl

theorem quotient_bits (x y : Float) : ownBits (x / y) = pack Format.binary64
    (div Format.binary64 (unpack Format.binary64 (ownBits x)) (unpack Format.binary64 (ownBits y))) := rfl

theorem full_mantissa (b : DoubleBits) : (1#1 ++ unpackMantissa b).toNat = b.toNat % 2 ^ 52 + 2 ^ 52 := by
  have short : b.toNat % 2 ^ 52 < 2 ^ 52 := Nat.mod_lt _ (by decide)
  have added := Nat.two_pow_add_eq_or_of_lt short 1
  rw [BitVec.toNat_append, mantissa_to_nat, Nat.shiftLeft_eq]
  change 1 * 2 ^ 52 ||| _ = _
  rw [Nat.mul_comm 1, ← added, Nat.mul_one, Nat.add_comm]

theorem biased_exponent (b : DoubleBits) :
    ((unpackExponent b).toNat : Int) - (Format.binary64.exponentBias + Format.binary64.mantissaBitsWithoutImplicit) =
      ((b.toNat / 2 ^ 52 % 2 ^ 11 : Nat) : Int) - 1075 := by
  rw [exponent_to_nat]
  rfl

theorem own_sign (x : Float) : Sign.ofBitVec (unpackSign (ownBits x)) = signOf (isNegative x) := by
  have range : x.toBits.toNat < 2 ^ 64 := x.toBits.toNat_lt
  have same : (ownBits x).toNat = x.toBits.toNat := rfl
  have bit : unpackSign (ownBits x) = 0#1 ↔ x.toBits.toNat < 2 ^ 63 := by
    rw [← BitVec.toNat_inj, sign_to_nat, same]
    change x.toBits.toNat / 2 ^ 63 % 2 = 0 ↔ _
    omega
  rw [Sign.ofBitVec, signOf, isNegative, twoTo, Nat.pow_eq]
  simp only [bit]
  by_cases low : x.toBits.toNat < 2 ^ 63
  · rw [if_pos low, if_neg (by simpa using low)]
  · rw [if_neg low, if_pos (by simpa using low)]

theorem unpack_parts (x : Float) (finite : x.isFinite = true) :
    ((parts x).significand = 0 ∧ unpack Format.binary64 (ownBits x) = .zero (signOf (isNegative x))) ∨
      ∃ positive, unpack Format.binary64 (ownBits x) =
        .finite (signOf (isNegative x)) (parts x).significand (parts x).exponent positive := by
  have bound := (finite_iff x).mp finite
  have same : (ownBits x).toNat = x.toBits.toNat := rfl
  have fields := field_bits (ownBits x)
  have low := mantissa_to_nat (ownBits x)
  have high := exponent_to_nat (ownBits x)
  have own : magnitude x = (ownBits x).toNat % 2 ^ 63 := rfl
  have notSpecial : unpackExponent (ownBits x) ≠ -1#_ := by
    rw [Ne, all_ones_exponent, ← high]
    rw [own, infiniteMagnitude, two_to_52] at bound
    omega
  have power := biased_exponent (ownBits x)
  rw [unpack, if_neg notSpecial, own_sign]
  by_cases subnormal : unpackExponent (ownBits x) = 0#_
  · have none : (unpackExponent (ownBits x)).toNat = 0 := congrArg BitVec.toNat subnormal
    have small : magnitude x / twoTo 52 = 0 := by
      rw [own, two_to_52]
      omega
    have significand : (unpackMantissa (ownBits x)).toNat = magnitude x % twoTo 52 := by
      rw [own, two_to_52]
      omega
    rw [parts, if_pos small, if_pos subnormal]
    by_cases zero : unpackMantissa (ownBits x) = 0#_
    · rw [dif_pos zero]
      refine .inl ⟨?_, rfl⟩
      rw [← significand, zero]
      rfl
    · rw [dif_neg zero]
      have some : 0 < magnitude x % twoTo 52 := by
        rw [← significand, ← BitVec.toNat_zero, ← BitVec.lt_def, BitVec.pos_iff_ne_zero]
        exact zero
      have exponent : ((unpackExponent (ownBits x)).toNat : Int) -
          (Format.binary64.exponentBias + Format.binary64.mantissaBitsWithoutImplicit) + 1 = -1074 := by
        rw [none]
        rfl
      exact .inr ⟨some, by simp only [significand, exponent]⟩
  · have some : (unpackExponent (ownBits x)).toNat ≠ 0 := fun none => subnormal (BitVec.toNat_inj.mp none)
    have large : magnitude x / twoTo 52 ≠ 0 := by
      rw [own, two_to_52]
      omega
    have significand : (1#1 ++ unpackMantissa (ownBits x)).toNat = magnitude x % twoTo 52 + twoTo 52 := by
      rw [full_mantissa, own, two_to_52]
      omega
    have exponent : (ownBits x).toNat / 2 ^ 52 % 2 ^ 11 = magnitude x / twoTo 52 := by
      rw [own, two_to_52]
      omega
    rw [exponent] at power
    rw [parts, if_neg large, if_neg subnormal]
    refine .inr ⟨?_, ?_⟩
    · exact Nat.add_pos_right _ (Nat.pow_pos Nat.two_pos)
    · simp only [significand, power]

end FormulaField.Number
