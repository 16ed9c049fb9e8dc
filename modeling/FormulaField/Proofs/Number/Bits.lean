import FormulaField.Number.Binary
import Mathlib

set_option autoImplicit false

namespace FormulaField.Number

open Float.Model (Format)
open Float.Model.UnpackedFloat

abbrev DoubleBits := BitVec Format.binary64.numBits

def IsNumber (b : DoubleBits) : Prop := unpackExponent b = -1#_ → unpackMantissa b = 0#_

theorem sign_to_nat (b : DoubleBits) : (unpackSign b).toNat = b.toNat / 2 ^ 63 % 2 := by
  simp [unpackSign, Nat.shiftRight_eq_div_pow]

theorem exponent_to_nat (b : DoubleBits) : (unpackExponent b).toNat = b.toNat / 2 ^ 52 % 2 ^ 11 := by
  simp [unpackExponent, Nat.shiftRight_eq_div_pow]

theorem mantissa_to_nat (b : DoubleBits) : (unpackMantissa b).toNat = b.toNat % 2 ^ 52 := by
  simp [unpackMantissa]

theorem all_ones_exponent (b : DoubleBits) : unpackExponent b = -1#_ ↔ b.toNat / 2 ^ 52 % 2 ^ 11 = 2047 := by
  rw [← BitVec.toNat_inj, exponent_to_nat]
  rfl

theorem no_mantissa (b : DoubleBits) : unpackMantissa b = 0#_ ↔ b.toNat % 2 ^ 52 = 0 := by
  rw [← BitVec.toNat_inj, mantissa_to_nat]
  rfl

theorem bits_of_bits (b : UInt64) (number : IsNumber b.toBitVec) : (Float.ofBits b).toBits = b := by
  have packed : (Float.ofBits b).toBits =
      UInt64.ofBitVec (pack Format.binary64 (unpack Format.binary64 b.toBitVec)) := rfl
  have notNaN : ¬@isNaNBits Format.binary64 b.toBitVec = true := by
    rw [isNaNBits, decide_eq_true_eq]
    exact fun ⟨special, mantissa⟩ => mantissa (number special)
  rw [packed, pack_unpack, if_neg notNaN]

theorem magnitude_is_number (b : DoubleBits) (bound : b.toNat % 2 ^ 63 ≤ infiniteMagnitude) : IsNumber b := by
  intro special
  rw [all_ones_exponent] at special
  rw [no_mantissa]
  simp only [infiniteMagnitude, twoTo, Nat.pow_eq] at bound
  omega

theorem bits_of_magnitude (negative : Bool) (m : Nat) (bound : m ≤ infiniteMagnitude) :
    (ofMagnitude negative m).toBits.toNat = if negative then m + 2 ^ 63 else m := by
  have small : m < 2 ^ 63 := Nat.lt_of_le_of_lt bound (by decide)
  have stored : (UInt64.ofNat (if negative then m + twoTo 63 else m)).toNat = if negative then m + 2 ^ 63 else m := by
    rw [UInt64.toNat_ofNat', Nat.mod_eq_of_lt]
    · rfl
    · cases negative <;> simp [twoTo] <;> omega
  rw [ofMagnitude, bits_of_bits, stored]
  refine magnitude_is_number _ ?_
  have whole : (UInt64.ofNat (if negative then m + twoTo 63 else m)).toBitVec.toNat =
      if negative then m + 2 ^ 63 else m := stored
  rw [whole]
  cases negative <;> simp <;> omega

theorem magnitude_of_magnitude (negative : Bool) (m : Nat) (bound : m ≤ infiniteMagnitude) :
    magnitude (ofMagnitude negative m) = m := by
  have small : m < 2 ^ 63 := Nat.lt_of_le_of_lt bound (by decide)
  rw [magnitude, bits_of_magnitude negative m bound, twoTo, Nat.pow_eq]
  cases negative <;> simp
  all_goals omega

theorem negative_of_magnitude (negative : Bool) (m : Nat) (bound : m ≤ infiniteMagnitude) :
    isNegative (ofMagnitude negative m) = negative := by
  have small : m < 2 ^ 63 := Nat.lt_of_le_of_lt bound (by decide)
  rw [isNegative, bits_of_magnitude negative m bound, twoTo, Nat.pow_eq]
  cases negative <;> simp
  omega

def ownBits (x : Float) : DoubleBits := x.toBits.toBitVec

theorem finite_iff (x : Float) : x.isFinite = true ↔ magnitude x < infiniteMagnitude := by
  have unpacked : x.isFinite = (unpack Format.binary64 (ownBits x)).isFinite := rfl
  have below : unpackExponent (ownBits x) = -1#_ ↔ ¬magnitude x < infiniteMagnitude := by
    have same : (ownBits x).toNat = x.toBits.toNat := rfl
    rw [all_ones_exponent, same, magnitude, infiniteMagnitude]
    simp only [twoTo, Nat.pow_eq]
    omega
  rw [unpacked, unpack]
  by_cases infinite : unpackExponent (ownBits x) = -1#_
  · simp only [infinite, below.mp infinite, if_true]
    split <;> simp [isFinite]
  · have isBelow := Decidable.not_not.mp (fun notBelow => infinite (below.mpr notBelow))
    simp only [infinite, isBelow, if_false, iff_true]
    split
    · split <;> rfl
    · rfl

theorem finite_number (x : Float) (finite : x.isFinite = true) : x.isNaN = false := by
  have unpacked : x.isFinite = (unpack Format.binary64 (ownBits x)).isFinite := rfl
  have other : x.isNaN = (unpack Format.binary64 (ownBits x)).isNaN := rfl
  rw [unpacked] at finite
  rw [other]
  cases same : unpack Format.binary64 (ownBits x) with
  | notANumber => simp [same, isFinite] at finite
  | infinity s => rfl
  | zero s => rfl
  | finite s m e positive => rfl

theorem own_magnitude (x : Float) (finite : x.isFinite = true) : ofMagnitude (isNegative x) (magnitude x) = x := by
  have bound := Nat.le_of_lt ((finite_iff x).mp finite)
  have range : x.toBits.toNat < 2 ^ 64 := x.toBits.toNat_lt
  apply Float.toBits_inj.mp
  apply UInt64.toNat_inj.mp
  rw [bits_of_magnitude _ _ bound, isNegative, magnitude, twoTo, Nat.pow_eq]
  by_cases high : 2 ^ 63 ≤ x.toBits.toNat
  · simp only [high, decide_true, if_true]
    omega
  · simp only [high, decide_false]
    simp
    omega

end FormulaField.Number
