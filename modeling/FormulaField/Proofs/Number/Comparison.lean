import FormulaField.Number.Layout
import FormulaField.Proofs.Number.Packing

set_option autoImplicit false

namespace FormulaField.Number

open Float.Model (Format UnpackedFloat)
open Float.Model.UnpackedFloat (unpack)

theorem equals_self (x : Float) (finite : x.isFinite = true) : (x == x) = true := by
  rw [Float.beq_self_iff]
  rintro rfl
  cases finite

theorem compared_equal (x y : Float) (equal : (x == y) = true) :
    (unpack Format.binary64 (ownBits x)).compare (unpack Format.binary64 (ownBits y)) = some .eq :=
  beq_iff_eq.mp equal

theorem equal_bits (x y : Float) (finite : x.isFinite = true) (otherFinite : y.isFinite = true)
    (equal : (x == y) = true) : magnitude x = magnitude y ∧ (magnitude x = 0 ∨ isNegative x = isNegative y) := by
  have compared := compared_equal x y equal
  rcases unpack_parts x finite with ⟨none, own⟩ | ⟨some, own⟩
  · rcases unpack_parts y otherFinite with ⟨otherNone, other⟩ | ⟨otherSome, other⟩
    · exact ⟨(no_significand x none).trans (no_significand y otherNone).symm, .inl (no_significand x none)⟩
    · rw [own, other] at compared
      cases sign : isNegative y <;> rw [sign] at compared <;> cases compared
  · rcases unpack_parts y otherFinite with ⟨otherNone, other⟩ | ⟨otherSome, other⟩
    · rw [own, other] at compared
      cases sign : isNegative x <;> rw [sign] at compared <;> cases compared
    · rw [own, other] at compared
      have same : isNegative x = isNegative y ∧ (parts x).exponent = (parts y).exponent ∧
          (parts x).significand = (parts y).significand := by
        cases sign : isNegative x <;> cases otherSign : isNegative y <;> rw [sign, otherSign] at compared
        · have ordered := Option.some.inj compared
          rw [Ordering.then_eq_eq, compare_eq_iff_eq, compare_eq_iff_eq] at ordered
          exact ⟨rfl, ordered⟩
        · cases compared
        · cases compared
        · have ordered := Option.some.inj compared
          rw [Ordering.swap_eq_eq, Ordering.then_eq_eq, compare_eq_iff_eq, compare_eq_iff_eq] at ordered
          exact ⟨rfl, ordered⟩
      obtain ⟨signs, exponents, significands⟩ := same
      refine ⟨?_, .inr signs⟩
      rw [← (parts_of_magnitude x).bits, ← (parts_of_magnitude y).bits, exponents, significands]

theorem equal_finite (x y : Float) (equal : (x == y) = true) : x.isFinite = y.isFinite := by
  have compared := compared_equal x y equal
  change (unpack Format.binary64 (ownBits x)).isFinite = (unpack Format.binary64 (ownBits y)).isFinite
  generalize unpack Format.binary64 (ownBits x) = first at compared
  generalize unpack Format.binary64 (ownBits y) = second at compared
  cases first with
  | notANumber => cases compared
  | infinity s =>
      cases second with
      | notANumber => cases compared
      | infinity => rfl
      | zero | finite => cases s <;> cases compared
  | zero | finite s =>
      cases second with
      | notANumber => cases compared
      | infinity t => cases t <;> cases compared
      | zero | finite => rfl

theorem unsigned_or_zero (x : Float) (finite : x.isFinite = true) (notBelow : 0 ≤ x) :
    isNegative x = false ∨ magnitude x = 0 := by
  have compared : ((UnpackedFloat.zero .positive).compare (unpack Format.binary64 (ownBits x))).any (·.isLE) = true :=
    of_decide_eq_true (p := (0 : Float).toModel ≤ x.toModel) notBelow
  rcases unpack_parts x finite with ⟨none, own⟩ | ⟨some, own⟩
  · exact .inr (no_significand x none)
  · rw [own] at compared
    cases sign : isNegative x with
    | false => exact .inl rfl
    | true =>
        rw [sign] at compared
        cases compared

def unsigned (x : Float) : Float := ofMagnitude false (magnitude x)

theorem magnitude_bound (x : Float) (finite : x.isFinite = true) : magnitude x ≤ infiniteMagnitude :=
  Nat.le_of_lt ((finite_iff x).mp finite)

theorem unsigned_finite (x : Float) (finite : x.isFinite = true) : (unsigned x).isFinite = true := by
  rw [finite_iff, unsigned, magnitude_of_magnitude false _ (magnitude_bound x finite)]
  exact (finite_iff x).mp finite

theorem unsigned_parts (x : Float) (finite : x.isFinite = true) :
    parts (unsigned x) = { parts x with negative := false } := by
  rw [parts, parts, unsigned, magnitude_of_magnitude _ _ (magnitude_bound x finite),
    negative_of_magnitude _ _ (magnitude_bound x finite)]
  split <;> rfl

theorem abs_unsigned (x : Float) (finite : x.isFinite = true) : x.abs = unsigned x := by
  have packed : ownBits x.abs =
      UnpackedFloat.pack Format.binary64 (UnpackedFloat.abs (unpack Format.binary64 (ownBits x))) := rfl
  have shape := parts_of_magnitude x
  have bound := magnitude_bound x finite
  have made : UnpackedFloat.abs (unpack Format.binary64 (ownBits x)) =
      if h : (parts x).significand = 0 then .zero .positive
      else .finite .positive (parts x).significand (parts x).exponent (Nat.pos_of_ne_zero h) := by
    rcases unpack_parts x finite with ⟨none, own⟩ | ⟨some, own⟩
    · rw [own, dif_pos none]
      rfl
    · rw [own, dif_neg some.ne']
      rfl
  obtain ⟨sign, field⟩ := packed_result .positive _ _ shape.least shape.short shape.full _ made
  refine of_packed _ false _ bound (packed ▸ sign) ?_
  rw [packed, field, shape.bits]
  exact Nat.min_eq_left bound

theorem unsigned_not_negative (x : Float) (finite : x.isFinite = true) : isNegative (unsigned x) = false :=
  negative_of_magnitude false _ (magnitude_bound x finite)

theorem unsigned_cases (x : Float) (finite : x.isFinite = true) (notBelow : 0 ≤ x) :
    unsigned x = x ∨ unsigned x = zero false ∧ x = zero true := by
  have own := own_magnitude x finite
  cases sign : isNegative x with
  | false =>
      rw [sign] at own
      exact .inl own
  | true =>
      rcases unsigned_or_zero x finite notBelow with unsign | none
      · rw [sign] at unsign
        cases unsign
      · rw [sign, none] at own
        exact .inr ⟨congrArg (ofMagnitude false) none, own.symm⟩

theorem unsigned_equals (x : Float) (finite : x.isFinite = true) (notBelow : 0 ≤ x) : (unsigned x == x) = true := by
  rcases unsigned_cases x finite notBelow with same | ⟨plain, signed⟩
  · rw [same]
    exact equals_self x finite
  · rw [plain, signed]
    decide +kernel

theorem unsigned_chars (x : Float) (finite : x.isFinite = true) (notBelow : 0 ≤ x) : chars (unsigned x) = chars x := by
  rcases unsigned_cases x finite notBelow with same | ⟨plain, signed⟩
  · rw [same]
  · rw [plain, signed]
    decide +kernel

def plain (x : Float) : Float := ofMagnitude (isNegative x && magnitude x != 0) (magnitude x)

theorem plain_equals (x : Float) (finite : x.isFinite = true) : (plain x == x) = true := by
  have own := own_magnitude x finite
  by_cases none : magnitude x = 0
  · have same : plain x = zero false := by simp [plain, none, zero]
    rw [none] at own
    rw [same, ← own]
    cases isNegative x <;> decide +kernel
  · have same : plain x = x := by rw [plain, bne_iff_ne.mpr none, Bool.and_true, own]
    rw [same]
    exact equals_self x finite

end FormulaField.Number
