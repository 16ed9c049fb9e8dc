import FormulaField.Proofs.Number.Order

set_option autoImplicit false

namespace FormulaField.Number

open Float.Model (Format UnpackedFloat)
open Float.Model.UnpackedFloat (unpack mul div)

theorem infinity_number (negative : Bool) :
    (infinity negative).isNaN = false ∧ ¬(infinity negative).isFinite = true := by
  cases negative <;> decide +kernel

theorem zero_unpacks (x : Float) (none : magnitude x = 0) :
    unpack Format.binary64 (ownBits x) = .zero (signOf (isNegative x)) := by
  have bits := (parts_of_magnitude x).bits
  have finite : x.isFinite = true := by
    rw [finite_iff, none]
    decide
  rcases unpack_parts x finite with ⟨_, own⟩ | ⟨some, _⟩
  · exact own
  · omega

variable (x y : Float)

theorem product_infinite (number : x.isNaN = false) (otherNumber : y.isNaN = false) (some : magnitude x ≠ 0)
    (otherSome : magnitude y ≠ 0) (infinite : ¬(x.isFinite = true ∧ y.isFinite = true)) :
    x * y = infinity (isNegative x != isNegative y) := by
  apply of_packed_infinity
  rw [product_bits, ← sign_times]
  have other := number_unpacks y otherNumber
  rcases number_unpacks x number with ⟨own, _⟩ | ⟨_, none⟩ | ⟨_, own, _, below⟩
  · rcases other with ⟨other, _⟩ | ⟨_, none⟩ | ⟨_, other, _, _⟩
    · rw [own, other, mul]
    · exact absurd none otherSome
    · rw [own, other, mul]
  · exact absurd none some
  · rcases other with ⟨other, _⟩ | ⟨_, none⟩ | ⟨_, other, _, otherBelow⟩
    · rw [own, other, mul]
    · exact absurd none otherSome
    · exact absurd ⟨(finite_iff x).mpr below, (finite_iff y).mpr otherBelow⟩ infinite

theorem nothing_times_infinity (none : magnitude x = 0) (otherNumber : y.isNaN = false) (infinite : ¬y.isFinite = true) :
    (x * y).isNaN = true := by
  apply of_packed_not_number
  rw [product_bits, zero_unpacks x none, (infinite_unpacks y otherNumber infinite).1, mul]

theorem infinite_quotient (number : x.isNaN = false) (infinite : ¬x.isFinite = true) (finite : y.isFinite = true) :
    x / y = infinity (isNegative x != isNegative y) := by
  apply of_packed_infinity
  rw [quotient_bits, ← sign_divided, (infinite_unpacks x number infinite).1]
  rcases unpack_parts y finite with ⟨_, other⟩ | ⟨_, other⟩
  · rw [other, div]
  · rw [other, div]

theorem quotient_by_infinity (finite : x.isFinite = true) (otherNumber : y.isNaN = false)
    (infinite : ¬y.isFinite = true) : x / y = zero (isNegative x != isNegative y) := by
  apply of_packed_zero
  rw [quotient_bits, ← sign_divided, (infinite_unpacks y otherNumber infinite).1]
  rcases unpack_parts x finite with ⟨_, own⟩ | ⟨_, own⟩
  · rw [own, div]
  · rw [own, div]

theorem infinities_quotient (number : x.isNaN = false) (infinite : ¬x.isFinite = true) (otherNumber : y.isNaN = false)
    (otherInfinite : ¬y.isFinite = true) : (x / y).isNaN = true := by
  apply of_packed_not_number
  rw [quotient_bits, (infinite_unpacks x number infinite).1, (infinite_unpacks y otherNumber otherInfinite).1, div]

theorem nothings_quotient (none : magnitude x = 0) (otherNone : magnitude y = 0) : (x / y).isNaN = true := by
  apply of_packed_not_number
  rw [quotient_bits, zero_unpacks x none, zero_unpacks y otherNone, div]

theorem not_number_quotient (notNumber : x.isNaN = true) : (x / y).isNaN = true := by
  apply of_packed_not_number
  rw [quotient_bits, not_number_unpacks x notNumber]
  rfl

end FormulaField.Number
