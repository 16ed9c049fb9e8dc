import FormulaField.Proofs.Number.Packing

set_option autoImplicit false

namespace FormulaField.Number

open Float.Model (Format UnpackedFloat)
open Float.Model.UnpackedFloat (unpack unpackExponent unpackMantissa)

theorem infinite_unpacks (x : Float) (number : x.isNaN = false) (infinite : ¬x.isFinite = true) :
    unpack Format.binary64 (ownBits x) = .infinity (signOf (isNegative x)) ∧ magnitude x = infiniteMagnitude := by
  have large : ¬magnitude x < infiniteMagnitude := fun below => infinite ((finite_iff x).mpr below)
  have own : magnitude x = (ownBits x).toNat % 2 ^ 63 := rfl
  have top : infiniteMagnitude = 2047 * 2 ^ 52 := rfl
  have special : unpackExponent (ownBits x) = -1#_ := by
    rw [all_ones_exponent]
    omega
  have none : unpackMantissa (ownBits x) = 0#_ := by
    have unpacked : x.isNaN = (unpack Format.binary64 (ownBits x)).isNaN := rfl
    by_contra some
    rw [unpacked, unpack, if_pos special, if_neg some] at number
    cases number
  rw [unpack, if_pos special, if_pos none, own_sign]
  rw [all_ones_exponent] at special
  rw [no_mantissa] at none
  exact ⟨rfl, by omega⟩

theorem number_unpacks (x : Float) (number : x.isNaN = false) :
    (unpack Format.binary64 (ownBits x) = .infinity (signOf (isNegative x)) ∧ magnitude x = infiniteMagnitude) ∨
      (unpack Format.binary64 (ownBits x) = .zero (signOf (isNegative x)) ∧ magnitude x = 0) ∨
        ∃ positive, unpack Format.binary64 (ownBits x) =
            .finite (signOf (isNegative x)) (parts x).significand (parts x).exponent positive ∧
          0 < magnitude x ∧ magnitude x < infiniteMagnitude := by
  by_cases finite : x.isFinite = true
  · have below := (finite_iff x).mp finite
    rcases unpack_parts x finite with ⟨none, own⟩ | ⟨some, own⟩
    · exact .inr (.inl ⟨own, no_significand x none⟩)
    · have bits := (parts_of_magnitude x).bits
      exact .inr (.inr ⟨some, own, by omega, below⟩)
  · exact .inl (infinite_unpacks x number finite)

-- Where a number stands among the others.
def rank (x : Float) : Int := if isNegative x then -(magnitude x : Int) else magnitude x

def Ordered (a b : Int) : Ordering → Prop
  | .lt => a < b
  | .eq => a = b
  | .gt => b < a

theorem ordered_compare (a b : Int) (o : Ordering) (ordered : Ordered a b o) : some o = some (compare a b) := by
  cases o with
  | lt => rw [compare_lt_iff_lt.mpr ordered]
  | eq => rw [compare_eq_iff_eq.mpr ordered]
  | gt => rw [compare_gt_iff_gt.mpr ordered]

theorem ordered_negatives (a b : Int) (o : Ordering) (ordered : Ordered a b o) : Ordered (-a) (-b) o.swap := by
  cases o with
  | lt => exact Int.neg_lt_neg ordered
  | eq => exact congrArg Neg.neg ordered
  | gt => exact Int.neg_lt_neg ordered

-- Full significands make the exponent decide; where a significand is not full the exponent is the least.
theorem significands_ordered (x y : Float) : Ordered (magnitude x) (magnitude y)
    ((compare (parts x).exponent (parts y).exponent).then (compare (parts x).significand (parts y).significand)) := by
  obtain ⟨bits, least, short, full⟩ := parts_of_magnitude x
  obtain ⟨otherBits, otherLeast, otherShort, otherFull⟩ := parts_of_magnitude y
  rcases lt_trichotomy (parts x).exponent (parts y).exponent with before | same | after
  · rw [compare_lt_iff_lt.mpr before, Ordering.lt_then, Ordered]
    omega
  · rw [compare_eq_iff_eq.mpr same, Ordering.eq_then]
    rcases lt_trichotomy (parts x).significand (parts y).significand with less | equal | greater
    · rw [compare_lt_iff_lt.mpr less, Ordered]
      omega
    · rw [compare_eq_iff_eq.mpr equal, Ordered]
      omega
    · rw [compare_gt_iff_gt.mpr greater, Ordered]
      omega
  · rw [compare_gt_iff_gt.mpr after, Ordering.gt_then, Ordered]
    omega

theorem infinities_compare (first second : Bool) :
    (UnpackedFloat.infinity (signOf first)).compare (.infinity (signOf second)) =
      some (compare (if first then -(infiniteMagnitude : Int) else infiniteMagnitude)
        (if second then -(infiniteMagnitude : Int) else infiniteMagnitude)) := by
  cases first <;> cases second <;> rfl

theorem numbers_compare (x y : Float) (number : x.isNaN = false) (otherNumber : y.isNaN = false) :
    (unpack Format.binary64 (ownBits x)).compare (unpack Format.binary64 (ownBits y)) =
      some (compare (rank x) (rank y)) := by
  have top : 0 < infiniteMagnitude := by decide
  have finite := significands_ordered x y
  have shapes := number_unpacks y otherNumber
  rcases number_unpacks x number with ⟨own, size⟩ | ⟨own, size⟩ | ⟨some, own, least, most⟩
  · rcases shapes with ⟨other, otherSize⟩ | ⟨other, otherSize⟩ | ⟨otherSome, other, otherLeast, otherMost⟩
    · rw [own, other, rank, rank, size, otherSize]
      exact infinities_compare _ _
    all_goals
      rw [own, other, rank, rank]
      cases isNegative x <;> cases isNegative y
      all_goals
        refine ordered_compare _ _ _ ?_
        simp only [Ordered, if_true, Bool.false_eq_true, if_false]
        omega
  · rcases shapes with ⟨other, otherSize⟩ | ⟨other, otherSize⟩ | ⟨otherSome, other, otherLeast, otherMost⟩
    all_goals
      rw [own, other, rank, rank]
      cases isNegative x <;> cases isNegative y
      all_goals
        refine ordered_compare _ _ _ ?_
        simp only [Ordered, if_true, Bool.false_eq_true, if_false]
        omega
  · rcases shapes with ⟨other, otherSize⟩ | ⟨other, otherSize⟩ | ⟨otherSome, other, otherLeast, otherMost⟩
    all_goals
      rw [own, other, rank, rank]
      cases isNegative x <;> cases isNegative y
    case inr.inr.inr.inr.false.false => exact ordered_compare _ _ _ finite
    case inr.inr.inr.inr.true.true => exact ordered_compare _ _ _ (ordered_negatives _ _ _ finite)
    all_goals
      refine ordered_compare _ _ _ ?_
      simp only [Ordered, if_true, Bool.false_eq_true, if_false]
      omega

theorem not_number_unpacks (x : Float) (notNumber : x.isNaN = true) : unpack Format.binary64 (ownBits x) = .notANumber := by
  have unpacked : x.isNaN = (unpack Format.binary64 (ownBits x)).isNaN := rfl
  rw [unpacked] at notNumber
  cases same : unpack Format.binary64 (ownBits x) with
  | notANumber => rfl
  | infinity | zero | finite =>
      rw [same] at notNumber
      cases notNumber

theorem not_number_compares (u : UnpackedFloat) : u.compare .notANumber = none := by
  cases u with
  | notANumber | zero => rfl
  | infinity s | finite s => cases s <;> rfl

theorem compared (x y : Float) : (unpack Format.binary64 (ownBits x)).compare (unpack Format.binary64 (ownBits y)) =
    if x.isNaN = false ∧ y.isNaN = false then some (compare (rank x) (rank y)) else none := by
  cases number : x.isNaN with
  | true =>
      rw [not_number_unpacks x number, if_neg nofun]
      rfl
  | false =>
      cases otherNumber : y.isNaN with
      | true => rw [not_number_unpacks y otherNumber, not_number_compares, if_neg nofun]
      | false => rw [numbers_compare x y number otherNumber, if_pos ⟨rfl, rfl⟩]

theorem le_iff (x y : Float) : x ≤ y ↔ (x.isNaN = false ∧ y.isNaN = false) ∧ rank x ≤ rank y := by
  have order : x ≤ y ↔ ((unpack Format.binary64 (ownBits x)).compare (unpack Format.binary64 (ownBits y))).any
      (·.isLE) = true := decide_eq_true_iff (p := x.toModel ≤ y.toModel)
  rw [order, compared]
  split
  next numbers => rw [Option.any_some, Std.isLE_compare, and_iff_right numbers]
  next other => exact iff_of_false Bool.false_ne_true fun both => other both.1

theorem lt_iff (x y : Float) : x < y ↔ (x.isNaN = false ∧ y.isNaN = false) ∧ rank x < rank y := by
  have order : x < y ↔ (unpack Format.binary64 (ownBits x)).compare (unpack Format.binary64 (ownBits y)) = some .lt :=
    (decide_eq_true_iff (p := x.toModel < y.toModel)).trans beq_iff_eq
  rw [order, compared]
  split
  next numbers => rw [Option.some.injEq, compare_lt_iff_lt, and_iff_right numbers]
  next other => exact iff_of_false nofun fun both => other both.1

end FormulaField.Number
