import FormulaField.Function.Table
import FormulaField.Proofs.Number.Order

set_option autoImplicit false

namespace FormulaField.Arithmetic

open Calendar (Instant)
open Number (infinity notANumber rank)

-- A choice between a number and another argument: the other one, if it is a number whose place is no later.
def Chooses (place : Float → Int) (choose : Float → Float → Float) : Prop :=
  ∀ a b, a.isNaN = false → choose a b = if b.isNaN = false ∧ place b ≤ place a then b else a

theorem lesser_chooses : Chooses rank lesser := by
  intro a b number
  have order := Number.le_iff b a
  rw [number] at order
  rw [lesser, number, Bool.false_or]
  simp only [decide_eq_true_eq, order, and_true]

theorem greater_chooses : Chooses (fun x => -rank x) greater := by
  intro a b number
  have order := Number.le_iff a b
  rw [number] at order
  rw [greater, number, Bool.false_or]
  simp only [decide_eq_true_eq, order, true_and, Int.neg_le_neg_iff]

structure Chosen (place : Float → Int) (seed : Float) (args : List Value) (m : Float) : Prop where
  number : m.isNaN = false
  notAfter : place m ≤ place seed
  first : ∀ v ∈ args, v.toNumber.isNaN = false → place m ≤ place v.toNumber
  origin : (∃ v ∈ args, m = v.toNumber) ∨
    m = seed ∧ ∀ v ∈ args, v.toNumber.isNaN = false → place seed < place v.toNumber

theorem chosen (place : Float → Int) (choose : Float → Float → Float) (chooses : Chooses place choose)
    (args : List Value) (seed : Float) (number : seed.isNaN = false) :
    Chosen place seed args (args.foldl (fun m v => choose m v.toNumber) seed) := by
  induction args generalizing seed with
  | nil => exact ⟨number, Int.le_refl _, nofun, .inr ⟨rfl, nofun⟩⟩
  | cons v args ih =>
      rw [List.foldl_cons, chooses seed v.toNumber number]
      by_cases taken : v.toNumber.isNaN = false ∧ place v.toNumber ≤ place seed
      · rw [if_pos taken]
        obtain ⟨stillNumber, notAfter, first, origin⟩ := ih v.toNumber taken.1
        refine ⟨stillNumber, notAfter.trans taken.2, List.forall_mem_cons.mpr ⟨fun _ => notAfter, first⟩, ?_⟩
        rcases origin with ⟨w, member, same⟩ | ⟨same, _⟩
        · exact .inl ⟨w, List.mem_cons_of_mem v member, same⟩
        · exact .inl ⟨v, List.mem_cons_self, same⟩
      · rw [if_neg taken]
        obtain ⟨stillNumber, notAfter, first, origin⟩ := ih seed number
        have later : v.toNumber.isNaN = false → place seed < place v.toNumber :=
          fun other => Int.not_le.mp fun earlier => taken ⟨other, earlier⟩
        refine ⟨stillNumber, notAfter, List.forall_mem_cons.mpr ⟨fun other => ?_, first⟩, ?_⟩
        · exact notAfter.trans (later other).le
        · rcases origin with ⟨w, member, same⟩ | ⟨same, others⟩
          · exact .inl ⟨w, List.mem_cons_of_mem v member, same⟩
          · exact .inr ⟨same, List.forall_mem_cons.mpr ⟨later, others⟩⟩

structure Extreme (beyond : Float → Float → Prop) (otherwise : Float) (args : List Value) (m : Float) : Prop where
  none_beyond : ∀ v ∈ args, ¬beyond v.toNumber m
  argument_iff : (∃ v ∈ args, m = v.toNumber) ↔ ∃ v ∈ args, v.toNumber.isNaN = false
  otherwise : (∃ v ∈ args, v.toNumber.isNaN = false) ∨ m = otherwise

theorem extreme_of_chosen (place : Float → Int) (seed : Float) (args : List Value) (m : Float)
    (beyond : Float → Float → Prop) (chosen : Chosen place seed args m)
    (last : ∀ x, x.isNaN = false → place x ≤ place seed)
    (order : ∀ x y, beyond x y ↔ (x.isNaN = false ∧ y.isNaN = false) ∧ place x < place y) :
    Extreme beyond seed args m := by
  obtain ⟨number, _, first, origin⟩ := chosen
  -- A number among the arguments is taken before the last place is left to the start.
  have taken (some : ∃ v ∈ args, v.toNumber.isNaN = false) : ∃ v ∈ args, m = v.toNumber := by
    obtain ⟨v, member, other⟩ := some
    rcases origin with argument | ⟨_, others⟩
    · exact argument
    · exact absurd (last v.toNumber other) (Int.not_le.mpr (others v member other))
  refine ⟨?_, ⟨?_, taken⟩, ?_⟩
  · intro v member beyondIt
    obtain ⟨⟨other, _⟩, before⟩ := (order _ _).mp beyondIt
    exact Int.not_le.mpr before (first v member other)
  · rintro ⟨v, member, same⟩
    exact ⟨v, member, same ▸ number⟩
  · rcases origin with ⟨v, member, same⟩ | ⟨same, _⟩
    · exact .inl ⟨v, member, same ▸ number⟩
    · exact .inr same

theorem rank_bounds (x : Float) (number : x.isNaN = false) :
    rank (infinity true) ≤ rank x ∧ rank x ≤ rank (infinity false) := by
  have high : rank (infinity false) = Number.infiniteMagnitude := by decide +kernel
  have low : rank (infinity true) = -Number.infiniteMagnitude := by decide +kernel
  have size : Number.magnitude x ≤ Number.infiniteMagnitude := by
    rcases Number.number_unpacks x number with ⟨_, size⟩ | ⟨_, size⟩ | ⟨_, _, _, below⟩ <;> omega
  rw [high, low, rank]
  split <;> omega

theorem least_extreme (args : List Value) : Extreme (· < ·) (infinity false) args (least args) := by
  refine extreme_of_chosen rank _ args _ _ (chosen rank lesser lesser_chooses args _ (by decide +kernel)) ?_ Number.lt_iff
  exact fun x number => (rank_bounds x number).2

theorem greatest_extreme (args : List Value) : Extreme (· > ·) (infinity true) args (greatest args) := by
  refine extreme_of_chosen (fun x => -rank x) _ args _ _
    (chosen _ greater greater_chooses args _ (by decide +kernel)) ?_ ?_
  · exact fun x number => Int.neg_le_neg (rank_bounds x number).1
  · intro x y
    rw [gt_iff_lt, Number.lt_iff, Int.neg_lt_neg_iff, and_comm (a := y.isNaN = false)]

theorem extreme_functions (now : Instant) (first : Value) (others : List Value) :
    (∃ minimum, Function.named? "MIN" = some minimum ∧
        minimum.apply now (first :: others) = .ok (.number (least (first :: others)))) ∧
      ∃ maximum, Function.named? "MAX" = some maximum ∧
        maximum.apply now (first :: others) = .ok (.number (greatest (first :: others))) :=
  ⟨⟨_, rfl, rfl⟩, _, rfl, rfl⟩

theorem extremes_among_arguments (now : Instant) (first : Value) (others : List Value) :
    (∃ minimum m, Function.named? "MIN" = some minimum ∧
        minimum.apply now (first :: others) = .ok (.number m) ∧
        Extreme (· < ·) (infinity false) (first :: others) m) ∧
      ∃ maximum m, Function.named? "MAX" = some maximum ∧
        maximum.apply now (first :: others) = .ok (.number m) ∧
        Extreme (· > ·) (infinity true) (first :: others) m := by
  obtain ⟨⟨minimum, minimumNamed, minimumApplied⟩, maximum, maximumNamed, maximumApplied⟩ :=
    extreme_functions now first others
  exact ⟨⟨minimum, _, minimumNamed, minimumApplied, least_extreme _⟩,
    maximum, _, maximumNamed, maximumApplied, greatest_extreme _⟩

theorem extremes_of_no_number :
    (least [.number notANumber] = infinity false ∧ greatest [.number notANumber] = infinity true) ∧
      ∀ m ∈ [least [.number notANumber], greatest [.number notANumber]], ¬∃ v ∈ [Value.number notANumber],
        m = v.toNumber ∨ m.isNaN = true ∧ v.toNumber.isNaN = true := by
  decide +kernel

end FormulaField.Arithmetic
