import FormulaField.Proofs.Number.Comparison
import FormulaField.Proofs.Number.Text
import FormulaField.Proofs.Record.Accepted
import FormulaField.Proofs.Record.Saved

set_option autoImplicit false

namespace FormulaField

open Calendar (Instant)

theorem Number.integer_plain (x : Float) (whole : isWhole x = true) : ofInt (truncate x) = plain x := by
  have finite := (Bool.and_eq_true_iff.mp whole).1
  have value : ((truncatedAbs x : Nat) : ℚ) / (1 : Nat) = absolute x := by
    rw [Nat.cast_one, div_one, whole_is_value x whole]
  have magnitudes : nearestMagnitude (truncatedAbs x) 1 = magnitude x := nearest_of_value x _ 1 finite Nat.one_pos value
  have none := truncated_zero x whole
  rw [ofInt, ofRatio, plain, truncate]
  cases isNegative x with
  | false =>
      have sign : ¬(truncatedAbs x : Int) < 0 := by omega
      simp [magnitudes, sign]
  | true =>
      have sign : decide (-(truncatedAbs x : Int) < 0) = (magnitude x != 0) := by
        rw [Bool.eq_iff_iff, decide_eq_true_iff, bne_iff_ne, Ne, ← none]
        omega
      rw [if_pos rfl, sign, Int.natAbs_neg, Int.natAbs_natCast, magnitudes, Bool.true_and]

theorem Json.scalar_member (j : Json) (scalar : j.IsScalar) (name : String) : j.member? name = none := by
  cases j with
  | object members => exact scalar.elim
  | _ => rfl

namespace Value

-- JSON has a form of its own for the value.
def Portable : Value → Prop
  | .number x => x.isFinite = true
  | .date _ => False
  | _ => True

theorem json_scalar (v : Value) : v.toJson.IsScalar := by
  cases v with
  | number x =>
      rw [toJson]
      split
      · split <;> exact trivial
      · exact trivial
  | _ => exact trivial

theorem json_back (v : Value) (portable : v.Portable) : ∃ back, ofJson? v.toJson = some back ∧ back.equals v = true := by
  cases v with
  | empty => exact ⟨.empty, rfl, rfl⟩
  | boolean b => exact ⟨.boolean b, rfl, beq_self_eq_true b⟩
  | text s => exact ⟨.text s, rfl, beq_self_eq_true s⟩
  | date i => exact portable.elim
  | number x =>
      have finite : x.isFinite = true := portable
      rw [toJson, if_pos finite]
      by_cases whole : Number.isWhole x = true ∧ Number.truncatedAbs x < integerBound
      · rw [if_pos whole]
        refine ⟨.number (Number.ofInt (Number.truncate x)), rfl, ?_⟩
        rw [Number.integer_plain x whole.1]
        exact Number.plain_equals x finite
      · rw [if_neg whole]
        exact ⟨.number x, rfl, Number.equals_self x finite⟩

end Value

namespace Calendar.Instant

structure Portable (i : Instant) : Prop where
  whole : i.nanos % 1000000 = 0
  regular : ¬i.IsLeapSecond
  least : 0 ≤ i.date.year
  most : i.date.year ≤ 9999

theorem portable_read (i : Instant) (portable : i.Portable) : ofText? i.text = some i := by
  have below : i.nanos < nanosPerSecond := Nat.lt_of_not_le portable.regular
  have proper : i.Proper := ⟨by omega, fun leap => absurd leap portable.regular⟩
  have same : i.cut = i := by
    rw [cut, Nat.div_mul_cancel (Nat.dvd_of_mod_eq_zero portable.whole)]
  rw [i.text_read proper portable.least portable.most, same]

end Calendar.Instant

namespace Observation

structure Portable (o : Observation) : Prop where
  value : o.value.Portable
  timestamp : ∀ i, o.timestamp = some i → i.Portable

structure Equals (a b : Observation) : Prop where
  value : a.value.equals b.value = true
  timestamp : a.timestamp = b.timestamp
  context : a.context = b.context

theorem members_written (o : Observation) : o.members = o.membersAgain o.value.toJson := rfl

theorem json_observation (o : Observation) (portable : o.Portable) : o.toJson.IsObservation := by
  rw [json_members, members_written]
  refine ⟨⟨_, rfl⟩, ?_, ?_⟩
  · intro v found
    rw [value_member] at found
    cases found
    exact o.value.json_scalar
  · intro t found
    rw [timestamp_member] at found
    obtain ⟨i, here, rfl⟩ := Option.map_eq_some_iff.mp found
    exact ⟨i, i.portable_read (portable.timestamp i here)⟩

theorem holds_equals (o back : Observation) (portable : o.Portable) (held : Holds o.toJson back) : back.Equals o := by
  obtain ⟨value, timestamp, context⟩ := held
  rw [json_members, members_written] at value timestamp context
  rw [value_member, Option.elim_some] at value
  rw [timestamp_member] at timestamp
  rw [context_member] at context
  constructor
  · obtain ⟨own, read, same⟩ := o.value.json_back portable.value
    rwa [← Option.some.inj (read.symm.trans value)]
  · rw [timestamp]
    cases found : o.timestamp with
    | none => rfl
    | some i => simp [Json.text?, i.portable_read (portable.timestamp i found)]
  · rw [context]
    cases o.context <;> rfl

end Observation

namespace Field

def Portable : Field → Prop
  | .value v => v.Portable
  | .cell c => ∀ o ∈ c.observations, o.Portable

inductive Equals : Field → Field → Prop
  | value (a b : Value) (same : a.equals b = true) : Equals (.value a) (.value b)
  | cell (a b : Cell) (same : List.Forall₂ Observation.Equals a.observations b.observations) : Equals (.cell a) (.cell b)

theorem json_field (f : Field) (portable : f.Portable) : f.toJson.IsField := by
  cases f with
  | value v => exact .value _ v.json_scalar
  | cell c =>
      refine .cell _ (c.observations.map Observation.toJson) rfl fun item member => ?_
      obtain ⟨o, listed, rfl⟩ := List.mem_map.mp member
      exact o.json_observation (portable o listed)

theorem observations_equal (observations back : List Observation) (portable : ∀ o ∈ observations, o.Portable)
    (held : List.Forall₂ Observation.Holds (observations.map Observation.toJson) back) :
    List.Forall₂ Observation.Equals back observations := by
  rw [List.forall₂_map_left_iff] at held
  induction held with
  | nil => exact .nil
  | @cons o other _ _ here _ ih =>
      exact .cons (o.holds_equals other (portable o List.mem_cons_self) here)
        (ih fun later member => portable later (List.mem_cons_of_mem o member))

theorem holds_equals (f back : Field) (portable : f.Portable) (held : Holds f.toJson back) : back.Equals f := by
  cases f with
  | value v =>
      obtain ⟨own, read, same⟩ := v.json_back portable
      cases held with
      | value other found =>
          cases read.symm.trans found
          exact .value own v same
      | cell items observations found =>
          have none : (Field.value v).toJson.member? "observations" = none := Json.scalar_member _ v.json_scalar _
          rw [none] at found
          cases found
  | cell c =>
      cases held with
      | value v read => cases read
      | cell items observations found held =>
          obtain rfl : c.observations.map Observation.toJson = items := Json.array.inj (Option.some.inj found)
          exact .cell _ c (observations_equal c.observations observations portable held)

end Field

namespace Record

def Portable (record : Record) : Prop := ∀ (name : String) (field : Field), record[name]? = some field → field.Portable

def Equals (a b : Record) : Prop := ∀ name : String, Option.Rel Field.Equals a[name]? b[name]?

theorem json_member (record : Record) (name : String) (item : Json) :
    record.toJson.Member name item ↔ ∃ field, record[name]? = some field ∧ item = field.toJson := by
  rw [toJson, ← Json.sorted_member, Json.sorted_members _ record.members_in_order, List.mem_map]
  constructor
  · rintro ⟨⟨_, field⟩, listed, same⟩
    cases same
    exact ⟨field, Std.ExtTreeMap.mem_toList_iff_getElem?_eq_some.mp listed, rfl⟩
  · rintro ⟨field, found, rfl⟩
    exact ⟨(name, field), Std.ExtTreeMap.mem_toList_iff_getElem?_eq_some.mpr found, rfl⟩

theorem json_reads_back (record : Record) (portable : record.Portable) :
    ∃ back, ofJson record.toJson = .ok back ∧ back.Equals record := by
  have accepted : record.toJson.IsRecord := by
    refine ⟨⟨_, rfl⟩, fun name item member => ?_⟩
    obtain ⟨field, found, rfl⟩ := (record.json_member name item).mp member
    exact field.json_field (portable name field found)
  obtain ⟨back, read, held⟩ := judged.accepts record.toJson accepted
  refine ⟨back, read, fun name => ?_⟩
  cases found : record[name]? with
  | none =>
      have absent : name ∉ back := by
        rw [held.names]
        rintro ⟨item, member⟩
        obtain ⟨field, other, _⟩ := (record.json_member name item).mp member
        rw [found] at other
        cases other
      rw [Std.ExtTreeMap.getElem?_eq_none absent]
      exact .none
  | some field =>
      obtain ⟨other, there, holds⟩ := held.fields name field.toJson ((record.json_member name _).mpr ⟨field, found, rfl⟩)
      rw [there]
      exact .some (field.holds_equals other (portable name field found) holds)

def account : Record :=
  ((∅ : Record).insert "Balance" (.value (.number (Number.zero true)))).insert "Status"
    (.cell ⟨[⟨.text "open", none, none⟩, ⟨.boolean false, some ⟨1709251199, 999000000⟩, some "audit"⟩]⟩)

theorem account_reads_back :
    account.Portable ∧ ∃ back, ofJson account.toJson = .ok back ∧ back.Equals account := by
  have leapDay : Instant.Portable ⟨1709251199, 999000000⟩ := by
    constructor <;> decide
  have zero : (Number.zero true).isFinite = true := by decide +kernel
  have portable : account.Portable := by
    intro name field found
    rw [account, Std.ExtTreeMap.getElem?_insert] at found
    split at found
    · cases found
      intro o member
      rcases List.mem_pair.mp member with rfl | rfl
      · exact ⟨trivial, fun i other => nomatch other⟩
      · exact ⟨trivial, fun i same => Option.some.inj same ▸ leapDay⟩
    · rw [Std.ExtTreeMap.getElem?_insert] at found
      split at found
      · cases found
        exact zero
      · simp at found
  exact ⟨portable, json_reads_back account portable⟩

end Record

end FormulaField
