import FormulaField.Proofs.Record.Accepted
import FormulaField.Proofs.Record.Saved
import FormulaField.Proofs.Registry.Recalculation

set_option autoImplicit false

namespace FormulaField

open Calendar (Instant)

deriving instance DecidableEq for Value

-- A value that is read again from its own document.
def Value.Kept (v : Value) : Prop := (Json.ofText? v.toJson.pretty).bind ofJson? = some v

instance (v : Value) : Decidable v.Kept := inferInstanceAs (Decidable (_ = _))

-- A value whose document is written again from what it reads as. The sign of a zero is not written.
def Value.Rewritten (v : Value) : Prop := v.Kept ∨ v = .number (Number.zero true)

instance (v : Value) : Decidable v.Rewritten := inferInstanceAs (Decidable (_ ∨ _))

def Observation.cut (o : Observation) : Observation := ⟨o.value, o.timestamp.map fun i => i.cut, o.context⟩

def Cell.cut (c : Cell) : Cell := ⟨c.observations.map Observation.cut⟩

def Observation.Durable (o : Observation) : Prop :=
  o.value.Rewritten ∧ ∀ i ∈ o.timestamp, 0 ≤ i.date.year ∧ i.date.year ≤ 9999

instance (o : Observation) : Decidable o.Durable :=
  inferInstanceAs (Decidable (_ ∧ ∀ i ∈ o.timestamp, _))

def Field.Durable : Field → Prop
  | .value v => v.Rewritten
  | .cell c => ∀ o ∈ c.observations, o.Durable

instance (f : Field) : Decidable f.Durable :=
  match f with
  | .value v => inferInstanceAs (Decidable v.Rewritten)
  | .cell c => inferInstanceAs (Decidable (∀ o ∈ c.observations, _))

-- What a formula sees of the field is still there when it is read again. The latest observation of a cell has to stay
-- the latest when the timestamps lose what they have below a millisecond.
def Field.Steady : Field → Prop
  | .value v => v.Kept
  | .cell c => c.cut.mostRecent {} = c.mostRecent {} ∧ (c.mostRecent {}).Kept

instance (f : Field) : Decidable f.Steady :=
  match f with
  | .value v => inferInstanceAs (Decidable v.Kept)
  | .cell _ => inferInstanceAs (Decidable (_ ∧ _))

def Field.Timed : Field → Prop
  | .value _ => True
  | .cell c => ∀ o ∈ c.observations, ∀ i, o.timestamp = some i → i.Proper

theorem Value.kept_again (v : Value) (kept : v.Kept) : v.again = v := by
  obtain ⟨j, accepted, read⟩ := v.json_again Json.Draft.maxDepth
  rw [Kept, Json.ofText?, Json.pretty_read _ v.json_in_words, Option.bind_some, accepted, Option.bind_some, read] at kept
  exact Option.some.inj kept

namespace Calendar.Instant

theorem cut_text (i : Instant) : i.cut.text = i.text := by
  have day : i.cut.dayNumber = i.dayNumber := rfl
  have time : i.cut.secondOfDay = i.secondOfDay := rfl
  have nanos : i.cut.nanos = i.nanos / 1000000 * 1000000 := rfl
  have leap : i.cut.nanos / nanosPerSecond = i.nanos / nanosPerSecond := by
    rw [nanos, nanosPerSecond]
    omega
  have part : i.cut.nanos % nanosPerSecond / 1000000 = i.nanos % nanosPerSecond / 1000000 := by
    rw [nanos, nanosPerSecond]
    omega
  simp only [text, chars, date, timeChars, hour, minute, second, day, time, leap, part]

end Calendar.Instant

namespace Value

theorem whole_json (n : Float) (finite : n.isFinite = true)
    (whole : Number.isWhole n = true ∧ Number.truncatedAbs n < integerBound) :
    (Value.number n).toJson = .integer (Number.truncate n) := by
  rw [toJson, if_pos finite, if_pos whole]

theorem zero_again : (Value.number (Number.zero true)).again.toJson = (Value.number (Number.zero true)).toJson := by
  have finite : (Number.zero true).isFinite = true ∧ (Number.ofInt 0).isFinite = true := by decide +kernel
  have signed : Number.isWhole (Number.zero true) = true ∧ Number.truncatedAbs (Number.zero true) < integerBound := by
    decide +kernel
  have unsigned : Number.isWhole (Number.ofInt 0) = true ∧ Number.truncatedAbs (Number.ofInt 0) < integerBound := by
    decide +kernel
  have none : Number.truncate (Number.zero true) = 0 ∧ Number.truncate (Number.ofInt 0) = 0 := by decide +kernel
  rw [again, if_pos finite.1, if_pos signed, none.1, whole_json _ finite.1 signed, whole_json _ finite.2 unsigned, none.1, none.2]

theorem rewritten_json (v : Value) (rewritten : v.Rewritten) : v.again.toJson = v.toJson := by
  rcases rewritten with kept | rfl
  · rw [v.kept_again kept]
  · exact zero_again

end Value

theorem Observation.durable_json (o : Observation) (durable : o.Durable) : o.again.toJson = o.toJson := by
  obtain ⟨value, timestamp, context⟩ := o
  have same : value.again.toJson = value.toJson := value.rewritten_json durable.1
  cases timestamp with
  | none => simp only [again, toJson, Option.map_none, same]
  | some i =>
      have text : (Value.date i.cut).toJson = (Value.date i).toJson := congrArg Json.text i.cut_text
      simp only [again, toJson, Option.map_some, same, text]

namespace Cell

theorem latest_map (change : Observation → Observation) (dated : ∀ o, (change o).timestamp = o.timestamp) (c : Cell) :
    latest? ⟨c.observations.map change⟩ = c.latest?.map change := by
  have step : ∀ best next, later (best.map change) (change next) = (later best next).map change := by
    intro best next
    cases best with
    | none => rfl
    | some current =>
        simp only [Option.map_some, later, dated]
        split <;> rfl
  suffices run : ∀ (observations : List Observation) (best : Option Observation),
      (observations.map change).foldl later (best.map change) = (observations.foldl later best).map change from
    run c.observations none
  intro observations
  induction observations with
  | nil => exact fun _ => rfl
  | cons next rest ih =>
      intro best
      rw [List.map_cons, List.foldl_cons, List.foldl_cons, step, ih]

theorem most_recent_again (c : Cell) : mostRecent ⟨c.observations.map Observation.again⟩ {} = (c.cut.mostRecent {}).again := by
  let change : Observation → Observation := fun o => ⟨o.value.again, o.timestamp, o.context⟩
  have parts : c.observations.map Observation.again = c.cut.observations.map change := by
    rw [cut, List.map_map]
    rfl
  have latest : latest? ⟨c.cut.observations.map change⟩ = c.cut.latest?.map change :=
    latest_map change (fun _ => rfl) c.cut
  rw [parts, mostRecent, latest, mostRecent]
  cases c.cut.latest? <;> rfl

end Cell

namespace Field

theorem durable_dated (f : Field) (durable : f.Durable) (timed : f.Timed) : f.Dated := by
  cases f with
  | value v => exact trivial
  | cell c => exact fun o member i found => ⟨timed o member i found, (durable o member).2 i found⟩

theorem durable_json (f : Field) (durable : f.Durable) : f.again.toJson = f.toJson := by
  cases f with
  | value v => exact v.rewritten_json durable
  | cell c =>
      have items : (c.observations.map Observation.again).map Observation.toJson = c.observations.map Observation.toJson := by
        rw [List.map_map]
        exact List.map_congr_left fun o member => o.durable_json (durable o member)
      rw [again, toJson, toJson, items]

end Field

theorem steady_seen (now : Instant) (one other : Record) (name : String)
    (again : other[name]? = one[name]?.map Field.again) (steady : ∀ field, one[name]? = some field → field.Steady) :
    Settings.seen { now := now } one name = Settings.seen { now := now } other name := by
  cases found : one[name]? with
  | none => simp [Settings.seen, Context.fieldValue, again, found]
  | some field =>
      have kept := steady field found
      cases field with
      | value v => simp [Settings.seen, Context.fieldValue, again, found, Field.again, v.kept_again kept]
      | cell c =>
          have recent : Cell.mostRecent ⟨c.observations.map Observation.again⟩ {} = c.mostRecent {} := by
            rw [c.most_recent_again, kept.1, Value.kept_again _ kept.2]
          simp [Settings.seen, Context.fieldValue, again, found, Field.again, recent]

namespace Record

theorem json_entries (record : Record) : record.toJson = .object (record.map fun _ field => field.toJson).toList := by
  rw [toJson, Std.ExtTreeMap.toList_map]

theorem json_same (one other : Record)
    (same : ∀ name : String, one[name]?.map Field.toJson = other[name]?.map Field.toJson) : one.toJson = other.toJson := by
  have maps : (one.map fun _ field => field.toJson) = other.map fun _ field => field.toJson := by
    apply Std.ExtTreeMap.ext_getElem?
    intro name
    rw [Std.ExtTreeMap.getElem?_map, Std.ExtTreeMap.getElem?_map]
    exact same name
  rw [json_entries, json_entries, maps]

def Timed (record : Record) : Prop := ∀ (name : String) (field : Field), record[name]? = some field → field.Timed

end Record

theorem Observation.holds_timed (j : Json) (o : Observation) (held : Holds j o) : ∀ i, o.timestamp = some i → i.Proper := by
  intro i found
  obtain ⟨s, _, read⟩ := Option.bind_eq_some_iff.mp (held.timestamp.symm.trans found)
  exact Calendar.of_text_proper s i read

theorem Field.holds_timed (j : Json) (f : Field) (held : Holds j f) : f.Timed := by
  cases held with
  | value => exact trivial
  | cell items observations found held =>
      change ∀ o ∈ observations, ∀ i, o.timestamp = some i → i.Proper
      clear found
      induction held with
      | nil => exact List.forall_mem_nil _
      | @cons item o _ _ here _ ih => exact List.forall_mem_cons.mpr ⟨Observation.holds_timed item o here, ih⟩

namespace Record

theorem holds_timed (j : Json) (record : Record) (held : Holds j record) : record.Timed := by
  intro name field found
  have here : name ∈ record := Std.ExtTreeMap.mem_iff_isSome_getElem?.mpr (found ▸ rfl)
  obtain ⟨item, member⟩ := (held.names name).mp here
  obtain ⟨own, there, holds⟩ := held.fields name item member
  cases found.symm.trans there
  exact field.holds_timed item holds

theorem text_timed (s : String) (record : Record) (read : ofText s = .ok record) : record.Timed := by
  rw [ofText] at read
  split at read
  next j _ => exact holds_timed j record (judged.ok j record read).2
  next => cases read

end Record

end FormulaField
