import FormulaField.Proofs.Entries
import FormulaField.Proofs.Text.ByteOrder
import FormulaField.Record.Json

set_option autoImplicit false

namespace FormulaField

open Calendar (Instant)

section Judges

variable {α β ε : Type}

-- A reader against what it should accept, what its results should be and what it should report.
structure Judges (read : α → Except ε β) (accepted : α → Prop) (holds : α → β → Prop) (fault : α → ε → Prop) : Prop where
  accepts : ∀ a, accepted a → ∃ b, read a = .ok b ∧ holds a b
  reports : ∀ a e, fault a e → read a = .error e
  either : ∀ a, accepted a ∨ ∃ e, fault a e

variable {read : α → Except ε β} {accepted : α → Prop} {holds : α → β → Prop} {fault : α → ε → Prop}

theorem Judges.ok (judges : Judges read accepted holds fault) (a : α) (b : β) (found : read a = .ok b) :
    accepted a ∧ holds a b := by
  rcases judges.either a with good | ⟨e, bad⟩
  · obtain ⟨own, made, held⟩ := judges.accepts a good
    cases found.symm.trans made
    exact ⟨good, held⟩
  · cases found.symm.trans (judges.reports a e bad)

theorem Judges.error (judges : Judges read accepted holds fault) (a : α) (e : ε) (found : read a = .error e) :
    fault a e := by
  rcases judges.either a with good | ⟨own, bad⟩
  · obtain ⟨b, made, _⟩ := judges.accepts a good
    cases found.symm.trans made
  · cases found.symm.trans (judges.reports a own bad)
    exact bad

theorem Judges.decides (judges : Judges read accepted holds fault) (a : α) :
    ((∃ b, read a = .ok b) ↔ accepted a) ∧ (∀ b, read a = .ok b → holds a b) ∧ ∀ e, read a = .error e ↔ fault a e := by
  refine ⟨⟨fun ⟨b, found⟩ => (judges.ok a b found).1, fun good => ?_⟩, fun b found => (judges.ok a b found).2,
    fun e => ⟨judges.error a e, judges.reports a e⟩⟩
  obtain ⟨b, made, _⟩ := judges.accepts a good
  exact ⟨b, made⟩

def FirstFault (accepted : α → Prop) (fault : α → ε → Prop) (items : List α) (e : ε) : Prop :=
  ∃ before item after, items = before ++ item :: after ∧ (∀ other ∈ before, accepted other) ∧ fault item e

theorem Judges.list (judges : Judges read accepted holds fault) :
    Judges (fun items : List α => items.mapM read) (fun items => ∀ item ∈ items, accepted item) (List.Forall₂ holds)
      (FirstFault accepted fault) where
  accepts := by
    intro items good
    induction items with
    | nil => exact ⟨[], rfl, .nil⟩
    | cons item rest ih =>
        obtain ⟨b, ok, held⟩ := judges.accepts item (good item List.mem_cons_self)
        obtain ⟨bs, others, heldOthers⟩ := ih fun other member => good other (List.mem_cons_of_mem item member)
        refine ⟨b :: bs, ?_, .cons held heldOthers⟩
        simp [ok, others, bind, Except.bind, pure, Except.pure]
  reports := by
    rintro items e ⟨before, item, after, rfl, good, bad⟩
    induction before with
    | nil => simp [judges.reports item e bad, bind, Except.bind]
    | cons first rest ih =>
        obtain ⟨b, ok, _⟩ := judges.accepts first (good first List.mem_cons_self)
        have failed := ih fun other member => good other (List.mem_cons_of_mem first member)
        simp only [List.cons_append, List.mapM_cons, ok, failed]
        rfl
  either := by
    intro items
    induction items with
    | nil => exact .inl (List.forall_mem_nil accepted)
    | cons item rest ih =>
        rcases judges.either item with good | ⟨e, bad⟩
        · rcases ih with others | ⟨e, before, other, after, rfl, goodBefore, bad⟩
          · exact .inl (List.forall_mem_cons.mpr ⟨good, others⟩)
          · exact .inr ⟨e, item :: before, other, after, rfl, List.forall_mem_cons.mpr ⟨good, goodBefore⟩, bad⟩
        · exact .inr ⟨e, [], item, rest, rfl, List.forall_mem_nil accepted, bad⟩

end Judges

namespace Json

def IsScalar : Json → Prop
  | .array _ => False
  | .object _ => False
  | _ => True

def IsTimestamp : Json → Prop
  | .null => True
  | .text s => ∃ i, Instant.ofText? s = some i
  | _ => False

structure IsObservation (j : Json) : Prop where
  object : ∃ members, j = .object members
  value : ∀ v, j.member? "value" = some v → v.IsScalar
  timestamp : ∀ t, j.member? "timestamp" = some t → t.IsTimestamp

inductive IsField : Json → Prop
  | value (j : Json) (scalar : j.IsScalar) : IsField j
  | cell (j : Json) (items : List Json) (found : j.member? "observations" = some (.array items))
      (observations : ∀ item ∈ items, item.IsObservation) : IsField j

-- A member of an object; of several with one name the last.
def Member (j : Json) (name : String) (item : Json) : Prop :=
  ∃ before after, j = .object (before ++ (name, item) :: after) ∧ name ∉ after.map Prod.fst

structure IsRecord (j : Json) : Prop where
  object : ∃ members, j = .object members
  fields : ∀ name item, j.Member name item → item.IsField

end Json

namespace Observation

structure Holds (j : Json) (o : Observation) : Prop where
  value : (j.member? "value").elim (some .empty) Value.ofJson? = some o.value
  timestamp : o.timestamp = ((j.member? "timestamp").bind Json.text?).bind Instant.ofText?
  context : o.context = (j.member? "context").bind Json.text?

inductive Fault (field : String) : Json → RecordError → Prop
  | shape (j : Json) (other : ∀ members, j ≠ .object members) : Fault field j (.badObservation field)
  | value (j v : Json) (found : j.member? "value" = some v) (structured : ¬v.IsScalar) : Fault field j (.notAScalar field)
  | timestamp (j t : Json) (value : ∀ v, j.member? "value" = some v → v.IsScalar)
      (found : j.member? "timestamp" = some t) (undated : ¬t.IsTimestamp) : Fault field j (.badTimestamp field)

end Observation

namespace Field

inductive Holds : Json → Field → Prop
  | value (j : Json) (v : Value) (read : Value.ofJson? j = some v) : Holds j (.value v)
  | cell (j : Json) (items : List Json) (observations : List Observation)
      (found : j.member? "observations" = some (.array items))
      (held : List.Forall₂ Observation.Holds items observations) : Holds j (.cell ⟨observations⟩)

inductive Fault (name : String) : Json → RecordError → Prop
  | array (items : List Json) : Fault name (.array items) (.notAScalar name)
  | unobserved (members : List (String × Json))
      (missing : ∀ items, (Json.object members).member? "observations" ≠ some (.array items)) :
      Fault name (.object members) (.withoutObservations name)
  | observation (j : Json) (items : List Json) (e : RecordError) (found : j.member? "observations" = some (.array items))
      (first : FirstFault Json.IsObservation (Observation.Fault name) items e) : Fault name j e

end Field

namespace Record

structure Holds (j : Json) (record : Record) : Prop where
  names : ∀ name : String, name ∈ record ↔ ∃ item, j.Member name item
  fields : ∀ name item, j.Member name item → ∃ field, record[name]? = some field ∧ Field.Holds item field

inductive Fault : Json → RecordError → Prop
  | shape (j : Json) (other : ∀ members, j ≠ .object members) : Fault j .notAnObject
  | field (j : Json) (name : String) (item : Json) (e : RecordError) (member : j.Member name item)
      (before : ∀ other earlier, j.Member other earlier → Text.bytes other < Text.bytes name → earlier.IsField)
      (fault : Field.Fault name item e) : Fault j e

end Record

theorem Json.member_object (j : Json) (name : String) (item : Json) (found : j.member? name = some item) :
    ∃ members, j = .object members := by
  cases j with
  | object members => exact ⟨members, rfl⟩
  | _ => cases found

namespace Value

theorem scalar_read (j : Json) (scalar : j.IsScalar) : ∃ v, ofJson? j = some v := by
  cases j with
  | array items => exact scalar.elim
  | object members => exact scalar.elim
  | _ => exact ⟨_, rfl⟩

theorem structured_unread (j : Json) (structured : ¬j.IsScalar) : ofJson? j = none := by
  cases j with
  | array items => rfl
  | object members => rfl
  | _ => exact absurd trivial structured

end Value

namespace Observation

theorem value_read (field : String) (j : Json) (scalar : ∀ v, j.member? "value" = some v → v.IsScalar) :
    ∃ v, readValue field j = .ok v ∧ (j.member? "value").elim (some .empty) Value.ofJson? = some v := by
  rw [readValue]
  cases found : j.member? "value" with
  | none => exact ⟨.empty, rfl, rfl⟩
  | some item =>
      obtain ⟨v, read⟩ := Value.scalar_read item (scalar item found)
      exact ⟨v, by simp only [read], read⟩

theorem timestamp_read (field : String) (j : Json) (dated : ∀ t, j.member? "timestamp" = some t → t.IsTimestamp) :
    readTimestamp field j = .ok (((j.member? "timestamp").bind Json.text?).bind Instant.ofText?) := by
  rw [readTimestamp]
  cases found : j.member? "timestamp" with
  | none => rfl
  | some item =>
      have date := dated item found
      cases item with
      | null => rfl
      | text s =>
          obtain ⟨i, read⟩ := date
          simp [read, Json.text?]
      | _ => exact date.elim

theorem undated_unread (field : String) (j t : Json) (found : j.member? "timestamp" = some t)
    (undated : ¬t.IsTimestamp) : readTimestamp field j = .error (.badTimestamp field) := by
  rw [readTimestamp, found]
  cases t with
  | null => exact absurd trivial undated
  | text s =>
      cases read : Instant.ofText? s with
      | none => simp only [read]
      | some i => exact absurd ⟨i, read⟩ undated
  | _ => rfl

theorem judged (field : String) : Judges (ofJson field) Json.IsObservation Holds (Fault field) where
  accepts := by
    rintro j ⟨⟨members, rfl⟩, scalar, dated⟩
    obtain ⟨v, value, held⟩ := value_read field _ scalar
    refine ⟨⟨v, _, _⟩, ?_, ⟨held, rfl, rfl⟩⟩
    simp only [ofJson, value, timestamp_read field _ dated]
    rfl
  reports := by
    intro j e fault
    cases fault with
    | shape other =>
        cases j with
        | object members => exact absurd rfl (other members)
        | _ => rfl
    | value v found structured =>
        obtain ⟨members, rfl⟩ := j.member_object _ v found
        have unread : readValue field (.object members) = .error (.notAScalar field) := by
          simp only [readValue, found, Value.structured_unread v structured]
        simp only [ofJson, unread]
        rfl
    | timestamp t scalar found undated =>
        obtain ⟨members, rfl⟩ := j.member_object _ t found
        obtain ⟨v, value, _⟩ := value_read field _ scalar
        simp only [ofJson, value, undated_unread field _ t found undated]
        rfl
  either := by
    intro j
    by_cases object : ∃ members, j = .object members
    · by_cases scalar : ∀ v, j.member? "value" = some v → v.IsScalar
      · by_cases dated : ∀ t, j.member? "timestamp" = some t → t.IsTimestamp
        · exact .inl ⟨object, scalar, dated⟩
        · push Not at dated
          obtain ⟨t, found, undated⟩ := dated
          exact .inr ⟨_, .timestamp j t scalar found undated⟩
      · push Not at scalar
        obtain ⟨v, found, structured⟩ := scalar
        exact .inr ⟨_, .value j v found structured⟩
    · exact .inr ⟨_, .shape j (not_exists.mp object)⟩

end Observation

namespace Field

theorem scalar_field (name : String) (j : Json) (v : Value) (read : Value.ofJson? j = some v) :
    ofJson name j = .ok (.value v) := by
  cases j with
  | array items => cases read
  | object members => cases read
  | _ => simp only [ofJson, read]

theorem cell_field (name : String) (j : Json) (items : List Json) (found : j.member? "observations" = some (.array items)) :
    ofJson name j = (items.mapM (Observation.ofJson name)).map fun observations => .cell ⟨observations⟩ := by
  obtain ⟨members, rfl⟩ := j.member_object _ _ found
  simp only [ofJson, found]
  cases items.mapM (Observation.ofJson name) <;> rfl

theorem judged (name : String) : Judges (ofJson name) Json.IsField Holds (Fault name) where
  accepts := by
    intro j good
    cases good with
    | value scalar =>
        obtain ⟨v, read⟩ := Value.scalar_read j scalar
        exact ⟨.value v, scalar_field name j v read, .value j v read⟩
    | cell items found good =>
        obtain ⟨observations, read, held⟩ := (Observation.judged name).list.accepts items good
        refine ⟨.cell ⟨observations⟩, ?_, .cell j items observations found held⟩
        rw [cell_field name j items found, read]
        rfl
  reports := by
    intro j e fault
    cases fault with
    | array items => rfl
    | unobserved members missing =>
        rw [ofJson]
        split
        next items found => exact absurd found (missing items)
        next => rfl
    | observation _ items _ found first =>
        rw [cell_field name j items found, (Observation.judged name).list.reports items e first]
        rfl
  either := by
    intro j
    cases j with
    | array items => exact .inr ⟨_, .array items⟩
    | object members =>
        by_cases listed : ∃ items, (Json.object members).member? "observations" = some (.array items)
        · obtain ⟨items, found⟩ := listed
          rcases (Observation.judged name).list.either items with good | ⟨e, first⟩
          · exact .inl (.cell _ items found good)
          · exact .inr ⟨e, .observation _ items e found first⟩
        · exact .inr ⟨_, .unobserved members (not_exists.mp listed)⟩
    | _ => exact .inl (.value _ trivial)

end Field

namespace Json

theorem object_of_member (j : Json) (name : String) (item : Json) (member : j.Member name item) :
    ∃ members, j = .object members := by
  obtain ⟨_, _, object, _⟩ := member
  exact ⟨_, object⟩

theorem member_cons (first : String × Json) (rest : List (String × Json)) (name : String) (item : Json) :
    (Json.object (first :: rest)).Member name item ↔
      (Json.object rest).Member name item ∨ name ∉ rest.map Prod.fst ∧ first = (name, item) := by
  constructor
  · rintro ⟨before, after, same, absent⟩
    cases before with
    | nil =>
        cases same
        exact .inr ⟨absent, rfl⟩
    | cons other before =>
        cases same
        exact .inl ⟨before, after, rfl, absent⟩
  · rintro (⟨before, after, same, absent⟩ | ⟨absent, rfl⟩)
    · cases same
      exact ⟨first :: before, after, rfl, absent⟩
    · exact ⟨[], rest, rfl, absent⟩

theorem inserted_member (members : List (String × Json)) (start : Std.ExtTreeMap String Json) (name : String) (item : Json) :
    (members.foldl (fun m entry => m.insert entry.1 entry.2) start)[name]? = some item ↔
      (Json.object members).Member name item ∨ name ∉ members.map Prod.fst ∧ start[name]? = some item := by
  induction members generalizing start with
  | nil =>
      have none : ¬(Json.object []).Member name item := by
        rintro ⟨before, after, same, _⟩
        simp at same
      simp [none]
  | cons first rest ih =>
      obtain ⟨other, j⟩ := first
      rw [List.foldl_cons, ih, member_cons, Std.ExtTreeMap.getElem?_insert, or_assoc]
      refine or_congr_right ?_
      by_cases same : other = name
      · subst same
        simp [Std.ReflCmp.compare_self]
      · have apart : compare other name ≠ .eq := fun equal => same (Std.LawfulEqCmp.eq_of_compare equal)
        have different : name ≠ other := fun equal => same equal.symm
        simp [apart, same, different]

theorem sorted_member (members : List (String × Json)) (name : String) (item : Json) :
    (name, item) ∈ sortedMembers members ↔ (Json.object members).Member name item := by
  rw [sortedMembers, Std.ExtTreeMap.mem_toList_iff_getElem?_eq_some, inserted_member]
  simp

theorem sorted_in_order (members : List (String × Json)) : InOrder (sortedMembers members) :=
  Std.ExtTreeMap.ordered_keys_toList

end Json

namespace Record

def readMember (member : String × Json) : Except RecordError (String × Field) :=
  (Field.ofJson member.1 member.2).map fun field => (member.1, field)

theorem members_listed (record : Record) (members : List (String × Json)) :
    record.addMembers members =
      (members.mapM readMember).map fun entries => entries.foldl (fun record entry => record.insert entry.1 entry.2) record := by
  induction members generalizing record with
  | nil => rfl
  | cons member rest ih =>
      obtain ⟨name, j⟩ := member
      rw [addMembers, List.mapM_cons, readMember]
      cases Field.ofJson name j with
      | error e => rfl
      | ok field =>
          change addMembers (record.insert name field) rest = _
          rw [ih]
          cases rest.mapM readMember <;> simp [Except.map, bind, Except.bind, pure, Except.pure]

def MemberHolds (member : String × Json) (entry : String × Field) : Prop := entry.1 = member.1 ∧ Field.Holds member.2 entry.2

theorem member_judged : Judges readMember (fun member => member.2.IsField) MemberHolds
    (fun member => Field.Fault member.1 member.2) where
  accepts := by
    rintro ⟨name, j⟩ good
    obtain ⟨field, read, held⟩ := (Field.judged name).accepts j good
    exact ⟨(name, field), by rw [readMember, read]; rfl, rfl, held⟩
  reports := by
    rintro ⟨name, j⟩ e fault
    rw [readMember, (Field.judged name).reports j e fault]
    rfl
  either := fun member => (Field.judged member.1).either member.2

theorem object_read (members : List (String × Json)) :
    ofJson (.object members) = ((Json.sortedMembers members).mapM readMember).map insertAll :=
  members_listed ∅ (Json.sortedMembers members)

theorem entry_of_member (members : List (String × Json)) (entries : List (String × Field))
    (held : List.Forall₂ MemberHolds members entries) (name : String) (item : Json) (member : (name, item) ∈ members) :
    ∃ field, (name, field) ∈ entries ∧ Field.Holds item field := by
  induction held with
  | nil => cases member
  | @cons _ entry _ _ here _ ih =>
      rcases List.mem_cons.mp member with rfl | later
      · exact ⟨entry.2, List.mem_cons.mpr (.inl (Prod.ext here.1.symm rfl)), here.2⟩
      · obtain ⟨field, there, holds⟩ := ih later
        exact ⟨field, List.mem_cons_of_mem entry there, holds⟩

theorem entries_hold (members : List (String × Json)) (entries : List (String × Field))
    (held : List.Forall₂ MemberHolds (Json.sortedMembers members) entries) : Holds (.object members) (insertAll entries) := by
  have names : entries.map Prod.fst = (Json.sortedMembers members).map Prod.fst :=
    names_of_pairs _ _ held fun _ _ pair => pair.1
  have distinct := in_order_distinct entries (in_order_of_names _ _ names (Json.sorted_in_order members))
  constructor
  · intro name
    rw [insert_all_names, names]
    simp [Json.sorted_member]
  · intro name item member
    obtain ⟨field, there, holds⟩ := entry_of_member _ entries held name item ((Json.sorted_member members name item).mpr member)
    exact ⟨field, insert_all_member entries distinct name field there, holds⟩

theorem earlier_names (before after : List (String × Json)) (name : String) (item : Json)
    (ordered : InOrder (before ++ (name, item) :: after)) (other : String) (earlier : Json) :
    (other, earlier) ∈ before ↔
      (other, earlier) ∈ before ++ (name, item) :: after ∧ Text.bytes other < Text.bytes name := by
  obtain ⟨_, ordered, apart⟩ := List.pairwise_append.mp ordered
  constructor
  · intro listed
    exact ⟨List.mem_append_left _ listed, (Text.order_of_bytes _ _).mp (apart _ listed _ List.mem_cons_self)⟩
  · rintro ⟨listed, less⟩
    rcases List.mem_append.mp listed with earlier | own
    · exact earlier
    · rcases List.mem_cons.mp own with same | later
      · cases same
        exact absurd less (List.lt_irrefl _)
      · have greater := (Text.order_of_bytes _ _).mp ((List.pairwise_cons.mp ordered).1 _ later)
        exact absurd less (List.lt_asymm greater)

theorem judged : Judges ofJson Json.IsRecord Holds Fault where
  accepts := by
    rintro j ⟨⟨members, rfl⟩, fields⟩
    obtain ⟨entries, read, held⟩ := member_judged.list.accepts (Json.sortedMembers members) fun member listed =>
      fields member.1 member.2 ((Json.sorted_member members member.1 member.2).mp listed)
    refine ⟨insertAll entries, ?_, entries_hold members entries held⟩
    rw [object_read, read]
    rfl
  reports := by
    intro j e fault
    cases fault with
    | shape other =>
        cases j with
        | object members => exact absurd rfl (other members)
        | _ => rfl
    | field name item _ member smaller fault =>
        obtain ⟨members, rfl⟩ := j.object_of_member name item member
        obtain ⟨before, after, sorted⟩ := List.append_of_mem ((Json.sorted_member members name item).mpr member)
        have ordered := Json.sorted_in_order members
        rw [sorted] at ordered
        have failed := member_judged.list.reports (Json.sortedMembers members) e
          ⟨before, (name, item), after, sorted, fun ⟨other, earlier⟩ listed => ?_, fault⟩
        · rw [object_read, failed]
          rfl
        · obtain ⟨listed, less⟩ := (earlier_names before after name item ordered other earlier).mp listed
          rw [← sorted, Json.sorted_member] at listed
          exact smaller other earlier listed less
  either := by
    intro j
    by_cases object : ∃ members, j = .object members
    · obtain ⟨members, rfl⟩ := object
      rcases member_judged.list.either (Json.sortedMembers members) with good | ⟨e, before, ⟨name, item⟩, after, sorted, good, bad⟩
      · exact .inl ⟨⟨members, rfl⟩, fun name item member => good (name, item) ((Json.sorted_member members name item).mpr member)⟩
      · have ordered := Json.sorted_in_order members
        have member : (name, item) ∈ Json.sortedMembers members := by simp [sorted]
        rw [sorted] at ordered
        refine .inr ⟨e, .field _ name item e ((Json.sorted_member members name item).mp member) (fun other earlier there less => ?_) bad⟩
        rw [← Json.sorted_member, sorted] at there
        exact good (other, earlier) ((earlier_names before after name item ordered other earlier).mpr ⟨there, less⟩)
    · exact .inr ⟨_, .shape j (not_exists.mp object)⟩

-- A document is read as a record exactly if it is well formed; the record then has its members, and otherwise
-- the first fault is reported.
theorem read_where_well_formed (j : Json) :
    ((∃ record, ofJson j = .ok record) ↔ j.IsRecord) ∧ (∀ record, ofJson j = .ok record → Holds j record) ∧
      ∀ e, ofJson j = .error e ↔ Fault j e :=
  judged.decides j

end Record

end FormulaField
