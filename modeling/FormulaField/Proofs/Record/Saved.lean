import FormulaField.Proofs.Calendar.Proper
import FormulaField.Proofs.Entries
import FormulaField.Proofs.Json.Documents
import FormulaField.Proofs.Json.Range
import FormulaField.Record.Json

set_option autoImplicit false

namespace FormulaField

open Json (Draft IsWord reread? reread_in_range)

namespace Value

def again : Value → Value
  | .empty => .empty
  | .boolean b => .boolean b
  | .text s => .text s
  | .date i => .text i.text
  | .number n =>
      if n.isFinite then
        if Number.isWhole n ∧ Number.truncatedAbs n < integerBound then .number (Number.ofInt (Number.truncate n))
        else .number ((reread? n).getD n)
      else .text (Value.number n).toText

theorem truncate_word (n : Float) (small : Number.truncatedAbs n < integerBound) : IsWord (Number.truncate n) := by
  rw [integerBound] at small
  rw [Number.truncate]
  split <;> constructor <;> omega

theorem json_in_words (v : Value) : v.toJson.InWords := by
  cases v with
  | empty => exact trivial
  | boolean b => exact trivial
  | text s => exact trivial
  | date i => exact trivial
  | number n =>
      rw [toJson]
      split
      · split
        next whole => exact truncate_word n whole.2
        next => exact trivial
      · exact trivial

theorem json_again (v : Value) (depth : Nat) :
    ∃ j, Draft.accept? depth v.toJson.reread = some j ∧ ofJson? j = some v.again := by
  cases v with
  | empty => exact ⟨.null, rfl, rfl⟩
  | boolean b => exact ⟨.boolean b, rfl, rfl⟩
  | text s => exact ⟨.text s, rfl, rfl⟩
  | date i => exact ⟨.text i.text, rfl, rfl⟩
  | number n =>
      rw [toJson, again]
      by_cases finite : n.isFinite = true
      · rw [if_pos finite, if_pos finite]
        by_cases whole : Number.isWhole n = true ∧ Number.truncatedAbs n < integerBound
        · rw [if_pos whole, if_pos whole]
          exact ⟨.integer (Number.truncate n), rfl, rfl⟩
        · rw [if_neg whole, if_neg whole, Json.reread, if_pos finite]
          obtain ⟨y, reads⟩ := reread_in_range n finite
          exact ⟨.decimal y, by rw [reads]; rfl, by rw [reads]; rfl⟩
      · rw [if_neg finite, if_neg finite]
        exact ⟨.text (Value.number n).toText, rfl, rfl⟩

end Value

theorem Json.sorted_members (members : List (String × Json)) (ordered : InOrder members) :
    sortedMembers members = members :=
  insert_all_in_order members ordered

theorem Json.members_again (depth : Nat) (before after : List (String × Json))
    (read : List.Forall₂ (fun b a => a.1 = b.1 ∧ Draft.accept? depth b.2.reread = some a.2) before after) :
    Draft.acceptMembers? depth (rereadMembers before) = some after := by
  induction read with
  | nil => rfl
  | @cons b a before after here _ ih =>
      obtain ⟨name, item⟩ := b
      obtain ⟨other, j⟩ := a
      obtain ⟨rfl, accepted⟩ := here
      simp [rereadMembers, Draft.acceptMembers?, accepted, ih]

theorem Json.in_order_again (depth : Nat) (before after : List (String × Json)) (ordered : InOrder before)
    (read : List.Forall₂ (fun b a => a.1 = b.1 ∧ Draft.accept? depth b.2.reread = some a.2) before after) :
    InOrder after :=
  in_order_of_names before after (names_of_pairs before after read fun _ _ pair => pair.1) ordered

theorem Json.object_again (depth : Nat) (before after : List (String × Json)) (ordered : InOrder before)
    (read : List.Forall₂ (fun b a => a.1 = b.1 ∧ Draft.accept? depth b.2.reread = some a.2) before after) :
    Draft.accept? (depth + 1) (Json.object before).reread = some (.object after) := by
  have sorted := Json.sorted_members after (Json.in_order_again depth before after ordered read)
  have members := Json.members_again depth before after read
  rw [reread, Draft.accept?, if_neg (Nat.succ_ne_zero depth), Nat.add_sub_cancel, members, Option.map_some, sortedObject, sorted]

namespace Observation

def again (o : Observation) : Observation := ⟨o.value.again, o.timestamp.map fun i => i.cut, o.context⟩

def Dated (o : Observation) : Prop :=
  ∀ i, o.timestamp = some i → i.Proper ∧ 0 ≤ i.date.year ∧ i.date.year ≤ 9999

def members (o : Observation) : List (String × Json) :=
  (o.context.map fun context => ("context", Json.text context)).toList ++
    (o.timestamp.map fun i => ("timestamp", Value.toJson (.date i))).toList ++ [("value", o.value.toJson)]

theorem members_in_order (o : Observation) : InOrder o.members := by
  have first : compare "context" "timestamp" = .lt := by decide
  have second : compare "timestamp" "value" = .lt := by decide
  have third : compare "context" "value" = .lt := by decide
  obtain ⟨value, timestamp, context⟩ := o
  cases timestamp <;> cases context <;> simp [members, InOrder, first, second, third]

theorem json_members (o : Observation) : o.toJson = .object o.members := by
  have written : o.toJson = Json.sortedObject o.members.reverse := by
    obtain ⟨value, timestamp, context⟩ := o
    cases timestamp <;> cases context <;> rfl
  have sorted := insert_all_in_order o.members o.members_in_order
  have perm : o.members.reverse.Perm (insertAll o.members).toList := sorted.symm ▸ List.reverse_perm o.members
  have same : Json.sortedMembers o.members.reverse = (insertAll o.members).toList :=
    congrArg Std.ExtTreeMap.toList (insert_all_perm _ _ perm)
  rw [written, Json.sortedObject, same, sorted]

def membersAgain (o : Observation) (value : Json) : List (String × Json) :=
  (o.context.map fun context => ("context", Json.text context)).toList ++
    (o.timestamp.map fun i => ("timestamp", Json.text i.text)).toList ++ [("value", value)]

theorem members_accepted (o : Observation) (depth : Nat) (value : Json)
    (accepted : Draft.accept? depth o.value.toJson.reread = some value) :
    List.Forall₂ (fun b a => a.1 = b.1 ∧ Draft.accept? depth b.2.reread = some a.2) o.members (o.membersAgain value) := by
  have text (s : String) : Draft.accept? depth (Json.text s).reread = some (.text s) := rfl
  have date (i : Calendar.Instant) : Draft.accept? depth (Value.date i).toJson.reread = some (.text i.text) := rfl
  obtain ⟨own, timestamp, context⟩ := o
  cases timestamp <;> cases context <;> simp [members, membersAgain, accepted, text, date]

theorem value_member (o : Observation) (value : Json) : (Json.object (o.membersAgain value)).member? "value" = some value := by
  obtain ⟨own, timestamp, context⟩ := o
  cases timestamp <;> cases context <;> simp [membersAgain, Json.member?, List.lookup]

theorem timestamp_member (o : Observation) (value : Json) :
    (Json.object (o.membersAgain value)).member? "timestamp" = o.timestamp.map fun i => .text i.text := by
  obtain ⟨own, timestamp, context⟩ := o
  cases timestamp <;> cases context <;> simp [membersAgain, Json.member?, List.lookup]

theorem context_member (o : Observation) (value : Json) :
    (Json.object (o.membersAgain value)).member? "context" = o.context.map .text := by
  obtain ⟨own, timestamp, context⟩ := o
  cases timestamp <;> cases context <;> simp [membersAgain, Json.member?, List.lookup]

theorem timestamp_again (o : Observation) (field : String) (value : Json) (dated : o.Dated) :
    readTimestamp field (.object (o.membersAgain value)) = .ok (o.timestamp.map fun i => i.cut) := by
  rw [readTimestamp, timestamp_member]
  cases found : o.timestamp with
  | none => rfl
  | some i =>
      obtain ⟨proper, least, most⟩ := dated i found
      simp [i.text_read proper least most]

theorem json_again (o : Observation) (field : String) (depth : Nat) (dated : o.Dated) :
    ∃ j, Draft.accept? (depth + 1) o.toJson.reread = some j ∧ ofJson field j = .ok o.again := by
  obtain ⟨value, accepted, read⟩ := o.value.json_again depth
  have readValue : readValue field (.object (o.membersAgain value)) = .ok o.value.again := by
    simp only [Observation.readValue, value_member, read]
  refine ⟨.object (o.membersAgain value), ?_, ?_⟩
  · rw [json_members]
    exact Json.object_again depth _ _ o.members_in_order (o.members_accepted depth value accepted)
  · have context : (o.context.map Json.text).bind Json.text? = o.context := by
      cases o.context <;> rfl
    simp only [ofJson, readValue, timestamp_again o field value dated, context_member, context]
    rfl

end Observation

namespace Observation

theorem json_in_words (o : Observation) : o.toJson.InWords := by
  have value := o.value.json_in_words
  have date (i : Calendar.Instant) : (Value.date i).toJson.InWords := trivial
  rw [json_members]
  obtain ⟨own, timestamp, context⟩ := o
  cases timestamp <;> cases context <;> simp [members, Json.InWords, Json.MembersInWords, value, date]

theorem items_again (observations : List Observation) (field : String) (depth : Nat)
    (dated : ∀ o ∈ observations, o.Dated) :
    ∃ items, Draft.acceptItems? (depth + 1) (Json.rereadItems (observations.map toJson)) = some items ∧
      items.mapM (ofJson field) = .ok (observations.map again) := by
  induction observations with
  | nil => exact ⟨[], rfl, rfl⟩
  | cons o rest ih =>
      obtain ⟨j, accepted, read⟩ := o.json_again field depth (dated o (by simp))
      obtain ⟨items, others, readOthers⟩ := ih fun other member => dated other (by simp [member])
      refine ⟨j :: items, ?_, ?_⟩
      · simp [Json.rereadItems, Draft.acceptItems?, accepted, others]
      · simp [read, readOthers, bind, Except.bind, pure, Except.pure]

theorem items_in_words (observations : List Observation) : Json.ItemsInWords (observations.map toJson) := by
  induction observations with
  | nil => exact trivial
  | cons o rest ih => exact ⟨o.json_in_words, ih⟩

end Observation

namespace Field

def again : Field → Field
  | .value v => .value v.again
  | .cell c => .cell ⟨c.observations.map Observation.again⟩

def Dated : Field → Prop
  | .value _ => True
  | .cell c => ∀ o ∈ c.observations, o.Dated

theorem json_in_words (f : Field) : f.toJson.InWords := by
  cases f with
  | value v => exact v.json_in_words
  | cell c => exact ⟨Observation.items_in_words c.observations, trivial⟩

theorem json_again (f : Field) (name : String) (depth : Nat) (dated : f.Dated) :
    ∃ j, Draft.accept? (depth + 3) f.toJson.reread = some j ∧ ofJson name j = .ok f.again := by
  cases f with
  | value v =>
      obtain ⟨j, accepted, read⟩ := v.json_again (depth + 3)
      refine ⟨j, accepted, ?_⟩
      cases j with
      | object members => cases read
      | array items => cases read
      | _ => simp only [ofJson, read, again]
  | cell c =>
      obtain ⟨items, accepted, read⟩ := Observation.items_again c.observations name depth dated
      refine ⟨.object [("observations", .array items)], ?_, ?_⟩
      · refine Json.object_again (depth + 2) _ _ (List.pairwise_singleton _ _) (.cons ⟨rfl, ?_⟩ .nil)
        simp [Json.reread, Draft.accept?, accepted]
      · simp [ofJson, Json.member?, List.lookup, read, again, bind, Except.bind, pure, Except.pure]

end Field

namespace Record

theorem members_again (entries : List (String × Field)) (depth : Nat) (record : Record)
    (dated : ∀ entry ∈ entries, entry.2.Dated) :
    ∃ after, List.Forall₂ (fun b a => a.1 = b.1 ∧ Draft.accept? (depth + 3) b.2.reread = some a.2)
        (entries.map fun entry => (entry.1, entry.2.toJson)) after ∧
      addMembers record after = .ok (entries.foldl (fun record entry => record.insert entry.1 entry.2.again) record) := by
  induction entries generalizing record with
  | nil => exact ⟨[], .nil, rfl⟩
  | cons entry rest ih =>
      obtain ⟨name, field⟩ := entry
      obtain ⟨j, accepted, read⟩ := field.json_again name depth (dated (name, field) (by simp))
      obtain ⟨after, others, readOthers⟩ := ih (record.insert name field.again) fun other member => dated other (by simp [member])
      refine ⟨(name, j) :: after, .cons ⟨rfl, accepted⟩ others, ?_⟩
      simp [addMembers, read, readOthers, bind, Except.bind]

theorem members_in_words (entries : List (String × Field)) :
    Json.MembersInWords (entries.map fun entry => (entry.1, entry.2.toJson)) := by
  induction entries with
  | nil => exact trivial
  | cons entry rest ih => exact ⟨entry.2.json_in_words, ih⟩

theorem members_in_order (record : Record) : InOrder (record.toList.map fun entry => (entry.1, entry.2.toJson)) := by
  have ordered : InOrder record.toList := Std.ExtTreeMap.ordered_keys_toList
  exact ordered.map _ fun _ _ before => before

-- The record in a document, once it has been written.
def ofWritten (j : Json) : Except RecordError Record :=
  match Draft.accept? Draft.maxDepth j.reread with
  | some j => ofJson j
  | none => .error .badDocument

theorem written_read (j : Json) (blank : List Char) (words : j.InWords) (white : ∀ c ∈ blank, Json.isSpace c = true) :
    ofText (String.ofList (Json.prettyChars 0 j ++ blank)) = ofWritten j := by
  have drafted : Draft.ofText? (String.ofList (Json.prettyChars 0 j ++ blank)) = some j.reread := by
    rw [Draft.ofText?, String.toList_ofList, Json.document_read j blank words white]
  have read : Json.ofText? (String.ofList (Json.prettyChars 0 j ++ blank)) = Draft.accept? Draft.maxDepth j.reread := by
    rw [Json.ofText?, drafted, Option.bind_some]
  cases accepted : Draft.accept? Draft.maxDepth j.reread with
  | none => simp only [ofText, ofWritten, read, accepted]
  | some written => simp only [ofText, ofWritten, read, accepted]

theorem text_again (record : Record) (blank : List Char) (white : ∀ c ∈ blank, Json.isSpace c = true)
    (dated : ∀ (name : String) (field : Field), record[name]? = some field → field.Dated) :
    ofText (String.ofList (Json.prettyChars 0 record.toJson ++ blank)) = .ok (record.map fun _ field => field.again) := by
  obtain ⟨after, accepted, read⟩ := members_again record.toList 123 ∅ fun entry member =>
    dated entry.1 entry.2 (Std.ExtTreeMap.mem_toList_iff_getElem?_eq_some.mp member)
  have words : record.toJson.InWords := members_in_words record.toList
  have document : Draft.accept? Draft.maxDepth record.toJson.reread = some (.object after) :=
    Json.object_again 126 _ _ record.members_in_order accepted
  have sorted := Json.sorted_members after (Json.in_order_again 126 _ _ record.members_in_order accepted)
  have entries : record.toList.foldl (fun back entry => back.insert entry.1 entry.2.again) ∅ =
      record.map fun _ field => field.again := by
    rw [← insert_all_entries (record.map fun _ field => field.again), Std.ExtTreeMap.toList_map, insertAll, List.foldl_map]
  rw [written_read _ blank words white, ofWritten, document]
  simp only [ofJson, sorted, read, entries]

end Record

end FormulaField
