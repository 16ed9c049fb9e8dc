import FormulaField.CommandLine.Run
import FormulaField.Proofs.Record.Durable
import FormulaField.Proofs.Registry.Export

set_option autoImplicit false

namespace FormulaField

open Calendar (Instant)

namespace Registry

variable (r : Registry) (consistent : r.Consistent) (now : Instant) (record : Record)

def saved : Record := (r.calculateAll record { now := now }).1.map fun _ field => field.again

-- The plain fields come through a document, and those that a formula reads with what it sees of them.
def PlainDurable : Prop :=
  ∀ (name : String) (field : Field), name ∉ r.fields → record[name]? = some field →
    field.Durable ∧ ((∃ reader, r.Reads reader name) → field.Steady)

theorem read_iff (name : String) :
    (∃ reader, r.Reads reader name) ↔ ∃ entry ∈ r.fields.toList, name ∈ entry.2.dependencies := by
  constructor
  · rintro ⟨reader, definition, found, member⟩
    exact ⟨(reader, definition), Std.ExtTreeMap.mem_toList_iff_getElem?_eq_some.mpr found, member⟩
  · rintro ⟨⟨reader, definition⟩, listed, member⟩
    exact ⟨reader, definition, Std.ExtTreeMap.mem_toList_iff_getElem?_eq_some.mp listed, member⟩

theorem plain_durable_iff :
    r.PlainDurable record ↔ ∀ entry ∈ record.toList, r.contains entry.1 = true ∨
      entry.2.Durable ∧ ((∃ own ∈ r.fields.toList, entry.1 ∈ own.2.dependencies) → entry.2.Steady) := by
  simp only [contains, Std.ExtTreeMap.contains_iff_mem, ← read_iff]
  constructor
  · intro durable entry member
    by_cases calculated : entry.1 ∈ r.fields
    · exact .inl calculated
    · exact .inr (durable entry.1 entry.2 calculated (Std.ExtTreeMap.mem_toList_iff_getElem?_eq_some.mp member))
  · intro listed name field plain found
    exact (listed (name, field) (Std.ExtTreeMap.mem_toList_iff_getElem?_eq_some.mpr found)).resolve_left plain

instance : Decidable (r.PlainDurable record) := decidable_of_iff _ (r.plain_durable_iff record).symm

include consistent

theorem ordered_fields (name : String) : name ∈ r.calculationOrder ↔ name ∈ r.fields :=
  (calculation_order_perm r consistent).mem_iff.trans Std.ExtTreeMap.mem_keys

theorem plain_untouched (name : String) (plain : name ∉ r.fields) :
    (r.calculateAll record { now := now }).1[name]? = record[name]? :=
  (calculate_all_calculated r consistent { now := now } record).untouched name
    fun member => plain ((r.ordered_fields consistent name).mp member)

theorem result_plain (name : String) (field : Field) (member : name ∈ r.fields)
    (found : (r.calculateAll record { now := now }).1[name]? = some field) : ∃ v, field = .value v := by
  have all := calculate_all_calculated r consistent { now := now } record
  rw [← r.ordered_fields consistent, ← all.names] at member
  obtain ⟨⟨_, result⟩, reported, rfl⟩ := List.mem_map.mp member
  rw [all.stored _ result reported, Result.entry?] at found
  split at found
  · cases found
    exact ⟨_, rfl⟩
  · cases found

theorem batch_dated (timed : record.Timed) (durable : r.PlainDurable record) (name : String) (field : Field)
    (found : (r.calculateAll record { now := now }).1[name]? = some field) : field.Dated := by
  by_cases member : name ∈ r.fields
  · obtain ⟨v, rfl⟩ := r.result_plain consistent now record name field member found
    exact trivial
  · rw [r.plain_untouched consistent now record name member] at found
    exact field.durable_dated (durable name field member found).1 (timed name field found)

theorem saved_alike (durable : r.PlainDurable record) :
    r.SeenAlike { now := now } r.names record (r.saved now record) := by
  intro reader name edge away
  have plain : name ∉ r.fields := fun member => away (Std.ExtTreeMap.mem_keys.mpr member)
  have read : ∃ reader, r.Reads reader name := ⟨reader, r.graph_reads consistent reader name edge⟩
  refine steady_seen now record _ name ?_ (fun field found => (durable name field plain found).2 read)
  rw [saved, Std.ExtTreeMap.getElem?_map, r.plain_untouched consistent now record name plain]

theorem saved_report (durable : r.PlainDurable record) :
    (r.calculateAll (r.saved now record) { now := now }).2 = (r.calculateAll record { now := now }).2 :=
  (calculate_all_report r consistent { now := now } record _ (r.saved_alike consistent now record durable)).symm

theorem saved_record (durable : r.PlainDurable record) :
    (r.calculateAll (r.saved now record) { now := now }).1.toJson = (r.calculateAll record { now := now }).1.toJson := by
  have alike := r.saved_alike consistent now record durable
  apply Record.json_same
  intro name
  by_cases member : name ∈ r.fields
  · rw [(calculate_all_entry r consistent { now := now } record _ alike name).1 member]
  · have back : r.SeenAlike { now := now } r.names (r.saved now record) record := fun reader other edge away =>
      (alike reader other edge away).symm
    have untouched := r.plain_untouched consistent now record name member
    rw [untouched, (calculate_all_entry r consistent { now := now } _ record back name).2 member, saved,
      Std.ExtTreeMap.getElem?_map, untouched]
    cases found : record[name]? with
    | none => rfl
    | some field => exact congrArg some (field.durable_json (durable name field member found).1)

end Registry

namespace CommandLine

def PlainDurable (files : Files) (how : Calculating) : Prop :=
  ∀ registry record, loadRegistry files how.fields = .ok registry → loadRecord files how.record = .ok record →
    registry.PlainDurable record

theorem registry_loaded (files : Files) (path : String) (registry : Registry)
    (loaded : loadRegistry files path = .ok registry) : registry.Consistent := by
  rw [loadRegistry] at loaded
  split at loaded
  · cases loaded
  · split at loaded
    · cases loaded
    next found =>
      cases loaded
      exact Registry.consistent_kept.edit ∅ registry (.replaceByText _) Registry.empty_consistent
        ((Registry.edit_replace_by_text ∅ _).trans found)

theorem record_loaded (files : Files) (path : String) (record : Record) (loaded : loadRecord files path = .ok record) :
    record.Timed := by
  rw [loadRecord] at loaded
  split at loaded
  · cases loaded
  · split at loaded
    · cases loaded
    next found =>
      cases loaded
      exact Record.text_timed _ record found

theorem loaded_calculation (files : Files) (clock : Instant) (how : Calculating) (registry : Registry) (record : Record)
    (now : Instant) (fields : loadRegistry files how.fields = .ok registry)
    (loaded : loadRecord files how.record = .ok record) (clocked : present clock how.now = .ok now) :
    calculate files clock how = .ok (printBatch how.json (registry.calculateAll record { now := now }).1
      (registry.calculateAll record { now := now }).2) := by
  simp only [calculate, batch, fields, loaded, clocked]
  rfl

theorem calculation_loaded (files : Files) (clock : Instant) (how : Calculating)
    (succeeds : (Output.ofExcept (calculate files clock how)).code = 0) :
    ∃ registry record now, loadRegistry files how.fields = .ok registry ∧ loadRecord files how.record = .ok record ∧
      present clock how.now = .ok now := by
  rw [calculate, batch] at succeeds
  cases fields : loadRegistry files how.fields with
  | error f =>
      rw [fields] at succeeds
      cases succeeds
  | ok registry =>
      cases loaded : loadRecord files how.record with
      | error f =>
          rw [fields, loaded] at succeeds
          cases succeeds
      | ok record =>
          cases clocked : present clock how.now with
          | error f =>
              rw [fields, loaded, clocked] at succeeds
              cases succeeds
          | ok now => exact ⟨registry, record, now, rfl, rfl, rfl⟩

def folder (fields : String) (record : Json) : Files := fun path =>
  if path = "fields.json" then .ok fields
  else if path = "record.json" then .ok record.pretty
  else .error "No such file or directory (os error 2)"

def dated : Calculating := ⟨"fields.json", "record.json", true, some "2024-01-01"⟩

def datedArguments : List String :=
  ["calc", "--fields", "fields.json", "-r", "record.json", "--json", "--now", "2024-01-01"]

def calculated (fields : String) (record : Json) : Output := run (folder fields record) ⟨0, 0⟩ datedArguments

theorem dated_command : Command.ofArguments? datedArguments = some (.calculate dated) := by rfl

theorem folder_fields (fields : String) (j : Json) : folder fields j dated.fields = .ok fields := rfl

theorem folder_record (fields : String) (j : Json) : folder fields j dated.record = .ok j.pretty := rfl

theorem folder_registry (fields : String) (j : Json) (registry : Registry)
    (accepted : Registry.ofText fields = .ok registry) : loadRegistry (folder fields j) dated.fields = .ok registry := by
  rw [loadRegistry, folder_fields]
  simp only [accepted]

theorem folder_written (fields : String) (j : Json) (words : j.InWords) (record : Record)
    (read : Record.ofWritten j = .ok record) : loadRecord (folder fields j) dated.record = .ok record := by
  have text := Record.written_read j [] words (by simp)
  rw [List.append_nil] at text
  rw [loadRecord, folder_record, Json.pretty]
  simp only [text, read]

-- The record that a calculation prints on one that has been written, without the way through its text.
def printed? (fields : String) (j : Json) : Option (List Char) :=
  match Registry.ofText fields, Record.ofWritten j, Instant.ofText? "2024-01-01" with
  | .ok registry, .ok record, some now =>
      some (Json.prettyChars 0 (registry.calculateAll record { now := now }).1.toJson)
  | _, _, _ => none

theorem calculated_output (fields : String) (j : Json) (words : j.InWords) :
    match printed? fields j with
    | some cs => (calculated fields j).code = 0 ∧ (calculated fields j).stdout = String.ofList cs ++ "\n"
    | none => (calculated fields j).stdout = "" := by
  rw [calculated, run, dated_command, printed?]
  simp only [perform]
  cases accepted : Registry.ofText fields with
  | error e =>
      simp only [calculate, batch, loadRegistry, folder_fields, accepted]
      rfl
  | ok registry =>
      have fieldsLoaded := folder_registry fields j registry accepted
      cases read : Record.ofWritten j with
      | error e =>
          have text := Record.written_read j [] words (by simp)
          rw [List.append_nil, read] at text
          simp only [calculate, batch, fieldsLoaded, loadRecord, folder_record, Json.pretty, text]
          rfl
      | ok record =>
          have recordLoaded := folder_written fields j words record read
          cases clocked : Instant.ofText? "2024-01-01" with
          | none =>
              have known : (Instant.ofText? "2024-01-01").isSome = true := by decide +kernel
              rw [clocked] at known
              cases known
          | some now =>
              have clock : present ⟨0, 0⟩ dated.now = .ok now := by rw [dated, present, clocked]
              rw [loaded_calculation (folder fields j) ⟨0, 0⟩ dated registry record now fieldsLoaded recordLoaded clock]
              exact ⟨rfl, rfl⟩

theorem calculated_prints (fields : String) (j after : Json) (words : j.InWords)
    (prints : printed? fields j = some (Json.prettyChars 0 after)) :
    (calculated fields j).code = 0 ∧ (calculated fields j).stdout = after.pretty ++ "\n" := by
  have output := calculated_output fields j words
  rw [prints] at output
  exact output

theorem calculated_otherwise (fields : String) (j after : Json) (words : j.InWords)
    (differs : printed? fields j ≠ some (Json.prettyChars 0 after)) : (calculated fields j).stdout ≠ after.pretty ++ "\n" := by
  have output := calculated_output fields j words
  intro same
  cases printed : printed? fields j with
  | none =>
      rw [printed, same] at output
      simpa using congrArg String.toList output
  | some cs =>
      rw [printed, same] at output
      have chars := congrArg String.toList output.2
      simp only [String.toList_append, Json.pretty, String.toList_ofList] at chars
      exact differs (printed.trans (congrArg some (List.append_cancel_right chars).symm))

def durableFolder (fields : String) (j : Json) : Bool :=
  match Registry.ofText fields, Record.ofWritten j with
  | .ok registry, .ok record => decide (registry.PlainDurable record)
  | _, _ => false

theorem folder_durable (fields : String) (j : Json) (words : j.InWords) (checked : durableFolder fields j = true) :
    PlainDurable (folder fields j) dated := by
  intro registry record fieldsLoaded recordLoaded
  rw [durableFolder] at checked
  cases accepted : Registry.ofText fields with
  | error e =>
      rw [accepted] at checked
      cases checked
  | ok own =>
      cases read : Record.ofWritten j with
      | error e =>
          rw [accepted, read] at checked
          cases checked
      | ok ownRecord =>
          rw [accepted, read] at checked
          cases (folder_registry fields j own accepted).symm.trans fieldsLoaded
          cases (folder_written fields j words ownRecord read).symm.trans recordLoaded
          exact of_decide_eq_true checked

-- The output of a calculation, with the line that sums it up, is printed again by the calculation on it. It does not
-- matter what the formula fields of the first record held.
theorem saved_output_again (files later : Files) (clock laterClock : Instant) (arguments again : List String)
    (how : Calculating) (path saved : String) (blank : List Char)
    (command : Command.ofArguments? arguments = some (.calculate how))
    (renamed : Command.ofArguments? again = some (.calculate { how with record := path }))
    (json : how.json = true) (now : how.now.isSome = true)
    (succeeds : (run files clock arguments).code = 0) (prints : (run files clock arguments).stdout = saved ++ "\n")
    (sameFields : later how.fields = files how.fields) (stored : later path = .ok (saved ++ String.ofList blank))
    (white : ∀ c ∈ blank, Json.isSpace c = true) (durable : PlainDurable files how) :
    run later laterClock again = run files clock arguments := by
  rw [run, command] at succeeds prints
  rw [run, run, command, renamed]
  simp only [perform] at succeeds prints ⊢
  obtain ⟨registry, record, present, fields, loaded, clocked⟩ := calculation_loaded files clock how succeeds
  have consistent := registry_loaded files how.fields registry fields
  have plain := durable registry record fields loaded
  have dated := registry.batch_dated consistent present record (record_loaded files how.record record loaded) plain
  have first := loaded_calculation files clock how registry record present fields loaded clocked
  rw [first, json] at prints
  have text : saved = (registry.calculateAll record { now := present }).1.toJson.pretty := by
    have lines := congrArg String.toList prints
    simp only [Output.ofExcept, printBatch, if_true, String.toList_append] at lines
    exact (String.toList_inj.mp (List.append_cancel_right lines)).symm
  have laterFields : loadRegistry later how.fields = .ok registry := by
    rw [← fields, loadRegistry, loadRegistry, sameFields]
  have laterLoaded : loadRecord later path = .ok (registry.saved present record) := by
    rw [loadRecord, stored, text, Json.pretty, ← String.ofList_append]
    simp only [Record.text_again _ blank white dated, Registry.saved]
  have laterClocked : CommandLine.present laterClock how.now = .ok present := by
    rw [← clocked]
    cases found : how.now with
    | none =>
        rw [found] at now
        cases now
    | some s => rfl
  have second := loaded_calculation later laterClock { how with record := path } registry _ present laterFields
    laterLoaded laterClocked
  rw [first, second, json]
  simp only [printBatch, if_true, registry.saved_record consistent present record plain,
    registry.saved_report consistent present record plain]

def totalFields : String := "\x7b\"Total\": \x7b\"formula\": \"\x7bPrice\x7d * \x7bCount\x7d\"\x7d\x7d"

def seen (observations : List (Int × String)) : Json := .object [("observations", .array (observations.map
  fun entry => .object [("timestamp", .text entry.2), ("value", .integer entry.1)]))]

-- The count has been observed between two milliseconds, and the total is an old one. Nothing reads the stock, which has
-- been observed twice in one millisecond.
def openOrder : Json := .object [("Count", seen [(2, "2024-01-01T10:00:00.0004Z"), (3, "2024-01-01T10:00:00.0014Z")]),
  ("Price", .decimal 2.5), ("Stock", seen [(8, "2024-01-01T10:00:00.0001Z"), (9, "2024-01-01T10:00:00.0002Z")]),
  ("Total", .text "open")]

def openOrderSaved : Json := .object [("Count", seen [(2, "2024-01-01T10:00:00.000Z"), (3, "2024-01-01T10:00:00.001Z")]),
  ("Price", .decimal 2.5), ("Stock", seen [(8, "2024-01-01T10:00:00.000Z"), (9, "2024-01-01T10:00:00.000Z")]),
  ("Total", .decimal 7.5)]

theorem total_saved_again :
    (calculated totalFields openOrder).stdout = openOrderSaved.pretty ++ "\n" ∧
      PlainDurable (folder totalFields openOrder) dated ∧
      calculated totalFields openOrderSaved = calculated totalFields openOrder := by
  have words : openOrder.InWords := by simp [openOrder, seen, Json.InWords, Json.MembersInWords, Json.ItemsInWords, Json.IsWord]
  have first : printed? totalFields openOrder = some (Json.prettyChars 0 openOrderSaved) := by decide +kernel
  obtain ⟨succeeds, prints⟩ := calculated_prints totalFields openOrder openOrderSaved words first
  have durable := folder_durable totalFields openOrder words (by decide +kernel)
  have sameFields := (folder_fields totalFields openOrderSaved).trans (folder_fields totalFields openOrder).symm
  have stored := folder_record totalFields openOrderSaved
  rw [← String.append_empty (s := openOrderSaved.pretty)] at stored
  exact ⟨prints, durable, saved_output_again (folder totalFields openOrder) (folder totalFields openOrderSaved) ⟨0, 0⟩ ⟨0, 0⟩
    datedArguments datedArguments dated dated.record openOrderSaved.pretty [] dated_command dated_command rfl rfl succeeds
    prints sameFields stored (by simp) durable⟩

def sameFields : String := "\x7b\"Same\": \x7b\"formula\": \"\x7bA\x7d\"\x7d\x7d"

def Changes (fields : String) (before after : Json) : Prop :=
  (calculated fields before).code = 0 ∧ (calculated fields before).stdout = after.pretty ++ "\n" ∧
    (calculated fields after).stdout ≠ after.pretty ++ "\n"

theorem changes_of_printed (fields : String) (before after : Json) (words : before.InWords) (wordsAfter : after.InWords)
    (first : printed? fields before = some (Json.prettyChars 0 after))
    (second : printed? fields after ≠ some (Json.prettyChars 0 after)) : Changes fields before after := by
  obtain ⟨succeeds, prints⟩ := calculated_prints fields before after words first
  exact ⟨succeeds, prints, calculated_otherwise fields after after wordsAfter second⟩

def large : Json := .object [("A", .decimal 6.860326160702037e59)]

def largeSaved : Json := .object [("A", .decimal 6.860326160702038e59), ("Same", .decimal 6.860326160702038e59)]

def close : Json := .object [("A", seen [(1, "2024-01-01T00:00:00.0001Z"), (2, "2024-01-01T00:00:00.0002Z")])]

def closeSaved : Json := .object [
  ("A", seen [(1, "2024-01-01T00:00:00.000Z"), (2, "2024-01-01T00:00:00.000Z")]), ("Same", .integer 2)]

def late : Json := .object [("A", seen [(1, "+10000-01-01")])]

def lateSaved : Json := .object [("A", seen [(1, "+10000-01-01T00:00:00.000Z")]), ("Same", .integer 1)]

-- A decimal that the reader takes for the next one, two timestamps in one millisecond, and a year of five digits,
-- which is not read with a time after it.
theorem saved_outputs_changed :
    Changes sameFields large largeSaved ∧ Changes sameFields close closeSaved ∧ Changes sameFields late lateSaved := by
  refine ⟨changes_of_printed _ _ _ ?_ ?_ (by decide +kernel) (by decide +kernel),
    changes_of_printed _ _ _ ?_ ?_ (by decide +kernel) (by decide +kernel),
    changes_of_printed _ _ _ ?_ ?_ (by decide +kernel) (by decide +kernel)⟩ <;>
    simp [large, largeSaved, close, closeSaved, late, lateSaved, seen, Json.InWords, Json.MembersInWords,
      Json.ItemsInWords, Json.IsWord]

end CommandLine

end FormulaField
