import FormulaField.Proofs.CommandLine.SavedOutput

set_option autoImplicit false

namespace FormulaField

open Calendar (Instant)

-- The room for the names of all fields.
structure Registry.Widest (r : Registry) (width : Nat) : Prop where
  enough : ∀ name ∈ r.names, name.length ≤ width
  needed : width = 0 ∨ ∃ name ∈ r.names, name.length = width

def Result.Line (width : Nat) (name : String) (result : Result) (line : String) : Prop :=
  ∃ margin, name.length + margin = width ∧
    line = name ++ String.ofList (List.replicate margin ' ') ++ "  " ++ result.shown ++
      match result.outcome with
      | .ok _ => ""
      | .error e => " (" ++ e.message ++ ")"

namespace Report

theorem width_from (entries : List (String × Result)) (least : Nat) :
    let width := entries.foldl (fun most entry => max most entry.1.length) least
    least ≤ width ∧ (∀ entry ∈ entries, entry.1.length ≤ width) ∧
      (width = least ∨ ∃ entry ∈ entries, entry.1.length = width) := by
  induction entries generalizing least with
  | nil => exact ⟨Nat.le_refl _, nofun, .inl rfl⟩
  | cons entry rest ih =>
      obtain ⟨atLeast, enough, needed⟩ := ih (max least entry.1.length)
      refine ⟨(Nat.le_max_left _ _).trans atLeast,
        List.forall_mem_cons.mpr ⟨(Nat.le_max_right _ _).trans atLeast, enough⟩, ?_⟩
      rw [List.foldl_cons]
      rcases needed with same | ⟨other, member, same⟩
      · rcases Nat.le_total least entry.1.length with longer | shorter
        · exact .inr ⟨entry, List.mem_cons_self, (Nat.max_eq_right longer).symm.trans same.symm⟩
        · exact .inl (same.trans (Nat.max_eq_left shorter))
      · exact .inr ⟨other, List.mem_cons_of_mem entry member, same⟩

theorem width_widest (r : Registry) (report : Report) (all : (report.results.map Prod.fst).Perm r.names) :
    r.Widest report.width := by
  obtain ⟨_, enough, needed⟩ := width_from report.results 0
  constructor
  · intro name member
    obtain ⟨entry, reported, rfl⟩ := List.mem_map.mp (all.mem_iff.mpr member)
    exact enough entry reported
  · refine needed.imp_right ?_
    rintro ⟨entry, reported, same⟩
    exact ⟨entry.1, all.mem_iff.mp (List.mem_map_of_mem reported), same⟩

end Report

theorem line_of_result (width : Nat) (name : String) (result : Result) (fits : name.length ≤ width) :
    Result.Line width name result (result.line width name) := by
  refine ⟨width - name.length, Nat.add_sub_of_le fits, ?_⟩
  rw [Result.line, padded, Result.errorText?]
  cases result.outcome <;> rfl

namespace CommandLine

section

variable (files : Files) (clock now : Instant) (arguments : List String) (how : Calculating) (registry : Registry)
  (record : Record) (command : Command.ofArguments? arguments = some (.calculate how)) (listed : how.json = false)
  (fields : loadRegistry files how.fields = .ok registry) (loaded : loadRecord files how.record = .ok record)
  (clocked : present clock how.now = .ok now)

include command listed fields loaded clocked

theorem run_lists :
    run files clock arguments =
      printBatch false (registry.calculateAll record { now := now }).1 (registry.calculateAll record { now := now }).2 := by
  have calculated := loaded_calculation files clock how registry record now fields loaded clocked
  rw [run, command]
  simp only [perform]
  rw [calculated, listed, Output.ofExcept]

end

theorem listing_printed (record : Record) (report : Report) (fits : report.width ≤ Report.maxWidth) :
    printBatch false record report =
      { stdout := ofLines (report.results.map fun entry => entry.2.line report.width entry.1), stderr := report.summary } := by
  rw [printBatch, if_neg Bool.false_ne_true, Report.listing?, if_pos fits]

theorem listing_broken_off (record : Record) (report : Report) (wide : Report.maxWidth < report.width) :
    printBatch false record report = aborted := by
  rw [printBatch, if_neg Bool.false_ne_true, Report.listing?, if_neg (Nat.not_le.mpr wide)]

-- The lines that list a batch: one for each field in the order of the calculation, with its result on the record that
-- the batch leaves.
def Lists (registry : Registry) (now : Instant) (record : Record) (width : Nat) (lines : List String) : Prop :=
  List.Forall₂ (fun name line => ∃ result,
    registry.calculate name (registry.calculateAll record { now := now }).1 { now := now } = .ok result ∧
      Result.Line width name result line) registry.calculationOrder lines

theorem batch_listed (registry : Registry) (consistent : registry.Consistent) (now : Instant) (record : Record) :
    let report := (registry.calculateAll record { now := now }).2
    Lists registry now record report.width (report.results.map fun entry => entry.2.line report.width entry.1) := by
  intro report
  have all := Registry.calculate_all_calculated registry consistent { now := now } record
  obtain ⟨_, enough, _⟩ := Report.width_from report.results 0
  rw [Lists, ← all.names, List.forall₂_map_left_iff, List.forall₂_map_right_iff, List.forall₂_same]
  intro entry reported
  exact ⟨entry.2, all.settled entry.1 entry.2 reported, line_of_result _ _ _ (enough entry reported)⟩

theorem batch_widest (registry : Registry) (consistent : registry.Consistent) (now : Instant) (record : Record) :
    registry.Widest (registry.calculateAll record { now := now }).2.width := by
  have all := Registry.calculate_all_calculated registry consistent { now := now } record
  exact Report.width_widest registry _ (all.names ▸ Registry.calculation_order_perm registry consistent)

-- A batch is listed where all names fit into a column, and otherwise the run is broken off with nothing printed.
theorem listing_where_names_fit (files : Files) (clock now : Instant) (arguments : List String) (how : Calculating)
    (registry : Registry) (record : Record) (command : Command.ofArguments? arguments = some (.calculate how))
    (listed : how.json = false) (fields : loadRegistry files how.fields = .ok registry)
    (loaded : loadRecord files how.record = .ok record) (clocked : present clock how.now = .ok now) :
    registry.calculationOrder.Perm registry.names ∧ ∃ width, registry.Widest width ∧
      (width ≤ 65535 → ∃ lines, Lists registry now record width lines ∧
        (run files clock arguments).code = 0 ∧ (run files clock arguments).stdout = ofLines lines ∧
        (run files clock arguments).brokenOff = false) ∧
      (65535 < width → (run files clock arguments).code ≠ 0 ∧ (run files clock arguments).stdout = "" ∧
        (run files clock arguments).brokenOff = true) := by
  have consistent := registry_loaded files how.fields registry fields
  have prints := run_lists files clock now arguments how registry record command listed fields loaded clocked
  refine ⟨Registry.calculation_order_perm registry consistent, _, batch_widest registry consistent now record, ?_, ?_⟩
  · intro fits
    rw [prints, listing_printed _ _ fits]
    exact ⟨_, batch_listed registry consistent now record, rfl, rfl, rfl⟩
  · intro wide
    rw [prints, listing_broken_off _ _ wide]
    exact ⟨by decide, rfl, rfl⟩

def listing : Calculating := { dated with json := false }

def listingArguments : List String := ["calc", "--fields", "fields.json", "-r", "record.json", "--now", "2024-01-01"]

theorem listing_command : Command.ofArguments? listingArguments = some (.calculate listing) := by rfl

theorem listing_present : ∃ now, present ⟨0, 0⟩ listing.now = .ok now := by
  have known : (Instant.ofText? "2024-01-01").isSome = true := by decide +kernel
  obtain ⟨now, clocked⟩ := Option.isSome_iff_exists.mp known
  exact ⟨now, by rw [listing, dated, present, clocked]⟩

def shareFields : String := "\x7b\"Share\": [\"\x7bPrice\x7d / \x7bParts\x7d\"], \"Größe\": [\"LEN(\x7bTitle\x7d)\"], " ++
  "\"É\": [\"\x7bGröße\x7d * 2\"]\x7d"

def sharedPrice : Json := .object [("Price", .integer 3), ("Title", .text "x")]

theorem share_listed :
    ∃ registry record now, loadRegistry (folder shareFields sharedPrice) listing.fields = .ok registry ∧
      loadRecord (folder shareFields sharedPrice) listing.record = .ok record ∧ present ⟨0, 0⟩ listing.now = .ok now ∧
      ∃ lines, Lists registry now record 5 lines ∧
        (run (folder shareFields sharedPrice) ⟨0, 0⟩ listingArguments).code = 0 ∧
        ofLines lines = "Größe  1.00\nShare  #ERROR! (Division by zero)\nÉ      2.00\n" := by
  have names : (Registry.ofText shareFields).toOption.map Registry.names = some ["Größe", "Share", "É"] := by decide +kernel
  have known : (Record.ofWritten sharedPrice).isOk = true := by decide +kernel
  have prints : (run (folder shareFields sharedPrice) ⟨0, 0⟩ listingArguments).stdout =
      "Größe  1.00\nShare  #ERROR! (Division by zero)\nÉ      2.00\n" := by decide +kernel
  have words : sharedPrice.InWords := by simp [sharedPrice, Json.InWords, Json.MembersInWords, Json.IsWord]
  obtain ⟨now, clocked⟩ := listing_present
  obtain ⟨registry, accepted, own⟩ : ∃ registry, Registry.ofText shareFields = .ok registry ∧
      registry.names = ["Größe", "Share", "É"] := by
    cases accepted : Registry.ofText shareFields with
    | error e =>
        rw [accepted] at names
        cases names
    | ok registry =>
        rw [accepted] at names
        exact ⟨registry, rfl, Option.some.inj names⟩
  obtain ⟨record, read⟩ := ok_of_isOk _ known
  have fields := folder_registry shareFields sharedPrice registry accepted
  have loaded := folder_written shareFields sharedPrice words record read
  obtain ⟨_, width, ⟨enough, needed⟩, listed, _⟩ := listing_where_names_fit (folder shareFields sharedPrice) ⟨0, 0⟩
    now listingArguments listing registry record listing_command rfl fields loaded clocked
  obtain rfl : width = 5 := by
    rw [own] at enough needed
    have five : 5 ≤ width := enough "Größe" (by decide)
    have most : ∀ name ∈ ["Größe", "Share", "É"], name.length ≤ 5 := by decide
    rcases needed with none | ⟨name, member, same⟩
    · omega
    · exact Nat.le_antisymm (same ▸ most name member) five
  obtain ⟨lines, lists, succeeds, shown, _⟩ := listed (by decide)
  exact ⟨registry, record, now, fields, loaded, clocked, lines, lists, succeeds, shown.symm.trans prints⟩

def loneSpecs (name : String) (spec : Spec) : Specs := (∅ : Specs).insert name spec

theorem lone_entry (name other : String) (spec own : Spec) (found : (loneSpecs name spec)[other]? = some own) : own = spec := by
  rw [loneSpecs, Std.ExtTreeMap.getElem?_insert] at found
  split at found
  · exact (Option.some.inj found).symm
  · simp at found

theorem lone_registered (name : String) (spec : Spec) (parsed : (parse spec.formula).result.isOk = true)
    (nothing : ∀ read, read ∉ (parse spec.formula).dependencies) :
    ∃ registry, Registry.ofText (loneSpecs name spec).text = .ok registry ∧ name ∈ registry.names := by
  have acceptable : (loneSpecs name spec).Acceptable := by
    constructor
    · intro other own found
      rw [lone_entry name other spec own found]
      exact ok_of_isOk _ parsed
    · intro other way
      obtain ⟨read, ⟨own, found, member, _⟩, _⟩ := Relation.TransGen.head'_iff.mp way
      rw [lone_entry name other spec own found] at member
      exact nothing read member
  obtain ⟨registry, registered⟩ := (Registry.registered_iff_acceptable _ _ (.refl _)).mpr acceptable
  obtain ⟨_, specs⟩ := Registry.registered_specs _ _ (.refl _) registry registered
  refine ⟨registry, ?_, ?_⟩
  · rw [Registry.ofText, Specs.text_read]
    exact registered
  · rw [Registry.names, Std.ExtTreeMap.mem_keys, ← Registry.mem_specs, specs, loneSpecs]
    exact Std.ExtTreeMap.mem_insert_self

def letters (n : Nat) : String := String.ofList (List.replicate n 'a')

theorem letters_length (n : Nat) : (letters n).length = n := by
  rw [letters, String.length_ofList, List.length_replicate]

def wideFields : String := (loneSpecs (letters 65536) ⟨"1", .number, 2⟩).text

-- A name that is wider than a column breaks off the listing of a field and a record that load.
theorem wide_name_breaks_off :
    ∃ registry record now, loadRegistry (folder wideFields (.object [])) listing.fields = .ok registry ∧
      loadRecord (folder wideFields (.object [])) listing.record = .ok record ∧ present ⟨0, 0⟩ listing.now = .ok now ∧
      Command.ofArguments? listingArguments = some (.calculate listing) ∧ listing.json = false ∧
      (run (folder wideFields (.object [])) ⟨0, 0⟩ listingArguments).code ≠ 0 ∧
      (run (folder wideFields (.object [])) ⟨0, 0⟩ listingArguments).stdout = "" ∧
      (run (folder wideFields (.object [])) ⟨0, 0⟩ listingArguments).brokenOff = true := by
  have none : (parse "1").dependencies.isEmpty = true := by decide +kernel
  have nothing : ∀ read, read ∉ (parse "1").dependencies :=
    Std.ExtTreeSet.eq_empty_iff_forall_not_mem.mp (Std.ExtTreeSet.isEmpty_iff.mp none)
  obtain ⟨registry, accepted, member⟩ := lone_registered (letters 65536) ⟨"1", .number, 2⟩ (by decide +kernel) nothing
  obtain ⟨now, clocked⟩ := listing_present
  have known : (Record.ofWritten (.object [])).isOk = true := by decide +kernel
  obtain ⟨record, read⟩ := ok_of_isOk _ known
  have fields := folder_registry wideFields (.object []) registry accepted
  have loaded := folder_written wideFields (.object []) trivial record read
  have prints := run_lists (folder wideFields (.object [])) ⟨0, 0⟩ now listingArguments listing registry record
    listing_command rfl fields loaded clocked
  have consistent := registry_loaded _ _ registry fields
  have widest := batch_widest registry consistent now record
  have wide : Report.maxWidth < (registry.calculateAll record { now := now }).2.width := by
    have enough := widest.enough (letters 65536) member
    rw [letters_length] at enough
    exact enough
  rw [listing_broken_off _ _ wide] at prints
  rw [prints]
  refine ⟨registry, record, now, fields, loaded, clocked, listing_command, rfl, ?_, ?_, ?_⟩
  · decide
  · rfl
  · rfl

end CommandLine

end FormulaField
