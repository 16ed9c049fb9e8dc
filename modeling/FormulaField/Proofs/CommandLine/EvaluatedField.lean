import FormulaField.CommandLine.Run
import FormulaField.Proofs.Number.Text
import FormulaField.Proofs.Registry.Invariant

set_option autoImplicit false

namespace FormulaField.CommandLine

open Calendar (Instant)

def evaluationFailure (message : String) : Failure := ⟨"Failed to evaluate formula", [message]⟩

theorem indented_character (margin : Nat) (c : Char) :
    (if c = '\n' then '\n' :: List.replicate margin ' ' else [c]) =
      c :: if c = '\n' then List.replicate margin ' ' else [] := by
  split
  next same => rw [same]
  next => rfl

theorem indented_injective (margin : Nat) (s t : String) (same : indented margin s = indented margin t) : s = t := by
  have chars := String.ofList_injective same
  simp only [indented_character] at chars
  apply String.toList_inj.mp
  generalize s.toList = cs at chars
  generalize t.toList = ds at chars
  induction cs generalizing ds with
  | nil =>
      cases ds with
      | nil => rfl
      | cons d ds => simp at chars
  | cons c cs ih =>
      cases ds with
      | nil => simp at chars
      | cons d ds =>
          rw [List.flatMap_cons, List.flatMap_cons, List.cons_append, List.cons_append, List.cons.injEq] at chars
          obtain ⟨rfl, rest⟩ := chars
          rw [ih ds (List.append_cancel_left rest)]

theorem failure_text_injective (message other : String)
    (same : (evaluationFailure message).text = (evaluationFailure other).text) : message = other := by
  have chars := congrArg String.toList same
  simp only [Failure.text, Failure.causesText, evaluationFailure, String.toList_append] at chars
  have cause := List.append_cancel_left (List.append_cancel_left (List.append_cancel_right chars))
  exact indented_injective 4 message other (String.toList_inj.mp cause)

theorem parse_failure_text (message : String) (causes : List String) :
    (evaluationFailure message).text ≠ Failure.text ⟨"Failed to parse formula", causes⟩ := by
  intro same
  have chars := congrArg (fun s => s.toList.take 20) same
  simp only [Failure.text, evaluationFailure, String.append_assoc, String.toList_append] at chars
  simp at chars

theorem record_stored (files : Files) (path document : String) (record : Record) (stored : files path = .ok document)
    (read : Record.ofText document = .ok record) : loadRecord files path = .ok record := by
  simp only [loadRecord, stored, read]

theorem field_evaluated (r : Registry) (consistent : r.Consistent) (name : String) (definition : Definition)
    (found : r.fields[name]? = some definition) (files : Files) (clock now : Instant) (how : Evaluating) (record : Record)
    (format : DisplayFormat.ofText how.format = .ok definition.spec.format)
    (decimals : how.decimals = definition.spec.decimals) (loaded : optionalRecord files how.record = .ok record)
    (clocked : present clock how.now = .ok now) :
    eval files clock definition.spec.formula how =
      match definition.outcome record { now := now } with
      | .ok v => .ok (definition.display (.ok v))
      | .error e => .error (evaluationFailure e.message) := by
  have parsed : parsedFormula definition.spec.formula = .ok definition.formula := by
    rw [parsedFormula, consistent.parsed name definition found]
    rfl
  have formatted : namedFormat how.format = .ok definition.spec.format := by
    rw [namedFormat, format]
    rfl
  simp only [eval, formatted, loaded, parsed, clocked, decimals]
  rfl

theorem printed_line (s t : String) : ({ stdout := s ++ "\n" } : Output) = { stdout := t ++ "\n" } ↔ s = t := by
  simp [String.append_left_inj]

-- What is asked of a field and what is asked of its formula, by any arguments that name the formula, the format and the
-- decimals of the field and a file with the record.
theorem field_printed (edits : List Edit) (name : String) (definition : Definition)
    (found : (Registry.ofEdits edits).get? name = some definition) (files : Files) (clock now : Instant)
    (arguments : List String) (how : Evaluating) (path document : String) (record : Record)
    (command : Command.ofArguments? arguments = some (.eval definition.spec.formula how))
    (format : DisplayFormat.ofText how.format = .ok definition.spec.format)
    (decimals : how.decimals = definition.spec.decimals) (given : how.record = some path)
    (stored : files path = .ok document) (read : Record.ofText document = .ok record)
    (clocked : present clock how.now = .ok now) :
    ∃ result, (Registry.ofEdits edits).calculate name record { now := now } = .ok result ∧
      (∀ shown, result.succeeded = true ∧ result.shown = shown ↔
        run files clock arguments = { stdout := shown ++ "\n" }) ∧
      (∀ message, result.errorText? = some message ↔
        run files clock arguments = .ofExcept (.error (evaluationFailure message))) ∧
      ∀ causes, run files clock arguments ≠ .ofExcept (.error ⟨"Failed to parse formula", causes⟩) := by
  have consistent := Registry.of_edits_consistent edits
  have loaded : optionalRecord files how.record = .ok record := by
    rw [given]
    exact record_stored files path document record stored read
  have evaluated := field_evaluated _ consistent name definition found files clock now how record format decimals loaded
    clocked
  have prints : run files clock arguments = .ofExcept
      ((eval files clock definition.spec.formula how).map fun shown => { stdout := shown ++ "\n" }) := by
    rw [run, command]
    rfl
  have calculated : (Registry.ofEdits edits).calculate name record { now := now } =
      .ok (definition.calculate record { now := now }) := by
    rw [Registry.get?] at found
    simp only [Registry.calculate, found]
  refine ⟨_, calculated, ?_⟩
  rw [prints, evaluated]
  cases outcome : definition.outcome record { now := now } with
  | ok v =>
      simp only [Definition.calculate, outcome, Output.ofExcept, Except.map, Result.succeeded, Result.errorText?]
      refine ⟨fun shown => ?_, fun message => ?_, fun causes => ?_⟩
      · rw [printed_line]
        exact ⟨fun both => both.2, fun same => ⟨rfl, same⟩⟩
      · simp
      · simp
  | error e =>
      simp only [Definition.calculate, outcome, Output.ofExcept, Except.map, Result.succeeded, Result.errorText?]
      refine ⟨fun shown => ?_, fun message => ?_, fun causes => ?_⟩
      · simp [Except.isOk, Except.toBool]
      · simp only [Output.mk.injEq, true_and, and_true, Option.some.injEq]
        exact ⟨fun same => by rw [same], failure_text_injective e.message message⟩
      · simp only [ne_eq, Output.mk.injEq, true_and, and_true]
        exact parse_failure_text e.message causes

def longOption (label : Label) (value : String) : String := "--" ++ label.long ++ "=" ++ value

theorem long_option_characters (label : Label) (value : String) :
    (longOption label value).toList = '-' :: '-' :: (label.long.toList ++ '=' :: value.toList) := by
  simp [longOption, String.toList_append]

theorem long_name_plain (label : Label) : ∀ c ∈ label.long.toList, (c != '=') = true := by
  cases label <;> simp [Label.long]

theorem long_option_read (labels : List Label) (label : Label) (value : String)
    (known : labels.find? (·.long.toList = label.long.toList) = some label) (takes : label.takesValue = true) :
    readNamed? labels (longOption label value) = some { given := [(label, value)] } := by
  have name : (label.long.toList ++ '=' :: value.toList).takeWhile (· != '=') = label.long.toList := by
    rw [List.takeWhile_append_of_pos (long_name_plain label)]
    simp
  simp only [readNamed?, long_option_characters, readLong?, name, known, Option.bind_eq_bind, Option.bind_some,
    List.drop_left]
  rw [takes]
  simp

section

variable (labels : List Label) (label : Label) (value : String) (rest : List String) (a : Arguments)
  (known : labels.find? (·.long.toList = label.long.toList) = some label) (takes : label.takesValue = true)
  (fresh : (a.options.lookup label).isNone = true) (accepted : label.accepts value = true)

include known takes fresh accepted

theorem read_long_option :
    Arguments.readOn? labels none a (longOption label value :: rest) =
      Arguments.readOn? labels none { a with options := (label, value) :: a.options } rest := by
  have apart : longOption label value ≠ "--" := by
    intro same
    have length := congrArg (fun s => s.toList.length) same
    simp [long_option_characters] at length
  have option : isOption (longOption label value) = true := by
    simp [isOption, long_option_characters]
  have added : a.addAll? [(label, value)] = some { a with options := (label, value) :: a.options } := by
    simp only [Arguments.addAll?, Arguments.add?, fresh, accepted, and_self, if_true]
    rfl
  rw [Arguments.readOn?, if_neg apart, if_pos option, long_option_read labels label value known takes]
  simp only [Option.bind_some, added]

end

def asking (formula path : String) (format : DisplayFormat) (decimals : UInt32) (now : String) : List String := [
  "eval", longOption .record path, longOption .format format.name,
  longOption .decimals (String.ofList (Number.digits decimals.toNat)), longOption .now now, "--", formula]

theorem decimals_accepted (decimals : UInt32) :
    Label.decimals? (String.ofList (Number.digits decimals.toNat)) = some decimals := by
  have all := Number.digits_are_digits decimals.toNat
  have bound : decimals.toNat < Number.twoTo 32 := decimals.toNat_lt
  have magnitude : Label.magnitude? (Number.digits decimals.toNat) = some decimals.toNat := by
    rw [Label.magnitude?, if_pos ⟨Nat.toDigits_ne_nil, List.all_eq_true.mpr all⟩, Number.digits_read]
  rw [Label.decimals?, String.toList_ofList]
  split
  next cs signed => exact absurd (all '+' (by simp [signed])) (by decide)
  next cs signed => exact absurd (all '-' (by simp [signed])) (by decide)
  next => simp only [magnitude, Option.bind_eq_bind, Option.bind_some, if_pos bound, UInt32.ofNat_toNat]

theorem asking_command (formula path : String) (format : DisplayFormat) (decimals : UInt32) (now : String)
    (named : path ≠ "") :
    Command.ofArguments? (asking formula path format decimals now) = some (.eval formula
      { record := some path, format := format.name, decimals := decimals, now := some now }) := by
  have listed : Arguments.ofList? [.verbose, .record, .format, .decimals, .now]
      (asking formula path format decimals now).tail = some ⟨[(.now, now),
        (.decimals, String.ofList (Number.digits decimals.toNat)), (.format, format.name), (.record, path)],
        [formula]⟩ := by
    rw [Arguments.ofList?, asking, List.tail_cons,
      read_long_option _ .record path _ _ rfl rfl rfl (by simpa [Label.accepts] using named),
      read_long_option _ .format _ _ _ rfl rfl rfl rfl,
      read_long_option _ .decimals _ _ _ rfl rfl rfl (by rw [Label.accepts, decimals_accepted]; rfl),
      read_long_option _ .now _ _ _ rfl rfl rfl rfl]
    simp [Arguments.readOn?]
  have evaluating : Command.ofArguments? (asking formula path format decimals now) =
      Command.readEval? (asking formula path format decimals now).tail := rfl
  have read : ((some (String.ofList (Number.digits decimals.toNat))).bind Label.decimals?).getD 2 = decimals := by
    rw [Option.bind_some, decimals_accepted, Option.getD_some]
  rw [evaluating, Command.readEval?, listed]
  exact congrArg (fun d => some (Command.eval formula ⟨some path, format.name, d, some now⟩)) read

def debt : Spec := ⟨"-\x7bPrice\x7d", .currency, 2⟩

def debtEdits : List Edit := [.register "Debt" debt]

def priceDocument : String := "\x7b\"Price\": 9\x7d"

def priceFile : Files := fun path =>
  if path = "record.json" then .ok priceDocument else .error "No such file or directory (os error 2)"

def debtArguments : List String := asking debt.formula "record.json" debt.format debt.decimals "2024-01-01"

-- The formula starts with a dash, as options do.
theorem debt_printed :
    ∃ definition record now, (Registry.ofEdits debtEdits).get? "Debt" = some definition ∧
      Record.ofText priceDocument = .ok record ∧ Instant.ofText? "2024-01-01" = some now ∧
      ∃ result, (Registry.ofEdits debtEdits).calculate "Debt" record { now := now } = .ok result ∧
        result.succeeded = true ∧ result.shown = "-$9.00" ∧
        run priceFile ⟨0, 0⟩ debtArguments = { stdout := "-$9.00" ++ "\n" } := by
  have spec : ((Registry.ofEdits debtEdits).get? "Debt").map (·.spec) = some debt := by decide +kernel
  obtain ⟨⟨_, formula, names⟩, found, rfl⟩ := Option.map_eq_some_iff.mp spec
  have loads : (Record.ofText priceDocument).isOk = true := by decide +kernel
  have dated : (Instant.ofText? "2024-01-01").isSome = true := by decide +kernel
  obtain ⟨record, read⟩ := ok_of_isOk _ loads
  obtain ⟨now, clocked⟩ := Option.isSome_iff_exists.mp dated
  have command := asking_command debt.formula "record.json" debt.format debt.decimals "2024-01-01" (by decide)
  have format : DisplayFormat.ofText debt.format.name = .ok debt.format := by rfl
  have pinned : present ⟨0, 0⟩ (some "2024-01-01") = .ok now := by rw [present, clocked]
  have prints : run priceFile ⟨0, 0⟩ debtArguments = { stdout := "-$9.00" ++ "\n" } := by decide +kernel
  obtain ⟨result, calculated, shows, _⟩ := field_printed debtEdits "Debt" _ found priceFile ⟨0, 0⟩ now debtArguments
    _ "record.json" priceDocument record command format rfl rfl rfl read pinned
  obtain ⟨succeeds, shown⟩ := (shows "-$9.00").mpr prints
  exact ⟨_, record, now, found, read, clocked, result, calculated, succeeds, shown, prints⟩

end FormulaField.CommandLine
