import FormulaField.CommandLine.Command
import FormulaField.CommandLine.Failure
import FormulaField.CommandLine.Listing
import FormulaField.Formula.Printer
import FormulaField.Record.Json

set_option autoImplicit false

namespace FormulaField.CommandLine

open Calendar (Instant)

-- What a run prints. The log is left out: it goes to stderr as well, with a warning for every field that fails, and
-- with more if the option for it is given. Where a run is broken off, stderr has the report of the runtime on the
-- process, which is no text of the program.
structure Output where
  code : Nat := 0
  stdout : String := ""
  stderr : String := ""
  brokenOff : Bool := false
deriving DecidableEq

abbrev Files := String → Except String String

def loadRecord (files : Files) (path : String) : Except Failure Record :=
  match files path with
  | .error reason => .error ⟨"Failed to read '" ++ path ++ "'", [reason]⟩
  | .ok s => match Record.ofText s with
      | .error e => .error ⟨"Invalid record in '" ++ path ++ "'", e.causes⟩
      | .ok record => .ok record

def loadRegistry (files : Files) (path : String) : Except Failure Registry :=
  let message := "Failed to load formula fields from '" ++ path ++ "'"
  match files path with
  | .error reason => .error ⟨message, ["I/O error: " ++ reason, reason]⟩
  | .ok s => match Registry.ofText s with
      | .error e => .error ⟨message, e.causes⟩
      | .ok registry => .ok registry

def present (clock : Instant) : Option String → Except Failure Instant
  | none => .ok clock
  | some s => match Instant.ofText? s with
      | some i => .ok i
      | none => .error
          { message := "Invalid --now value '" ++ s ++ "': expected a date or RFC 3339 time" }

def dependenciesText (names : Names) : String :=
  if names.isEmpty then "" else "Dependencies: " ++ commaSeparated names.toList ++ "\n"

def check (formula : String) : Output :=
  let parsed := parse formula
  match parsed.result with
  | .ok f => { stdout := "Valid formula\nParsed as: " ++ f.text ++ "\n" ++
      dependenciesText parsed.dependencies }
  | .error e => {
      code := 1
      stdout := "Invalid formula: " ++ e.message ++ "\n" ++ dependenciesText parsed.dependencies }

def namedFormat (name : String) : Except Failure DisplayFormat :=
  (DisplayFormat.ofText name).mapError fun e => { message := e.message }

def optionalRecord (files : Files) : Option String → Except Failure Record
  | none => .ok ∅
  | some path => loadRecord files path

def parsedFormula (formula : String) : Except Failure Formula :=
  (parse formula).result.mapError fun e => ⟨"Failed to parse formula", [e.message]⟩

def eval (files : Files) (clock : Instant) (formula : String) (how : Evaluating) :
    Except Failure String := do
  let format ← namedFormat how.format
  let record ← optionalRecord files how.record
  let f ← parsedFormula formula
  let now ← present clock how.now
  match evaluate ⟨record, none, {}, now⟩ f with
  | .ok v => return format.display how.decimals.toNat v
  | .error e => throw ⟨"Failed to evaluate formula", [e.message]⟩

def batch (files : Files) (clock : Instant) (how : Calculating) :
    Except Failure (Record × Report) := do
  let registry ← loadRegistry files how.fields
  let record ← loadRecord files how.record
  let now ← present clock how.now
  return registry.calculateAll record { now := now }

-- The first line of the listing is too wide to be laid out, so nothing has been printed.
def aborted : Output := { code := 101, brokenOff := true }

def printBatch (json : Bool) (record : Record) (report : Report) : Output :=
  if json then { stdout := record.toJson.pretty ++ "\n", stderr := report.summary }
  else match report.listing? with
    | some listing => { stdout := listing, stderr := report.summary }
    | none => aborted

def calculate (files : Files) (clock : Instant) (how : Calculating) : Except Failure Output := do
  let (record, report) ← batch files clock how
  return printBatch how.json record report

def deps (files : Files) (path : String) : Except Failure String := do
  return (← loadRegistry files path).listing

def Output.ofExcept : Except Failure Output → Output
  | .ok output => output
  | .error f => { code := 1, stderr := f.text }

def perform (files : Files) (clock : Instant) : Command → Output
  | .check formula => check formula
  | .eval formula how =>
      .ofExcept ((eval files clock formula how).map fun shown => { stdout := shown ++ "\n" })
  | .calculate how => .ofExcept (calculate files clock how)
  | .deps path => .ofExcept ((deps files path).map fun listing => { stdout := listing })
  | .functions => { stdout := Function.listing }

def usageCode : Nat := 2

def usage : String := ofLines [
  "Usage: formula-field [-v] COMMAND",
  "  check FORMULA",
  "  eval FORMULA [-r RECORD] [-f FORMAT] [-d DECIMALS] [--now INSTANT]",
  "  calc --fields FIELDS -r RECORD [--json] [--now INSTANT]",
  "  deps --fields FIELDS",
  "  functions"]

-- A request for help is taken for a misuse: it gets the usage on stderr and the code of one.
def run (files : Files) (clock : Instant) (arguments : List String) : Output :=
  match Command.ofArguments? arguments with
  | some command => perform files clock command
  | none => { code := usageCode, stderr := usage }

end FormulaField.CommandLine
