import FormulaField.CommandLine.Arguments

/-!
Commands, as the arguments of the program name them. The name of a command comes first, but for
options that all commands take.
-/

set_option autoImplicit false

namespace FormulaField.CommandLine

structure Evaluating where
  record : Option String := none
  format : String := "text"
  decimals : UInt32 := 2
  now : Option String := none

structure Calculating where
  fields : String
  record : String
  json : Bool := false
  now : Option String := none

inductive Command where
  | check (formula : String)
  | eval (formula : String) (how : Evaluating)
  | calculate (how : Calculating)
  | deps (fields : String)
  | functions

namespace Command

def readCheck? (arguments : List String) : Option Command := do
  let a ← Arguments.ofList? [.verbose] arguments
  match a.operands with
  | [formula] => some (.check formula)
  | _ => none

def readEval? (arguments : List String) : Option Command := do
  let a ← Arguments.ofList? [.verbose, .record, .format, .decimals, .now] arguments
  match a.operands with
  | [formula] => some (.eval formula {
      record := a.value? .record
      format := (a.value? .format).getD "text"
      decimals := ((a.value? .decimals).bind Label.decimals?).getD 2
      now := a.value? .now })
  | _ => none

def readCalculate? (arguments : List String) : Option Command := do
  let a ← Arguments.ofList? [.verbose, .fields, .record, .json, .now] arguments
  match a.operands with
  | [] => some (.calculate {
      fields := ← a.value? .fields
      record := ← a.value? .record
      json := (a.value? .json).isSome
      now := a.value? .now })
  | _ => none

def readDeps? (arguments : List String) : Option Command := do
  let a ← Arguments.ofList? [.verbose, .fields] arguments
  match a.operands with
  | [] => some (.deps (← a.value? .fields))
  | _ => none

def readFunctions? (arguments : List String) : Option Command := do
  let a ← Arguments.ofList? [.verbose] arguments
  match a.operands with
  | [] => some .functions
  | _ => none

def named? (name : String) (arguments : List String) : Option Command :=
  match name with
  | "check" => readCheck? arguments
  | "eval" => readEval? arguments
  | "calc" => readCalculate? arguments
  | "deps" => readDeps? arguments
  | "functions" => readFunctions? arguments
  | _ => none

def ofArguments? (arguments : List String) : Option Command := do
  let _ ← Arguments.ofList? [.verbose] (arguments.takeWhile isOption)
  match arguments.dropWhile isOption with
  | [] => none
  | name :: rest => named? name rest

def files : Command → List String
  | .check _ => []
  | .eval _ how => how.record.toList
  | .calculate how => [how.fields, how.record]
  | .deps fields => [fields]
  | .functions => []

end Command

end FormulaField.CommandLine
