import FormulaField.Number.Decimal

/-!
Arguments of a command: options and operands. An option is written `--name`, or `--name=value` and
`--name value` if it takes a value; one with a short name also as `-x`, `-xvalue`, `-x=value` and
`-x value`. Short options without a value run together, and after `--` everything is an operand.
-/

set_option autoImplicit false

namespace FormulaField.CommandLine

inductive Label where
  | verbose
  | fields
  | record
  | format
  | decimals
  | now
  | json
deriving DecidableEq

namespace Label

def long : Label → String
  | .verbose => "verbose"
  | .fields => "fields"
  | .record => "record"
  | .format => "format"
  | .decimals => "decimals"
  | .now => "now"
  | .json => "json"

def short? : Label → Option Char
  | .verbose => some 'v'
  | .record => some 'r'
  | .format => some 'f'
  | .decimals => some 'd'
  | .fields => none
  | .now => none
  | .json => none

def takesValue : Label → Bool
  | .verbose => false
  | .json => false
  | _ => true

def magnitude? (cs : List Char) : Option Nat :=
  if cs ≠ [] ∧ cs.all Number.isDigit then some (Number.naturalOf cs) else none

def decimals? (s : String) : Option UInt32 := do
  let n ← match s.toList with
    | '+' :: cs => magnitude? cs
    | '-' :: cs => (magnitude? cs).filter (· = 0)
    | cs => magnitude? cs
  if n < Number.twoTo 32 then some (UInt32.ofNat n) else none

def accepts (label : Label) (value : String) : Bool :=
  match label with
  | .fields => value ≠ ""
  | .record => value ≠ ""
  | .decimals => (decimals? value).isSome
  | _ => true

end Label

structure Arguments where
  options : List (Label × String) := []
  operands : List String := []

-- An argument that names options: those that are complete, and one whose value follows.
structure Named where
  given : List (Label × String) := []
  waiting : Option Label := none

-- The options of a run of short names. The first that takes a value takes what is left.
def readShort? (labels : List Label) : List Char → Option Named
  | [] => some {}
  | c :: rest => do
      let label ← labels.find? (·.short? = some c)
      if label.takesValue then
        match rest with
        | [] => some { waiting := some label }
        | '=' :: value => some { given := [(label, String.ofList value)] }
        | value => some { given := [(label, String.ofList value)] }
      else
        let named ← readShort? labels rest
        some { named with given := (label, "") :: named.given }

def readLong? (labels : List Label) (cs : List Char) : Option Named := do
  let name := cs.takeWhile (· != '=')
  let label ← labels.find? (·.long.toList = name)
  match cs.drop name.length, label.takesValue with
  | [], true => some { waiting := some label }
  | [], false => some { given := [(label, "")] }
  | _ :: value, true => some { given := [(label, String.ofList value)] }
  | _ :: _, false => none

-- Whether an argument names options: one dash alone and two do not.
def isOption (argument : String) : Bool :=
  match argument.toList with
  | '-' :: rest => rest ≠ [] ∧ rest ≠ ['-']
  | _ => false

def readNamed? (labels : List Label) (argument : String) : Option Named :=
  match argument.toList with
  | '-' :: '-' :: name => readLong? labels name
  | '-' :: names => readShort? labels names
  | _ => none

namespace Arguments

def add? (a : Arguments) (label : Label) (value : String) : Option Arguments :=
  if (a.options.lookup label).isNone ∧ label.accepts value then
    some { a with options := (label, value) :: a.options }
  else none

def addAll? (a : Arguments) : List (Label × String) → Option Arguments
  | [] => some a
  | (label, value) :: rest => do
      let a ← a.add? label value
      a.addAll? rest

-- Reads on from the arguments so far and an option that waits for its value. A value of its own
-- does not look like an option.
def readOn? (labels : List Label) (waiting : Option Label) (a : Arguments) :
    List String → Option Arguments
  | [] => if waiting.isNone then some a else none
  | argument :: rest =>
      match waiting with
      | some label =>
          if argument = "--" ∨ isOption argument then none
          else (a.add? label argument).bind fun a => readOn? labels none a rest
      | none =>
          if argument = "--" then some { a with operands := a.operands ++ rest }
          else if isOption argument then
            (readNamed? labels argument).bind fun named =>
              (a.addAll? named.given).bind fun a => readOn? labels named.waiting a rest
          else readOn? labels none { a with operands := a.operands ++ [argument] } rest

def ofList? (labels : List Label) (arguments : List String) : Option Arguments :=
  readOn? labels none {} arguments

def value? (a : Arguments) (label : Label) : Option String := a.options.lookup label

end Arguments

end FormulaField.CommandLine
