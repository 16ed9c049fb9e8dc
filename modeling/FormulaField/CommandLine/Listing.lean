import FormulaField.Function.Table
import FormulaField.Registry.Calculation

set_option autoImplicit false

namespace FormulaField

def padded (width : Nat) (s : String) : String :=
  s ++ String.ofList (List.replicate (width - s.length) ' ')

def ofLines (lines : List String) : String := String.join (lines.map (· ++ "\n"))

def commaSeparated (names : List String) : String := ", ".intercalate names

def Result.line (width : Nat) (name : String) (r : Result) : String :=
  padded width name ++ "  " ++ r.shown ++
    match r.errorText? with
    | none => ""
    | some e => " (" ++ e ++ ")"

namespace Report

def maxWidth : Nat := 65535

def width (r : Report) : Nat := r.results.foldl (fun most entry => max most entry.1.length) 0

-- The listing of the results. There is none if a name does not fit its column.
def listing? (r : Report) : Option String :=
  if r.width ≤ maxWidth then
    some (ofLines (r.results.map fun entry => entry.2.line r.width entry.1))
  else none

def summary (r : Report) : String :=
  "Calculated " ++ toString r.calculated ++ " fields (" ++ toString r.errors ++ " errors)\n"

end Report

namespace Registry

def orderLines (r : Registry) : List String :=
  r.calculationOrder.zipIdx.map fun entry => "  " ++ toString (entry.2 + 1) ++ ". " ++ entry.1

def fieldLines (r : Registry) (name : String) (d : Definition) : List String :=
  ["  " ++ name ++ " = " ++ d.spec.formula,
    "    reads: " ++ commaSeparated d.dependencies.toList] ++
    match r.dependentsOf name with
    | [] => []
    | readers => ["    read by: " ++ commaSeparated readers]

def listing (r : Registry) : String :=
  ofLines (["Calculation order:"] ++ r.orderLines ++ ["", "Fields:"] ++
    r.fields.toList.flatMap fun entry => r.fieldLines entry.1 entry.2)

end Registry

def Signature.countText (s : Signature) : String :=
  match s.most? with
  | none => toString s.least ++ "+"
  | some most =>
      if most = s.least then toString most else toString s.least ++ "-" ++ toString most

namespace Function

def line (f : Function) : String :=
  padded 12 f.name ++ " " ++ padded 8 f.signature.countText ++ " " ++ f.category.name

def listing : String := ofLines ((sortedNames.filterMap named?).map line)

end Function

end FormulaField
