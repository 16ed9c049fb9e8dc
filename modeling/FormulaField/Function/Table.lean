import FormulaField.Function.Arithmetic
import FormulaField.Function.Dates
import FormulaField.Function.Inspection
import FormulaField.Function.Logic
import FormulaField.Function.Texts

set_option autoImplicit false

namespace FormulaField.Function

def all : List Function :=
  Arithmetic.functions ++ Logic.functions ++ Texts.functions ++ Dates.functions ++
    Inspection.functions

def named? (name : String) : Option Function := all.find? (·.name = name)

def sortedNames : List String := (all.map (·.name)).mergeSort (· ≤ ·)

end FormulaField.Function
