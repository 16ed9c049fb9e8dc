import FormulaField.Formula.Basic
import FormulaField.Json.Basic
import FormulaField.Text.Words

/-!
Where a derived value comes from. The definition is the formula with white space collapsed.
-/

set_option autoImplicit false

namespace FormulaField

structure Provenance where
  definition : String
  formula : String
  dependencies : List String
deriving DecidableEq

namespace Provenance

def method : String := "derived"

def system : String := "formula"

def agent : String := "system"

def describe (formula : String) (dependencies : Names) : Provenance :=
  ⟨String.ofList (Text.collapse formula.toList), formula, dependencies.toList⟩

def toJson (p : Provenance) : Json :=
  .object [
    ("method", .text method),
    ("definition", .text p.definition),
    ("source", .object [
      ("system", .text system),
      ("formula", .text p.formula),
      ("dependencies", .array (p.dependencies.map .text))]),
    ("agent", .object [("type", .text agent)])]

def ofJson? (j : Json) : Option Provenance := do
  let definition ← (← j.member? "definition").text?
  let source ← j.member? "source"
  let formula ← (← source.member? "formula").text?
  match ← source.member? "dependencies" with
  | .array items => do
      let dependencies ← items.mapM Json.text?
      if ((j.member? "method").bind Json.text?) = some method ∧
          ((source.member? "system").bind Json.text?) = some system ∧
          (((j.member? "agent").bind (Json.member? "type")).bind Json.text?) = some agent then
        return ⟨definition, formula, dependencies⟩
      else none
  | _ => none

end Provenance

end FormulaField
