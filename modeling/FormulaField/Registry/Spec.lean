import FormulaField.DisplayFormat
import FormulaField.Json.Reader
import FormulaField.Json.Writer

/-!
Specifications of formula fields, and the documents that hold them by name. A specification is
an object, or an array of its members in a fixed order.
-/

set_option autoImplicit false

namespace FormulaField

structure Spec where
  formula : String
  format : DisplayFormat := .number
  decimals : UInt32 := 2
deriving DecidableEq

abbrev Specs := Std.ExtTreeMap String Spec

namespace Spec

def toJson (spec : Spec) : Json :=
  .object [
    ("formula", .text spec.formula),
    ("displayFormat", .text spec.format.name),
    ("decimals", .integer spec.decimals.toNat)]

open Json (Draft)

def readFormula? : Draft → Option String
  | .text s => s
  | _ => none

-- A display format is written as its name, or as an object with its name and null.
def readFormat? : Draft → Option DisplayFormat
  | .text (some s) => DisplayFormat.named? s
  | .object [(some s, .null)] => DisplayFormat.named? s
  | _ => none

def readDecimals? : Draft → Option UInt32
  | .integer i => if 0 ≤ i ∧ i < Number.twoTo 32 then some (UInt32.ofNat i.toNat) else none
  | _ => none

structure Members where
  formula : Option String := none
  format : Option DisplayFormat := none
  decimals : Option UInt32 := none

namespace Members

def spec? (m : Members) : Option Spec :=
  m.formula.map fun formula => ⟨formula, m.format.getD .number, m.decimals.getD 2⟩

-- Adds a member. A known name may come only once, and unknown ones are passed over.
def add? (m : Members) (name : String) (item : Draft) : Option Members :=
  if name = "formula" then
    if m.formula.isSome then none
    else (readFormula? item).map fun formula => { m with formula := some formula }
  else if name = "displayFormat" then
    if m.format.isSome then none
    else (readFormat? item).map fun format => { m with format := some format }
  else if name = "decimals" then
    if m.decimals.isSome then none
    else (readDecimals? item).map fun decimals => { m with decimals := some decimals }
  else some m

def addAll? (m : Members) : List (Option String × Draft) → Option Members
  | [] => some m
  | (name, item) :: rest => do
      let name ← name
      let m ← m.add? name item
      m.addAll? rest

end Members

def ofDraft? : Draft → Option Spec
  | .object members => do
      let m ← Members.addAll? {} members
      m.spec?
  | .array [formula] => do
      return { formula := ← readFormula? formula }
  | .array [formula, format] => do
      return { formula := ← readFormula? formula, format := ← readFormat? format }
  | .array [formula, format, decimals] => do
      return ⟨← readFormula? formula, ← readFormat? format, ← readDecimals? decimals⟩
  | _ => none

end Spec

namespace Specs

open Json (Draft)

def addAll? (specs : Specs) : List (Option String × Draft) → Option Specs
  | [] => some specs
  | (name, item) :: rest => do
      let name ← name
      let spec ← Spec.ofDraft? item
      addAll? (specs.insert name spec) rest

def ofDraft? : Draft → Option Specs
  | .object members => addAll? ∅ members
  | _ => none

def ofJson? (j : Json) : Option Specs := ofDraft? j.draft

def ofText? (s : String) : Option Specs := (Draft.ofText? s).bind ofDraft?

def toJson (specs : Specs) : Json :=
  .object (specs.toList.map fun entry => (entry.1, entry.2.toJson))

def text (specs : Specs) : String := specs.toJson.pretty

end Specs

end FormulaField
