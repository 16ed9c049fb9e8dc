import FormulaField.Dependency.Cycle
import FormulaField.Formula.Parser
import FormulaField.Registry.Spec

set_option autoImplicit false

namespace FormulaField

structure Definition where
  spec : Spec
  formula : Formula
  dependencies : Names

structure Registry where
  fields : Std.ExtTreeMap String Definition := ∅
  graph : DependencyGraph := ∅

inductive RegistryError where
  | invalidFormula (field : String) (cause : ParseError)
  | circularDependency (field : String) (cycle : List String)
  | unknownField (name : String)
  | badDocument
deriving DecidableEq

namespace RegistryError

def message : RegistryError → String
  | .invalidFormula field cause =>
      "Invalid formula for field '" ++ field ++ "': " ++ cause.message
  | .circularDependency _ cycle =>
      "Circular dependency detected: " ++ " -> ".intercalate cycle
  | .unknownField name => "Unknown formula field: " ++ name
  | .badDocument => "JSON error: no specifications"

def causes (e : RegistryError) : List String :=
  e.message :: match e with
    | .invalidFormula _ cause => [cause.message]
    | .circularDependency _ _ => []
    | .unknownField _ => []
    | .badDocument => ["no specifications"]

end RegistryError

namespace Registry

instance : EmptyCollection Registry := ⟨{}⟩

instance : Inhabited Registry := ⟨∅⟩

end Registry

-- An update in place. What it has written to the registry stays there if it fails afterwards.
abbrev Update := EStateM RegistryError Registry

namespace Update

def register (name : String) (spec : Spec) : Update Unit := do
  let parsed := parse spec.formula
  match parsed.result with
  | .error cause => throw (.invalidFormula name cause)
  | .ok formula =>
      match (← get).graph.cycle? name parsed.dependencies with
      | some cycle => throw (.circularDependency name cycle)
      | none =>
          modify fun r => { r with graph := r.graph.insert name parsed.dependencies }
          modify fun r => { r with fields := r.fields.insert name ⟨spec, formula, parsed.dependencies⟩ }

-- Says whether there was such a field. Formulas that read it read a plain field from then on.
def unregister (name : String) : Update Bool := do
  let registered := (← get).fields.contains name
  modify fun r => { r with fields := r.fields.erase name }
  if registered then
    modify fun r => { r with graph := r.graph.erase name }
  return registered

-- The new registry is made aside, and takes the place of the old one when it is complete.
def replace : Except RegistryError Registry → Update Unit
  | .ok made => set made
  | .error e => throw e

def outcome {α : Type} (u : Update α) (r : Registry) : Except RegistryError Registry :=
  match u.run r with
  | .ok _ left => .ok left
  | .error e _ => .error e

-- The registry that is there after the update, whether it has failed or not.
def left {α : Type} (u : Update α) (r : Registry) : Registry :=
  match u.run r with
  | .ok _ left => left
  | .error _ left => left

end Update

namespace Registry

def register (r : Registry) (name : String) (spec : Spec) : Except RegistryError Registry :=
  (Update.register name spec).outcome r

def unregister (r : Registry) (name : String) : Registry := (Update.unregister name).left r

def get? (r : Registry) (name : String) : Option Definition := r.fields[name]?

def contains (r : Registry) (name : String) : Bool := r.fields.contains name

def size (r : Registry) : Nat := r.fields.size

def names (r : Registry) : List String := r.fields.keys

def dependentsOf (r : Registry) (name : String) : List String := r.graph.dependentsOf name

def specs (r : Registry) : Specs := r.fields.map fun _ definition => definition.spec

def registerAll (r : Registry) : List (String × Spec) → Except RegistryError Registry
  | [] => .ok r
  | (name, spec) :: rest => do
      let r ← r.register name spec
      r.registerAll rest

def ofSpecs (specs : Specs) : Except RegistryError Registry := registerAll ∅ specs.toList

def ofText (s : String) : Except RegistryError Registry :=
  match Specs.ofText? s with
  | some specs => ofSpecs specs
  | none => .error .badDocument

def text (r : Registry) : String := r.specs.text

end Registry

inductive Edit where
  | register (name : String) (spec : Spec)
  | unregister (name : String)
  | replace (specs : Specs)
  | replaceByText (document : String)

def Edit.update : Edit → Update Unit
  | .register name spec => Update.register name spec
  | .unregister name => do
      let _ ← Update.unregister name
  | .replace specs => Update.replace (Registry.ofSpecs specs)
  | .replaceByText document => Update.replace (Registry.ofText document)

namespace Registry

def edit (r : Registry) (e : Edit) : Except RegistryError Registry := e.update.outcome r

def after (r : Registry) (e : Edit) : Registry := e.update.left r

end Registry

end FormulaField
