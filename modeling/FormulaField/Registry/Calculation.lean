import FormulaField.Dependency.Order
import FormulaField.Formula.Evaluation
import FormulaField.Provenance
import FormulaField.Registry.Basic

set_option autoImplicit false

namespace FormulaField

open Calendar (Instant)

structure Settings where
  resolver : Option Resolver := none
  view : View := {}
  now : Instant

structure Result where
  outcome : Outcome
  shown : String
  provenance : Provenance

namespace Result

def errorMark : String := "#ERROR!"

def value (r : Result) : Value :=
  match r.outcome with
  | .ok v => v
  | .error _ => .empty

def succeeded (r : Result) : Bool := r.outcome.isOk

def errorText? (r : Result) : Option String :=
  match r.outcome with
  | .ok _ => none
  | .error e => some e.message

end Result

namespace Definition

def outcome (d : Definition) (record : Record) (settings : Settings) : Outcome :=
  evaluate ⟨record, settings.resolver, settings.view, settings.now⟩ d.formula

def display (d : Definition) (outcome : Outcome) : String :=
  match outcome with
  | .ok v => d.spec.format.display d.spec.decimals.toNat v
  | .error _ => Result.errorMark

def calculate (d : Definition) (record : Record) (settings : Settings) : Result :=
  let outcome := d.outcome record settings
  ⟨outcome, d.display outcome, Provenance.describe d.spec.formula d.dependencies⟩

end Definition

structure Report where
  results : List (String × Result) := []
  calculated : Nat := 0
  errors : Nat := 0

namespace Report

def add (r : Report) (name : String) (result : Result) : Report where
  results := r.results ++ [(name, result)]
  calculated := r.calculated + 1
  errors := if result.succeeded then r.errors else r.errors + 1

def isSuccess (r : Report) : Bool := r.errors = 0

def get? (r : Report) (name : String) : Option Result := r.results.lookup name

end Report

def Record.withResult (record : Record) (name : String) (result : Result) : Record :=
  match result.outcome with
  | .ok v => record.insert name (.value v)
  | .error _ => record.erase name

namespace Registry

def calculationOrder (r : Registry) : List String := r.graph.calculationOrder

def calculate (r : Registry) (name : String) (record : Record) (settings : Settings) :
    Except RegistryError Result :=
  match r.fields[name]? with
  | some definition => .ok (definition.calculate record settings)
  | none => .error (.unknownField name)

-- One step of a batch: calculates a field against the record as it stands, puts the result into
-- the record and reports it. A name that is no field is passed over.
def calculateNext (r : Registry) (settings : Settings) (batch : Record × Report) (name : String) :
    Record × Report :=
  match r.fields[name]? with
  | none => batch
  | some definition =>
      let result := definition.calculate batch.1 settings
      (batch.1.withResult name result, batch.2.add name result)

def calculateList (r : Registry) (settings : Settings) (names : List String) (record : Record) :
    Record × Report :=
  names.foldl (r.calculateNext settings) (record, {})

def calculateAll (r : Registry) (record : Record) (settings : Settings) : Record × Report :=
  r.calculateList settings r.calculationOrder record

end Registry

end FormulaField
