import FormulaField.Formula.Basic
import Std.Data.ExtTreeMap

/-!
Which fields the formula fields read. Only formula fields have precedents; any other name that a
formula reads is a plain field. The same edges are kept by reader and by what is read.
-/

set_option autoImplicit false

namespace FormulaField

structure DependencyGraph where
  precedents : Std.ExtTreeMap String Names := ∅
  dependents : Std.ExtTreeMap String Names := ∅

namespace DependencyGraph

instance : EmptyCollection DependencyGraph := ⟨{}⟩

instance : Inhabited DependencyGraph := ⟨∅⟩

def addReader (reader : String) (dependents : Std.ExtTreeMap String Names) (name : String) :
    Std.ExtTreeMap String Names :=
  dependents.alter name fun readers => some ((readers.getD ∅).insert reader)

def dropReader (reader : String) (dependents : Std.ExtTreeMap String Names) (name : String) :
    Std.ExtTreeMap String Names :=
  dependents.alter name fun readers => match readers with
    | none => none
    | some readers =>
        if (readers.erase reader).isEmpty then none else some (readers.erase reader)

-- Forgets that a field is a formula field. Formulas that read it go on reading it.
def erase (g : DependencyGraph) (field : String) : DependencyGraph :=
  match g.precedents[field]? with
  | none => g
  | some names =>
      ⟨g.precedents.erase field, names.toList.foldl (dropReader field) g.dependents⟩

def insert (g : DependencyGraph) (field : String) (names : Names) : DependencyGraph :=
  let rest := g.erase field
  ⟨rest.precedents.insert field names, names.toList.foldl (addReader field) rest.dependents⟩

def contains (g : DependencyGraph) (field : String) : Bool := g.precedents.contains field

def precedents? (g : DependencyGraph) (field : String) : Option Names := g.precedents[field]?

def dependentsOf (g : DependencyGraph) (name : String) : List String :=
  match g.dependents[name]? with
  | some readers => readers.toList
  | none => []

def size (g : DependencyGraph) : Nat := g.precedents.size

def isEmpty (g : DependencyGraph) : Bool := g.precedents.isEmpty

end DependencyGraph

end FormulaField
