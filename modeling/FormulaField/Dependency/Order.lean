import FormulaField.Dependency.Graph

set_option autoImplicit false

namespace FormulaField.DependencyGraph

-- Adds a formula field to those that are done, the latest first, after what it reads. The path
-- holds the fields that wait for it; a field that is on the path is left to its place there.
def finish (g : DependencyGraph) : Nat → List String → List String → String → List String
  | 0, _, done, _ => done
  | depth + 1, path, done, field =>
      if field ∈ done ∨ field ∈ path then done
      else match g.precedents[field]? with
        | none => done
        | some names => field :: names.toList.foldl (finish g depth (field :: path)) done

-- All formula fields in the order of calculation. A path is no longer than there are formula
-- fields.
def calculationOrder (g : DependencyGraph) : List String :=
  (g.precedents.keys.foldl (finish g (g.size + 1) []) []).reverse

end FormulaField.DependencyGraph
