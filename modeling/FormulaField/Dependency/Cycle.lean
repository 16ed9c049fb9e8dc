import FormulaField.Dependency.Graph

set_option autoImplicit false

namespace FormulaField.DependencyGraph

abbrev Search := List String → Names → Option (List String) × Names

-- Searches the names in order, each formula field that is new with the deeper search. The search
-- ends at the target or when no name is left.
def firstWay (g : DependencyGraph) (target : String) (deeper : Search) : Search
  | [], visited => (none, visited)
  | name :: rest, visited =>
      if name = target then (some [name], visited)
      else match g.precedents[name]? with
        | none => firstWay g target deeper rest visited
        | some names =>
            if name ∈ visited then firstWay g target deeper rest visited
            else match deeper names.toList (visited.insert name) with
              | (some way, visited) => (some (name :: way), visited)
              | (none, visited) => firstWay g target deeper rest visited

def way (g : DependencyGraph) (target : String) : Nat → Search
  | 0 => firstWay g target fun _ visited => (none, visited)
  | depth + 1 => firstWay g target (way g target depth)

-- The cycle that would close if the field read the names: from the field to itself, each name
-- read by the one before. No cycle visits more formula fields than there are.
def cycle? (g : DependencyGraph) (field : String) (names : Names) : Option (List String) :=
  (way g field g.size names.toList ∅).1.map (field :: ·)

end FormulaField.DependencyGraph
