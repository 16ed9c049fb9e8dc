import FormulaField.Proofs.Dependency.CalculationOrder

set_option autoImplicit false

namespace FormulaField.DependencyGraph

open Relation (TransGen)

-- The traversal as deep as it goes: of some names while the fields on a path wait, with the fields that are done
-- before and those that are done after it, the latest first.
inductive Traversal (g : DependencyGraph) : List String → List String → List String → List String → Prop
  | nothing (path done : List String) : Traversal g path done [] done
  | again (path done rest after : List String) (name : String) (known : name ∈ done ∨ name ∈ path)
      (tail : Traversal g path done rest after) : Traversal g path done (name :: rest) after
  | plain (path done rest after : List String) (name : String) (unknown : ¬ (name ∈ done ∨ name ∈ path))
      (absent : g.precedents[name]? = none) (tail : Traversal g path done rest after) :
      Traversal g path done (name :: rest) after
  | enter (path done rest middle after : List String) (name : String) (names : Names)
      (unknown : ¬ (name ∈ done ∨ name ∈ path)) (found : g.precedents[name]? = some names)
      (deeper : Traversal g (name :: path) done names.toList middle)
      (tail : Traversal g path (name :: middle) rest after) : Traversal g path done (name :: rest) after

theorem finish_traversal (g : DependencyGraph) (depth : Nat) (path names : List String)
    (room : g.size < depth + path.length) (waiting : ∀ name ∈ names, g.Waiting path name) (done : List String) :
    g.Traversal path done names (names.foldl (finish g depth path) done) := by
  induction depth generalizing path names done with
  | zero =>
      cases names with
      | nil => exact .nothing path done
      | cons name rest =>
          have bound := waiting_length g path name (waiting name List.mem_cons_self)
          omega
  | succ depth ih =>
      induction names generalizing done with
      | nil => exact .nothing path done
      | cons name rest ihRest =>
          have tail := fun done => ihRest (fun other member => waiting other (List.mem_cons_of_mem name member)) done
          rw [List.foldl_cons, finish]
          by_cases known : name ∈ done ∨ name ∈ path
          · rw [if_pos known]
            exact .again path done rest _ name known (tail done)
          rw [if_neg known]
          cases found : g.precedents[name]? with
          | none => exact .plain path done rest _ name known found (tail done)
          | some names =>
              have edge : ∀ read ∈ names.toList, g.Reads name read := fun read member =>
                ⟨names, found, Std.ExtTreeSet.mem_toList.mp member⟩
              have deeper := ih (name :: path) names.toList (by rw [List.length_cons]; omega)
                (fun read member => waiting_deeper g path name read (waiting name List.mem_cons_self)
                  (not_or.mp known).2 (edge read member)) done
              exact .enter path done rest _ _ name names known found deeper (tail _)

theorem calculation_order_traversal (g : DependencyGraph) :
    g.Traversal [] [] g.precedents.keys g.calculationOrder.reverse := by
  rw [calculationOrder, List.reverse_reverse]
  exact finish_traversal g (g.size + 1) [] g.precedents.keys (by simp)
    (fun name _ => ⟨List.nodup_nil, by simp, by simp⟩) []

-- In every graph the traversal ends, the order has each formula field once and no other name, and a field comes
-- after a formula field that it reads and that does not read it, directly or through others.
theorem calculation_order_of_any_graph (g : DependencyGraph) :
    g.Traversal [] [] g.precedents.keys g.calculationOrder.reverse ∧
      (∀ name, g.calculationOrder.count name = if g.contains name then 1 else 0) ∧
      ∀ field read, g.Reads field read → g.contains read = true → ¬ TransGen g.Reads read field →
        g.calculationOrder.idxOf read < g.calculationOrder.idxOf field := by
  refine ⟨calculation_order_traversal g, ?_, ?_⟩
  · intro name
    rw [(calculation_order_nodup g).count, contains]
    simp only [mem_calculation_order, Std.ExtTreeMap.contains_iff_mem]
  · intro field read edge formulaField noReturn
    have inside : read ∈ g.precedents := Std.ExtTreeMap.contains_iff_mem.mp formulaField
    have readPlace := List.idxOf_lt_length_of_mem ((mem_calculation_order g read).mpr inside)
    have fieldPlace :=
      List.idxOf_lt_length_of_mem ((mem_calculation_order g field).mpr (reads_formula_field g field read edge))
    rcases Nat.lt_trichotomy (g.calculationOrder.idxOf read) (g.calculationOrder.idxOf field) with
      before | same | behind
    · exact before
    · have one : read = field := by
        rw [← List.getElem_idxOf readPlace, ← List.getElem_idxOf fieldPlace]
        simp only [same]
      exact absurd (.single (one ▸ edge)) noReturn
    · have back := List.pairwise_iff_getElem.mp (calculation_order_pairwise g) _ _ fieldPlace readPlace behind
      rw [List.getElem_idxOf fieldPlace, List.getElem_idxOf readPlace] at back
      exact absurd (back edge inside) noReturn

end FormulaField.DependencyGraph
