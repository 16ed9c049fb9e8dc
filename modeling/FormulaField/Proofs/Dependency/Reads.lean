import FormulaField.Dependency.Cycle
import FormulaField.Proofs.Entries
import Mathlib.Logic.Relation

set_option autoImplicit false

namespace FormulaField.DependencyGraph

open Relation (TransGen ReflTransGen)

def Reads (g : DependencyGraph) (field name : String) : Prop :=
  ∃ names, g.precedents[field]? = some names ∧ name ∈ names

def Acyclic (g : DependencyGraph) : Prop := ∀ field, ¬ TransGen g.Reads field field

theorem reads_formula_field (g : DependencyGraph) (field name : String) (edge : g.Reads field name) :
    field ∈ g.precedents := by
  obtain ⟨names, found, _⟩ := edge
  rw [Std.ExtTreeMap.mem_iff_isSome_getElem?, found]
  rfl

theorem way_starts_at_formula_field (g : DependencyGraph) (field name : String)
    (way : TransGen g.Reads field name) : field ∈ g.precedents := by
  obtain ⟨next, edge, _⟩ := TransGen.head'_iff.mp way
  exact reads_formula_field g field next edge

theorem formula_field_precedents (g : DependencyGraph) (field : String) (member : field ∈ g.precedents) :
    ∃ names, g.precedents[field]? = some names :=
  Option.isSome_iff_exists.mp (Std.ExtTreeMap.mem_iff_isSome_getElem?.mp member)

@[simp] theorem empty_precedents : (∅ : DependencyGraph).precedents = ∅ := rfl

theorem empty_acyclic : (∅ : DependencyGraph).Acyclic := by
  intro field way
  simpa using way_starts_at_formula_field ∅ field field way

@[simp] theorem erase_precedents (g : DependencyGraph) (field : String) :
    (g.erase field).precedents = g.precedents.erase field := by
  cases found : g.precedents[field]? with
  | some names => simp only [erase, found]
  | none =>
      have absent : field ∉ g.precedents := by simpa using found
      simp only [erase, found]
      rw [erase_absent g.precedents field absent]

@[simp] theorem insert_precedents (g : DependencyGraph) (field : String) (names : Names) :
    (g.insert field names).precedents = g.precedents.insert field names := by
  apply Std.ExtTreeMap.ext_getElem?
  intro name
  simp only [insert, erase_precedents, Std.ExtTreeMap.getElem?_insert, Std.ExtTreeMap.getElem?_erase]
  split <;> rfl

theorem erase_reads (g : DependencyGraph) (field reader name : String)
    (edge : (g.erase field).Reads reader name) : g.Reads reader name := by
  obtain ⟨names, found, member⟩ := edge
  rw [erase_precedents, Std.ExtTreeMap.getElem?_erase] at found
  split at found
  · simp at found
  · exact ⟨names, found, member⟩

theorem insert_reads_here (g : DependencyGraph) (field name : String) (names : Names) :
    (g.insert field names).Reads field name ↔ name ∈ names := by
  simp [Reads]

theorem insert_reads_elsewhere (g : DependencyGraph) (field reader name : String) (names : Names)
    (different : reader ≠ field) : (g.insert field names).Reads reader name ↔ g.Reads reader name := by
  have notSame : compare field reader ≠ .eq := fun same =>
    different (Std.LawfulEqCmp.eq_of_compare same).symm
  simp [Reads, Std.ExtTreeMap.getElem?_insert, notSame]

theorem erase_acyclic (g : DependencyGraph) (field : String) (acyclic : g.Acyclic) :
    (g.erase field).Acyclic := by
  intro name way
  exact acyclic name (TransGen.mono (erase_reads g field) name name way)

-- A way through a graph with new edges at one field either keeps to the old edges or comes by
-- that field.
theorem insert_way (g : DependencyGraph) (field start goal : String) (names : Names)
    (way : TransGen (g.insert field names).Reads start goal) :
    TransGen g.Reads start goal ∨
      ReflTransGen (g.insert field names).Reads start field ∧
        TransGen (g.insert field names).Reads field goal := by
  induction way with
  | single edge =>
      by_cases same : start = field
      · subst start
        exact .inr ⟨.refl, .single edge⟩
      · exact .inl (.single ((insert_reads_elsewhere g field start _ names same).mp edge))
  | @tail middle last before edge ih =>
      rcases ih with old | ⟨toField, fromField⟩
      · by_cases same : middle = field
        · subst middle
          exact .inr ⟨before.to_reflTransGen, .single edge⟩
        · exact .inl (old.tail ((insert_reads_elsewhere g field middle last names same).mp edge))
      · exact .inr ⟨toField, fromField.tail edge⟩

theorem insert_acyclic (g : DependencyGraph) (field : String) (names : Names) (acyclic : g.Acyclic)
    (noReturn : ¬ TransGen (g.insert field names).Reads field field) :
    (g.insert field names).Acyclic := by
  intro name way
  rcases insert_way g field name name names way with old | ⟨toField, fromField⟩
  · exact acyclic name old
  · exact noReturn (fromField.trans_left toField)

end FormulaField.DependencyGraph
