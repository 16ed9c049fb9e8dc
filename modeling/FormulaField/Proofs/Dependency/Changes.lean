import FormulaField.Dependency.Order
import FormulaField.Proofs.Dependency.Dependents

set_option autoImplicit false

namespace FormulaField.DependencyGraph

inductive Change where
  | read (field : String) (names : Names)
  | forget (field : String)
  | clear

def change (g : DependencyGraph) : Change → DependencyGraph
  | .read field names => g.insert field names
  | .forget field => g.erase field
  | .clear => ∅

def ofChanges (changes : List Change) : DependencyGraph := changes.foldl change ∅

def Change.leaves (field : String) (before : Option Names) : Change → Option Names
  | .read other names => if other = field then some names else before
  | .forget other => if other = field then none else before
  | .clear => none

def lastRead (changes : List Change) (field : String) : Option Names :=
  changes.foldl (Change.leaves field) none

structure Indexed (g : DependencyGraph) : Prop where
  exact : g.DependentsExact
  pruned : Pruned g.dependents

theorem change_indexed (g : DependencyGraph) (next : Change) (indexed : g.Indexed) : (g.change next).Indexed := by
  cases next with
  | read field names =>
      exact ⟨insert_dependents_exact g field names indexed.exact, insert_pruned g field names indexed.pruned⟩
  | forget field => exact ⟨erase_dependents_exact g field indexed.exact, erase_pruned g field indexed.pruned⟩
  | clear => exact ⟨empty_dependents_exact, empty_pruned⟩

theorem change_precedents (g : DependencyGraph) (next : Change) (field : String) :
    (g.change next).precedents? field = next.leaves field (g.precedents? field) := by
  cases next with
  | read other names => simp [change, precedents?, Change.leaves, Std.ExtTreeMap.getElem?_insert]
  | forget other => simp [change, precedents?, Change.leaves, Std.ExtTreeMap.getElem?_erase]
  | clear => simp [change, precedents?, Change.leaves]

theorem changes_indexed (g : DependencyGraph) (changes : List Change) (indexed : g.Indexed) :
    (changes.foldl change g).Indexed := by
  induction changes generalizing g with
  | nil => exact indexed
  | cons next rest ih => exact ih _ (change_indexed g next indexed)

theorem changes_precedents (g : DependencyGraph) (changes : List Change) (field : String) :
    (changes.foldl change g).precedents? field = changes.foldl (Change.leaves field) (g.precedents? field) := by
  induction changes generalizing g with
  | nil => rfl
  | cons next rest ih => rw [List.foldl_cons, List.foldl_cons, ih, change_precedents]

theorem of_changes_indexed (changes : List Change) : (ofChanges changes).Indexed :=
  changes_indexed ∅ changes ⟨empty_dependents_exact, empty_pruned⟩

-- After any changes a field is among the dependents of a name exactly if it reads the name by the latest change
-- of it. No dependents are kept for a name without any, and changes that end with the same precedents end with
-- the same dependents, cycles and order.
theorem dependents_after_changes (changes : List Change) :
    (∀ field, (ofChanges changes).precedents? field = lastRead changes field) ∧
      (∀ field name, field ∈ (ofChanges changes).dependentsOf name ↔
        ∃ names, (ofChanges changes).precedents? field = some names ∧ name ∈ names) ∧
      (∀ (name : String) (readers : Names), (ofChanges changes).dependents[name]? = some readers → readers ≠ ∅) ∧
      ∀ others, (∀ field, (ofChanges others).precedents? field = (ofChanges changes).precedents? field) →
        (∀ name, (ofChanges others).dependentsOf name = (ofChanges changes).dependentsOf name) ∧
          (∀ field names, (ofChanges others).cycle? field names = (ofChanges changes).cycle? field names) ∧
          (ofChanges others).calculationOrder = (ofChanges changes).calculationOrder := by
  have indexed := of_changes_indexed changes
  refine ⟨changes_precedents ∅ changes, indexed.exact, ?_, ?_⟩
  · rintro name readers found rfl
    obtain ⟨reader, member⟩ := indexed.pruned name ∅ found
    simp at member
  · intro others samePrecedents
    have otherIndexed := of_changes_indexed others
    have same : ofChanges others = ofChanges changes :=
      precedents_determine _ _ otherIndexed.exact indexed.exact otherIndexed.pruned indexed.pruned
        (Std.ExtTreeMap.ext_getElem? fun {field} => samePrecedents field)
    rw [same]
    exact ⟨fun _ => rfl, fun _ _ => rfl, rfl⟩

end FormulaField.DependencyGraph
