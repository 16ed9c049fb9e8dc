import FormulaField.Proofs.Dependency.Reads

set_option autoImplicit false

namespace FormulaField.DependencyGraph

def DependentsExact (g : DependencyGraph) : Prop :=
  ∀ field name, field ∈ g.dependentsOf name ↔ g.Reads field name

def readersIn (dependents : Std.ExtTreeMap String Names) (name : String) : Names :=
  dependents[name]?.getD ∅

theorem mem_names_erase (names : Names) (name other : String) :
    other ∈ names.erase name ↔ other ∈ names ∧ ¬ other = name := by
  rw [Std.ExtTreeSet.mem_erase, ne_eq, Std.compare_eq_iff_eq, and_comm, eq_comm]

theorem mem_dependents_of (g : DependencyGraph) (field name : String) :
    field ∈ g.dependentsOf name ↔ field ∈ readersIn g.dependents name := by
  rw [dependentsOf, readersIn]
  cases g.dependents[name]? with
  | none => simp
  | some readers => exact Std.ExtTreeSet.mem_toList

theorem mem_add_reader (dependents : Std.ExtTreeMap String Names) (reader name field read : String) :
    field ∈ readersIn (addReader reader dependents name) read ↔
      field = reader ∧ read = name ∨ field ∈ readersIn dependents read := by
  by_cases same : read = name
  · subst same
    simp [readersIn, addReader, eq_comm (a := field)]
  · simp [readersIn, addReader, Std.ExtTreeMap.getElem?_alter, same, Ne.symm same]

theorem mem_drop_reader (dependents : Std.ExtTreeMap String Names) (reader name field read : String) :
    field ∈ readersIn (dropReader reader dependents name) read ↔
      field ∈ readersIn dependents read ∧ ¬ (field = reader ∧ read = name) := by
  by_cases same : read = name
  · subst same
    cases found : dependents[read]? with
    | none => simp [readersIn, dropReader, found]
    | some readers =>
        by_cases empty : (readers.erase reader).isEmpty
        · have nobody : field ∉ readers.erase reader := by
            rw [Std.ExtTreeSet.isEmpty_iff.mp empty]
            simp
          rw [mem_names_erase] at nobody
          simp only [readersIn, dropReader, found, Std.ExtTreeMap.getElem?_alter_self, if_pos empty]
          grind
        · simp only [readersIn, dropReader, found, Std.ExtTreeMap.getElem?_alter_self, if_neg empty]
          simpa using mem_names_erase readers reader field
  · simp [readersIn, dropReader, Std.ExtTreeMap.getElem?_alter, same, Ne.symm same]

theorem mem_add_readers (dependents : Std.ExtTreeMap String Names) (reader field read : String)
    (names : List String) :
    field ∈ readersIn (names.foldl (addReader reader) dependents) read ↔
      field = reader ∧ read ∈ names ∨ field ∈ readersIn dependents read := by
  induction names generalizing dependents with
  | nil => simp
  | cons name rest ih =>
      rw [List.foldl_cons, ih, mem_add_reader, List.mem_cons]
      grind

theorem mem_drop_readers (dependents : Std.ExtTreeMap String Names) (reader field read : String)
    (names : List String) :
    field ∈ readersIn (names.foldl (dropReader reader) dependents) read ↔
      field ∈ readersIn dependents read ∧ ¬ (field = reader ∧ read ∈ names) := by
  induction names generalizing dependents with
  | nil => simp
  | cons name rest ih =>
      rw [List.foldl_cons, ih, mem_drop_reader, List.mem_cons]
      grind

theorem empty_dependents_exact : (∅ : DependencyGraph).DependentsExact := by
  intro field name
  have nobody : (∅ : DependencyGraph).dependents = ∅ := rfl
  simp [mem_dependents_of, readersIn, Reads, nobody]

theorem erase_dependents_exact (g : DependencyGraph) (field : String) (exact : g.DependentsExact) :
    (g.erase field).DependentsExact := by
  intro reader name
  have before : reader ∈ readersIn g.dependents name ↔ g.Reads reader name :=
    (mem_dependents_of g reader name).symm.trans (exact reader name)
  rw [mem_dependents_of]
  cases found : g.precedents[field]? with
  | none =>
      have unchanged : g.erase field = g := by simp only [erase, found]
      rw [unchanged, before]
  | some names =>
      have dropped : (g.erase field).dependents = names.toList.foldl (dropReader field) g.dependents := by
        simp only [erase, found]
      rw [dropped, mem_drop_readers, before]
      by_cases same : reader = field
      · subst same
        simp [Reads, found]
      · simp [Reads, Std.ExtTreeMap.getElem?_erase, same, Ne.symm same]

theorem insert_dependents_exact (g : DependencyGraph) (field : String) (names : Names)
    (exact : g.DependentsExact) : (g.insert field names).DependentsExact := by
  intro reader name
  have before : reader ∈ readersIn (g.erase field).dependents name ↔ (g.erase field).Reads reader name :=
    (mem_dependents_of _ reader name).symm.trans (erase_dependents_exact g field exact reader name)
  have added : (g.insert field names).dependents =
      names.toList.foldl (addReader field) (g.erase field).dependents := rfl
  rw [mem_dependents_of, added, mem_add_readers, before]
  by_cases same : reader = field
  · subst same
    simp [Reads]
  · simp [Reads, Std.ExtTreeMap.getElem?_erase, Std.ExtTreeMap.getElem?_insert, same, Ne.symm same]

def Pruned (dependents : Std.ExtTreeMap String Names) : Prop :=
  ∀ (name : String) (readers : Names), dependents[name]? = some readers → ∃ reader, reader ∈ readers

theorem add_reader_pruned (dependents : Std.ExtTreeMap String Names) (reader name : String)
    (pruned : Pruned dependents) : Pruned (addReader reader dependents name) := by
  intro other readers found
  rw [addReader, Std.ExtTreeMap.getElem?_alter] at found
  split at found
  · cases found
    exact ⟨reader, by simp⟩
  · exact pruned other readers found

theorem drop_reader_pruned (dependents : Std.ExtTreeMap String Names) (reader name : String)
    (pruned : Pruned dependents) : Pruned (dropReader reader dependents name) := by
  intro other readers found
  rw [dropReader, Std.ExtTreeMap.getElem?_alter] at found
  split at found
  · cases held : dependents[name]? with
    | none => simp [held] at found
    | some before =>
        simp only [held] at found
        split at found
        · cases found
        · rename_i notEmpty
          cases found
          apply Classical.byContradiction
          intro nobody
          refine notEmpty (Std.ExtTreeSet.isEmpty_iff.mpr (Std.ExtTreeSet.eq_empty_iff_forall_not_mem.mpr ?_))
          exact fun other member => nobody ⟨other, member⟩
  · exact pruned other readers found

theorem fold_pruned (change : Std.ExtTreeMap String Names → String → Std.ExtTreeMap String Names)
    (kept : ∀ dependents name, Pruned dependents → Pruned (change dependents name)) (names : List String)
    (dependents : Std.ExtTreeMap String Names) (pruned : Pruned dependents) :
    Pruned (names.foldl change dependents) := by
  induction names generalizing dependents with
  | nil => exact pruned
  | cons name rest ih => exact ih _ (kept dependents name pruned)

theorem empty_pruned : Pruned (∅ : DependencyGraph).dependents := by
  have nobody : (∅ : DependencyGraph).dependents = ∅ := rfl
  simp [Pruned, nobody]

theorem erase_pruned (g : DependencyGraph) (field : String) (pruned : Pruned g.dependents) :
    Pruned (g.erase field).dependents := by
  rw [erase]
  split
  · exact pruned
  · exact fold_pruned _ (fun dependents name => drop_reader_pruned dependents field name) _ _ pruned

theorem insert_pruned (g : DependencyGraph) (field : String) (names : Names) (pruned : Pruned g.dependents) :
    Pruned (g.insert field names).dependents :=
  fold_pruned _ (fun dependents name => add_reader_pruned dependents field name) _ _ (erase_pruned g field pruned)

theorem pruned_entry (one other : Std.ExtTreeMap String Names) (name : String) (readers : Names)
    (pruned : Pruned one) (same : ∀ field, field ∈ readersIn one name ↔ field ∈ readersIn other name)
    (found : one[name]? = some readers) : other[name]? = some readers := by
  obtain ⟨reader, member⟩ := pruned name readers found
  simp only [readersIn, found, Option.getD_some] at same
  cases held : other[name]? with
  | none => simpa [held] using (same reader).mp member
  | some others =>
      simp only [held, Option.getD_some] at same
      rw [Std.ExtTreeSet.ext_mem fun {field} => same field]

theorem precedents_determine (g other : DependencyGraph) (exact : g.DependentsExact)
    (otherExact : other.DependentsExact) (pruned : Pruned g.dependents) (otherPruned : Pruned other.dependents)
    (same : g.precedents = other.precedents) : g = other := by
  have readers : ∀ name field, field ∈ readersIn g.dependents name ↔ field ∈ readersIn other.dependents name := by
    intro name field
    rw [← mem_dependents_of, ← mem_dependents_of, exact, otherExact, Reads, Reads, same]
  have dependents : g.dependents = other.dependents := by
    apply Std.ExtTreeMap.ext_getElem?
    intro name
    apply Option.ext
    intro entry
    exact ⟨pruned_entry _ _ name entry pruned (readers name),
      pruned_entry _ _ name entry otherPruned (fun field => (readers name field).symm)⟩
  cases g
  cases other
  simp_all

end FormulaField.DependencyGraph
