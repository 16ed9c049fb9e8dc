import FormulaField.Proofs.Entries
import FormulaField.Proofs.Registry.Invariant

set_option autoImplicit false

namespace FormulaField

open Relation (TransGen)

namespace Specs

def Reads (specs : Specs) (field name : String) : Prop :=
  ∃ spec, specs[field]? = some spec ∧ name ∈ (parse spec.formula).dependencies ∧ name ∈ specs

structure Acceptable (specs : Specs) : Prop where
  parsed : ∀ (name : String) (spec : Spec), specs[name]? = some spec →
    ∃ formula, (parse spec.formula).result = .ok formula
  acyclic : ∀ name, ¬ TransGen specs.Reads name name

end Specs

theorem DependencyGraph.way_inside (g : DependencyGraph) (start goal : String) (way : TransGen g.Reads start goal)
    (inside : goal ∈ g.precedents) :
    TransGen (fun field name => g.Reads field name ∧ name ∈ g.precedents) start goal := by
  induction way with
  | single edge => exact .single ⟨edge, inside⟩
  | @tail middle last _ edge ih => exact (ih (g.reads_formula_field middle last edge)).tail ⟨edge, inside⟩

namespace Registry

-- Consistent, and without a name in the graph that nothing reads.
structure Exact (r : Registry) : Prop where
  consistent : r.Consistent
  pruned : DependencyGraph.Pruned r.graph.dependents

theorem specs_entry (r : Registry) (name : String) :
    r.specs[name]? = r.fields[name]?.map fun definition => definition.spec :=
  Std.ExtTreeMap.getElem?_map

theorem mem_specs (r : Registry) (name : String) : name ∈ r.specs ↔ name ∈ r.fields := by
  rw [Std.ExtTreeMap.mem_iff_isSome_getElem?, Std.ExtTreeMap.mem_iff_isSome_getElem?, specs_entry,
    Option.isSome_map]

theorem precedents_entry (r : Registry) (consistent : r.Consistent) (name : String) :
    r.graph.precedents[name]? = r.specs[name]?.map fun spec => (parse spec.formula).dependencies := by
  rw [specs_entry]
  cases found : r.fields[name]? with
  | some definition =>
      rw [consistent.edges name definition found]
      simp [consistent.parsed name definition found]
  | none =>
      have plain : name ∉ r.graph.precedents := by
        rw [← consistent.sameFields, Std.ExtTreeMap.mem_iff_isSome_getElem?, found]
        simp
      simpa using plain

theorem parsed_definition (r other : Registry) (consistent : r.Consistent) (otherConsistent : other.Consistent)
    (name : String) (definition : Definition) (same : r.specs[name]? = other.specs[name]?)
    (found : r.fields[name]? = some definition) : other.fields[name]? = some definition := by
  rw [specs_entry, specs_entry, found] at same
  obtain ⟨⟨ownSpec, ownFormula, ownNames⟩, ownFound, sameSpec⟩ := Option.map_eq_some_iff.mp same.symm
  obtain ⟨spec, formula, names⟩ := definition
  cases sameSpec
  have parsed := consistent.parsed name _ found
  rw [otherConsistent.parsed name _ ownFound] at parsed
  cases parsed
  exact ownFound

theorem specs_determine (r other : Registry) (exact : r.Exact) (otherExact : other.Exact)
    (same : r.specs = other.specs) : r = other := by
  have fields : r.fields = other.fields := by
    apply Std.ExtTreeMap.ext_getElem?
    intro name
    apply Option.ext
    intro definition
    exact ⟨parsed_definition r other exact.consistent otherExact.consistent name definition (by rw [same]),
      parsed_definition other r otherExact.consistent exact.consistent name definition (by rw [same])⟩
  have precedents : r.graph.precedents = other.graph.precedents := by
    apply Std.ExtTreeMap.ext_getElem?
    intro name
    rw [precedents_entry r exact.consistent, precedents_entry other otherExact.consistent, same]
  have graph : r.graph = other.graph :=
    DependencyGraph.precedents_determine _ _ exact.consistent.dependents otherExact.consistent.dependents
      exact.pruned otherExact.pruned precedents
  cases r
  cases other
  simp_all

theorem empty_exact : (∅ : Registry).Exact := ⟨empty_consistent, DependencyGraph.empty_pruned⟩

theorem empty_specs : (∅ : Registry).specs = ∅ := by
  apply Std.ExtTreeMap.ext_getElem?
  intro name
  have noFields : (∅ : Registry).fields = ∅ := rfl
  simp [specs_entry, noFields]

theorem register_exact (r after : Registry) (name : String) (spec : Spec) (exact : r.Exact)
    (registered : r.register name spec = .ok after) : after.Exact := by
  refine ⟨register_consistent r after name spec exact.consistent registered, ?_⟩
  obtain ⟨formula, names, _, _, rfl⟩ := register_cases r after name spec registered
  exact DependencyGraph.insert_pruned r.graph name names exact.pruned

theorem register_specs (r after : Registry) (name : String) (spec : Spec)
    (registered : r.register name spec = .ok after) : after.specs = r.specs.insert name spec := by
  obtain ⟨formula, names, _, _, rfl⟩ := register_cases r after name spec registered
  apply Std.ExtTreeMap.ext_getElem?
  intro other
  rw [specs_entry, Std.ExtTreeMap.getElem?_insert, Std.ExtTreeMap.getElem?_insert, specs_entry]
  split <;> rfl

theorem unregister_exact (r : Registry) (name : String) (exact : r.Exact) : (r.unregister name).Exact := by
  refine ⟨unregister_consistent r name exact.consistent, ?_⟩
  rw [unregister_eq]
  split
  · exact DependencyGraph.erase_pruned r.graph name exact.pruned
  · exact exact.pruned

theorem exact_kept : Kept Exact := ⟨empty_exact, register_exact, unregister_exact⟩

theorem register_all_specs (r after : Registry) (entries : List (String × Spec))
    (registered : r.registerAll entries = .ok after) :
    after.specs = entries.foldl (fun specs entry => specs.insert entry.1 entry.2) r.specs := by
  induction entries generalizing r with
  | nil =>
      cases registered
      rfl
  | cons entry rest ih =>
      obtain ⟨name, spec⟩ := entry
      obtain ⟨next, first, others⟩ := (register_all_cons r after name spec rest).mp registered
      rw [ih next others, register_specs r next name spec first, List.foldl_cons]

theorem registered_specs (specs : Specs) (entries : List (String × Spec)) (perm : entries.Perm specs.toList)
    (after : Registry) (registered : registerAll ∅ entries = .ok after) : after.Exact ∧ after.specs = specs := by
  have same := register_all_specs ∅ after entries registered
  rw [empty_specs] at same
  exact ⟨exact_kept.register_all ∅ after entries empty_exact registered, same.trans (insert_all_perm specs entries perm)⟩

theorem consistent_acceptable (r : Registry) (consistent : r.Consistent) : r.specs.Acceptable := by
  refine ⟨?_, ?_⟩
  · intro name spec found
    rw [specs_entry] at found
    obtain ⟨definition, field, rfl⟩ := Option.map_eq_some_iff.mp found
    exact ⟨definition.formula, congrArg Parsed.result (consistent.parsed name definition field)⟩
  · intro name way
    refine consistent.acyclic name (TransGen.mono ?_ name name way)
    rintro field read ⟨spec, found, member, _⟩
    exact ⟨_, by rw [precedents_entry r consistent, found]; rfl, member⟩

theorem register_accepted (r : Registry) (consistent : r.Consistent) (specs : Specs) (acceptable : specs.Acceptable)
    (within : ∀ (name : String) (spec : Spec), r.specs[name]? = some spec → specs[name]? = some spec)
    (name : String) (spec : Spec) (listed : specs[name]? = some spec) :
    ∃ after, r.register name spec = .ok after := by
  obtain ⟨formula, accepted⟩ := acceptable.parsed name spec listed
  have kept : ∀ field, field ∈ (r.graph.insert name (parse spec.formula).dependencies).precedents → field ∈ specs := by
    intro field member
    rw [DependencyGraph.insert_precedents, Std.ExtTreeMap.mem_insert] at member
    rcases member with same | old
    · rw [← Std.LawfulEqCmp.eq_of_compare same, Std.ExtTreeMap.mem_iff_isSome_getElem?, listed]
      rfl
    · rw [← consistent.sameFields, ← mem_specs, Std.ExtTreeMap.mem_iff_isSome_getElem?] at old
      obtain ⟨own, found⟩ := Option.isSome_iff_exists.mp old
      rw [Std.ExtTreeMap.mem_iff_isSome_getElem?, within field own found]
      rfl
  have noReturn : ¬ TransGen (r.graph.insert name (parse spec.formula).dependencies).Reads name name := by
    intro way
    have inside := DependencyGraph.way_inside _ name name way (by simp)
    refine absurd (TransGen.mono ?_ name name inside) (acceptable.acyclic name)
    rintro field read ⟨edge, formulaField⟩
    by_cases same : field = name
    · subst same
      exact ⟨spec, listed, (r.graph.insert_reads_here field read _).mp edge, kept read formulaField⟩
    · rw [DependencyGraph.insert_reads_elsewhere _ _ _ _ _ same] at edge
      obtain ⟨names, precedents, member⟩ := edge
      rw [precedents_entry r consistent] at precedents
      obtain ⟨own, found, rfl⟩ := Option.map_eq_some_iff.mp precedents
      exact ⟨own, within field own found, member, kept read formulaField⟩
  have parsed : parse spec.formula = ⟨.ok formula, (parse spec.formula).dependencies⟩ := by rw [← accepted]
  obtain ⟨after, ran⟩ := (registers_iff r name spec).mpr ⟨formula, _, parsed, noReturn⟩
  exact ⟨after, (Update.outcome_ok _ r after).mpr ⟨(), ran⟩⟩

theorem register_all_accepted (r : Registry) (consistent : r.Consistent) (specs : Specs)
    (acceptable : specs.Acceptable)
    (within : ∀ (name : String) (spec : Spec), r.specs[name]? = some spec → specs[name]? = some spec)
    (entries : List (String × Spec)) (listed : ∀ entry ∈ entries, specs[entry.1]? = some entry.2) :
    ∃ after, r.registerAll entries = .ok after := by
  induction entries generalizing r with
  | nil => exact ⟨r, rfl⟩
  | cons entry rest ih =>
      obtain ⟨name, spec⟩ := entry
      have here : specs[name]? = some spec := listed (name, spec) (by simp)
      obtain ⟨next, first⟩ := register_accepted r consistent specs acceptable within name spec here
      have nextWithin : ∀ (other : String) (own : Spec), next.specs[other]? = some own → specs[other]? = some own := by
        intro other own found
        rw [register_specs r next name spec first, Std.ExtTreeMap.getElem?_insert] at found
        split at found
        · cases found
          exact Std.LawfulEqCmp.eq_of_compare ‹_› ▸ here
        · exact within other own found
      obtain ⟨after, others⟩ := ih next (register_consistent r next name spec consistent first) nextWithin
        (fun entry member => listed entry (by simp [member]))
      exact ⟨after, (register_all_cons r after name spec rest).mpr ⟨next, first, others⟩⟩

theorem registered_iff_acceptable (specs : Specs) (entries : List (String × Spec))
    (perm : entries.Perm specs.toList) : (∃ after, registerAll ∅ entries = .ok after) ↔ specs.Acceptable := by
  constructor
  · rintro ⟨after, registered⟩
    obtain ⟨exact, same⟩ := registered_specs specs entries perm after registered
    exact same ▸ consistent_acceptable after exact.consistent
  · intro acceptable
    refine register_all_accepted ∅ empty_consistent specs acceptable (by simp [empty_specs]) entries ?_
    intro entry member
    exact Std.ExtTreeMap.mem_toList_iff_getElem?_eq_some.mp (perm.mem_iff.mp member)

theorem ordered_registrations (specs : Specs) (entries others : List (String × Spec)) (perm : entries.Perm specs.toList)
    (otherPerm : others.Perm specs.toList) (after : Registry) (registered : registerAll ∅ entries = .ok after) :
    registerAll ∅ others = .ok after := by
  obtain ⟨other, otherRegistered⟩ := (registered_iff_acceptable specs others otherPerm).mpr
    ((registered_iff_acceptable specs entries perm).mp ⟨after, registered⟩)
  obtain ⟨exact, same⟩ := registered_specs specs entries perm after registered
  obtain ⟨otherExact, otherSame⟩ := registered_specs specs others otherPerm other otherRegistered
  rw [specs_determine after other exact otherExact (same.trans otherSame.symm), otherRegistered]

-- An import succeeds exactly when its specifications can stand together. Registering them in any order
-- comes to the same registry in the same cases, and what was registered before the import has no part in it.
theorem import_by_specs (specs : Specs) (entries : List (String × Spec)) (perm : entries.Perm specs.toList) :
    ((∃ after, ofSpecs specs = .ok after) ↔ specs.Acceptable) ∧
      (∀ after, registerAll ∅ entries = .ok after ↔ ofSpecs specs = .ok after) ∧
      ∀ r : Registry,
        (∀ after, ofSpecs specs = .ok after → r.edit (.replace specs) = .ok after ∧ r.after (.replace specs) = after) ∧
          (¬ specs.Acceptable →
            (∃ cause, r.edit (.replace specs) = .error cause) ∧ r.after (.replace specs) = r) := by
  have accepted := registered_iff_acceptable specs specs.toList (.refl _)
  refine ⟨accepted, ?_, ?_⟩
  · intro after
    exact ⟨ordered_registrations specs entries specs.toList perm (.refl _) after,
      ordered_registrations specs specs.toList entries (.refl _) perm after⟩
  · intro r
    constructor
    · intro after imported
      have edited : r.edit (.replace specs) = .ok after := (edit_replace r specs).trans imported
      exact ⟨edited, after_edit r after _ edited⟩
    · intro faulty
      cases imported : ofSpecs specs with
      | ok after => exact absurd (accepted.mp ⟨after, imported⟩) faulty
      | error cause =>
          have failed : r.edit (.replace specs) = .error cause := (edit_replace r specs).trans imported
          exact ⟨⟨cause, failed⟩, failed_edit_unchanged r (.replace specs) cause failed⟩

def ratioSpecs : Specs :=
  ((∅ : Specs).insert "Twice" ⟨"{Ratio} * 2", .number, 2⟩).insert "Ratio" ⟨"{Part} / {Whole}", .percentage, 1⟩

-- The field that reads the other one is registered first, while the other name is still plain.
def readerFirst : List (String × Spec) :=
  [("Twice", ⟨"{Ratio} * 2", .number, 2⟩), ("Ratio", ⟨"{Part} / {Whole}", .percentage, 1⟩)]

theorem reader_first_registered :
    readerFirst.Perm ratioSpecs.toList ∧ readerFirst ≠ ratioSpecs.toList ∧
      (∃ after, registerAll ∅ readerFirst = .ok after ∧ ofSpecs ratioSpecs = .ok after) := by
  have listed : ratioSpecs.toList = readerFirst.reverse := by decide +kernel
  have perm : readerFirst.Perm ratioSpecs.toList := listed ▸ (List.reverse_perm readerFirst).symm
  refine ⟨perm, listed ▸ by decide, ?_⟩
  have succeeds : (ofSpecs ratioSpecs).isOk = true := by decide +kernel
  obtain ⟨after, imported⟩ := ok_of_isOk _ succeeds
  exact ⟨after, ((import_by_specs ratioSpecs readerFirst perm).2.1 after).mpr imported, imported⟩

end Registry

end FormulaField
