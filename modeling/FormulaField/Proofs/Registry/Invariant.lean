import FormulaField.Proofs.Dependency.CycleSearch
import FormulaField.Proofs.Dependency.Dependents
import FormulaField.Registry.Basic

set_option autoImplicit false

namespace FormulaField

-- Says of a computed run that it succeeds, where the equation with the result itself is too large to check.
theorem ok_of_isOk {ε α : Type} (made : Except ε α) (succeeds : made.isOk = true) : ∃ a, made = .ok a := by
  cases made with
  | error e => cases succeeds
  | ok a => exact ⟨a, rfl⟩

namespace Update

variable {α : Type}

theorem outcome_ok (u : Update α) (r left : Registry) :
    u.outcome r = .ok left ↔ ∃ a, u.run r = .ok a left := by
  rw [outcome]
  cases u.run r <;> simp

theorem outcome_error (u : Update α) (r : Registry) (e : RegistryError) :
    u.outcome r = .error e ↔ ∃ left, u.run r = .error e left := by
  rw [outcome]
  cases u.run r <;> simp

theorem left_ok (u : Update α) (r left : Registry) (done : u.outcome r = .ok left) : u.left r = left := by
  obtain ⟨a, ran⟩ := (u.outcome_ok r left).mp done
  rw [Update.left, ran]

-- The whole run of a registration. The graph is written before the fields, and both after the two checks.
theorem run_register (r : Registry) (name : String) (spec : Spec) :
    (register name spec).run r = match parse spec.formula with
      | ⟨.error cause, _⟩ => .error (.invalidFormula name cause) r
      | ⟨.ok formula, names⟩ => match r.graph.cycle? name names with
          | some cycle => .error (.circularDependency name cycle) r
          | none => .ok () ⟨r.fields.insert name ⟨spec, formula, names⟩, r.graph.insert name names⟩ := by
  -- The equation of `register` would be proved by running the parser, so the definition is put in as it is.
  delta register
  obtain ⟨result, names⟩ := parse spec.formula
  cases result with
  | error cause => rfl
  | ok formula =>
      rw [EStateM.run_bind]
      cases cycle : r.graph.cycle? name names <;> simp [cycle]

theorem run_unregister (r : Registry) (name : String) :
    (unregister name).run r =
      .ok (r.contains name) (if name ∈ r.fields then ⟨r.fields.erase name, r.graph.erase name⟩ else r) := by
  rw [unregister, EStateM.run_bind, EStateM.run_get]
  by_cases member : name ∈ r.fields
  · have found : r.fields.contains name = true := Std.ExtTreeMap.contains_iff_mem.mpr member
    simp only [EStateM.run_bind, EStateM.run_modify, found, if_pos, member, Registry.contains]
    rfl
  · have missing : r.fields.contains name = false := by
      rw [← Bool.not_eq_true, Std.ExtTreeMap.contains_iff_mem]
      exact member
    have same : r.fields.erase name = r.fields := erase_absent r.fields name member
    simp only [EStateM.run_bind, EStateM.run_modify, missing, member, Registry.contains, same]
    rfl

theorem run_replace (made : Except RegistryError Registry) (r : Registry) :
    (replace made).run r = match made with
      | .ok left => .ok () left
      | .error e => .error e r := by
  cases made <;> rfl

theorem failed_replace (made : Except RegistryError Registry) (r left : Registry) (e : RegistryError)
    (failed : (replace made).run r = .error e left) : left = r := by
  rw [run_replace] at failed
  cases made with
  | ok next => cases failed
  | error cause =>
      cases failed
      rfl

theorem failed_register (r left : Registry) (name : String) (spec : Spec) (e : RegistryError)
    (failed : (register name spec).run r = .error e left) : left = r := by
  rw [run_register] at failed
  split at failed
  · cases failed
    rfl
  · split at failed
    · cases failed
      rfl
    · cases failed

end Update

namespace Registry

open Relation (TransGen)

def Reads (r : Registry) (field name : String) : Prop :=
  ∃ definition, r.get? field = some definition ∧ name ∈ definition.dependencies

structure Consistent (r : Registry) : Prop where
  sameFields : ∀ name, name ∈ r.fields ↔ name ∈ r.graph.precedents
  parsed : ∀ (name : String) (definition : Definition), r.fields[name]? = some definition →
    parse definition.spec.formula = ⟨.ok definition.formula, definition.dependencies⟩
  edges : ∀ (name : String) (definition : Definition), r.fields[name]? = some definition →
    r.graph.precedents[name]? = some definition.dependencies
  acyclic : r.graph.Acyclic
  dependents : r.graph.DependentsExact

-- Two registries that differ at one name at most, both in their fields and in who reads what.
structure SameAway (name : String) (before after : Registry) : Prop where
  fields : ∀ other, other ≠ name → after.get? other = before.get? other
  precedents : ∀ other, other ≠ name → after.graph.precedents? other = before.graph.precedents? other
  dependents : ∀ other read, other ≠ name → (other ∈ after.dependentsOf read ↔ other ∈ before.dependentsOf read)

structure Holds (r : Registry) (name : String) (definition : Definition) : Prop where
  field : r.get? name = some definition
  precedents : r.graph.precedents? name = some definition.dependencies
  dependents : ∀ read, name ∈ r.dependentsOf read ↔ read ∈ definition.dependencies

structure Lacks (r : Registry) (name : String) : Prop where
  field : r.get? name = none
  precedents : r.graph.precedents? name = none
  dependents : ∀ read, name ∉ r.dependentsOf read

def ofEdits (edits : List Edit) : Registry := edits.foldl after ∅

theorem empty_consistent : (∅ : Registry).Consistent := by
  have noFields : (∅ : Registry).fields = ∅ := rfl
  have noGraph : (∅ : Registry).graph = ∅ := rfl
  refine ⟨?_, ?_, ?_, noGraph ▸ DependencyGraph.empty_acyclic, noGraph ▸ DependencyGraph.empty_dependents_exact⟩
  · intro name
    simp [noFields, noGraph]
  · simp [noFields]
  · simp [noFields]

theorem register_cases (r after : Registry) (name : String) (spec : Spec)
    (registered : r.register name spec = .ok after) :
    ∃ formula names, parse spec.formula = ⟨.ok formula, names⟩ ∧ r.graph.cycle? name names = none ∧
      after = ⟨r.fields.insert name ⟨spec, formula, names⟩, r.graph.insert name names⟩ := by
  obtain ⟨_, ran⟩ := ((Update.register name spec).outcome_ok r after).mp registered
  rw [Update.run_register] at ran
  split at ran
  · cases ran
  · next formula names parsed =>
      split at ran
      · cases ran
      · next noCycle =>
          cases ran
          exact ⟨formula, names, parsed, noCycle, rfl⟩

theorem unregister_eq (r : Registry) (name : String) :
    r.unregister name = if name ∈ r.fields then ⟨r.fields.erase name, r.graph.erase name⟩ else r := by
  rw [unregister, Update.left, Update.run_unregister]

theorem register_consistent (r after : Registry) (name : String) (spec : Spec) (consistent : r.Consistent)
    (registered : r.register name spec = .ok after) : after.Consistent := by
  obtain ⟨formula, names, parsed, noCycle, rfl⟩ := register_cases r after name spec registered
  refine ⟨?_, ?_, ?_, DependencyGraph.checked_insert_acyclic r.graph name names consistent.acyclic noCycle,
    DependencyGraph.insert_dependents_exact r.graph name names consistent.dependents⟩
  · intro other
    simp [consistent.sameFields other]
  · intro other definition found
    rw [Std.ExtTreeMap.getElem?_insert] at found
    split at found
    · cases found
      exact parsed
    · exact consistent.parsed other definition found
  · intro other definition found
    rw [DependencyGraph.insert_precedents, Std.ExtTreeMap.getElem?_insert]
    rw [Std.ExtTreeMap.getElem?_insert] at found
    split at found
    · cases found
      rw [if_pos ‹_›]
    · rw [if_neg ‹_›]
      exact consistent.edges other definition found

theorem unregister_consistent (r : Registry) (name : String) (consistent : r.Consistent) :
    (r.unregister name).Consistent := by
  by_cases member : name ∈ r.fields
  · rw [unregister_eq, if_pos member]
    refine ⟨?_, ?_, ?_, DependencyGraph.erase_acyclic r.graph name consistent.acyclic,
      DependencyGraph.erase_dependents_exact r.graph name consistent.dependents⟩
    · intro other
      simp [consistent.sameFields other]
    · intro other definition found
      rw [Std.ExtTreeMap.getElem?_erase] at found
      split at found
      · cases found
      · exact consistent.parsed other definition found
    · intro other definition found
      rw [DependencyGraph.erase_precedents, Std.ExtTreeMap.getElem?_erase]
      rw [Std.ExtTreeMap.getElem?_erase] at found
      split at found
      · cases found
      · rw [if_neg ‹_›]
        exact consistent.edges other definition found
  · rw [unregister_eq, if_neg member]
    exact consistent

theorem run_edit_unregister (r : Registry) (name : String) :
    (Edit.unregister name).update.run r = .ok () (r.unregister name) := by
  rw [Edit.update, EStateM.run_bind, unregister_eq, Update.run_unregister]
  rfl

theorem edit_unregister (r : Registry) (name : String) : r.edit (.unregister name) = .ok (r.unregister name) :=
  (Update.outcome_ok _ r _).mpr ⟨(), run_edit_unregister r name⟩

theorem edit_replace (r : Registry) (specs : Specs) : r.edit (.replace specs) = ofSpecs specs := by
  rw [edit, Edit.update, Update.outcome, Update.run_replace]
  cases ofSpecs specs <;> rfl

theorem edit_replace_by_text (r : Registry) (document : String) : r.edit (.replaceByText document) = ofText document := by
  rw [edit, Edit.update, Update.outcome, Update.run_replace]
  cases ofText document <;> rfl

theorem failed_update_unchanged (r left : Registry) (e : Edit) (cause : RegistryError)
    (failed : e.update.run r = .error cause left) : left = r := by
  cases e with
  | register name spec => exact Update.failed_register r left name spec cause failed
  | unregister name =>
      rw [run_edit_unregister] at failed
      cases failed
  | replace specs => exact Update.failed_replace (ofSpecs specs) r left cause failed
  | replaceByText document => exact Update.failed_replace (ofText document) r left cause failed

theorem failed_edit_unchanged (r : Registry) (e : Edit) (cause : RegistryError)
    (failed : r.edit e = .error cause) : r.after e = r := by
  obtain ⟨left, ran⟩ := (e.update.outcome_error r cause).mp failed
  rw [after, Update.left, ran]
  exact failed_update_unchanged r left e cause ran

theorem after_edit (r next : Registry) (e : Edit) (edited : r.edit e = .ok next) : r.after e = next :=
  e.update.left_ok r next edited

theorem register_all_cons (r left : Registry) (name : String) (spec : Spec) (rest : List (String × Spec)) :
    r.registerAll ((name, spec) :: rest) = .ok left ↔
      ∃ next, r.register name spec = .ok next ∧ next.registerAll rest = .ok left := by
  rw [registerAll]
  cases r.register name spec with
  | error cause => simp [bind, Except.bind]
  | ok next => simp [bind, Except.bind]

-- An import registers one specification after the other, so what the empty registry has and what a single
-- registration and a single removal keep, every sequence of edits keeps.
structure Kept (holds : Registry → Prop) : Prop where
  empty : holds ∅
  register : ∀ r left name spec, holds r → r.register name spec = .ok left → holds left
  unregister : ∀ r name, holds r → holds (r.unregister name)

namespace Kept

variable {holds : Registry → Prop}

theorem register_all (kept : Kept holds) (r left : Registry) (specs : List (String × Spec)) (start : holds r)
    (registered : r.registerAll specs = .ok left) : holds left := by
  induction specs generalizing r with
  | nil =>
      cases registered
      exact start
  | cons entry rest ih =>
      obtain ⟨name, spec⟩ := entry
      obtain ⟨next, first, others⟩ := (register_all_cons r left name spec rest).mp registered
      exact ih next (kept.register r next name spec start first) others

theorem of_specs (kept : Kept holds) (specs : Specs) (left : Registry) (registered : ofSpecs specs = .ok left) :
    holds left :=
  kept.register_all ∅ left specs.toList kept.empty registered

theorem of_text (kept : Kept holds) (document : String) (left : Registry) (registered : ofText document = .ok left) :
    holds left := by
  rw [ofText] at registered
  cases read : Specs.ofText? document with
  | none =>
      rw [read] at registered
      cases registered
  | some specs =>
      rw [read] at registered
      exact kept.of_specs specs left registered

theorem edit (kept : Kept holds) (r left : Registry) (e : Edit) (start : holds r) (edited : r.edit e = .ok left) :
    holds left := by
  cases e with
  | register name spec => exact kept.register r left name spec start edited
  | unregister name =>
      rw [edit_unregister] at edited
      cases edited
      exact kept.unregister r name start
  | replace specs =>
      rw [edit_replace] at edited
      exact kept.of_specs specs left edited
  | replaceByText document =>
      rw [edit_replace_by_text] at edited
      exact kept.of_text document left edited

theorem after (kept : Kept holds) (r : Registry) (e : Edit) (start : holds r) : holds (r.after e) := by
  cases edited : r.edit e with
  | error cause =>
      rw [failed_edit_unchanged r e cause edited]
      exact start
  | ok next =>
      rw [after_edit r next e edited]
      exact kept.edit r next e start edited

theorem of_edits (kept : Kept holds) (edits : List Edit) : holds (ofEdits edits) := by
  suffices run : ∀ r : Registry, holds r → holds (edits.foldl Registry.after r) from run ∅ kept.empty
  induction edits with
  | nil => exact fun _ start => start
  | cons e rest ih => exact fun r start => ih (r.after e) (kept.after r e start)

theorem unregister_all (kept : Kept holds) (r : Registry) (names : List String) (start : holds r) :
    holds (names.foldl Registry.unregister r) := by
  induction names generalizing r with
  | nil => exact start
  | cons name rest ih => exact ih (r.unregister name) (kept.unregister r name start)

end Kept

theorem consistent_kept : Kept Consistent := ⟨empty_consistent, register_consistent, unregister_consistent⟩

theorem of_edits_consistent (edits : List Edit) : (ofEdits edits).Consistent := consistent_kept.of_edits edits

theorem same_away_of_maps (r after : Registry) (name : String) (consistent : r.Consistent)
    (afterConsistent : after.Consistent)
    (fields : ∀ other, other ≠ name → after.fields[other]? = r.fields[other]?)
    (precedents : ∀ other, other ≠ name → after.graph.precedents[other]? = r.graph.precedents[other]?) :
    SameAway name r after := by
  refine ⟨fields, precedents, ?_⟩
  intro other read different
  rw [dependentsOf, dependentsOf, afterConsistent.dependents, consistent.dependents,
    DependencyGraph.Reads, DependencyGraph.Reads, precedents other different]

theorem register_same_away (r after : Registry) (name : String) (spec : Spec) (consistent : r.Consistent)
    (registered : r.register name spec = .ok after) : SameAway name r after := by
  have afterConsistent := register_consistent r after name spec consistent registered
  obtain ⟨formula, names, _, _, rfl⟩ := register_cases r after name spec registered
  refine same_away_of_maps r _ name consistent afterConsistent ?_ ?_
  · intro other different
    simp [Std.ExtTreeMap.getElem?_insert, Ne.symm different]
  · intro other different
    simp [Std.ExtTreeMap.getElem?_insert, Ne.symm different]

theorem unregister_same_away (r : Registry) (name : String) (consistent : r.Consistent) :
    SameAway name r (r.unregister name) := by
  refine same_away_of_maps r _ name consistent (unregister_consistent r name consistent) ?_ ?_
  · intro other different
    by_cases member : name ∈ r.fields
    · simp [unregister_eq, member, Std.ExtTreeMap.getElem?_erase, Ne.symm different]
    · simp [unregister_eq, member]
  · intro other different
    by_cases member : name ∈ r.fields
    · simp [unregister_eq, member, Std.ExtTreeMap.getElem?_erase, Ne.symm different]
    · simp [unregister_eq, member]

theorem reads_graph (r : Registry) (consistent : r.Consistent) (field name : String)
    (edge : r.Reads field name) : r.graph.Reads field name := by
  obtain ⟨definition, found, member⟩ := edge
  exact ⟨definition.dependencies, consistent.edges field definition found, member⟩

theorem graph_reads (r : Registry) (consistent : r.Consistent) (field name : String)
    (edge : r.graph.Reads field name) : r.Reads field name := by
  obtain ⟨names, found, member⟩ := edge
  have registered : field ∈ r.fields :=
    (consistent.sameFields field).mpr (Std.ExtTreeMap.mem_iff_isSome_getElem?.mpr (found ▸ rfl))
  obtain ⟨definition, own⟩ := Option.isSome_iff_exists.mp (Std.ExtTreeMap.mem_iff_isSome_getElem?.mp registered)
  cases (consistent.edges field definition own).symm.trans found
  exact ⟨definition, own, member⟩

theorem register_holds (r left : Registry) (name : String) (spec : Spec) (consistent : r.Consistent)
    (registered : r.register name spec = .ok left) :
    ∃ formula names, parse spec.formula = ⟨.ok formula, names⟩ ∧ left.Holds name ⟨spec, formula, names⟩ := by
  have leftConsistent := register_consistent r left name spec consistent registered
  obtain ⟨formula, names, parsed, _, rfl⟩ := register_cases r left name spec registered
  have precedents : (r.graph.insert name names).precedents[name]? = some names := by simp
  refine ⟨formula, names, parsed, by simp [get?], precedents, ?_⟩
  intro read
  rw [dependentsOf, leftConsistent.dependents]
  exact DependencyGraph.insert_reads_here r.graph name read names

theorem unregister_lacks (r : Registry) (name : String) (consistent : r.Consistent) : (r.unregister name).Lacks name := by
  have leftConsistent := unregister_consistent r name consistent
  have gone : name ∉ (r.unregister name).fields := by
    rw [unregister_eq]
    split
    · simp
    · assumption
  have unread : name ∉ (r.unregister name).graph.precedents := fun member =>
    gone ((leftConsistent.sameFields name).mpr member)
  refine ⟨Std.ExtTreeMap.getElem?_eq_none gone, Std.ExtTreeMap.getElem?_eq_none unread, ?_⟩
  intro read
  rw [dependentsOf, leftConsistent.dependents]
  rintro ⟨names, found, _⟩
  rw [Std.ExtTreeMap.getElem?_eq_none unread] at found
  cases found

theorem registers_iff (r : Registry) (name : String) (spec : Spec) :
    (∃ left, (Update.register name spec).run r = .ok () left) ↔
      ∃ formula names, parse spec.formula = ⟨.ok formula, names⟩ ∧
        ¬ TransGen (r.graph.insert name names).Reads name name := by
  rw [Update.run_register]
  constructor
  · rintro ⟨left, ran⟩
    obtain ⟨formula, names, parsed, noCycle, _⟩ := register_cases r left name spec
      ((Update.outcome_ok _ r left).mpr ⟨(), by rw [Update.run_register, ran]⟩)
    exact ⟨formula, names, parsed, DependencyGraph.no_cycle_no_return r.graph name names noCycle⟩
  · rintro ⟨formula, names, parsed, noReturn⟩
    have noCycle : r.graph.cycle? name names = none := by
      cases found : r.graph.cycle? name names with
      | none => rfl
      | some cycle => exact absurd (DependencyGraph.cycle_returns r.graph name names cycle found) noReturn
    simp only [parsed, noCycle]
    exact ⟨_, rfl⟩

-- The invariant as a caller sees it, after any sequence of edits and for any edit that comes next.
theorem edits_keep_registry (edits : List Edit) :
    let r := ofEdits edits
    (∀ name, r.contains name = r.graph.contains name) ∧
      (∀ name definition, r.get? name = some definition →
        parse definition.spec.formula = ⟨.ok definition.formula, definition.dependencies⟩ ∧
          r.graph.precedents? name = some definition.dependencies) ∧
      (∀ name, ¬ TransGen r.Reads name name) ∧
      (∀ (e : Edit) cause left, e.update.run r = .error cause left → left = r) ∧
      (∀ name spec, (∃ left, (Update.register name spec).run r = .ok () left) ↔
        ∃ formula names, parse spec.formula = ⟨.ok formula, names⟩ ∧
          ¬ TransGen (r.graph.insert name names).Reads name name) ∧
      (∀ name spec left, (Update.register name spec).run r = .ok () left →
        SameAway name r left ∧
          ∃ formula names, parse spec.formula = ⟨.ok formula, names⟩ ∧ left.Holds name ⟨spec, formula, names⟩) ∧
      ∀ name, ∃ left, (Update.unregister name).run r = .ok (r.contains name) left ∧
        SameAway name r left ∧ left.Lacks name := by
  intro r
  have consistent : r.Consistent := of_edits_consistent edits
  refine ⟨?_, ?_, ?_, fun e cause left => failed_update_unchanged r left e cause, registers_iff r, ?_, ?_⟩
  · intro name
    have same := consistent.sameFields name
    rw [Bool.eq_iff_iff]
    simpa only [contains, DependencyGraph.contains, Std.ExtTreeMap.contains_iff_mem] using same
  · intro name definition found
    exact ⟨consistent.parsed name definition found, consistent.edges name definition found⟩
  · intro name way
    exact consistent.acyclic name (TransGen.mono (reads_graph r consistent) name name way)
  · intro name spec left ran
    have registered : r.register name spec = .ok left := (Update.outcome_ok _ r left).mpr ⟨(), ran⟩
    exact ⟨register_same_away r left name spec consistent registered,
      register_holds r left name spec consistent registered⟩
  · intro name
    refine ⟨r.unregister name, ?_, unregister_same_away r name consistent, unregister_lacks r name consistent⟩
    rw [Update.run_unregister, unregister_eq]

def partEdits : List Edit := [
  .register "Part" ⟨"{Count} / {Whole}", .percentage, 1⟩,
  .register "Twice" ⟨"{Part} * 2", .number, 2⟩]

-- The part is taken of something else, then would read what reads it, and then is no formula field any more.
theorem part_replaced_and_removed :
    let r := ofEdits partEdits
    r.dependentsOf "Whole" = ["Part"] ∧ r.dependentsOf "Part" = ["Twice"] ∧
      (∃ left, (Update.register "Part" ⟨"{Count} / {Sum}", .number, 3⟩).run r = .ok () left ∧
        (∃ formula names, left.Holds "Part" ⟨⟨"{Count} / {Sum}", .number, 3⟩, formula, names⟩ ∧
          names.toList = ["Count", "Sum"]) ∧ left.get? "Twice" = r.get? "Twice") ∧
      (∃ cause, (Update.register "Part" ⟨"{Twice} + 1", .number, 2⟩).run r = .error cause r) ∧
      ∃ left, (Update.unregister "Part").run r = .ok true left ∧ left.get? "Part" = none ∧
        left.get? "Twice" = r.get? "Twice" ∧ left.dependentsOf "Part" = ["Twice"] := by
  intro r
  obtain ⟨_, _, _, unchanged, _, stored, removed⟩ := edits_keep_registry partEdits
  refine ⟨by decide +kernel, by decide +kernel, ?_, ?_, ?_⟩
  · have known : ((Update.register "Part" ⟨"{Count} / {Sum}", .number, 3⟩).outcome r).isOk = true := by decide +kernel
    obtain ⟨left, ended⟩ := ok_of_isOk _ known
    obtain ⟨_, ran⟩ := (Update.outcome_ok _ r left).mp ended
    obtain ⟨away, formula, names, parsed, holds⟩ := stored "Part" _ left ran
    have read : (parse "{Count} / {Sum}").dependencies.toList = ["Count", "Sum"] := by decide +kernel
    rw [parsed] at read
    exact ⟨left, ran, ⟨formula, names, holds, read⟩, away.fields "Twice" (by decide)⟩
  · have known : ((Update.register "Part" ⟨"{Twice} + 1", .number, 2⟩).outcome r).isOk = false := by decide +kernel
    cases ended : (Update.register "Part" ⟨"{Twice} + 1", .number, 2⟩).outcome r with
    | ok left =>
        rw [ended] at known
        cases known
    | error cause =>
        obtain ⟨left, ran⟩ := (Update.outcome_error _ r cause).mp ended
        obtain rfl := unchanged (.register "Part" ⟨"{Twice} + 1", .number, 2⟩) cause left ran
        exact ⟨cause, ran⟩
  · obtain ⟨left, ran, away, lacks⟩ := removed "Part"
    have found : r.contains "Part" = true := by decide +kernel
    have readers : (r.unregister "Part").dependentsOf "Part" = ["Twice"] := by decide +kernel
    rw [unregister, Update.left, ran] at readers
    exact ⟨left, found ▸ ran, lacks.field, away.fields "Twice" (by decide), readers⟩

end Registry

end FormulaField
