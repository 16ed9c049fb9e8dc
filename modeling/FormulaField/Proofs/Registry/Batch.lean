import FormulaField.Proofs.Dependency.CalculationOrder
import FormulaField.Proofs.Formula.Agreement
import FormulaField.Proofs.Registry.Invariant
import FormulaField.Registry.Calculation
import Mathlib.Data.List.Induction

set_option autoImplicit false

namespace FormulaField

def Result.entry? (result : Result) : Option Field :=
  if result.succeeded then some (.value result.value) else none

def Settings.seen (settings : Settings) (record : Record) (name : String) : Value :=
  Context.fieldValue ⟨record, settings.resolver, settings.view, settings.now⟩ name

namespace Registry

-- A batch that is through with some fields: what it reports, and what it has made of the record.
structure Calculated (r : Registry) (settings : Settings) (record : Record) (done : List String)
    (batch : Record × Report) : Prop where
  names : batch.2.results.map Prod.fst = done
  calculated : batch.2.calculated = done.length
  errors : batch.2.errors = batch.2.results.countP fun entry => !entry.2.succeeded
  untouched : ∀ name, name ∉ done → batch.1[name]? = record[name]?
  stored : ∀ name result, (name, result) ∈ batch.2.results → batch.1[name]? = result.entry?
  settled : ∀ name result, (name, result) ∈ batch.2.results → r.calculate name batch.1 settings = .ok result

theorem with_result_here (record : Record) (name : String) (result : Result) :
    (record.withResult name result)[name]? = result.entry? := by
  cases outcome : result.outcome with
  | ok v => simp [Record.withResult, Result.entry?, Result.succeeded, Result.value, outcome, Except.isOk, Except.toBool]
  | error e => simp [Record.withResult, Result.entry?, Result.succeeded, outcome, Except.isOk, Except.toBool]

theorem with_result_elsewhere (record : Record) (name other : String) (result : Result) (different : other ≠ name) :
    (record.withResult name result)[other]? = record[other]? := by
  cases outcome : result.outcome with
  | ok v => simp [Record.withResult, outcome, Std.ExtTreeMap.getElem?_insert, Ne.symm different]
  | error e => simp [Record.withResult, outcome, Std.ExtTreeMap.getElem?_erase, Ne.symm different]

theorem seen_same (settings : Settings) (one other : Record) (name : String) (same : one[name]? = other[name]?) :
    settings.seen one name = settings.seen other name :=
  field_value_agree ⟨other, settings.resolver, settings.view, settings.now⟩ one name same

theorem calculate_seen (r : Registry) (consistent : r.Consistent) (name : String) (one other : Record)
    (settings : Settings) (alike : ∀ read, r.graph.Reads name read → settings.seen one read = settings.seen other read) :
    r.calculate name one settings = r.calculate name other settings := by
  cases found : r.fields[name]? with
  | none => simp only [calculate, found]
  | some definition =>
      have fields := (parse_sound _ _ _ (consistent.parsed name definition found)).1
      have sameOutcome : definition.outcome one settings = definition.outcome other settings := by
        refine evaluate_agree _ _ definition.formula rfl ?_
        intro read member
        apply alike
        exact ⟨definition.dependencies, consistent.edges name definition found,
          fields ▸ (mem_fields definition.formula read).mpr member⟩
      simp only [calculate, found, Definition.calculate, sameOutcome]

theorem calculate_agree (r : Registry) (consistent : r.Consistent) (name : String) (before after : Record)
    (settings : Settings) (agree : ∀ read, r.graph.Reads name read → after[read]? = before[read]?) :
    r.calculate name after settings = r.calculate name before settings :=
  calculate_seen r consistent name after before settings
    (fun read edge => seen_same settings after before read (agree read edge))

theorem calculated_nothing (r : Registry) (settings : Settings) (record : Record) :
    r.Calculated settings record [] (record, {}) := by
  constructor <;> simp

theorem calculate_next_calculated (r : Registry) (consistent : r.Consistent) (settings : Settings)
    (record : Record) (done : List String) (batch : Record × Report) (name : String)
    (before : r.Calculated settings record done batch) (member : name ∈ r.fields) (fresh : name ∉ done)
    (notEarlier : ∀ earlier ∈ done, ¬ r.graph.Reads earlier name) (notItself : ¬ r.graph.Reads name name) :
    r.Calculated settings record (done ++ [name]) (r.calculateNext settings batch name) := by
  obtain ⟨definition, found⟩ :=
    Option.isSome_iff_exists.mp (Std.ExtTreeMap.mem_iff_isSome_getElem?.mp member)
  have stays : ∀ field, ¬ r.graph.Reads field name →
      r.calculate field (batch.1.withResult name (definition.calculate batch.1 settings)) settings =
        r.calculate field batch.1 settings := by
    intro field away
    refine calculate_agree r consistent field _ _ settings ?_
    intro read edge
    exact with_result_elsewhere _ name read _ (fun same => away (same ▸ edge))
  have inDone : ∀ other result, (other, result) ∈ batch.2.results → other ∈ done := by
    intro other result reported
    rw [← before.names]
    exact List.mem_map_of_mem reported
  have next : r.calculateNext settings batch name =
      (batch.1.withResult name (definition.calculate batch.1 settings),
        batch.2.add name (definition.calculate batch.1 settings)) := by
    simp only [calculateNext, found]
  have here : r.calculate name batch.1 settings = .ok (definition.calculate batch.1 settings) := by
    simp only [calculate, found]
  rw [next]
  generalize definition.calculate batch.1 settings = result at stays here ⊢
  refine ⟨by simp [Report.add, before.names], by simp [Report.add, before.calculated], ?_, ?_, ?_, ?_⟩
  · cases success : result.succeeded <;> simp [Report.add, before.errors, success]
  · intro other away
    simp only [List.mem_append, List.mem_singleton, not_or] at away
    rw [with_result_elsewhere _ name other result away.2, before.untouched other away.1]
  · intro other reported listed
    rcases List.mem_append.mp listed with earlier | last
    · have different : other ≠ name := fun same => fresh (same ▸ inDone other reported earlier)
      rw [with_result_elsewhere _ name other result different, before.stored other reported earlier]
    · cases List.mem_singleton.mp last
      exact with_result_here batch.1 _ _
  · intro other reported listed
    rcases List.mem_append.mp listed with earlier | last
    · rw [stays other (notEarlier other (inDone other reported earlier)), before.settled other reported earlier]
    · cases List.mem_singleton.mp last
      rw [stays _ notItself, here]

theorem calculate_list_calculated (r : Registry) (consistent : r.Consistent) (settings : Settings)
    (record : Record) (names : List String) (fields : ∀ name ∈ names, name ∈ r.fields) (nodup : names.Nodup)
    (ordered : names.Pairwise fun earlier later => ¬ r.graph.Reads earlier later) :
    r.Calculated settings record names (r.calculateList settings names record) := by
  induction names using List.reverseRecOn with
  | nil => exact calculated_nothing r settings record
  | append_singleton done name ih =>
      obtain ⟨doneNodup, _, apart⟩ := List.nodup_append.mp nodup
      obtain ⟨doneOrdered, _, notEarlier⟩ := List.pairwise_append.mp ordered
      have before := ih (fun other member => fields other (List.mem_append_left _ member)) doneNodup doneOrdered
      rw [calculateList, List.foldl_append]
      refine calculate_next_calculated r consistent settings record done _ name before (fields name (by simp))
        (fun member => apart name member name (by simp) rfl)
        (fun earlier member => notEarlier earlier member name (by simp)) ?_
      exact fun edge => consistent.acyclic name (.single edge)

theorem calculate_all_calculated (r : Registry) (consistent : r.Consistent) (settings : Settings)
    (record : Record) :
    r.Calculated settings record r.calculationOrder (r.calculateAll record settings) := by
  refine calculate_list_calculated r consistent settings record r.calculationOrder ?_
    (DependencyGraph.calculation_order_nodup r.graph)
    (DependencyGraph.acyclic_order_pairwise r.graph consistent.acyclic)
  intro name member
  exact (consistent.sameFields name).mpr ((DependencyGraph.mem_calculation_order r.graph name).mp member)

theorem calculation_order_perm (r : Registry) (consistent : r.Consistent) : r.calculationOrder.Perm r.names := by
  refine (List.perm_ext_iff_of_nodup (DependencyGraph.calculation_order_nodup r.graph)
    (Std.ExtTreeMap.nodup_keys)).mpr ?_
  intro name
  exact (DependencyGraph.mem_calculation_order r.graph name).trans
    ((consistent.sameFields name).symm.trans Std.ExtTreeMap.mem_keys.symm)

-- After any sequence of edits a batch reports every field once, leaves the plain fields alone and
-- puts the results in place of the others; and its record gives each result again.
theorem batch_consistent (edits : List Edit) (record : Record) (settings : Settings) :
    let r := ofEdits edits
    let batch := r.calculateAll record settings
    (batch.2.results.map Prod.fst).Perm r.names ∧
      batch.2.calculated = r.size ∧
      (batch.2.errors = batch.2.results.countP fun entry => !entry.2.succeeded) ∧
      (∀ name, ¬ r.contains name → batch.1[name]? = record[name]?) ∧
      ∀ name result, (name, result) ∈ batch.2.results →
        batch.1[name]? = (if result.succeeded then some (.value result.value) else none) ∧
          r.calculate name batch.1 settings = .ok result := by
  intro r batch
  have consistent : r.Consistent := of_edits_consistent edits
  have all : r.Calculated settings record r.calculationOrder batch :=
    calculate_all_calculated r consistent settings record
  have perm := calculation_order_perm r consistent
  refine ⟨all.names ▸ perm, ?_, all.errors, ?_, ?_⟩
  · rw [all.calculated, perm.length_eq]
    exact Std.ExtTreeMap.length_keys
  · intro name plain
    apply all.untouched
    intro member
    apply plain
    rw [contains, Std.ExtTreeMap.contains_iff_mem]
    exact Std.ExtTreeMap.mem_keys.mp (perm.mem_iff.mp member)
  · intro name result reported
    exact ⟨all.stored name result reported, all.settled name result reported⟩

def noWhole : Record :=
  (((∅ : Record).insert "Count" (.value (.number 1))).insert "Part" (.value (.number 5))).insert "Whole" (.value (.number 0))

-- The part fails. Its old value is taken out of the record before it is doubled.
theorem part_fails_in_batch :
    let r := ofEdits partEdits
    let batch := r.calculateAll noWhole { now := ⟨0, 0⟩ }
    batch.2.results.map (fun entry => (entry.1, entry.2.shown)) = [("Part", "#ERROR!"), ("Twice", "0.00")] ∧
      batch.2.calculated = 2 ∧ batch.2.errors = 1 ∧ batch.1["Whole"]? = noWhole["Whole"]? ∧ batch.1["Part"]? = none ∧
      ∃ result, batch.1["Twice"]? = some (.value result.value) ∧
        r.calculate "Twice" batch.1 { now := ⟨0, 0⟩ } = .ok result := by
  intro r batch
  obtain ⟨_, calculated, errors, plain, entries⟩ := batch_consistent partEdits noWhole { now := ⟨0, 0⟩ }
  have size : r.size = 2 := by decide +kernel
  have failed : (batch.2.results.countP fun entry => !entry.2.succeeded) = 1 := by decide +kernel
  have reported : batch.2.results.map (fun entry => (entry.1, entry.2.succeeded)) = [("Part", false), ("Twice", true)] := by
    decide +kernel
  refine ⟨by decide +kernel, calculated.trans size, errors.trans failed, plain "Whole" (by decide +kernel), ?_⟩
  obtain ⟨⟨_, part⟩, others, results, first, rest⟩ := List.map_eq_cons_iff.mp reported
  obtain ⟨⟨_, twice⟩, none, rfl, second, _⟩ := List.map_eq_cons_iff.mp rest
  obtain ⟨rfl, partFailed⟩ := Prod.mk.inj first
  obtain ⟨rfl, twiceSucceeded⟩ := Prod.mk.inj second
  have ofPart := entries "Part" part (results ▸ by simp)
  have ofTwice := entries "Twice" twice (results ▸ by simp)
  rw [partFailed] at ofPart
  rw [twiceSucceeded] at ofTwice
  exact ⟨ofPart.1, twice, ofTwice⟩

end Registry

end FormulaField
