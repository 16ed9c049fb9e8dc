import FormulaField.Proofs.Registry.Batch

set_option autoImplicit false

namespace FormulaField.Registry

-- An order for a batch: every field once, and after all fields that it reads.
structure Schedule (r : Registry) (names : List String) : Prop where
  once : names.Perm r.names
  ordered : ∀ before field later, names = before ++ field :: later →
    ∀ read, r.Reads field read → r.contains read → read ∈ before

-- A record after a calculation of all fields: the plain fields as before, and every other field as it is
-- calculated on the record itself.
structure Settled (r : Registry) (settings : Settings) (before after : Record) : Prop where
  plain : ∀ name, name ∉ r.fields → after[name]? = before[name]?
  calculated : ∀ name result, r.calculate name after settings = .ok result → after[name]? = result.entry?

structure SameWithin (scope : String → Prop) (r other : Registry) : Prop where
  closed : ∀ field read, scope field → r.graph.Reads field read → scope read
  fields : ∀ field, scope field → r.fields[field]? = other.fields[field]?

theorem calculate_member (r : Registry) (name : String) (record : Record) (settings : Settings)
    (member : name ∈ r.fields) : ∃ result, r.calculate name record settings = .ok result := by
  obtain ⟨definition, found⟩ :=
    Option.isSome_iff_exists.mp (Std.ExtTreeMap.mem_iff_isSome_getElem?.mp member)
  exact ⟨definition.calculate record settings, by simp only [calculate, found]⟩

theorem calculate_plain (r : Registry) (name : String) (record : Record) (settings : Settings)
    (plain : name ∉ r.fields) : r.calculate name record settings = .error (.unknownField name) := by
  have absent : r.fields[name]? = none := by simpa using plain
  simp only [calculate, absent]

theorem within_calculate (scope : String → Prop) (r other : Registry) (consistent : r.Consistent)
    (within : SameWithin scope r other) (settings : Settings) (field : String) (inside : scope field)
    (one two : Record) (agree : ∀ read, r.graph.Reads field read → one[read]? = two[read]?) :
    r.calculate field one settings = other.calculate field two settings := by
  rw [calculate_agree r consistent field two one settings agree, calculate, calculate, within.fields field inside]

theorem settled_agree (scope : String → Prop) (r other : Registry) (consistent : r.Consistent)
    (within : SameWithin scope r other) (settings : Settings) (before one two : Record)
    (first : r.Settled settings before one) (second : other.Settled settings before two) (name : String)
    (inside : scope name) : one[name]? = two[name]? := by
  induction name using r.graph.acyclic_induction consistent.acyclic with
  | step field ih =>
      have agree : ∀ read, r.graph.Reads field read → one[read]? = two[read]? := fun read edge =>
        ih read edge (within.closed field read inside edge)
      have same := within_calculate scope r other consistent within settings field inside one two agree
      by_cases member : field ∈ r.fields
      · obtain ⟨result, calculated⟩ := calculate_member r field one settings member
        rw [first.calculated field result calculated, second.calculated field result (same ▸ calculated)]
      · have otherPlain : field ∉ other.fields := by
          rw [Std.ExtTreeMap.mem_iff_isSome_getElem?] at member ⊢
          rwa [← within.fields field inside]
        rw [first.plain field member, second.plain field otherPlain]

theorem settled_unique (r : Registry) (consistent : r.Consistent) (settings : Settings) (before one two : Record)
    (first : r.Settled settings before one) (second : r.Settled settings before two) : one = two := by
  apply Std.ExtTreeMap.ext_getElem?
  intro name
  exact settled_agree (fun _ => True) r r consistent ⟨fun _ _ _ _ => trivial, fun _ _ => rfl⟩ settings before one two
    first second name trivial

section

variable (r : Registry) (settings : Settings) (record : Record) (names : List String) (batch : Record × Report)
  (all : r.Calculated settings record names batch) (perm : names.Perm r.names)

include all perm

theorem mem_results (name : String) (result : Result) :
    (name, result) ∈ batch.2.results ↔ r.calculate name batch.1 settings = .ok result := by
  constructor
  · exact all.settled name result
  · intro calculated
    have member : name ∈ r.fields := by
      by_contra plain
      rw [calculate_plain r name batch.1 settings plain] at calculated
      cases calculated
    have listed : name ∈ batch.2.results.map Prod.fst := by
      rw [all.names]
      exact perm.mem_iff.mpr (Std.ExtTreeMap.mem_keys.mpr member)
    obtain ⟨⟨_, own⟩, reported, rfl⟩ := List.mem_map.mp listed
    cases (all.settled _ own reported).symm.trans calculated
    exact reported

theorem results_nodup : batch.2.results.Nodup := by
  apply List.Nodup.of_map Prod.fst
  rw [all.names]
  exact perm.nodup_iff.mpr Std.ExtTreeMap.nodup_keys

theorem calculated_settled : r.Settled settings record batch.1 := by
  constructor
  · intro name plain
    exact all.untouched name fun member => plain (Std.ExtTreeMap.mem_keys.mp (perm.mem_iff.mp member))
  · intro name result calculated
    exact all.stored name result ((mem_results r settings record names batch all perm name result).mpr calculated)

theorem calculated_get (name : String) :
    batch.2.get? name = (r.calculate name batch.1 settings).toOption := by
  have listed := mem_results r settings record names batch all perm
  rw [Report.get?]
  cases found : batch.2.results.lookup name with
  | some result =>
      obtain ⟨before, after, split, _⟩ := List.lookup_eq_some_iff.mp found
      rw [(listed name result).mp (by simp [split])]
      rfl
  | none =>
      cases calculated : r.calculate name batch.1 settings with
      | error cause => rfl
      | ok result =>
          have absent := List.lookup_eq_none_iff.mp found (name, result) ((listed name result).mpr calculated)
          simp at absent

end

theorem schedule_pairwise (r : Registry) (consistent : r.Consistent) (names : List String)
    (schedule : r.Schedule names) : names.Pairwise fun earlier later => ¬ r.graph.Reads earlier later := by
  have nodup : names.Nodup := schedule.once.nodup_iff.mpr Std.ExtTreeMap.nodup_keys
  suffices rest : ∀ before after, names = before ++ after →
      after.Pairwise fun earlier later => ¬ r.graph.Reads earlier later from rest [] names rfl
  intro before after split
  induction after generalizing before with
  | nil => exact .nil
  | cons field later ih =>
      refine .cons ?_ (ih (before ++ [field]) (by simp [split]))
      intro read inLater edge
      have registered : r.contains read := by
        rw [contains, Std.ExtTreeMap.contains_iff_mem]
        exact Std.ExtTreeMap.mem_keys.mp (schedule.once.mem_iff.mp (by simp [split, inLater]))
      have earlier := schedule.ordered before field later split read (graph_reads r consistent field read edge) registered
      rw [split] at nodup
      exact (List.nodup_append.mp nodup).2.2 read earlier read (by simp [inLater]) rfl

theorem schedule_of_pairwise (r : Registry) (consistent : r.Consistent) (names : List String)
    (perm : names.Perm r.names) (pairwise : names.Pairwise fun earlier later => ¬ r.graph.Reads earlier later) :
    r.Schedule names := by
  refine ⟨perm, ?_⟩
  intro before field later split read edge registered
  rw [contains, Std.ExtTreeMap.contains_iff_mem] at registered
  have graphEdge := reads_graph r consistent field read edge
  have listed : read ∈ names := perm.mem_iff.mpr (Std.ExtTreeMap.mem_keys.mpr registered)
  rw [split] at listed pairwise
  rcases List.mem_append.mp listed with earlier | notEarlier
  · exact earlier
  rcases List.mem_cons.mp notEarlier with same | inLater
  · subst same
    exact absurd (.single graphEdge) (consistent.acyclic read)
  · exact absurd graphEdge ((List.pairwise_cons.mp (List.pairwise_append.mp pairwise).2.1).1 read inLater)

theorem calculation_order_schedule (r : Registry) (consistent : r.Consistent) : r.Schedule r.calculationOrder :=
  schedule_of_pairwise r consistent _ (calculation_order_perm r consistent)
    (r.graph.acyclic_order_pairwise consistent.acyclic)

theorem schedule_calculated (r : Registry) (consistent : r.Consistent) (settings : Settings) (record : Record)
    (names : List String) (schedule : r.Schedule names) :
    r.Calculated settings record names (r.calculateList settings names record) :=
  calculate_list_calculated r consistent settings record names
    (fun _ member => Std.ExtTreeMap.mem_keys.mp (schedule.once.mem_iff.mp member))
    (schedule.once.nodup_iff.mpr Std.ExtTreeMap.nodup_keys) (schedule_pairwise r consistent names schedule)

-- After any sequence of edits the fields in the order of any schedule come to the record of a batch and to its
-- result for each field.
theorem schedules_agree (edits : List Edit) (settings : Settings) (record : Record) (names : List String)
    (schedule : (ofEdits edits).Schedule names) :
    let batch := (ofEdits edits).calculateList settings names record
    let usual := (ofEdits edits).calculateAll record settings
    batch.1 = usual.1 ∧ batch.2.results.map Prod.fst = names ∧ batch.2.results.Perm usual.2.results ∧
      ∀ name, batch.2.get? name = usual.2.get? name := by
  intro batch usual
  have consistent := of_edits_consistent edits
  have usualSchedule := calculation_order_schedule _ consistent
  have all : (ofEdits edits).Calculated settings record names batch :=
    schedule_calculated _ consistent settings record names schedule
  have usualAll : (ofEdits edits).Calculated settings record (ofEdits edits).calculationOrder usual :=
    schedule_calculated _ consistent settings record _ usualSchedule
  have same : batch.1 = usual.1 :=
    settled_unique _ consistent settings record _ _ (calculated_settled _ _ _ _ _ all schedule.once)
      (calculated_settled _ _ _ _ _ usualAll usualSchedule.once)
  refine ⟨same, all.names, ?_, ?_⟩
  · refine (List.perm_ext_iff_of_nodup (results_nodup _ _ _ _ _ all schedule.once)
      (results_nodup _ _ _ _ _ usualAll usualSchedule.once)).mpr ?_
    rintro ⟨name, result⟩
    rw [mem_results _ _ _ _ _ all schedule.once, mem_results _ _ _ _ _ usualAll usualSchedule.once]
    exact iff_of_eq (congrArg (fun record => (ofEdits edits).calculate name record settings = .ok result) same)
  · intro name
    rw [calculated_get _ _ _ _ _ all schedule.once, calculated_get _ _ _ _ _ usualAll usualSchedule.once]
    exact congrArg (fun record => ((ofEdits edits).calculate name record settings).toOption) same

instance (g : DependencyGraph) (field name : String) : Decidable (g.Reads field name) :=
  decidable_of_iff (∃ names ∈ g.precedents[field]?, name ∈ names) Iff.rfl

def shareEdits : List Edit := [
  .register "Rest" ⟨"{Price} - {Share}", .currency, 2⟩,
  .register "Share" ⟨"{Price} / {Parts}", .currency, 2⟩,
  .register "Title" ⟨"UPPER({Name})", .text, 0⟩]

def oldShare : Record := ((∅ : Record).insert "Price" (.value (.number 8))).insert "Share" (.value (.number 3))

theorem title_calculated_first :
    (ofEdits shareEdits).calculationOrder ≠ ["Title", "Share", "Rest"] ∧
      (ofEdits shareEdits).Schedule ["Title", "Share", "Rest"] ∧
      ((ofEdits shareEdits).calculateList { now := ⟨0, 0⟩ } ["Title", "Share", "Rest"] oldShare).1 =
        ((ofEdits shareEdits).calculateAll oldShare { now := ⟨0, 0⟩ }).1 := by
  have schedule : (ofEdits shareEdits).Schedule ["Title", "Share", "Rest"] := by
    refine schedule_of_pairwise _ (of_edits_consistent shareEdits) _ ?_ ?_
    · decide +kernel
    · decide +kernel
  exact ⟨by decide +kernel, schedule, (schedules_agree shareEdits { now := ⟨0, 0⟩ } oldShare _ schedule).1⟩

end FormulaField.Registry
