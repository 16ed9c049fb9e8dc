import FormulaField.Proofs.Registry.Batch

set_option autoImplicit false

namespace FormulaField.Registry

-- Formulas see the same in two records where they read them, except at some names.
def SeenAlike (r : Registry) (settings : Settings) (names : List String) (one other : Record) : Prop :=
  ∀ reader name, r.graph.Reads reader name → name ∉ names → settings.seen one name = settings.seen other name

theorem with_result_seen (r : Registry) (settings : Settings) (names : List String) (one other : Record) (name : String)
    (result : Result) (alike : r.SeenAlike settings (name :: names) one other) :
    r.SeenAlike settings names (one.withResult name result) (other.withResult name result) := by
  intro reader read edge away
  by_cases same : read = name
  · subst same
    apply seen_same
    rw [with_result_here, with_result_here]
  · rw [seen_same settings _ one read (with_result_elsewhere one name read result same),
      seen_same settings _ other read (with_result_elsewhere other name read result same)]
    exact alike reader read edge (by simp [same, away])

theorem calculate_next_report (r : Registry) (consistent : r.Consistent) (settings : Settings)
    (name : String) (names : List String) (one other : Record) (report : Report) (member : name ∈ r.fields)
    (notLater : ∀ later ∈ name :: names, ¬ r.graph.Reads name later)
    (alike : r.SeenAlike settings (name :: names) one other) :
    ∃ result : Result,
      r.calculateNext settings (one, report) name = (one.withResult name result, report.add name result) ∧
        r.calculateNext settings (other, report) name = (other.withResult name result, report.add name result) := by
  obtain ⟨definition, found⟩ :=
    Option.isSome_iff_exists.mp (Std.ExtTreeMap.mem_iff_isSome_getElem?.mp member)
  have same : r.calculate name one settings = r.calculate name other settings := by
    refine calculate_seen r consistent name one other settings ?_
    exact fun read edge => alike name read edge (fun later => notLater read later edge)
  simp only [calculate, found, Except.ok.injEq] at same
  refine ⟨definition.calculate one settings, ?_, ?_⟩
  · simp only [calculateNext, found]
  · simp only [calculateNext, found, same]

-- Two runs over fields in which none reads a later one or itself. What the records hold under these
-- fields is overwritten or removed before it is read.
theorem calculate_list_report (r : Registry) (consistent : r.Consistent) (settings : Settings)
    (names : List String) (fields : ∀ name ∈ names, name ∈ r.fields)
    (ordered : names.Pairwise fun earlier later => ¬ r.graph.Reads earlier later)
    (one other : Record) (report : Report) (alike : r.SeenAlike settings names one other) :
    (names.foldl (r.calculateNext settings) (one, report)).2 =
      (names.foldl (r.calculateNext settings) (other, report)).2 := by
  induction names generalizing one other report with
  | nil => rfl
  | cons name rest ih =>
      obtain ⟨notLater, restOrdered⟩ := List.pairwise_cons.mp ordered
      have notItself : ¬ r.graph.Reads name name := fun edge => consistent.acyclic name (.single edge)
      obtain ⟨result, first, second⟩ := calculate_next_report r consistent settings name rest one other report
        (fields name (by simp)) (List.forall_mem_cons.mpr ⟨notItself, notLater⟩) alike
      rw [List.foldl_cons, List.foldl_cons, first, second]
      exact ih (fun other inRest => fields other (by simp [inRest])) restOrdered _ _ _
        (with_result_seen r settings rest one other name result alike)

theorem calculate_all_report (r : Registry) (consistent : r.Consistent) (settings : Settings)
    (one other : Record) (alike : r.SeenAlike settings r.names one other) :
    (r.calculateAll one settings).2 = (r.calculateAll other settings).2 := by
  have perm := calculation_order_perm r consistent
  refine calculate_list_report r consistent settings r.calculationOrder ?_
    (DependencyGraph.acyclic_order_pairwise r.graph consistent.acyclic) one other {} ?_
  · exact fun name member => Std.ExtTreeMap.mem_keys.mp (perm.mem_iff.mp member)
  · exact fun reader name edge away => alike reader name edge (fun member => away (perm.mem_iff.mpr member))

theorem calculated_entry (r : Registry) (settings : Settings) (one other : Record) (done : List String)
    (batch again : Record × Report) (first : r.Calculated settings one done batch)
    (second : r.Calculated settings other done again) (sameReport : batch.2 = again.2) (name : String)
    (member : name ∈ done) : batch.1[name]? = again.1[name]? := by
  rw [← first.names] at member
  obtain ⟨⟨_, result⟩, reported, rfl⟩ := List.mem_map.mp member
  rw [first.stored _ result reported, second.stored _ result (sameReport ▸ reported)]

theorem calculate_all_entry (r : Registry) (consistent : r.Consistent) (settings : Settings)
    (one other : Record) (alike : r.SeenAlike settings r.names one other) (name : String) :
    (name ∈ r.fields → (r.calculateAll one settings).1[name]? = (r.calculateAll other settings).1[name]?) ∧
      (name ∉ r.fields → (r.calculateAll one settings).1[name]? = one[name]?) := by
  have perm := calculation_order_perm r consistent
  have first := calculate_all_calculated r consistent settings one
  have second := calculate_all_calculated r consistent settings other
  have listed : name ∈ r.calculationOrder ↔ name ∈ r.fields :=
    perm.mem_iff.trans Std.ExtTreeMap.mem_keys
  constructor
  · intro member
    exact calculated_entry r settings one other r.calculationOrder _ _ first second
      (calculate_all_report r consistent settings one other alike) name (listed.mpr member)
  · exact fun plain => first.untouched name (fun member => plain (listed.mp member))

theorem calculate_all_agree (r : Registry) (consistent : r.Consistent) (settings : Settings)
    (one other : Record) (agree : ∀ name, name ∉ r.fields → one[name]? = other[name]?) :
    r.calculateAll one settings = r.calculateAll other settings := by
  have alike : r.SeenAlike settings r.names one other := fun _ name _ away =>
    seen_same settings one other name (agree name (fun member => away (Std.ExtTreeMap.mem_keys.mpr member)))
  have back : r.SeenAlike settings r.names other one := fun reader name edge away =>
    (alike reader name edge away).symm
  refine Prod.ext ?_ (calculate_all_report r consistent settings one other alike)
  apply Std.ExtTreeMap.ext_getElem?
  intro name
  obtain ⟨calculated, untouched⟩ := calculate_all_entry r consistent settings one other alike name
  by_cases member : name ∈ r.fields
  · exact calculated member
  · rw [untouched member, (calculate_all_entry r consistent settings other one back name).2 member,
      agree name member]

-- After any sequence of edits a batch makes the same of two records that agree on the plain fields,
-- whatever they hold under the others, and a second batch on its record makes the same again.
theorem batch_forgets_results (edits : List Edit) (settings : Settings) (one other : Record)
    (agree : ∀ name, ¬ (ofEdits edits).contains name → one[name]? = other[name]?) :
    (ofEdits edits).calculateAll one settings = (ofEdits edits).calculateAll other settings ∧
      (ofEdits edits).calculateAll ((ofEdits edits).calculateAll one settings).1 settings =
        (ofEdits edits).calculateAll one settings := by
  have consistent := of_edits_consistent edits
  have all := calculate_all_calculated (ofEdits edits) consistent settings one
  have perm := calculation_order_perm (ofEdits edits) consistent
  refine ⟨calculate_all_agree _ consistent settings one other ?_,
    calculate_all_agree _ consistent settings _ one ?_⟩
  · intro name plain
    exact agree name (by rwa [contains, Std.ExtTreeMap.contains_iff_mem])
  · intro name plain
    exact all.untouched name (fun member => plain (Std.ExtTreeMap.mem_keys.mp (perm.mem_iff.mp member)))

def ratioEdits : List Edit :=
  [.register "Twice" ⟨"{Ratio} * 2", .number, 2⟩, .register "Ratio" ⟨"{Part} / {Whole}", .percentage, 1⟩]

def partOnly (oldRatio : Field) : Record :=
  ((∅ : Record).insert "Part" (.value (.number 1))).insert "Ratio" oldRatio

def oldCell : Field := .cell ⟨[⟨.number 5, some ⟨0, 0⟩, none⟩]⟩

theorem old_ratio_forgotten :
    (∀ name, ¬ (ofEdits ratioEdits).contains name →
        (partOnly (.value (.number 7)))[name]? = (partOnly oldCell)[name]?) ∧
      (ofEdits ratioEdits).calculateAll (partOnly (.value (.number 7))) { now := ⟨0, 0⟩ } =
        (ofEdits ratioEdits).calculateAll (partOnly oldCell) { now := ⟨0, 0⟩ } := by
  have ratio : (ofEdits ratioEdits).contains "Ratio" = true := by decide +kernel
  have agree : ∀ name, ¬ (ofEdits ratioEdits).contains name →
      (partOnly (.value (.number 7)))[name]? = (partOnly oldCell)[name]? := by
    intro name plain
    have different : name ≠ "Ratio" := fun same => plain (same ▸ ratio)
    simp [partOnly, Std.ExtTreeMap.getElem?_insert, Ne.symm different]
  exact ⟨agree, (batch_forgets_results ratioEdits _ _ _ agree).1⟩

end FormulaField.Registry
