import FormulaField.Proofs.Registry.Schedules

set_option autoImplicit false

namespace FormulaField.Registry

open Relation (ReflTransGen TransGen reflTransGen_iff_eq_or_transGen)

theorem within_needed (r other : Registry) (consistent : r.Consistent) (field : String)
    (same : ∀ name, ReflTransGen r.Reads field name → r.get? name = other.get? name) :
    SameWithin (ReflTransGen r.Reads field) r other :=
  ⟨fun reader read needed edge => needed.tail (graph_reads r consistent reader read edge), same⟩

theorem needed_result (r other : Registry) (consistent : r.Consistent) (otherConsistent : other.Consistent)
    (settings : Settings) (record : Record) (field : String)
    (same : ∀ name, ReflTransGen r.Reads field name → r.get? name = other.get? name) :
    (r.calculateAll record settings).2.get? field = (other.calculateAll record settings).2.get? field := by
  have within := within_needed r other consistent field same
  have perm := calculation_order_perm r consistent
  have otherPerm := calculation_order_perm other otherConsistent
  have all := calculate_all_calculated r consistent settings record
  have otherAll := calculate_all_calculated other otherConsistent settings record
  rw [calculated_get r settings record _ _ all perm, calculated_get other settings record _ _ otherAll otherPerm]
  refine congrArg Except.toOption ?_
  refine within_calculate _ r other consistent within settings field .refl _ _ fun read edge => ?_
  exact settled_agree _ r other consistent within settings record _ _ (calculated_settled r settings record _ _ all perm)
    (calculated_settled other settings record _ _ otherAll otherPerm) read (within.closed field read .refl edge)

theorem reported_member (r : Registry) (consistent : r.Consistent) (settings : Settings) (record : Record) (name : String)
    (member : name ∈ r.fields) : ∃ result, (r.calculateAll record settings).2.get? name = some result := by
  obtain ⟨result, calculated⟩ := calculate_member r name (r.calculateAll record settings).1 settings member
  refine ⟨result, ?_⟩
  rw [calculated_get r settings record _ _ (calculate_all_calculated r consistent settings record)
    (calculation_order_perm r consistent), calculated]
  rfl

theorem unregister_all_elsewhere (r : Registry) (names : List String) (consistent : r.Consistent) (other : String)
    (away : other ∉ names) : (names.foldl unregister r).get? other = r.get? other := by
  induction names generalizing r with
  | nil => rfl
  | cons name rest ih =>
      obtain ⟨different, awayRest⟩ := List.ne_and_not_mem_of_not_mem_cons away
      rw [List.foldl_cons, ih (r.unregister name) (unregister_consistent r name consistent) awayRest,
        (unregister_same_away r name consistent).fields other different]

theorem needed_not_unread (reads : String → String → Prop) (field name other : String) (different : other ≠ field)
    (unread : ¬ TransGen reads field other) (needed : ReflTransGen reads field name) : name ≠ other := by
  rintro rfl
  exact (reflTransGen_iff_eq_or_transGen.mp needed).elim different unread

-- After any sequence of edits a batch reports one result for a field, with any fields removed that the field does not
-- read, and with any field registered that it does not read then, be it a new one or another formula for an old one.
theorem edits_stay_local (edits : List Edit) (field : String) (registered : (ofEdits edits).contains field)
    (record : Record) (settings : Settings) :
    ∃ result, ((ofEdits edits).calculateAll record settings).2.get? field = some result ∧
      (∀ removed : List String, (∀ name ∈ removed, name ≠ field ∧ ¬ TransGen (ofEdits edits).Reads field name) →
        ((removed.foldl unregister (ofEdits edits)).calculateAll record settings).2.get? field = some result) ∧
      ∀ name spec after, (ofEdits edits).edit (.register name spec) = .ok after →
        name ≠ field → ¬ TransGen after.Reads field name →
          (after.calculateAll record settings).2.get? field = some result := by
  have consistent := of_edits_consistent edits
  rw [contains, Std.ExtTreeMap.contains_iff_mem] at registered
  obtain ⟨result, reported⟩ := reported_member _ consistent settings record field registered
  refine ⟨result, reported, ?_, ?_⟩
  · intro removed unread
    rw [← reported]
    refine (needed_result _ _ consistent (consistent_kept.unregister_all _ removed consistent) settings record field ?_).symm
    intro name needed
    refine (unregister_all_elsewhere _ removed consistent name fun member => ?_).symm
    exact needed_not_unread _ field name name (unread name member).1 (unread name member).2 needed rfl
  · intro name spec after edited different unread
    have afterConsistent := register_consistent _ after name spec consistent edited
    rw [← reported]
    refine needed_result after _ afterConsistent consistent settings record field ?_
    intro other needed
    exact (register_same_away _ after name spec consistent edited).fields other
      (needed_not_unread _ field other name different unread needed)

theorem reads_among (r : Registry) (consistent : r.Consistent) (names : List String)
    (closed : ∀ field ∈ names, ∀ read ∈ (r.graph.precedents[field]?.getD ∅).toList, read ∈ names) (field name : String)
    (member : field ∈ names) (way : TransGen r.Reads field name) : name ∈ names := by
  have edge : ∀ reader read, reader ∈ names → r.Reads reader read → read ∈ names := by
    intro reader read inside edge
    obtain ⟨own, found, listed⟩ := reads_graph r consistent reader read edge
    refine closed reader inside read ?_
    rw [found]
    exact Std.ExtTreeSet.mem_toList.mpr listed
  induction way with
  | single first => exact edge field _ member first
  | tail _ last ih => exact edge _ _ ih last

theorem rest_without_title :
    (ofEdits shareEdits).contains "Rest" = true ∧
      ¬ TransGen (ofEdits shareEdits).Reads "Rest" "Title" ∧
      (((ofEdits shareEdits).unregister "Title").calculateAll oldShare { now := ⟨0, 0⟩ }).2.get? "Rest" =
        ((ofEdits shareEdits).calculateAll oldShare { now := ⟨0, 0⟩ }).2.get? "Rest" := by
  have registered : (ofEdits shareEdits).contains "Rest" = true := by decide +kernel
  have unread : ¬ TransGen (ofEdits shareEdits).Reads "Rest" "Title" := by
    intro way
    have inside := reads_among _ (of_edits_consistent shareEdits) ["Rest", "Price", "Share", "Parts"] (by decide +kernel)
      "Rest" "Title" (by decide) way
    exact absurd inside (by decide)
  obtain ⟨result, reported, without, _⟩ := edits_stay_local shareEdits "Rest" registered oldShare { now := ⟨0, 0⟩ }
  refine ⟨registered, unread, ?_⟩
  rw [reported]
  exact without ["Title"] (by simpa using unread)

end FormulaField.Registry
