import FormulaField.Proofs.Json.Documents
import FormulaField.Proofs.Registry.Batch
import FormulaField.Proofs.Registry.Import

set_option autoImplicit false

namespace FormulaField

open Json (Draft)

theorem DisplayFormat.named_name (format : DisplayFormat) : named? format.name = some format := by
  cases format <;> decide

namespace Spec

theorem decimals_read (spec : Spec) : readDecimals? (.integer spec.decimals.toNat) = some spec.decimals := by
  have bound : spec.decimals.toNat < 2 ^ 32 := spec.decimals.toNat_lt
  have fits : (0 : Int) ≤ spec.decimals.toNat ∧ (spec.decimals.toNat : Int) < Number.twoTo 32 := by
    rw [Number.twoTo, Nat.pow_eq]
    omega
  rw [readDecimals?, if_pos fits, Int.toNat_natCast, UInt32.ofNat_toNat]

theorem json_read (spec : Spec) : ofDraft? spec.toJson.reread = some spec := by
  have drafted : spec.toJson.reread = .object [(some "formula", .text (some spec.formula)),
      (some "displayFormat", .text (some spec.format.name)), (some "decimals", .integer spec.decimals.toNat)] := rfl
  simp [drafted, ofDraft?, Members.addAll?, Members.add?, readFormula?, readFormat?, Members.spec?,
    DisplayFormat.named_name, decimals_read]

theorem json_in_words (spec : Spec) : spec.toJson.InWords := by
  have bound : spec.decimals.toNat < 2 ^ 32 := spec.decimals.toNat_lt
  refine ⟨trivial, trivial, ?_, trivial⟩
  constructor <;> omega

end Spec

namespace Specs

theorem members_in_words (entries : List (String × Spec)) :
    Json.MembersInWords (entries.map fun entry => (entry.1, entry.2.toJson)) := by
  induction entries with
  | nil => exact trivial
  | cons entry rest ih => exact ⟨entry.2.json_in_words, ih⟩

theorem entries_read (specs : Specs) (entries : List (String × Spec)) :
    specs.addAll? (Json.rereadMembers (entries.map fun entry => (entry.1, entry.2.toJson))) =
      some (entries.foldl (fun specs entry => specs.insert entry.1 entry.2) specs) := by
  induction entries generalizing specs with
  | nil => rfl
  | cons entry rest ih =>
      obtain ⟨name, spec⟩ := entry
      simp [Json.rereadMembers, addAll?, spec.json_read, ih]

theorem text_read (specs : Specs) : ofText? specs.text = some specs := by
  have words : specs.toJson.InWords := members_in_words specs.toList
  have read : addAll? ∅ (Json.rereadMembers (specs.toList.map fun entry => (entry.1, entry.2.toJson))) = some specs :=
    (entries_read ∅ specs.toList).trans (congrArg some (insert_all_entries specs))
  rw [ofText?, text, Json.pretty_read _ words]
  exact read

end Specs

namespace Registry

theorem specs_register_again (r : Registry) (exact : r.Exact) : ofSpecs r.specs = .ok r := by
  obtain ⟨other, registered⟩ := (registered_iff_acceptable r.specs r.specs.toList (.refl _)).mpr
    (consistent_acceptable r exact.consistent)
  obtain ⟨otherExact, same⟩ := registered_specs r.specs r.specs.toList (.refl _) other registered
  obtain rfl := specs_determine r other exact otherExact same.symm
  exact registered

-- After any sequence of edits the registry comes back from its export, all of it: the fields, who reads
-- whom, and so every later batch, order and check. The same holds of the export as text.
theorem export_comes_back (edits : List Edit) :
    ofSpecs (ofEdits edits).specs = .ok (ofEdits edits) ∧ ofText (ofEdits edits).text = .ok (ofEdits edits) := by
  have again := specs_register_again (ofEdits edits) (exact_kept.of_edits edits)
  refine ⟨again, ?_⟩
  rw [ofText, text, Specs.text_read]
  exact again

theorem part_fails_after_export :
    let r := ofEdits partEdits
    r.names = ["Part", "Twice"] ∧ ofSpecs r.specs = .ok r ∧
      ∃ other, ofText r.text = .ok other ∧ other.names = ["Part", "Twice"] ∧
        (other.calculateAll noWhole { now := ⟨0, 0⟩ }).2.errors = 1 := by
  intro r
  obtain ⟨bySpecs, byText⟩ := export_comes_back partEdits
  have names : r.names = ["Part", "Twice"] := by decide +kernel
  exact ⟨names, bySpecs, r, byText, names, by decide +kernel⟩

end Registry

end FormulaField
