import FormulaField.Formula.Evaluation
import FormulaField.Proofs.Formula.Soundness

set_option autoImplicit false

namespace FormulaField

mutual

theorem evaluate_agree (a b : Context) (f : Formula) (sameTime : a.now = b.now)
    (agree : ∀ name ∈ f.fieldNames, a.fieldValue name = b.fieldValue name) : evaluate a f = evaluate b f := by
  cases f with
  | literal v => rw [evaluate, evaluate]
  | field name =>
      rw [evaluate, evaluate, agree name (by simp [Formula.fieldNames])]
  | unary op operand =>
      rw [evaluate, evaluate, evaluate_agree a b operand sameTime agree]
  | binary op left right =>
      rw [Formula.fieldNames] at agree
      rw [evaluate, evaluate,
        evaluate_agree a b left sameTime (fun name member => agree name (List.mem_append_left _ member)),
        evaluate_agree a b right sameTime (fun name member => agree name (List.mem_append_right _ member))]
  | call name args =>
      rw [evaluate, evaluate, evaluate_all_agree a b args sameTime agree, sameTime]

theorem evaluate_all_agree (a b : Context) (fs : List Formula) (sameTime : a.now = b.now)
    (agree : ∀ name ∈ Formula.fieldNamesAll fs, a.fieldValue name = b.fieldValue name) :
    evaluateAll a fs = evaluateAll b fs := by
  cases fs with
  | nil => rw [evaluateAll, evaluateAll]
  | cons f rest =>
      rw [Formula.fieldNamesAll] at agree
      rw [evaluateAll, evaluateAll,
        evaluate_agree a b f sameTime (fun name member => agree name (List.mem_append_left _ member)),
        evaluate_all_agree a b rest sameTime (fun name member => agree name (List.mem_append_right _ member))]

end

theorem field_value_agree (context : Context) (record : Record) (name : String)
    (same : record[name]? = context.record[name]?) :
    Context.fieldValue { context with record := record } name = context.fieldValue name := by
  simp only [Context.fieldValue, same]

theorem mem_fields (f : Formula) (name : String) : name ∈ f.fields ↔ name ∈ f.fieldNames :=
  mem_names_of_list f.fieldNames name

end FormulaField
