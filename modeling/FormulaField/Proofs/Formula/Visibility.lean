import FormulaField.Proofs.Formula.Agreement
import FormulaField.Proofs.Formula.CanonicalText

set_option autoImplicit false

namespace FormulaField

open Calendar (Instant)

namespace Formula

mutual

def calls : Formula → List String
  | .literal _ => []
  | .field _ => []
  | .unary _ operand => operand.calls
  | .binary _ left right => left.calls ++ right.calls
  | .call name args => name :: callsAll args

def callsAll : List Formula → List String
  | [] => []
  | f :: rest => f.calls ++ callsAll rest

end

end Formula

structure OpenContext where
  record : Record
  resolver : Option Resolver
  view : Option View
  now : Option Instant

namespace OpenContext

def closed (c : OpenContext) (i : Instant) : Context :=
  ⟨c.record, c.resolver, c.view.getD {}, c.now.getD i⟩

def Flat (c : OpenContext) (names : Names) : Prop := ∀ name ∈ names, ∀ cell, c.record[name]? ≠ some (.cell cell)

structure Alike (a b : OpenContext) (names : Names) : Prop where
  entries : ∀ name ∈ names, a.record[name]? = b.record[name]?
  cells : a.Flat names ∨ (a.resolver = b.resolver ∧ a.view = b.view)

end OpenContext

mutual

-- Evaluation by a clock that shows an instant after each number of calls.
def evaluateBy (c : OpenContext) (clock : Nat → Instant) : Formula → Nat → Except EvaluationError (Value × Nat)
  | .literal v, made => .ok (v, made)
  | .field name, made => .ok ((c.closed (clock made)).fieldValue name, made)
  | .unary op operand, made => do
      let (v, made) ← evaluateBy c clock operand made
      return (op.apply v, made)
  | .binary op left right, made => do
      let (a, made) ← evaluateBy c clock left made
      let (b, made) ← evaluateBy c clock right made
      return (← op.apply a b, made)
  | .call name args, made =>
      match Function.named? name with
      | none => .error (.unknownFunction name)
      | some function => do
          function.checkCount args.length
          let (values, made) ← evaluateAllBy c clock args made
          return (← function.apply (c.now.getD (clock made)) values, made + 1)

def evaluateAllBy (c : OpenContext) (clock : Nat → Instant) :
    List Formula → Nat → Except EvaluationError (List Value × Nat)
  | [], made => .ok ([], made)
  | f :: rest, made => do
      let (v, made) ← evaluateBy c clock f made
      let (values, made) ← evaluateAllBy c clock rest made
      return (v :: values, made)

end

def OpenContext.outcome (c : OpenContext) (clock : Nat → Instant) (f : Formula) : Outcome :=
  Prod.fst <$> evaluateBy c clock f 0

def Signature.isNullary : Signature → Bool
  | .nullary _ => true
  | _ => false

theorem outcome_timeless (signature : Signature) (notNullary : signature.isNullary = false) (i j : Instant)
    (args : List Value) : signature.outcome? i args = signature.outcome? j args := by
  cases signature with
  | nullary f => cases notNullary
  | _ => rcases args with _ | ⟨a, _ | ⟨b, _ | ⟨c, _ | ⟨d, rest⟩⟩⟩⟩ <;> rfl

theorem nullary_functions : ∀ f ∈ Function.all, f.signature.isNullary = true → f.name ∈ ["NOW", "TODAY", "BLANK"] := by
  decide

theorem function_timeless (name : String) (function : Function) (found : Function.named? name = some function)
    (notNow : name ≠ "NOW") (notToday : name ≠ "TODAY") (i j : Instant) (args : List Value) :
    function.apply i args = function.apply j args := by
  by_cases blank : name = "BLANK"
  · subst blank
    cases found
    cases args <;> rfl
  · have named : function.name = name := by simpa using List.find?_some found
    have notNullary : function.signature.isNullary = false := by
      cases nullary : function.signature.isNullary with
      | false => rfl
      | true =>
          have member := nullary_functions function (List.mem_of_find?_eq_some found) nullary
          rw [named] at member
          simp [notNow, notToday, blank] at member
    rw [Function.apply, Function.apply, outcome_timeless function.signature notNullary i j args]

section

variable (a b : OpenContext) (clockA clockB : Nat → Instant)

theorem alike_field_value (names : Names) (alike : a.Alike b names) (name : String) (member : name ∈ names)
    (i j : Instant) : (a.closed i).fieldValue name = (b.closed j).fieldValue name := by
  have entry := alike.entries name member
  simp only [Context.fieldValue, OpenContext.closed, entry]
  cases held : b.record[name]? with
  | none => rfl
  | some field =>
      cases field with
      | value v => rfl
      | cell cell =>
          rcases alike.cells with flat | ⟨resolver, view⟩
          · exact absurd (entry.trans held) (flat name member cell)
          · rw [resolver, view]

-- The clocks show both contexts the same present at every call, or nothing asks for it.
def SamePresent (names : List String) : Prop :=
  (∀ made, a.now.getD (clockA made) = b.now.getD (clockB made)) ∨ ("NOW" ∉ names ∧ "TODAY" ∉ names)

theorem SamePresent.of_subset {a b : OpenContext} {clockA clockB : Nat → Instant} {names fewer : List String}
    (present : SamePresent a b clockA clockB names) (within : fewer ⊆ names) :
    SamePresent a b clockA clockB fewer :=
  present.imp_right fun ⟨notNow, notToday⟩ =>
    ⟨fun member => notNow (within member), fun member => notToday (within member)⟩

theorem function_agree (name : String) (function : Function) (found : Function.named? name = some function)
    (present : SamePresent a b clockA clockB [name]) (made : Nat) (args : List Value) :
    function.apply (a.now.getD (clockA made)) args = function.apply (b.now.getD (clockB made)) args := by
  rcases present with same | ⟨notNow, notToday⟩
  · rw [same]
  · rw [List.mem_singleton] at notNow notToday
    exact function_timeless name function found (Ne.symm notNow) (Ne.symm notToday) _ _ args

mutual

theorem evaluate_by_agree (f : Formula) (made : Nat) (present : SamePresent a b clockA clockB f.calls)
    (agree : ∀ name ∈ f.fieldNames, ∀ i j, (a.closed i).fieldValue name = (b.closed j).fieldValue name) :
    evaluateBy a clockA f made = evaluateBy b clockB f made := by
  cases f with
  | literal v => rw [evaluateBy, evaluateBy]
  | field name => rw [evaluateBy, evaluateBy, agree name (by simp [Formula.fieldNames])]
  | unary op operand => rw [evaluateBy, evaluateBy, evaluate_by_agree operand made present agree]
  | binary op left right =>
      have sameLeft := evaluate_by_agree left made (present.of_subset (List.subset_append_left _ _))
        (fun name member => agree name (List.mem_append_left _ member))
      have sameRight between := evaluate_by_agree right between (present.of_subset (List.subset_append_right _ _))
        (fun name member => agree name (List.mem_append_right _ member))
      simp only [evaluateBy, sameLeft, sameRight]
  | call name args =>
      have sameArgs := evaluate_all_by_agree args made (present.of_subset (List.subset_cons_self _ _)) agree
      rw [evaluateBy, evaluateBy, sameArgs]
      cases found : Function.named? name with
      | none => rfl
      | some function =>
          have named : SamePresent a b clockA clockB [name] := present.of_subset (by simp [Formula.calls])
          simp only [function_agree a b clockA clockB name function found named]

theorem evaluate_all_by_agree (fs : List Formula) (made : Nat)
    (present : SamePresent a b clockA clockB (Formula.callsAll fs))
    (agree : ∀ name ∈ Formula.fieldNamesAll fs, ∀ i j, (a.closed i).fieldValue name = (b.closed j).fieldValue name) :
    evaluateAllBy a clockA fs made = evaluateAllBy b clockB fs made := by
  cases fs with
  | nil => rw [evaluateAllBy, evaluateAllBy]
  | cons f rest =>
      have sameFirst := evaluate_by_agree f made (present.of_subset (List.subset_append_left _ _))
        (fun name member => agree name (List.mem_append_left _ member))
      have sameRest between := evaluate_all_by_agree rest between (present.of_subset (List.subset_append_right _ _))
        (fun name member => agree name (List.mem_append_right _ member))
      simp only [evaluateAllBy, sameFirst, sameRest]

end

theorem outcome_agree (f : Formula) (present : SamePresent a b clockA clockB f.calls)
    (alike : a.Alike b f.fields) : a.outcome clockA f = b.outcome clockB f := by
  have agree : ∀ name ∈ f.fieldNames, ∀ i j, (a.closed i).fieldValue name = (b.closed j).fieldValue name :=
    fun name member => alike_field_value a b f.fields alike name ((mem_fields f name).mpr member)
  rw [OpenContext.outcome, OpenContext.outcome, evaluate_by_agree a b clockA clockB f 0 present agree]

end

mutual

theorem evaluate_by_still (c : OpenContext) (i : Instant) (f : Formula) (made : Nat) :
    ∃ after, evaluateBy c (fun _ => i) f made = (·, after) <$> evaluate (c.closed i) f := by
  cases f with
  | literal v => exact ⟨made, rfl⟩
  | field name => exact ⟨made, rfl⟩
  | unary op operand =>
      obtain ⟨after, ran⟩ := evaluate_by_still c i operand made
      refine ⟨after, ?_⟩
      simp only [evaluateBy, evaluate, ran, bind_map_left, map_bind, map_pure]
  | binary op left right =>
      obtain ⟨between, ranLeft⟩ := evaluate_by_still c i left made
      obtain ⟨after, ranRight⟩ := evaluate_by_still c i right between
      refine ⟨after, ?_⟩
      simp only [evaluateBy, evaluate, ranLeft, ranRight, bind_map_left, map_bind, bind_pure_comp]
  | call name args =>
      obtain ⟨between, ran⟩ := evaluate_all_by_still c i args made
      refine ⟨between + 1, ?_⟩
      rw [evaluateBy, evaluate]
      cases Function.named? name with
      | none => rfl
      | some function =>
          simp only [ran, bind_map_left, map_bind, bind_pure_comp]
          rfl

theorem evaluate_all_by_still (c : OpenContext) (i : Instant) (fs : List Formula) (made : Nat) :
    ∃ after, evaluateAllBy c (fun _ => i) fs made = (·, after) <$> evaluateAll (c.closed i) fs := by
  cases fs with
  | nil => exact ⟨made, rfl⟩
  | cons f rest =>
      obtain ⟨between, ranFirst⟩ := evaluate_by_still c i f made
      obtain ⟨after, ranRest⟩ := evaluate_all_by_still c i rest between
      refine ⟨after, ?_⟩
      simp only [evaluateAllBy, evaluateAll, ranFirst, ranRest, bind_map_left, map_bind, map_pure]

end

theorem outcome_still (c : OpenContext) (i : Instant) (f : Formula) :
    c.outcome (fun _ => i) f = evaluate (c.closed i) f := by
  obtain ⟨after, ran⟩ := evaluate_by_still c i f 0
  rw [OpenContext.outcome, ran, ← comp_map]
  exact id_map _

-- Contexts that hold the same under the dependencies of an accepted formula give it one outcome, be it a
-- value or an error; and without a cell among its dependencies no resolver and no view changes it.
theorem formula_sees_dependencies (text : String) (f : Formula) (names : Names)
    (accepted : parse text = ⟨.ok f, names⟩) :
    (∀ (a b : OpenContext) (clockA clockB : Nat → Instant), a.Alike b names →
      ((∃ i, a.now = some i ∧ b.now = some i) ∨ ("NOW" ∉ f.calls ∧ "TODAY" ∉ f.calls)) →
      a.outcome clockA f = b.outcome clockB f ∧ ∀ i j, evaluate (a.closed i) f = evaluate (b.closed j) f) ∧
    ∀ (c : OpenContext) (resolver : Option Resolver) (view : Option View) (clock : Nat → Instant), c.Flat names →
      OpenContext.outcome { c with resolver := resolver, view := view } clock f = c.outcome clock f := by
  obtain ⟨rfl, -⟩ := parse_sound text f names accepted
  refine ⟨fun a b clockA clockB alike present => ?_, fun c resolver view clock flat => ?_⟩
  · have same (clockA clockB : Nat → Instant) : SamePresent a b clockA clockB f.calls :=
      present.imp_left fun ⟨i, pinnedA, pinnedB⟩ made => by rw [pinnedA, pinnedB, Option.getD_some, Option.getD_some]
    refine ⟨outcome_agree a b clockA clockB f (same clockA clockB) alike, fun i j => ?_⟩
    rw [← outcome_still, ← outcome_still]
    exact outcome_agree a b _ _ f (same _ _) alike
  · exact outcome_agree _ c clock clock f (.inl fun _ => rfl) ⟨fun _ _ => rfl, .inl flat⟩

def unitBefore (name : String) : Formula := .binary .concat (.field "unit") (.call name [])

theorem unit_before_accepted (name : String) (upper : Text.upper name.toList = name.toList)
    (isName : IsName name.toList) :
    parse (unitBefore name).text = ⟨.ok (unitBefore name), (unitBefore name).fields⟩ := by
  have closed : Shape.closedField "unit" := by
    rw [Shape.closedField]
    decide
  have enough : (unitBefore name).need ≤ Parser.maxDepth := (by decide : 2 ≤ 256)
  exact text_read _ ⟨closed, ⟨upper, isName⟩, trivial⟩ enough

def unitOnly (field : Field) : Record := (∅ : Record).insert "unit" field

def unitAndNote (field : Field) : Record := ((∅ : Record).insert "note" (.value (.boolean true))).insert "unit" field

theorem unit_entries (name : String) (field : Field) :
    ∀ read ∈ (unitBefore name).fields,
      (unitAndNote field)[read]? = some field ∧ (unitOnly field)[read]? = some field := by
  intro read member
  have isUnit : read = "unit" := by
    simpa [mem_fields, unitBefore, Formula.fieldNames, Formula.fieldNamesAll] using member
  subst isUnit
  simp [unitAndNote, unitOnly]

def kilograms : Field := .value (.text "kg")

def planned : Field := .cell ⟨[⟨.text "kg", none, some "plan"⟩]⟩

def latestOnly (record : Record) : OpenContext := ⟨record, none, none, none⟩

def inPlan (record : Record) (now : Option Instant) : OpenContext :=
  ⟨record, some Cell.byContext, some { name := some "plan" }, now⟩

def stopped : Nat → Instant := fun _ => ⟨0, 0⟩

def running : Nat → Instant := fun made => ⟨made, 0⟩

theorem unit_same_entries (name : String) (field : Field) :
    ∀ read ∈ (unitBefore name).fields, (unitAndNote field)[read]? = (unitOnly field)[read]? := by
  intro read member
  obtain ⟨first, second⟩ := unit_entries name field read member
  rw [first, second]

theorem kilograms_flat (name : String) : (latestOnly (unitAndNote kilograms)).Flat (unitBefore name).fields := by
  intro read member cell held
  cases (unit_entries name kilograms read member).1.symm.trans held

-- The resolver, the view, the clock and the note make no difference to a unit that is a value; only the note
-- makes none to one that is a cell and to the present.
theorem units_seen_alike :
    (parse (unitBefore "BLANK").text = ⟨.ok (unitBefore "BLANK"), (unitBefore "BLANK").fields⟩ ∧
        (latestOnly (unitAndNote kilograms)).Alike (inPlan (unitOnly kilograms) none) (unitBefore "BLANK").fields ∧
        "NOW" ∉ (unitBefore "BLANK").calls ∧ "TODAY" ∉ (unitBefore "BLANK").calls ∧
        (latestOnly (unitAndNote kilograms)).outcome stopped (unitBefore "BLANK") =
          (inPlan (unitOnly kilograms) none).outcome running (unitBefore "BLANK")) ∧
      (parse (unitBefore "NOW").text = ⟨.ok (unitBefore "NOW"), (unitBefore "NOW").fields⟩ ∧
        (inPlan (unitAndNote planned) (some ⟨0, 0⟩)).Alike (inPlan (unitOnly planned) (some ⟨0, 0⟩))
          (unitBefore "NOW").fields ∧
        (inPlan (unitAndNote planned) (some ⟨0, 0⟩)).outcome stopped (unitBefore "NOW") =
          (inPlan (unitOnly planned) (some ⟨0, 0⟩)).outcome running (unitBefore "NOW")) ∧
      (latestOnly (unitAndNote kilograms)).Flat (unitBefore "NOW").fields ∧
        (inPlan (unitAndNote kilograms) none).outcome running (unitBefore "NOW") =
          (latestOnly (unitAndNote kilograms)).outcome running (unitBefore "NOW") := by
  have blank := unit_before_accepted "BLANK" (by decide) (name_of_all 'B' ['L', 'A', 'N', 'K'] (by decide) (by decide))
  have now := unit_before_accepted "NOW" (by decide) (name_of_all 'N' ['O', 'W'] (by decide) (by decide))
  have scalars : (latestOnly (unitAndNote kilograms)).Alike (inPlan (unitOnly kilograms) none)
      (unitBefore "BLANK").fields := ⟨unit_same_entries _ _, .inl (kilograms_flat _)⟩
  have cells : (inPlan (unitAndNote planned) (some ⟨0, 0⟩)).Alike (inPlan (unitOnly planned) (some ⟨0, 0⟩))
      (unitBefore "NOW").fields := ⟨unit_same_entries _ _, .inr ⟨rfl, rfl⟩⟩
  have notNow : "NOW" ∉ (unitBefore "BLANK").calls := by decide
  have notToday : "TODAY" ∉ (unitBefore "BLANK").calls := by decide
  obtain ⟨whenAlike, whenFlat⟩ := formula_sees_dependencies _ _ _ now
  exact ⟨⟨blank, scalars, notNow, notToday,
      ((formula_sees_dependencies _ _ _ blank).1 _ _ stopped running scalars (.inr ⟨notNow, notToday⟩)).1⟩,
    ⟨now, cells, (whenAlike _ _ stopped running cells (.inl ⟨⟨0, 0⟩, rfl, rfl⟩)).1⟩,
    kilograms_flat _, whenFlat _ _ _ running (kilograms_flat _)⟩

end FormulaField
