import FormulaField.Proofs.Formula.Visibility

set_option autoImplicit false

namespace FormulaField

open Calendar (Instant)

def UnaryOperator.function? : UnaryOperator → Option String
  | .negate => none
  | .plus => some "VALUE"
  | .not => some "NOT"

def BinaryOperator.function? : BinaryOperator → Option String
  | .power => some "POWER"
  | .modulo => some "MOD"
  | .concat => some "CONCAT"
  | _ => none

namespace Formula

mutual

def asCalls : Formula → Formula
  | .literal v => .literal v
  | .field name => .field name
  | .unary op operand =>
      match op.function? with
      | some name => .call name [operand.asCalls]
      | none => .unary op operand.asCalls
  | .binary op left right =>
      match op.function? with
      | some name => .call name [left.asCalls, right.asCalls]
      | none => .binary op left.asCalls right.asCalls
  | .call name args => .call name (asCallsAll args)

def asCallsAll : List Formula → List Formula
  | [] => []
  | f :: rest => f.asCalls :: asCallsAll rest

end

end Formula

theorem as_calls_length (fs : List Formula) : (Formula.asCallsAll fs).length = fs.length := by
  induction fs with
  | nil => rfl
  | cons f rest ih => rw [Formula.asCallsAll, List.length_cons, List.length_cons, ih]

theorem unary_function (op : UnaryOperator) (name : String) (named : op.function? = some name) :
    ∃ function, Function.named? name = some function ∧ function.checkCount 1 = .ok () ∧
      ∀ now v, function.apply now [v] = .ok (op.apply v) := by
  cases op with
  | negate => cases named
  | plus =>
      cases named
      exact ⟨_, rfl, rfl, fun _ _ => rfl⟩
  | not =>
      cases named
      exact ⟨_, rfl, rfl, fun _ _ => rfl⟩

theorem concat_apply (a b : Value) :
    Texts.text ([a, b].flatMap Texts.characters) = BinaryOperator.concat.apply a b := by
  have joined : String.ofList ([a, b].flatMap Texts.characters) = a.toText ++ b.toText := by
    simp [Texts.characters, String.ofList_append]
  rw [Texts.text, joined]
  rfl

theorem binary_function (op : BinaryOperator) (name : String) (named : op.function? = some name) :
    ∃ function, Function.named? name = some function ∧ function.checkCount 2 = .ok () ∧
      ∀ now a b, function.apply now [a, b] = op.apply a b := by
  cases op with
  | power =>
      cases named
      exact ⟨_, rfl, rfl, fun _ _ _ => rfl⟩
  | modulo =>
      cases named
      exact ⟨_, rfl, rfl, fun _ _ _ => rfl⟩
  | concat =>
      cases named
      exact ⟨_, rfl, rfl, fun _ => concat_apply⟩
  | _ => cases named

section

variable (context : Context)

theorem unary_called (op : UnaryOperator) (name : String) (named : op.function? = some name) (f : Formula) :
    evaluate context (.call name [f]) = evaluate context (.unary op f) := by
  obtain ⟨function, found, counted, applied⟩ := unary_function op name named
  simp only [evaluate, evaluateAll, found, List.length_singleton, counted]
  cases evaluate context f with
  | error e => rfl
  | ok v => exact applied context.now v

theorem binary_called (op : BinaryOperator) (name : String) (named : op.function? = some name) (f g : Formula) :
    evaluate context (.call name [f, g]) = evaluate context (.binary op f g) := by
  obtain ⟨function, found, counted, applied⟩ := binary_function op name named
  simp only [evaluate, evaluateAll, found, List.length_cons, List.length_nil, counted]
  cases evaluate context f with
  | error e => rfl
  | ok a =>
      cases evaluate context g with
      | error e => rfl
      | ok b => exact applied context.now a b

mutual

theorem evaluate_as_calls (f : Formula) : evaluate context f.asCalls = evaluate context f := by
  cases f with
  | literal v => rw [Formula.asCalls]
  | field name => rw [Formula.asCalls]
  | unary op operand =>
      have same := evaluate_as_calls operand
      rw [Formula.asCalls]
      cases named : op.function? with
      | none => simp only [evaluate, same]
      | some name =>
          calc evaluate context (.call name [operand.asCalls])
            _ = evaluate context (.unary op operand.asCalls) := unary_called context op name named operand.asCalls
            _ = evaluate context (.unary op operand) := by rw [evaluate, evaluate, same]
  | binary op left right =>
      have sameLeft := evaluate_as_calls left
      have sameRight := evaluate_as_calls right
      rw [Formula.asCalls]
      cases named : op.function? with
      | none => simp only [evaluate, sameLeft, sameRight]
      | some name =>
          calc evaluate context (.call name [left.asCalls, right.asCalls])
            _ = evaluate context (.binary op left.asCalls right.asCalls) :=
              binary_called context op name named left.asCalls right.asCalls
            _ = evaluate context (.binary op left right) := by rw [evaluate, evaluate, sameLeft, sameRight]
  | call name args =>
      rw [Formula.asCalls, evaluate, evaluate, evaluate_all_as_calls args, as_calls_length]

theorem evaluate_all_as_calls (fs : List Formula) :
    evaluateAll context (Formula.asCallsAll fs) = evaluateAll context fs := by
  cases fs with
  | nil => rw [Formula.asCallsAll]
  | cons f rest => rw [Formula.asCallsAll, evaluateAll, evaluateAll, evaluate_as_calls f, evaluate_all_as_calls rest]

end

end

def operatorFunctions : List String := ["VALUE", "NOT", "POWER", "MOD", "CONCAT"]

theorem unary_function_listed (op : UnaryOperator) (name : String) (named : op.function? = some name) :
    name ∈ operatorFunctions := by
  cases op <;> cases named <;> decide

theorem binary_function_listed (op : BinaryOperator) (name : String) (named : op.function? = some name) :
    name ∈ operatorFunctions := by
  cases op <;> cases named <;> decide

mutual

theorem calls_as_calls (f : Formula) (name : String) (called : name ∈ f.asCalls.calls) :
    name ∈ operatorFunctions ∨ name ∈ f.calls := by
  cases f with
  | literal v => exact .inr called
  | field name => exact .inr called
  | unary op operand =>
      have inside := calls_as_calls operand name
      rw [Formula.asCalls] at called
      cases named : op.function? with
      | none =>
          rw [named] at called
          exact inside called
      | some own =>
          simp only [named, Formula.calls, Formula.callsAll, List.append_nil, List.mem_cons] at called
          rcases called with rfl | called
          · exact .inl (unary_function_listed op name named)
          · exact inside called
  | binary op left right =>
      have insideLeft := calls_as_calls left name
      have insideRight := calls_as_calls right name
      rw [Formula.asCalls] at called
      have operands : name ∈ left.asCalls.calls ++ right.asCalls.calls →
          name ∈ operatorFunctions ∨ name ∈ left.calls ++ right.calls := by
        intro member
        rcases List.mem_append.mp member with inLeft | inRight
        · exact (insideLeft inLeft).imp_right (List.mem_append_left _)
        · exact (insideRight inRight).imp_right (List.mem_append_right _)
      cases named : op.function? with
      | none =>
          rw [named] at called
          exact operands called
      | some own =>
          simp only [named, Formula.calls, Formula.callsAll, List.append_nil, List.mem_cons] at called
          rcases called with rfl | called
          · exact .inl (binary_function_listed op name named)
          · exact operands called
  | call own args =>
      rw [Formula.asCalls, Formula.calls, List.mem_cons] at called
      rcases called with rfl | called
      · exact .inr (List.mem_cons_self ..)
      · exact (calls_all_as_calls args name called).imp_right (List.mem_cons_of_mem _)

theorem calls_all_as_calls (fs : List Formula) (name : String)
    (called : name ∈ Formula.callsAll (Formula.asCallsAll fs)) :
    name ∈ operatorFunctions ∨ name ∈ Formula.callsAll fs := by
  cases fs with
  | nil => cases called
  | cons f rest =>
      rw [Formula.asCallsAll, Formula.callsAll] at called
      rcases List.mem_append.mp called with inFirst | inRest
      · exact (calls_as_calls f name inFirst).imp_right (List.mem_append_left _)
      · exact (calls_all_as_calls rest name inRest).imp_right (List.mem_append_right _)

end

-- A clock that shows the present that counts, or that nothing asks, may as well stand still.
theorem outcome_present (c : OpenContext) (clock : Nat → Instant) (i : Instant) (f : Formula)
    (present : (∀ made, c.now.getD (clock made) = c.now.getD i) ∨ ("NOW" ∉ f.calls ∧ "TODAY" ∉ f.calls)) :
    c.outcome clock f = evaluate (c.closed i) f := by
  rw [← outcome_still]
  exact outcome_agree c c clock (fun _ => i) f present ⟨fun _ _ => rfl, .inr ⟨rfl, rfl⟩⟩

-- Calls in place of operators make no difference to the value or the error, in any context; nor do they where the
-- present is left open, unless the clock has moved and the formula asks for it.
theorem operators_agree_with_functions (f : Formula) :
    (∀ context, evaluate context f.asCalls = evaluate context f) ∧
      ∀ (c : OpenContext) (clockA clockB : Nat → Instant),
        ((∃ i, ∀ made, c.now.getD (clockA made) = i ∧ c.now.getD (clockB made) = i) ∨
          ("NOW" ∉ f.calls ∧ "TODAY" ∉ f.calls)) →
        c.outcome clockA f.asCalls = c.outcome clockB f := by
  refine ⟨fun context => evaluate_as_calls context f, ?_⟩
  rintro c clockA clockB (⟨i, still⟩ | ⟨notNow, notToday⟩)
  · have shown (clock : Nat → Instant) (same : ∀ made, c.now.getD (clock made) = i) :
        ∀ made, c.now.getD (clock made) = c.now.getD i := by
      intro made
      cases pinned : c.now with
      | none => simpa [pinned] using same made
      | some j => rfl
    rw [outcome_present c clockA i f.asCalls (.inl (shown clockA fun made => (still made).1)), evaluate_as_calls,
      outcome_present c clockB i f (.inl (shown clockB fun made => (still made).2))]
  · have notAdded (name : String) (absent : name ∉ operatorFunctions) (notCalled : name ∉ f.calls) :
        name ∉ f.asCalls.calls :=
      fun called => (calls_as_calls f name called).elim absent notCalled
    have still := outcome_present c clockA (clockA 0) f.asCalls
      (.inr ⟨notAdded "NOW" (by decide) notNow, notAdded "TODAY" (by decide) notToday⟩)
    rw [still, evaluate_as_calls, outcome_present c clockB (clockA 0) f (.inr ⟨notNow, notToday⟩)]

def rateRemainder : Formula := .binary .modulo (.literal (.number 7)) (.unary .plus (.field "rate"))

def rateless : OpenContext := ⟨∅, none, none, none⟩

theorem rate_remainder_called :
    rateRemainder.asCalls = .call "MOD" [.literal (.number 7), .call "VALUE" [.field "rate"]] ∧
      "NOW" ∉ rateRemainder.calls ∧ "TODAY" ∉ rateRemainder.calls ∧
      rateless.outcome running rateRemainder.asCalls = .error .divisionByZero := by
  have notNow : "NOW" ∉ rateRemainder.calls := by decide
  have notToday : "TODAY" ∉ rateRemainder.calls := by decide
  refine ⟨rfl, notNow, notToday, ?_⟩
  rw [(operators_agree_with_functions rateRemainder).2 rateless running stopped (.inr ⟨notNow, notToday⟩)]
  rfl

end FormulaField
