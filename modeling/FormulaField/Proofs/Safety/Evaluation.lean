import FormulaField.Proofs.Safety.Functions

set_option autoImplicit false

namespace FormulaField.Guarded

mutual

def evaluation (context : Context) : Formula → Guarded Value
  | .literal v => return v
  | .field name => return context.fieldValue name
  | .unary op operand => do
      let v ← evaluation context operand
      return op.apply v
  | .binary op left right => do
      let a ← evaluation context left
      let b ← evaluation context right
      given (op.apply a b)
  | .call name args =>
      match arity? name with
      | none => given (.error (.unknownFunction name))
      | some arity => do
          given (arity.check args.length)
          let values ← evaluations context args
          let function ← within (Function.named? name)
          body name function context.now values

def evaluations (context : Context) : List Formula → Guarded (List Value)
  | [] => return []
  | f :: rest => do
      let v ← evaluation context f
      let values ← evaluations context rest
      return v :: values

end

theorem call_completes (context : Context) (inside : context.Representable) (name : String) (args : List Formula)
    (literals : Formula.AllRepresentable args)
    (arguments : Completes (evaluations context args) (evaluateAll context args)) :
    Completes (evaluation context (.call name args)) (evaluate context (.call name args)) := by
  rw [evaluation, evaluate, arity_named]
  cases found : Function.named? name with
  | none => exact completes_given _
  | some f =>
      simp only [Option.map_some, arity_checks]
      refine completes_bind _ _ _ _ (completes_given _) fun _ counted => ?_
      refine completes_bind _ _ _ _ arguments fun values evaluated => ?_
      have representable := evaluate_all_kept context inside args literals values evaluated
      rw [← evaluated_length context args values evaluated] at counted
      have admitted := counted_outcome f context.now values counted
      exact body_completes name f found context.now values representable _ admitted

mutual

theorem evaluation_completes (context : Context) (inside : context.Representable) (f : Formula)
    (literals : f.Representable) : Completes (evaluation context f) (evaluate context f) := by
  cases f with
  | literal v => rfl
  | field name => rfl
  | unary op operand =>
      have completes := evaluation_completes context inside operand literals
      rw [evaluation, evaluate]
      exact completes_bind _ _ _ _ completes fun v _ => completes_given _
  | binary op left right =>
      have first := evaluation_completes context inside left literals.1
      have second := evaluation_completes context inside right literals.2
      rw [evaluation, evaluate]
      exact completes_bind _ _ _ _ first fun a _ => completes_bind _ _ _ _ second fun b _ => completes_given _
  | call name args =>
      exact call_completes context inside name args literals (evaluations_complete context inside args literals)

theorem evaluations_complete (context : Context) (inside : context.Representable) (fs : List Formula)
    (literals : Formula.AllRepresentable fs) : Completes (evaluations context fs) (evaluateAll context fs) := by
  cases fs with
  | nil => rfl
  | cons f rest =>
      have first := evaluation_completes context inside f literals.1
      have others := evaluations_complete context inside rest literals.2
      rw [evaluations, evaluateAll]
      exact completes_bind _ _ _ _ first fun v _ => completes_bind _ _ _ _ others fun values _ => completes_given _

end

-- Every formula has a value or an error in every context of instants in range, and a text of the value in every
-- display format, with no step outside its bounds on the way.
theorem evaluation_never_breaks_off (context : Context) (present : context.now.Representable)
    (fields : ∀ name, (context.fieldValue name).Representable) (f : Formula) (literals : f.Representable) :
    (evaluation context f).run = some (evaluate context f) ∧
      ∀ v, evaluate context f = .ok v → v.Representable ∧
        ∀ format decimals, display? format decimals v = some (format.display decimals v) := by
  have inside : context.Representable := ⟨present, fields⟩
  refine ⟨evaluation_completes context inside f literals, fun v evaluated => ⟨?_, ?_⟩⟩
  · have kept := evaluate_kept context inside f literals
    rwa [evaluated] at kept
  · exact fun format decimals => display_completes format decimals v

def dueRecord : Record := Std.ExtTreeMap.insert ∅ "Due" (.value (.date ⟨0, 0⟩))

def dueContext : Context := ⟨dueRecord, none, {}, ⟨2592000, 0⟩⟩

def dueFormula : Formula :=
  .call "COUNT" [.call "FIND" [.literal (.text "b"), .literal (.text "ébc")],
    .call "DATEDIFF" [.field "Due", .call "NOW" []]]

theorem due_field_value (name : String) :
    dueContext.fieldValue name = if name = "Due" then .date ⟨0, 0⟩ else .empty := by
  rw [Context.fieldValue, dueContext, dueRecord, Std.ExtTreeMap.getElem?_insert]
  by_cases due : name = "Due"
  · subst due
    simp
  · simp [Ne.symm due, due]

theorem due_counted :
    dueContext.now.Representable ∧ (∀ name, (dueContext.fieldValue name).Representable) ∧ dueFormula.Representable ∧
      (evaluation dueContext dueFormula).run = some (.ok (.number (Number.ofNat 2))) := by
  have epoch : Calendar.Instant.Representable ⟨0, 0⟩ := ⟨by decide, by decide⟩
  have present : dueContext.now.Representable := ⟨by decide, by decide⟩
  have fields : ∀ name, (dueContext.fieldValue name).Representable := by
    intro name
    rw [due_field_value]
    split
    · exact epoch
    · trivial
  have literals : dueFormula.Representable := ⟨⟨trivial, trivial, trivial⟩, ⟨trivial, trivial, trivial⟩, trivial⟩
  have counted : evaluate dueContext dueFormula = .ok (.number (Number.ofNat 2)) := by
    have due := due_field_value "Due"
    rw [if_pos rfl] at due
    rw [dueFormula]
    simp only [evaluate, evaluateAll, due]
    rfl
  refine ⟨present, fields, literals, ?_⟩
  rw [(evaluation_never_breaks_off dueContext present fields dueFormula literals).1, counted]

end FormulaField.Guarded
