import FormulaField.Proofs.Safety.Functions

set_option autoImplicit false

namespace FormulaField

open Calendar (Instant)
open Guarded (Arity arity? arityOf arity_named arity_checks)

variable {α β : Type}

inductive Check where
  | known (name : String)
  | enough (arity : Arity) (count : Nat)
  | notTooMany (arity : Arity) (count : Nat)
  | own (name : String) (args : List Value)
  | divisor (v : Value)

def failure? : Except EvaluationError α → Option EvaluationError
  | .ok _ => none
  | .error e => some e

namespace Check

def divisorError? (v : Value) : Option EvaluationError := if v.toNumber == 0 then some .divisionByZero else none

def ownError? (name : String) (args : List Value) : Option EvaluationError :=
  if name = "MOD" then args[1]?.bind divisorError?
  else if name = "DATEDIFF" ∨ name = "DATEADD" then failure? (Dates.Period.ofArgument args[2]?)
  else none

def error? : Check → Option EvaluationError
  | .known name => if (arity? name).isNone then some (.unknownFunction name) else none
  | .enough arity count =>
      if count < arity.least then some (.tooFewArguments arity.name arity.least count) else none
  | .notTooMany arity count =>
      match arity.most? with
      | some most => if most < count then some (.tooManyArguments arity.name most count) else none
      | none => none
  | .own name args => ownError? name args
  | .divisor v => divisorError? v

end Check

-- The value of a formula; what is read where there is none comes after the check that failed.
def Context.valueOf (context : Context) (f : Formula) : Value := (evaluate context f).toOption.getD .empty

def BinaryOperator.divides : BinaryOperator → Bool
  | .divide => true
  | .modulo => true
  | _ => false

mutual

def checks (context : Context) : Formula → List Check
  | .literal _ => []
  | .field _ => []
  | .unary _ operand => checks context operand
  | .binary op left right =>
      checks context left ++ checks context right ++
        if op.divides then [.divisor (context.valueOf right)] else []
  | .call name args =>
      .known name ::
        match arity? name with
        | none => []
        | some arity =>
            .enough arity args.length :: .notTooMany arity args.length ::
              (checksAll context args ++ [.own name (args.map context.valueOf)])

def checksAll (context : Context) : List Formula → List Check
  | [] => []
  | f :: rest => checks context f ++ checksAll context rest

end

def firstError? (cs : List Check) : Option EvaluationError := cs.findSome? Check.error?

theorem first_error_append (as bs : List Check) :
    firstError? (as ++ bs) = (firstError? as).or (firstError? bs) := List.findSome?_append

theorem failure_bind (first : Except EvaluationError α) (next : α → Except EvaluationError β) (as bs : List Check)
    (checked : failure? first = firstError? as) (later : ∀ a, first = .ok a → failure? (next a) = firstError? bs) :
    failure? (first >>= next) = firstError? (as ++ bs) := by
  rw [first_error_append, ← checked]
  cases first with
  | error e => rfl
  | ok a => exact later a rfl

def Signature.Checks (own : List Value → Option EvaluationError) : Signature → Prop
  | .nullary _ => own [] = none
  | .one f => ∀ a, failure? (f a) = own [a]
  | .oneOrTwo f => ∀ a, failure? (f a none) = own [a] ∧ ∀ b, failure? (f a (some b)) = own [a, b]
  | .two f => ∀ a b, failure? (f a b) = own [a, b]
  | .twoOrThree f => ∀ a b, failure? (f a b none) = own [a, b] ∧ ∀ c, failure? (f a b (some c)) = own [a, b, c]
  | .three f => ∀ a b c, failure? (f a b c) = own [a, b, c]
  | .variadic f => ∀ args, failure? (f args) = own args
  | .atLeastOne f => ∀ a args, failure? (f a args) = own (a :: args)

theorem outcome_checked (signature : Signature) (own : List Value → Option EvaluationError)
    (checked : signature.Checks own) (now : Instant) (args : List Value) (outcome : Outcome)
    (admitted : signature.outcome? now args = some outcome) : failure? outcome = own args := by
  cases signature with
  | variadic f =>
      cases admitted
      exact checked args
  | nullary f =>
      cases args with
      | nil =>
          cases admitted
          exact checked.symm
      | cons a rest => cases admitted
  | atLeastOne f =>
      cases args with
      | nil => cases admitted
      | cons a rest =>
          cases admitted
          exact checked a rest
  | _ =>
      rcases args with _ | ⟨a, _ | ⟨b, _ | ⟨c, _ | ⟨d, rest⟩⟩⟩⟩
      all_goals cases admitted
      all_goals simp_all only [Signature.Checks]

theorem divided_checked (v : Value) (outcome : Outcome) (given : failure? outcome = none) :
    failure? (if v.toNumber == 0 then .error .divisionByZero else outcome) = Check.divisorError? v := by
  rw [Check.divisorError?]
  split
  · rfl
  · exact given

theorem date_diff_checked (start finish : Value) (unit : Option Value) :
    failure? (Dates.dateDiff start finish unit) = failure? (Dates.Period.ofArgument unit) := by
  rw [Dates.dateDiff]
  cases Dates.Period.ofArgument unit with
  | error e => rfl
  | ok period => cases start.toInstant? <;> cases finish.toInstant? <;> rfl

theorem date_add_checked (date amount : Value) (unit : Option Value) :
    failure? (Dates.dateAdd date amount unit) = failure? (Dates.Period.ofArgument unit) := by
  rw [Dates.dateAdd]
  cases Dates.Period.ofArgument unit with
  | error e => rfl
  | ok period =>
      cases date.toInstant? with
      | none => rfl
      | some i =>
          simp only [bind, Except.bind, failure?]
          by_cases finite : amount.toNumber.isFinite
          · rw [if_pos finite]
            cases Dates.moved? i amount.toNumber period <;> rfl
          · rw [if_neg finite]
            rfl

theorem arithmetic_checked : ∀ f ∈ Arithmetic.functions, f.signature.Checks (Check.ownError? f.name) := by
  simp only [Arithmetic.functions, List.forall_mem_cons]
  exact ⟨fun _ => rfl, fun _ => rfl, fun _ _ => rfl, fun _ _ => rfl, fun _ => ⟨rfl, fun _ => rfl⟩, fun _ => rfl,
    fun _ => rfl, fun _ _ => rfl, fun _ divisor => divided_checked divisor _ rfl, List.forall_mem_nil _⟩

theorem logic_checked : ∀ f ∈ Logic.functions, f.signature.Checks (Check.ownError? f.name) := by
  simp only [Logic.functions, List.forall_mem_cons]
  exact ⟨fun _ _ => ⟨rfl, fun _ => rfl⟩, fun _ => rfl, fun _ => rfl, fun _ => rfl, List.forall_mem_nil _⟩

theorem texts_checked : ∀ f ∈ Texts.functions, f.signature.Checks (Check.ownError? f.name) := by
  simp only [Texts.functions, List.forall_mem_cons]
  exact ⟨fun _ => rfl, fun _ => rfl, fun _ => rfl, fun _ => rfl, fun _ => rfl, fun _ => ⟨rfl, fun _ => rfl⟩,
    fun _ => ⟨rfl, fun _ => rfl⟩, fun _ _ => ⟨rfl, fun _ => rfl⟩, fun _ _ => ⟨rfl, fun _ => rfl⟩, fun _ _ _ => rfl,
    List.forall_mem_nil _⟩

theorem dates_checked : ∀ f ∈ Dates.functions, f.signature.Checks (Check.ownError? f.name) := by
  simp only [Dates.functions, List.forall_mem_cons]
  exact ⟨rfl, rfl, fun _ => rfl, fun _ => rfl, fun _ => rfl, fun _ => rfl, fun _ => rfl, fun _ => rfl,
    fun start finish => ⟨date_diff_checked start finish none, fun unit => date_diff_checked start finish (some unit)⟩,
    fun date amount => ⟨date_add_checked date amount none, fun unit => date_add_checked date amount (some unit)⟩,
    List.forall_mem_nil _⟩

theorem inspection_checked : ∀ f ∈ Inspection.functions, f.signature.Checks (Check.ownError? f.name) := by
  simp only [Inspection.functions, List.forall_mem_cons]
  exact ⟨fun _ => rfl, fun _ => rfl, fun _ => rfl, fun _ => rfl, fun _ => rfl, fun _ => rfl, fun _ => rfl,
    fun _ => rfl, fun _ => ⟨rfl, fun _ => rfl⟩, rfl, List.forall_mem_nil _⟩

theorem functions_checked : ∀ f ∈ Function.all, f.signature.Checks (Check.ownError? f.name) := by
  simp only [Function.all, List.forall_mem_append]
  exact ⟨⟨⟨⟨arithmetic_checked, logic_checked⟩, texts_checked⟩, dates_checked⟩, inspection_checked⟩

theorem function_checked (name : String) (f : Function) (found : Function.named? name = some f) (now : Instant)
    (args : List Value) (counted : f.checkCount args.length = .ok ()) :
    failure? (f.apply now args) = firstError? [.own name args] := by
  have named : f.name = name := by simpa using List.find?_some found
  have own := outcome_checked f.signature _ (functions_checked f (List.mem_of_find?_eq_some found)) now args _
    (Guarded.counted_outcome f now args counted)
  rw [own, named]
  cases here : Check.ownError? name args <;> simp [firstError?, Check.error?, here]

theorem count_checked (arity : Arity) (count : Nat) :
    failure? (arity.check count) = firstError? [.enough arity count, .notTooMany arity count] := by
  rw [Guarded.Arity.check]
  by_cases few : count < arity.least
  · rw [if_pos few]
    simp [failure?, firstError?, Check.error?, few]
  · rw [if_neg few]
    cases most : arity.most? with
    | none => simp [failure?, firstError?, Check.error?, few, most]
    | some bound =>
        by_cases many : bound < count
        · simp [failure?, firstError?, Check.error?, few, most, many]
        · simp [failure?, firstError?, Check.error?, few, most, many]

theorem operator_checked (op : BinaryOperator) (a b : Value) :
    failure? (op.apply a b) = firstError? (if op.divides then [.divisor b] else []) := by
  have single : firstError? [.divisor b] = Check.divisorError? b := by
    cases here : Check.divisorError? b <;> simp [firstError?, Check.error?, here]
  cases op with
  | divide => exact (divided_checked b _ rfl).trans single.symm
  | modulo => exact (divided_checked b _ rfl).trans single.symm
  | _ => rfl

theorem value_of_evaluated (context : Context) (f : Formula) (v : Value) (evaluated : evaluate context f = .ok v) :
    context.valueOf f = v := by
  rw [Context.valueOf, evaluated]
  rfl

theorem values_of_evaluated (context : Context) (fs : List Formula) (values : List Value)
    (evaluated : evaluateAll context fs = .ok values) : fs.map context.valueOf = values := by
  induction fs generalizing values with
  | nil =>
      cases evaluated
      rfl
  | cons f rest ih =>
      obtain ⟨v, later, head, tail, rfl⟩ := evaluated_cons context f rest values evaluated
      rw [List.map_cons, value_of_evaluated context f v head, ih later tail]

section

variable (context : Context)

theorem call_checked (name : String) (args : List Formula)
    (arguments : failure? (evaluateAll context args) = firstError? (checksAll context args)) :
    failure? (evaluate context (.call name args)) = firstError? (checks context (.call name args)) := by
  rw [evaluate, checks, arity_named]
  cases found : Function.named? name with
  | none => simp [failure?, firstError?, Check.error?, arity_named, found]
  | some f =>
      have known : Check.error? (.known name) = none := by simp [Check.error?, arity_named, found]
      simp only [Option.map_some]
      rw [firstError?, List.findSome?_cons, known]
      refine failure_bind _ _ [.enough (arityOf f) args.length, .notTooMany (arityOf f) args.length] _ ?_ ?_
      · rw [← arity_checks]
        exact count_checked (arityOf f) args.length
      intro _ counted
      refine failure_bind _ _ (checksAll context args) _ arguments fun values evaluated => ?_
      rw [values_of_evaluated context args values evaluated]
      rw [← evaluated_length context args values evaluated] at counted
      exact function_checked name f found context.now values counted

mutual

theorem evaluate_checked (f : Formula) : failure? (evaluate context f) = firstError? (checks context f) := by
  cases f with
  | literal v => rfl
  | field name => rfl
  | unary op operand =>
      have checked := evaluate_checked operand
      rw [evaluate, checks, ← checked]
      cases evaluate context operand <;> rfl
  | binary op left right =>
      rw [evaluate, checks, List.append_assoc]
      refine failure_bind _ _ (checks context left) _ (evaluate_checked left) fun a _ => ?_
      refine failure_bind _ _ (checks context right) _ (evaluate_checked right) fun b evaluated => ?_
      rw [value_of_evaluated context right b evaluated]
      exact operator_checked op a b
  | call name args => exact call_checked context name args (evaluate_all_checked args)

theorem evaluate_all_checked (fs : List Formula) :
    failure? (evaluateAll context fs) = firstError? (checksAll context fs) := by
  cases fs with
  | nil => rfl
  | cons f rest =>
      rw [evaluateAll, checksAll]
      refine failure_bind _ _ (checks context f) _ (evaluate_checked f) fun v _ => ?_
      rw [← evaluate_all_checked rest]
      cases evaluateAll context rest <;> rfl

end

end

-- The formulas that some formula is a subtree of, itself among them.
inductive Formula.PartOf (part : Formula) : Formula → Prop where
  | whole : PartOf part part
  | operand (op : UnaryOperator) (f : Formula) (inside : PartOf part f) : PartOf part (.unary op f)
  | left (op : BinaryOperator) (f g : Formula) (inside : PartOf part f) : PartOf part (.binary op f g)
  | right (op : BinaryOperator) (f g : Formula) (inside : PartOf part g) : PartOf part (.binary op f g)
  | argument (name : String) (args : List Formula) (f : Formula) (member : f ∈ args) (inside : PartOf part f) :
      PartOf part (.call name args)

def Errs (outcome : Except EvaluationError α) : Prop := ∃ e, outcome = .error e

theorem bind_errs (first : Except EvaluationError α) (next : α → Except EvaluationError β) (errs : Errs first) :
    Errs (first >>= next) := by
  obtain ⟨e, rfl⟩ := errs
  exact ⟨e, rfl⟩

theorem errs_behind (first : Except EvaluationError α) (next : α → Except EvaluationError β)
    (errs : ∀ a, Errs (next a)) : Errs (first >>= next) := by
  cases first with
  | error e => exact ⟨e, rfl⟩
  | ok a => exact errs a

theorem argument_errs (context : Context) (fs : List Formula) (f : Formula) (member : f ∈ fs)
    (errs : Errs (evaluate context f)) : Errs (evaluateAll context fs) := by
  induction fs with
  | nil => cases member
  | cons g rest ih =>
      rw [evaluateAll]
      rcases List.mem_cons.mp member with rfl | later
      · exact bind_errs _ _ errs
      · exact errs_behind _ _ fun _ => bind_errs _ _ (ih later)

theorem part_errs (context : Context) (part f : Formula) (inside : part.PartOf f)
    (errs : Errs (evaluate context part)) : Errs (evaluate context f) := by
  induction inside with
  | whole => exact errs
  | operand op f inside ih =>
      rw [evaluate]
      exact bind_errs _ _ ih
  | left op f g inside ih =>
      rw [evaluate]
      exact bind_errs _ _ ih
  | right op f g inside ih =>
      rw [evaluate]
      exact errs_behind _ _ fun _ => bind_errs _ _ ih
  | argument name args f member inside ih =>
      rw [evaluate]
      cases Function.named? name with
      | none => exact ⟨_, rfl⟩
      | some function => exact errs_behind _ _ fun _ => bind_errs _ _ (argument_errs context args f member ih)

theorem failure_some (outcome : Except EvaluationError α) (e : EvaluationError) :
    outcome = .error e ↔ failure? outcome = some e := by
  cases outcome <;> simp [failure?]

theorem first_failing_check (context : Context) (f : Formula) :
    (∀ e, evaluate context f = .error e ↔ firstError? (checks context f) = some e) ∧
      ((∃ e, evaluate context f = .error e) ↔ ∃ check ∈ checks context f, check.error? ≠ none) ∧
      ∀ part : Formula, part.PartOf f → (∃ e, evaluate context part = .error e) →
        ∃ e, evaluate context f = .error e := by
  have reported (e : EvaluationError) : evaluate context f = .error e ↔ firstError? (checks context f) = some e := by
    rw [failure_some, evaluate_checked]
  refine ⟨reported, ?_, fun part inside errs => part_errs context part f inside errs⟩
  constructor
  · rintro ⟨e, failed⟩
    obtain ⟨check, member, error⟩ := List.exists_of_findSome?_eq_some ((reported e).mp failed)
    exact ⟨check, member, by simp [error]⟩
  · rintro ⟨check, member, fails⟩
    cases first : firstError? (checks context f) with
    | none => exact absurd (List.findSome?_eq_none_iff.mp first check member) fails
    | some e => exact ⟨e, (reported e).mpr first⟩

def emptyContext : Context := ⟨∅, none, {}, ⟨0, 0⟩⟩

def zeroDivided : Formula := .binary .divide (.literal (.number 1)) (.literal .empty)

def chosenFirst : Formula := .call "IF" [.literal (.boolean true), .literal (.number 1), zeroDivided]

def decidedFirst : Formula := .call "OR" [.literal (.boolean true), zeroDivided]

-- Neither the branch that is not taken nor the argument that decides nothing any more is left out.
theorem untaken_branch_fails :
    (zeroDivided.PartOf chosenFirst ∧ evaluate emptyContext zeroDivided = .error .divisionByZero ∧
        ∃ e, evaluate emptyContext chosenFirst = .error e) ∧
      zeroDivided.PartOf decidedFirst ∧ ∃ e, evaluate emptyContext decidedFirst = .error e := by
  have failed : evaluate emptyContext zeroDivided = .error .divisionByZero := rfl
  have inBranch : zeroDivided.PartOf chosenFirst := .argument _ _ _ (by simp) .whole
  have inArgument : zeroDivided.PartOf decidedFirst := .argument _ _ _ (by simp) .whole
  exact ⟨⟨inBranch, failed, (first_failing_check emptyContext chosenFirst).2.2 _ inBranch ⟨_, failed⟩⟩, inArgument,
    (first_failing_check emptyContext decidedFirst).2.2 _ inArgument ⟨_, failed⟩⟩

example : firstError? (checks emptyContext (.call "ABS" [zeroDivided, .call "NONE" []])) =
    some (.tooManyArguments "ABS" 1 2) := rfl

end FormulaField
