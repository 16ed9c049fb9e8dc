import FormulaField.Formula.Evaluation
import FormulaField.Proofs.Safety.Dates

set_option autoImplicit false

namespace FormulaField

open Calendar (Instant)

namespace Value

def Representable : Value → Prop
  | .date i => i.Representable
  | _ => True

theorem to_instant_representable (v : Value) (representable : v.Representable) (i : Instant)
    (read : v.toInstant? = some i) : i.Representable := by
  cases v with
  | date own =>
      cases read
      exact representable
  | number n =>
      rw [toInstant?] at read
      split at read
      · exact Instant.in_range_representable _ (Instant.of_milliseconds_bounded _) i read
      · cases read
  | text s => exact Calendar.of_text_representable s i read
  | empty => cases read
  | boolean b => cases read

end Value

def Kept : Outcome → Prop
  | .ok v => v.Representable
  | .error _ => True

theorem kept_bind {α : Type} (first : Except EvaluationError α) (next : α → Outcome)
    (later : ∀ a, first = .ok a → Kept (next a)) : Kept (first >>= next) := by
  cases first with
  | error e => trivial
  | ok a => exact later a rfl

namespace Signature

-- From arguments with instants in range only, no outcome has another.
def Keeps : Signature → Prop
  | .nullary f => ∀ now, now.Representable → (f now).Representable
  | .one f => ∀ a, a.Representable → Kept (f a)
  | .oneOrTwo f => ∀ a b, a.Representable → (∀ v ∈ b, v.Representable) → Kept (f a b)
  | .two f => ∀ a b, a.Representable → b.Representable → Kept (f a b)
  | .twoOrThree f => ∀ a b c, a.Representable → b.Representable → (∀ v ∈ c, v.Representable) → Kept (f a b c)
  | .three f => ∀ a b c, a.Representable → b.Representable → c.Representable → Kept (f a b c)
  | .variadic f => ∀ args, (∀ v ∈ args, v.Representable) → Kept (f args)
  | .atLeastOne f => ∀ a args, a.Representable → (∀ v ∈ args, v.Representable) → Kept (f a args)

theorem outcome_kept (signature : Signature) (keeps : signature.Keeps) (now : Instant) (present : now.Representable)
    (args : List Value) (representable : ∀ v ∈ args, v.Representable) (outcome : Outcome)
    (admitted : signature.outcome? now args = some outcome) : Kept outcome := by
  cases signature with
  | nullary f =>
      rcases args with _ | ⟨a, rest⟩
      · cases admitted
        exact keeps now present
      · cases admitted
  | variadic f =>
      cases admitted
      exact keeps args representable
  | atLeastOne f =>
      rcases args with _ | ⟨a, rest⟩
      · cases admitted
      · cases admitted
        exact keeps a rest (representable a (by simp)) fun v member => representable v (by simp [member])
  | _ =>
      rcases args with _ | ⟨a, _ | ⟨b, _ | ⟨c, _ | ⟨d, rest⟩⟩⟩⟩
      all_goals cases admitted
      all_goals apply keeps
      all_goals simp_all

end Signature

theorem choose_kept (condition whenTrue : Value) (whenFalse : Option Value) (first : whenTrue.Representable)
    (second : ∀ v ∈ whenFalse, v.Representable) : Kept (.ok (Logic.choose condition whenTrue whenFalse)) := by
  rw [Logic.choose]
  split
  · exact first
  · cases whenFalse with
    | none => trivial
    | some v => exact second v rfl

theorem modulo_kept (n divisor : Float) : Kept (Arithmetic.modulo n divisor) := by
  rw [Arithmetic.modulo]
  split
  · trivial
  · trivial

theorem divide_kept (n divisor : Float) : Kept (Arithmetic.divide n divisor) := by
  rw [Arithmetic.divide]
  split
  · trivial
  · trivial

theorem component_keeps (part : Instant → Int) : (Dates.component part).Keeps := by
  intro v _
  simp only
  split
  · trivial
  · trivial

theorem place_kept (position : Option Nat) : Kept (.ok (Texts.place position)) := by
  cases position with
  | none => trivial
  | some n => trivial

theorem date_diff_kept (start finish : Value) (unit : Option Value) : Kept (Dates.dateDiff start finish unit) := by
  refine kept_bind _ _ fun period _ => ?_
  split
  · trivial
  · trivial

theorem date_add_kept (date amount : Value) (unit : Option Value) (representable : date.Representable) :
    Kept (Dates.dateAdd date amount unit) := by
  refine kept_bind _ _ fun period _ => ?_
  split
  next i read =>
    split
    · split
      next result moved =>
        have inside := date.to_instant_representable representable i read
        exact Guarded.moved_representable i amount.toNumber period inside result moved
      next => trivial
    · trivial
  next => trivial

theorem arithmetic_keep : ∀ f ∈ Arithmetic.functions, f.signature.Keeps := by
  simp only [Arithmetic.functions, List.forall_mem_cons]
  exact ⟨fun _ _ => trivial, fun _ _ => trivial, fun _ _ _ _ => trivial, fun _ _ _ _ => trivial,
    fun _ _ _ _ => trivial, fun _ _ => trivial, fun _ _ => trivial, fun _ _ _ _ => trivial,
    fun _ _ _ _ => modulo_kept _ _, List.forall_mem_nil _⟩

theorem logic_keep : ∀ f ∈ Logic.functions, f.signature.Keeps := by
  simp only [Logic.functions, List.forall_mem_cons]
  exact ⟨fun condition whenTrue whenFalse _ first second => choose_kept _ _ _ first second, fun _ _ => trivial,
    fun _ _ => trivial, fun _ _ => trivial, List.forall_mem_nil _⟩

theorem texts_keep : ∀ f ∈ Texts.functions, f.signature.Keeps := by
  simp only [Texts.functions, List.forall_mem_cons]
  exact ⟨fun _ _ => trivial, fun _ _ => trivial, fun _ _ => trivial, fun _ _ => trivial, fun _ _ => trivial,
    fun _ _ _ _ => trivial, fun _ _ _ _ => trivial, fun _ _ _ _ _ _ => trivial, fun _ _ _ _ _ _ => place_kept _,
    fun _ _ _ _ _ _ => trivial, List.forall_mem_nil _⟩

theorem dates_keep : ∀ f ∈ Dates.functions, f.signature.Keeps := by
  simp only [Dates.functions, List.forall_mem_cons]
  exact ⟨Instant.midnight_representable, fun _ present => present, component_keeps _, component_keeps _,
    component_keeps _, component_keeps _, component_keeps _, component_keeps _,
    fun start finish unit _ _ _ => date_diff_kept start finish unit,
    fun date amount unit representable _ _ => date_add_kept date amount unit representable, List.forall_mem_nil _⟩

theorem inspection_keep : ∀ f ∈ Inspection.functions, f.signature.Keeps := by
  simp only [Inspection.functions, List.forall_mem_cons]
  exact ⟨fun _ _ => trivial, fun _ _ => trivial, fun _ _ => trivial, fun _ _ => trivial, fun _ _ => trivial,
    fun _ _ => trivial, fun _ _ => trivial, fun _ _ => trivial, fun _ _ _ _ => trivial, fun _ _ => trivial,
    List.forall_mem_nil _⟩

theorem functions_keep : ∀ f ∈ Function.all, f.signature.Keeps := by
  simp only [Function.all, List.forall_mem_append]
  exact ⟨⟨⟨⟨arithmetic_keep, logic_keep⟩, texts_keep⟩, dates_keep⟩, inspection_keep⟩

theorem apply_kept (f : Function) (member : f ∈ Function.all) (now : Instant) (present : now.Representable)
    (args : List Value) (representable : ∀ v ∈ args, v.Representable) : Kept (f.apply now args) := by
  refine kept_bind _ _ fun _ _ => ?_
  split
  next outcome admitted =>
    exact f.signature.outcome_kept (functions_keep f member) now present args representable outcome admitted
  next => trivial

theorem unary_kept (op : UnaryOperator) (v : Value) : (op.apply v).Representable := by
  cases op <;> trivial

theorem binary_kept (op : BinaryOperator) (a b : Value) : Kept (op.apply a b) := by
  cases op with
  | divide => exact divide_kept _ _
  | modulo => exact modulo_kept _ _
  | _ => trivial

structure Context.Representable (context : Context) : Prop where
  present : context.now.Representable
  fields : ∀ name, (context.fieldValue name).Representable

namespace Formula

mutual

def Representable : Formula → Prop
  | .literal v => v.Representable
  | .field _ => True
  | .unary _ operand => operand.Representable
  | .binary _ left right => left.Representable ∧ right.Representable
  | .call _ args => AllRepresentable args

def AllRepresentable : List Formula → Prop
  | [] => True
  | f :: rest => f.Representable ∧ AllRepresentable rest

end

end Formula

theorem evaluated_cons (context : Context) (f : Formula) (rest : List Formula) (values : List Value)
    (evaluated : evaluateAll context (f :: rest) = .ok values) :
    ∃ v later, evaluate context f = .ok v ∧ evaluateAll context rest = .ok later ∧ values = v :: later := by
  rw [evaluateAll] at evaluated
  cases head : evaluate context f with
  | error e =>
      rw [head] at evaluated
      cases evaluated
  | ok v =>
      cases tail : evaluateAll context rest with
      | error e =>
          rw [head, tail] at evaluated
          cases evaluated
      | ok later =>
          rw [head, tail] at evaluated
          cases evaluated
          exact ⟨v, later, rfl, rfl, rfl⟩

theorem evaluated_length (context : Context) (fs : List Formula) (values : List Value)
    (evaluated : evaluateAll context fs = .ok values) : values.length = fs.length := by
  induction fs generalizing values with
  | nil =>
      cases evaluated
      rfl
  | cons f rest ih =>
      obtain ⟨v, later, _, tail, rfl⟩ := evaluated_cons context f rest values evaluated
      rw [List.length_cons, List.length_cons, ih later tail]

mutual

theorem evaluate_kept (context : Context) (inside : context.Representable) (f : Formula) (literals : f.Representable) :
    Kept (evaluate context f) := by
  cases f with
  | literal v => exact literals
  | field name => exact inside.fields name
  | unary op operand =>
      rw [evaluate]
      exact kept_bind _ _ fun v _ => unary_kept op v
  | binary op left right =>
      rw [evaluate]
      exact kept_bind _ _ fun a _ => kept_bind _ _ fun b _ => binary_kept op a b
  | call name args =>
      rw [evaluate]
      split
      next => trivial
      next f found =>
        refine kept_bind _ _ fun _ _ => kept_bind _ _ fun values evaluated => ?_
        have arguments := evaluate_all_kept context inside args literals values evaluated
        exact apply_kept f (List.mem_of_find?_eq_some found) context.now inside.present values arguments

theorem evaluate_all_kept (context : Context) (inside : context.Representable) (fs : List Formula)
    (literals : Formula.AllRepresentable fs) (values : List Value) (evaluated : evaluateAll context fs = .ok values) :
    ∀ v ∈ values, v.Representable := by
  cases fs with
  | nil =>
      cases evaluated
      exact List.forall_mem_nil _
  | cons f rest =>
      obtain ⟨v, later, head, tail, rfl⟩ := evaluated_cons context f rest values evaluated
      have first := evaluate_kept context inside f literals.1
      rw [head] at first
      exact List.forall_mem_cons.mpr ⟨first, evaluate_all_kept context inside rest literals.2 later tail⟩

end

end FormulaField
