import FormulaField.Proofs.Formula.Grammar

/-!
Programs that call procedures and repeat loops over one place in a text, run step by step with a stack of what waits
for a result. Nothing bounds a run, and a step without a result breaks it off: that a program completes is shown by
rules that follow its instructions, and at all places on the way one condition holds.
-/

set_option autoImplicit false

namespace FormulaField.Descent

structure Place where
  position : Nat
  depth : Nat
  dependencies : Names

inductive Procedure where
  | chain (kind : Chain)
  | power
  | unary
  | primary
  | arguments (name : String)

inductive Program : Type → Type 1 where
  | done {α : Type} (a : α) : Program α
  | fail {α : Type} (e : ParseError) : Program α
  -- A step that may have no result, and breaks off where it has none.
  | given {α : Type} (step : Option α) : Program α
  | get : Program Place
  | put (place : Place) : Program Unit
  | bind {α β : Type} (first : Program α) (next : α → Program β) : Program β
  | loop {σ α : Type} (turn : σ → Program (σ ⊕ α)) (start : σ) : Program α
  | call (p : Procedure) : Program Formula

instance : Monad Program where
  pure := .done
  bind := .bind

-- What the callers and the instructions around the present one do with its result.
inductive Stack : Type → Type 1 where
  | empty : Stack Formula
  | push {α β : Type} (next : α → Program β) (below : Stack β) : Stack α

structure Config where
  {α : Type}
  place : Place
  program : Program α
  stack : Stack α

inductive Turn where
  | next (c : Config)
  | finished (result : Except ParseError Formula) (place : Place)
  | broken

def again {σ α : Type} (turn : σ → Program (σ ⊕ α)) : σ ⊕ α → Program α
  | .inl state => .loop turn state
  | .inr a => .done a

def step (body : Procedure → Program Formula) : Config → Turn
  | ⟨place, .done a, .push next below⟩ => .next ⟨place, next a, below⟩
  | ⟨place, .done f, .empty⟩ => .finished (.ok f) place
  | ⟨place, .fail e, .push _ below⟩ => .next ⟨place, .fail e, below⟩
  | ⟨place, .fail e, .empty⟩ => .finished (.error e) place
  | ⟨place, .given (some a), stack⟩ => .next ⟨place, .done a, stack⟩
  | ⟨_, .given none, _⟩ => .broken
  | ⟨place, .get, stack⟩ => .next ⟨place, .done place, stack⟩
  | ⟨_, .put place, stack⟩ => .next ⟨place, .done (), stack⟩
  | ⟨place, .bind first next, stack⟩ => .next ⟨place, first, .push next stack⟩
  | ⟨place, .loop turn start, stack⟩ => .next ⟨place, turn start, .push (again turn) stack⟩
  | ⟨place, .call p, stack⟩ => .next ⟨place, body p, stack⟩

inductive Leads (body : Procedure → Program Formula) : Nat → Config → Config → Prop where
  | here (c : Config) : Leads body 0 c c
  | step (n : Nat) (c next last : Config) (stepped : step body c = .next next) (rest : Leads body n next last) :
      Leads body (n + 1) c last

inductive Arrives (body : Procedure → Program Formula) (fit : Place → Prop) (goal : Config → Prop) : Config → Prop where
  | here (c : Config) (fits : fit c.place) (reached : goal c) : Arrives body fit goal c
  | step (c next : Config) (fits : fit c.place) (stepped : step body c = .next next)
      (rest : Arrives body fit goal next) : Arrives body fit goal c

section

variable {body : Procedure → Program Formula} {fit : Place → Prop} {goal further : Config → Prop}

theorem arrives_trans (c : Config) (arrives : Arrives body fit goal c)
    (later : ∀ c, fit c.place → goal c → Arrives body fit further c) : Arrives body fit further c := by
  induction arrives with
  | here c fits reached => exact later c fits reached
  | step c next fits stepped rest ih => exact .step c next fits stepped ih

theorem arrives_fit (c : Config) (arrives : Arrives body fit goal c) : fit c.place := by
  cases arrives with
  | here _ fits _ => exact fits
  | step _ _ fits _ _ => exact fits

theorem arrives_leads (c : Config) (arrives : Arrives body fit goal c) :
    ∃ n last, Leads body n c last ∧ fit last.place ∧ goal last := by
  induction arrives with
  | here c fits reached => exact ⟨0, c, .here c, fits, reached⟩
  | step c next fits stepped rest ih =>
      obtain ⟨n, last, leads, reached⟩ := ih
      exact ⟨n + 1, last, .step n c next last stepped leads, reached⟩

theorem leads_arrives (n : Nat) (c last : Config) (ends : ∀ c next, goal c → step body c ≠ .next next)
    (arrives : Arrives body fit goal c) (leads : Leads body n c last) : Arrives body fit goal last := by
  induction leads with
  | here c => exact arrives
  | step n c next last stepped rest ih =>
      cases arrives with
      | here _ _ reached => exact absurd stepped (ends c next reached)
      | step _ other _ steppedToo further =>
          rw [stepped] at steppedToo
          cases steppedToo
          exact ih further

end

def Program.ended {α : Type} : Except ParseError α → Program α
  | .ok a => .done a
  | .error e => .fail e

def Returned {α : Type} (stack : Stack α) (post : Except ParseError α → Place → Prop) (c : Config) : Prop :=
  ∃ result place, c = ⟨place, .ended result, stack⟩ ∧ post result place

-- Whatever waits for it, the program comes to a result with a property.
def Completes {α : Type} (body : Procedure → Program Formula) (fit : Place → Prop) (program : Program α)
    (place : Place) (post : Except ParseError α → Place → Prop) : Prop :=
  ∀ stack : Stack α, Arrives body fit (Returned stack post) ⟨place, program, stack⟩

def Turned {σ α : Type} (body : Procedure → Program Formula) (fit : Place → Prop) (turn : σ → Program (σ ⊕ α))
    (post : Except ParseError α → Place → Prop) : Except ParseError (σ ⊕ α) → Place → Prop
  | .ok (.inl state), place => Completes body fit (.loop turn state) place post
  | .ok (.inr a), place => post (.ok a) place
  | .error e, place => post (.error e) place

section

variable {α β σ : Type} {body : Procedure → Program Formula} {fit : Place → Prop} {place : Place}
  {post : Except ParseError α → Place → Prop}

theorem completes_fits {program : Program α} (completes : Completes body fit program place post) (stack : Stack α) :
    fit place :=
  arrives_fit _ (completes stack)

theorem completes_done (a : α) (fits : fit place) (holds : post (.ok a) place) :
    Completes body fit (pure a) place post := fun _ =>
  .here _ fits ⟨.ok a, place, rfl, holds⟩

theorem completes_fail (e : ParseError) (fits : fit place) (holds : post (.error e) place) :
    Completes body fit (.fail e) place post := fun _ =>
  .here _ fits ⟨.error e, place, rfl, holds⟩

theorem completes_step {program further : Program α} {after : Place} (fits : fit place)
    (stepped : ∀ stack, step body ⟨place, program, stack⟩ = .next ⟨after, further, stack⟩)
    (completes : Completes body fit further after post) : Completes body fit program place post := fun stack =>
  .step _ _ fits (stepped stack) (completes stack)

theorem completes_call {p : Procedure} {post : Except ParseError Formula → Place → Prop}
    (completes : Completes body fit (body p) place post) : Completes body fit (.call p) place post := fun stack =>
  .step _ _ (completes_fits completes stack) rfl (completes stack)

theorem completes_pushed {first : Program α} {next : α → Program β} {middle : Except ParseError α → Place → Prop}
    {post : Except ParseError β → Place → Prop} (completes : Completes body fit first place middle)
    (later : ∀ a after, fit after → middle (.ok a) after → Completes body fit (next a) after post)
    (failed : ∀ e after, middle (.error e) after → post (.error e) after) (stack : Stack β) :
    Arrives body fit (Returned stack post) ⟨place, first, .push next stack⟩ := by
  refine arrives_trans _ (completes (.push next stack)) ?_
  rintro c fits ⟨result, after, rfl, holds⟩
  cases result with
  | ok a => exact .step _ _ fits rfl (later a after fits holds stack)
  | error e => exact .step _ _ fits rfl (.here _ fits ⟨.error e, after, rfl, failed e after holds⟩)

theorem completes_bind {first : Program α} {next : α → Program β} {middle : Except ParseError α → Place → Prop}
    {post : Except ParseError β → Place → Prop} (completes : Completes body fit first place middle)
    (later : ∀ a after, fit after → middle (.ok a) after → Completes body fit (next a) after post)
    (failed : ∀ e after, middle (.error e) after → post (.error e) after) :
    Completes body fit (first >>= next) place post := fun stack =>
  .step _ _ (completes_fits completes (.push next stack)) rfl (completes_pushed completes later failed stack)

theorem completes_loop {turn : σ → Program (σ ⊕ α)} {state : σ}
    (completes : Completes body fit (turn state) place (Turned body fit turn post)) :
    Completes body fit (.loop turn state) place post := fun stack => by
  refine .step _ _ (completes_fits completes (.push (again turn) stack)) rfl (completes_pushed completes ?_ ?_ stack)
  · intro result after fitsAfter turned
    cases result with
    | inl further => exact turned
    | inr a => exact completes_done a fitsAfter turned
  · exact fun e after turned => turned

end

end FormulaField.Descent
