import FormulaField.Proofs.Safety.Instants
import FormulaField.Proofs.Safety.Texts

set_option autoImplicit false

namespace FormulaField

open Calendar (Instant)

abbrev Guarded (α : Type) := ExceptT EvaluationError Option α

namespace Guarded

variable {α β : Type}

def given (outcome : Except EvaluationError α) : Guarded α := ExceptT.mk (some outcome)

-- A step that has bounds, taken inside them.
def within (step : Option α) : Guarded α := ExceptT.mk (step.map .ok)

def Completes (x : Guarded α) (outcome : Except EvaluationError α) : Prop := x.run = some outcome

theorem completes_given (outcome : Except EvaluationError α) : Completes (given outcome) outcome := rfl

theorem completes_bind (x : Guarded α) (next : α → Guarded β) (outcome : Except EvaluationError α)
    (following : α → Except EvaluationError β) (first : Completes x outcome)
    (later : ∀ a, outcome = .ok a → Completes (next a) (following a)) :
    Completes (x >>= next) (outcome >>= following) := by
  rw [Completes, ExceptT.run_bind, first]
  cases outcome with
  | error e => rfl
  | ok a => exact later a rfl

theorem completes_within (step : Option α) (next : α → Guarded β) (a : α) (outcome : Except EvaluationError β)
    (inside : step = some a) (later : Completes (next a) outcome) : Completes (within step >>= next) outcome := by
  rw [inside]
  exact later

-- The arguments of a signature by their places. An argument that may be left out is asked for, never taken.
def positional (now : Instant) (args : List Value) : Signature → Guarded Value
  | .nullary f => return f now
  | .one f => do
      let a ← within args[0]?
      given (f a)
  | .oneOrTwo f => do
      let a ← within args[0]?
      given (f a args[1]?)
  | .two f => do
      let a ← within args[0]?
      let b ← within args[1]?
      given (f a b)
  | .twoOrThree f => do
      let a ← within args[0]?
      let b ← within args[1]?
      given (f a b args[2]?)
  | .three f => do
      let a ← within args[0]?
      let b ← within args[1]?
      let c ← within args[2]?
      given (f a b c)
  | .variadic f => given (f args)
  | .atLeastOne f => do
      let a ← within args[0]?
      given (f a args.tail)

theorem positional_completes (signature : Signature) (now : Instant) (args : List Value) (outcome : Outcome)
    (admitted : signature.outcome? now args = some outcome) : Completes (positional now args signature) outcome := by
  cases signature with
  | variadic f =>
      cases admitted
      rfl
  | _ => rcases args with _ | ⟨a, _ | ⟨b, _ | ⟨c, _ | ⟨d, rest⟩⟩⟩⟩ <;> cases admitted <;> rfl

theorem positional_breaks_off (signature : Signature) (now : Instant) (args : List Value)
    (few : args.length < signature.least) : (positional now args signature).run = none := by
  cases signature with
  | nullary f => exact absurd few (Nat.not_lt_zero _)
  | variadic f => exact absurd few (Nat.not_lt_zero _)
  | one f | oneOrTwo f | atLeastOne f =>
      rw [List.length_eq_zero_iff.mp (Nat.lt_one_iff.mp few)]
      rfl
  | two f | twoOrThree f =>
      rcases args with _ | ⟨a, _ | ⟨b, rest⟩⟩
      · rfl
      · rfl
      · exact absurd few (by simp [Signature.least])
  | three f =>
      rcases args with _ | ⟨a, _ | ⟨b, _ | ⟨c, rest⟩⟩⟩
      · rfl
      · rfl
      · rfl
      · exact absurd few (by simp [Signature.least])

def rightBody (args : List Value) : Guarded Value := do
  let v ← within args[0]?
  let cs ← within (right? (Texts.characters v) (Texts.countOrOne args[1]?))
  given (Texts.text cs)

def findBody (args : List Value) : Guarded Value := do
  let sought ← within args[0]?
  let v ← within args[1]?
  let position ← within
    (find? (Texts.characters sought) (Texts.characters v) ((args[2]?.map Value.toCount).getD 0))
  given (.ok (Texts.place position))

def text? (v : Value) (decimals : Option Value) : Option String :=
  match v, decimals with
  | .number n, some decimals =>
      if n.isFinite then
        (fixed? (min decimals.toCount DisplayFormat.maxDecimals) n).map String.ofList
      else some v.toText
  | _, _ => some v.toText

def textBody (args : List Value) : Guarded Value := do
  let v ← within args[0]?
  let s ← within (text? v args[1]?)
  given (.ok (.text s))

def dateDiffBody (args : List Value) : Guarded Value := do
  let period ← given (Dates.Period.ofArgument args[2]?)
  let start ← within args[0]?
  let finish ← within args[1]?
  match start.toInstant?, finish.toInstant? with
  | some start, some finish => do
      let span ← within (difference? start finish period)
      return .number (Number.ofInt span)
  | _, _ => return .empty

def dateAddBody (args : List Value) : Guarded Value := do
  let period ← given (Dates.Period.ofArgument args[2]?)
  let date ← within args[0]?
  match date.toInstant? with
  | some i => do
      let amount ← within args[1]?
      if amount.toNumber.isFinite then do
        match ← within (moved? i amount.toNumber period) with
        | some result => return .date result
        | none => return .empty
      else return .empty
  | none => return .empty

def ownBody? : String → Option (List Value → Guarded Value)
  | "RIGHT" => some rightBody
  | "FIND" => some findBody
  | "TEXT" => some textBody
  | "DATEDIFF" => some dateDiffBody
  | "DATEADD" => some dateAddBody
  | _ => none

def body (name : String) (f : Function) (now : Instant) (args : List Value) : Guarded Value :=
  match ownBody? name with
  | some own => own args
  | none => positional now args f.signature

theorem one_or_two (f : Value → Option Value → Outcome) (now : Instant) (args : List Value) (outcome : Outcome)
    (admitted : (Signature.oneOrTwo f).outcome? now args = some outcome) :
    ∃ a, args[0]? = some a ∧ outcome = f a args[1]? := by
  rcases args with _ | ⟨a, _ | ⟨b, _ | ⟨c, rest⟩⟩⟩
  · cases admitted
  · cases admitted
    exact ⟨a, rfl, rfl⟩
  · cases admitted
    exact ⟨a, rfl, rfl⟩
  · cases admitted

theorem two_or_three (f : Value → Value → Option Value → Outcome) (now : Instant) (args : List Value)
    (outcome : Outcome) (admitted : (Signature.twoOrThree f).outcome? now args = some outcome) :
    ∃ a b, args[0]? = some a ∧ args[1]? = some b ∧ outcome = f a b args[2]? := by
  rcases args with _ | ⟨a, _ | ⟨b, _ | ⟨c, _ | ⟨d, rest⟩⟩⟩⟩
  · cases admitted
  · cases admitted
  · cases admitted
    exact ⟨a, b, rfl, rfl, rfl⟩
  · cases admitted
    exact ⟨a, b, rfl, rfl, rfl⟩
  · cases admitted

theorem right_body (args : List Value) (v : Value) (first : args[0]? = some v) :
    Completes (rightBody args) (Texts.text (Texts.right (Texts.characters v) (Texts.countOrOne args[1]?))) :=
  completes_within _ _ v _ first (completes_within _ _ _ _ (right_completes _ _) (completes_given _))

theorem find_body (args : List Value) (sought v : Value) (first : args[0]? = some sought) (second : args[1]? = some v) :
    Completes (findBody args) (.ok (Texts.place (Texts.find? (Texts.characters sought) (Texts.characters v)
      ((args[2]?.map Value.toCount).getD 0)))) :=
  completes_within _ _ sought _ first (completes_within _ _ v _ second
    (completes_within _ _ _ _ (find_completes _ _ _) (completes_given _)))

theorem text_completes (v : Value) (decimals : Option Value) : text? v decimals = some (Inspection.text v decimals) := by
  cases v with
  | number n =>
      cases decimals with
      | none => rfl
      | some decimals =>
          rw [text?, Inspection.text, fixed_completes]
          split
          · rfl
          · rfl
  | _ => rfl

theorem text_body (args : List Value) (v : Value) (first : args[0]? = some v) :
    Completes (textBody args) (.ok (.text (Inspection.text v args[1]?))) :=
  completes_within _ _ v _ first (completes_within _ _ _ _ (text_completes _ _) (completes_given _))

theorem date_diff_body (args : List Value) (start finish : Value) (first : args[0]? = some start)
    (second : args[1]? = some finish) (early : start.Representable) (late : finish.Representable) :
    Completes (dateDiffBody args) (Dates.dateDiff start finish args[2]?) := by
  refine completes_bind _ _ _ _ (completes_given _) fun period _ => ?_
  refine completes_within _ _ start _ first (completes_within _ _ finish _ second ?_)
  cases readStart : start.toInstant? with
  | none => rfl
  | some i =>
      cases readFinish : finish.toInstant? with
      | none => rfl
      | some j =>
          have small := start.to_instant_representable early i readStart
          have large := finish.to_instant_representable late j readFinish
          exact completes_within _ _ _ _ (difference_completes i j period small large) (completes_given _)

theorem date_add_body (args : List Value) (date amount : Value) (first : args[0]? = some date)
    (second : args[1]? = some amount) : Completes (dateAddBody args) (Dates.dateAdd date amount args[2]?) := by
  refine completes_bind _ _ _ _ (completes_given _) fun period _ => ?_
  refine completes_within _ _ date _ first ?_
  cases date.toInstant? with
  | none => rfl
  | some i =>
      refine completes_within _ _ amount _ second ?_
      simp only
      split
      · refine completes_within _ _ _ _ (moved_completes i amount.toNumber period) ?_
        cases Dates.moved? i amount.toNumber period with
        | none => rfl
        | some result => rfl
      · rfl

theorem body_completes (name : String) (f : Function) (found : Function.named? name = some f) (now : Instant)
    (args : List Value) (representable : ∀ v ∈ args, v.Representable) (outcome : Outcome)
    (admitted : f.signature.outcome? now args = some outcome) : Completes (body name f now args) outcome := by
  rw [body]
  unfold ownBody?
  split
  next own =>
    split at own
    · cases found
      cases own
      obtain ⟨v, first, rfl⟩ := one_or_two _ _ _ _ admitted
      exact right_body args v first
    · cases found
      cases own
      obtain ⟨sought, v, first, second, rfl⟩ := two_or_three _ _ _ _ admitted
      exact find_body args sought v first second
    · cases found
      cases own
      obtain ⟨v, first, rfl⟩ := one_or_two _ _ _ _ admitted
      exact text_body args v first
    · cases found
      cases own
      obtain ⟨start, finish, first, second, rfl⟩ := two_or_three _ _ _ _ admitted
      exact date_diff_body args start finish first second (representable _ (List.mem_of_getElem? first))
        (representable _ (List.mem_of_getElem? second))
    · cases found
      cases own
      obtain ⟨date, amount, first, second, rfl⟩ := two_or_three _ _ _ _ admitted
      exact date_add_body args date amount first second
    · cases own
  next => exact positional_completes _ _ _ _ admitted

-- How many arguments a function takes, as they are looked up before any is evaluated.
structure Arity where
  name : String
  least : Nat
  most? : Option Nat

def arities : List Arity := [
  ⟨"SUM", 0, none⟩, ⟨"AVG", 0, none⟩, ⟨"MIN", 1, none⟩, ⟨"MAX", 1, none⟩, ⟨"ROUND", 1, some 2⟩, ⟨"ABS", 1, some 1⟩,
  ⟨"SQRT", 1, some 1⟩, ⟨"POWER", 2, some 2⟩, ⟨"MOD", 2, some 2⟩,
  ⟨"IF", 2, some 3⟩, ⟨"AND", 0, none⟩, ⟨"OR", 0, none⟩, ⟨"NOT", 1, some 1⟩,
  ⟨"CONCAT", 0, none⟩, ⟨"UPPER", 1, some 1⟩, ⟨"LOWER", 1, some 1⟩, ⟨"TRIM", 1, some 1⟩, ⟨"LEN", 1, some 1⟩,
  ⟨"LEFT", 1, some 2⟩, ⟨"RIGHT", 1, some 2⟩, ⟨"MID", 2, some 3⟩, ⟨"FIND", 2, some 3⟩, ⟨"REPLACE", 3, some 3⟩,
  ⟨"TODAY", 0, some 0⟩, ⟨"NOW", 0, some 0⟩, ⟨"YEAR", 1, some 1⟩, ⟨"MONTH", 1, some 1⟩, ⟨"DAY", 1, some 1⟩,
  ⟨"HOUR", 1, some 1⟩, ⟨"MINUTE", 1, some 1⟩, ⟨"SECOND", 1, some 1⟩, ⟨"DATEDIFF", 2, some 3⟩, ⟨"DATEADD", 2, some 3⟩,
  ⟨"COUNT", 0, none⟩, ⟨"COUNTA", 0, none⟩, ⟨"COUNTBLANK", 0, none⟩, ⟨"ISBLANK", 1, some 1⟩, ⟨"ISNUMBER", 1, some 1⟩,
  ⟨"ISTEXT", 1, some 1⟩, ⟨"ISERROR", 1, some 1⟩, ⟨"VALUE", 1, some 1⟩, ⟨"TEXT", 1, some 2⟩, ⟨"BLANK", 0, some 0⟩]

def arity? (name : String) : Option Arity := arities.find? (·.name = name)

def Arity.check (arity : Arity) (count : Nat) : Except EvaluationError Unit :=
  if count < arity.least then .error (.tooFewArguments arity.name arity.least count)
  else match arity.most? with
    | some most => if most < count then .error (.tooManyArguments arity.name most count) else .ok ()
    | none => .ok ()

def arityOf (f : Function) : Arity := ⟨f.name, f.signature.least, f.signature.most?⟩

theorem arities_of_functions : Function.all.map arityOf = arities := rfl

theorem arity_named (name : String) : arity? name = (Function.named? name).map arityOf := by
  rw [arity?, ← arities_of_functions, List.find?_map]
  rfl

theorem arity_checks (f : Function) (count : Nat) : (arityOf f).check count = f.checkCount count := by
  rw [Arity.check, Function.checkCount, Function.countError?, arityOf]
  split
  · rfl
  · cases f.signature.most? with
    | none => rfl
    | some most =>
        simp only
        split
        · rfl
        · rfl

theorem counted_bounds (f : Function) (count : Nat) (counted : f.checkCount count = .ok ()) :
    f.signature.least ≤ count ∧ ∀ most, f.signature.most? = some most → count ≤ most := by
  have passed : f.countError? count = none := by
    rw [Function.checkCount] at counted
    split at counted
    · cases counted
    · assumption
  rw [Function.countError?] at passed
  split at passed
  · cases passed
  next enough =>
    refine ⟨Nat.le_of_not_lt enough, fun most known => ?_⟩
    rw [known] at passed
    simp only at passed
    split at passed
    · cases passed
    next few => exact Nat.le_of_not_lt few

theorem bounded_outcome (signature : Signature) (now : Instant) (args : List Value)
    (enough : signature.least ≤ args.length) (few : ∀ most, signature.most? = some most → args.length ≤ most) :
    ∃ outcome, signature.outcome? now args = some outcome := by
  cases signature with
  | variadic f => exact ⟨f args, rfl⟩
  | atLeastOne f =>
      cases args with
      | nil => exact absurd enough (Nat.not_succ_le_zero 0)
      | cons a rest => exact ⟨f a rest, rfl⟩
  | _ =>
      have most := few _ rfl
      rcases args with _ | ⟨a, _ | ⟨b, _ | ⟨c, _ | ⟨d, rest⟩⟩⟩⟩
      all_goals simp only [Signature.least, List.length_cons, List.length_nil] at enough most
      all_goals first
        | exact ⟨_, rfl⟩
        | omega

theorem counted_outcome (f : Function) (now : Instant) (args : List Value)
    (counted : f.checkCount args.length = .ok ()) : f.signature.outcome? now args = some (f.apply now args) := by
  obtain ⟨enough, few⟩ := counted_bounds f args.length counted
  obtain ⟨outcome, admitted⟩ := bounded_outcome f.signature now args enough few
  rw [Function.apply, counted, admitted]
  rfl

end Guarded

end FormulaField
