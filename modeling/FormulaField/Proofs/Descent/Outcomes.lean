import FormulaField.Proofs.Descent.Scanning
import FormulaField.Proofs.Formula.Errors

set_option autoImplicit false

namespace FormulaField.Descent

open Guarded (minus?)
open Program (loop)
open FormulaField.Parser (bind_run bind_error)

variable {α β : Type} {text : String} {known : Names} {n : Nat} {c : Cursor}

-- After a result the levels that are left are told; after an error it does not matter how deep it was met.
def Matches (text : String) (known : Names) (ends : Nat → Prop) (outcome : EStateM.Result ParseError Cursor α)
    (result : Except ParseError α) (place : Place) : Prop :=
  match outcome with
  | .ok a after => result = .ok a ∧ ∃ m, ends m ∧ Inside text known m after ∧ place = placeOf m after
  | .error e after => result = .error e ∧ place.dependencies = Names.ofList after.reads

def Agrees (text : String) (known : Names) (ends : Nat → Prop) (program : Program α) (n : Nat) (c : Cursor)
    (outcome : EStateM.Result ParseError Cursor α) : Prop :=
  Completes (body text) (Fit text known) program (placeOf n c) (Matches text known ends outcome)

variable {ends middle : Nat → Prop}

theorem agrees_done (inside : Inside text known n c) (a : α) (ended : ends n) :
    Agrees text known ends (pure a) n c (.ok a c) :=
  completes_done a (inside_fit inside) ⟨rfl, n, ended, inside, rfl⟩

theorem agrees_throw (inside : Inside text known n c) (e : ParseError) :
    Agrees (α := α) text known ends (.fail e) n c (.error e c) :=
  completes_fail e (inside_fit inside) ⟨rfl, rfl⟩

theorem agrees_fail (inside : Inside text known n c) (e : Nat → ParseError) :
    Agrees (α := α) text known ends (fail e) n c (.error (e c.position) c) :=
  completes_behind (yields_get (inside_fit inside)) (agrees_throw inside _)

theorem completes_after {first : Program α} {outcome : EStateM.Result ParseError Cursor α} {next : α → Program β}
    {post : Except ParseError β → Place → Prop} (agrees : Agrees text known middle first n c outcome)
    (later : ∀ a m after, middle m → Inside text known m after → outcome = .ok a after →
      Completes (body text) (Fit text known) (next a) (placeOf m after) post)
    (failed : ∀ e after place, outcome = .error e after → place.dependencies = Names.ofList after.reads →
      post (.error e) place) :
    Completes (body text) (Fit text known) (first >>= next) (placeOf n c) post := by
  refine completes_bind agrees ?_ ?_
  · intro a place _ ended
    cases outcome with
    | ok b after =>
        obtain ⟨same, m, reached, inside, rfl⟩ := ended
        cases same
        exact later a m after reached inside rfl
    | error e after => cases ended.1
  · intro e place ended
    cases outcome with
    | ok b after => cases ended.1
    | error e' after =>
        obtain ⟨same, dependencies⟩ := ended
        cases same
        exact failed e after place rfl dependencies

section

variable {γ : Type} (post : EStateM.Result ParseError Cursor β → Except ParseError γ → Place → Prop)
  (raises : ∀ e after place, place.dependencies = Names.ofList after.reads → post (.error e after) (.error e) place)

include raises

theorem completes_run {first : Program α} {p : Parser α} {next : α → Program γ} {q : α → Parser β}
    (agrees : Agrees text known middle first n c (p.run c))
    (later : ∀ a m after, middle m → Inside text known m after → p.run c = .ok a after →
      Completes (body text) (Fit text known) (next a) (placeOf m after) (post ((q a).run after))) :
    Completes (body text) (Fit text known) (first >>= next) (placeOf n c) (post ((p >>= q).run c)) := by
  refine completes_after agrees ?_ ?_
  · intro a m after reached inside ran
    rw [bind_run p q c after a ran]
    exact later a m after reached inside ran
  · intro e after place failed dependencies
    rw [bind_error p q c after e failed]
    exact raises e after place dependencies

-- One level down there is one level less left, and from the last level there is no way down.
theorem completes_descend {next : Unit → Program γ} {q : Parser.Level → Parser β} (inside : Inside text known n c)
    (lower : ∀ m, n = m + 1 → Inside text known m c →
      Completes (body text) (Fit text known) (next ()) (placeOf m c) (post ((q (Parser.level m)).run c))) :
    Completes (body text) (Fit text known) (descend >>= next) (placeOf n c)
      (post ((Parser.descend (below n) >>= q).run c)) := by
  have fits := inside_fit inside
  have levels := inside.levels
  cases n with
  | zero =>
      have full : Parser.maxDepth ≤ (placeOf 0 c).depth := Nat.le_refl _
      have ended : Agrees text known (fun _ => True) descend 0 c (.error (.tooDeeplyNested c.position) c) := by
        refine completes_behind (yields_get fits) ?_
        rw [if_pos full]
        exact agrees_throw inside _
      refine completes_after ended ?_ ?_
      · intro a m after _ _ never
        cases never
      · intro e after place same dependencies
        cases same
        exact raises _ c place dependencies
  | succ m =>
      have insideBelow : Inside text known m c := ⟨inside.split, Nat.le_of_succ_le levels, inside.known⟩
      have room : ¬Parser.maxDepth ≤ (placeOf (m + 1) c).depth := by
        rw [place_depth]
        omega
      have down : (placeOf (m + 1) c).depth + 1 = (placeOf m c).depth := by
        rw [place_depth, place_depth]
        omega
      have descended : Yields text known descend (placeOf (m + 1) c) () (placeOf m c) := by
        refine completes_behind (yields_get fits) ?_
        rw [if_neg room, down]
        exact yields_put fits (inside_fit insideBelow)
      exact completes_behind descended (lower m rfl insideBelow)

end

theorem agrees_bind {first : Program α} {p : Parser α} {next : α → Program β} {q : α → Parser β}
    (agrees : Agrees text known middle first n c (p.run c))
    (later : ∀ a m after, middle m → Inside text known m after → p.run c = .ok a after →
      Agrees text known ends (next a) m after ((q a).run after)) :
    Agrees text known ends (first >>= next) n c ((p >>= q).run c) :=
  completes_run (Matches text known ends) (fun _ _ _ dependencies => ⟨rfl, dependencies⟩) agrees later

theorem agrees_descend {next : Unit → Program β} {q : Parser.Level → Parser β} (inside : Inside text known n c)
    (lower : ∀ m, n = m + 1 → Inside text known m c → Agrees text known ends (next ()) m c ((q (Parser.level m)).run c)) :
    Agrees text known ends (descend >>= next) n c ((Parser.descend (below n) >>= q).run c) :=
  completes_descend (Matches text known ends) (fun _ _ _ dependencies => ⟨rfl, dependencies⟩) inside lower

def TurnAgrees {σ : Type} (text : String) (known : Names) (ends : Nat → Prop) (turn : σ → Program (σ ⊕ α))
    (program : Program (σ ⊕ α)) (n : Nat) (c : Cursor) (outcome : EStateM.Result ParseError Cursor α) : Prop :=
  Completes (body text) (Fit text known) program (placeOf n c)
    (Turned (body text) (Fit text known) turn (Matches text known ends outcome))

section

variable {σ : Type} {turn : σ → Program (σ ⊕ β)}

theorem agrees_loop {state : σ} {outcome : EStateM.Result ParseError Cursor β}
    (agrees : TurnAgrees text known ends turn (turn state) n c outcome) :
    Agrees text known ends (loop turn state) n c outcome :=
  completes_loop agrees

theorem turn_done (inside : Inside text known n c) (b : β) (ended : ends n) :
    TurnAgrees text known ends turn (pure (.inr b)) n c (.ok b c) :=
  completes_done _ (inside_fit inside) ⟨rfl, n, ended, inside, rfl⟩

theorem turn_goes_on {state : σ} {outcome : EStateM.Result ParseError Cursor β} (inside : Inside text known n c)
    (agrees : Agrees text known ends (loop turn state) n c outcome) :
    TurnAgrees text known ends turn (pure (.inl state)) n c outcome :=
  completes_done _ (inside_fit inside) agrees

theorem turn_bind {first : Program α} {p : Parser α} {next : α → Program (σ ⊕ β)} {q : α → Parser β}
    (agrees : Agrees text known middle first n c (p.run c))
    (later : ∀ a m after, middle m → Inside text known m after → p.run c = .ok a after →
      TurnAgrees text known ends turn (next a) m after ((q a).run after)) :
    TurnAgrees text known ends turn (first >>= next) n c ((p >>= q).run c) :=
  completes_run (fun outcome => Turned (body text) (Fit text known) turn (Matches text known ends outcome))
    (fun _ _ _ dependencies => ⟨rfl, dependencies⟩) agrees later

theorem turn_descend {next : Unit → Program (σ ⊕ β)} {q : Parser.Level → Parser β} (inside : Inside text known n c)
    (lower : ∀ m, n = m + 1 → Inside text known m c →
      TurnAgrees text known ends turn (next ()) m c ((q (Parser.level m)).run c)) :
    TurnAgrees text known ends turn (descend >>= next) n c ((Parser.descend (below n) >>= q).run c) :=
  completes_descend (fun outcome => Turned (body text) (Fit text known) turn (Matches text known ends outcome))
    (fun _ _ _ dependencies => ⟨rfl, dependencies⟩) inside lower

end

theorem agrees_ascend (inside : Inside text known n c) (levels : n + 1 ≤ Parser.maxDepth) (a : α) :
    Agrees text known (· = n + 1) (do ascend; return a) n c (.ok a c) := by
  have fits := inside_fit inside
  have above : Inside text known (n + 1) c := ⟨inside.split, levels, inside.known⟩
  have less : minus? (placeOf n c).depth 1 = some (placeOf (n + 1) c).depth := by
    rw [place_depth, place_depth, minus?, if_pos (by omega), Nat.sub_sub]
  have ascended : Yields text known ascend (placeOf n c) () (placeOf (n + 1) c) :=
    completes_behind (yields_get fits) (completes_behind (yields_given less fits) (yields_put fits (inside_fit above)))
  exact completes_behind ascended (agrees_done above a rfl)

theorem agrees_eat (symbol : List Char) (inside : Inside text known n c) :
    Agrees text known (· = n) (eat text symbol) n c ((Parser.eat symbol).run c) := by
  have behind := inside_white inside
  rw [Parser.run_eat]
  refine completes_behind (yields_white inside) ?_
  refine completes_behind (yields_rest behind) ?_
  by_cases here : symbol.isPrefixOf c.skipWhite.rest = true
  · rw [if_pos here, if_pos here]
    obtain ⟨tail, split⟩ := List.isPrefixOf_iff_prefix.mp here
    have bytes : byteLength symbol = byteLength (c.skipWhite.rest.take symbol.length) := by
      rw [← split, List.take_left]
    refine completes_behind (yields_move behind symbol.length _ bytes) ?_
    exact agrees_done (inside_advance behind _) true rfl
  · rw [if_neg here, if_neg here]
    exact agrees_done behind false rfl

theorem agrees_eat_first (symbols : List (List Char × α)) (inside : Inside text known n c) :
    Agrees text known (· = n) (eatFirst text symbols) n c ((Parser.eatFirst symbols).run c) := by
  induction symbols generalizing c with
  | nil => exact agrees_done inside none rfl
  | cons entry others ih =>
      refine agrees_bind (agrees_eat entry.1 inside) ?_
      rintro taken m after rfl behind _
      cases taken with
      | true => exact agrees_done behind (some entry.2) rfl
      | false => exact ih behind

theorem agrees_closing_paren (inside : Inside text known n c) :
    Agrees text known (· = n) (closingParen text) n c (Parser.closingParen.run c) := by
  refine agrees_bind (agrees_eat [')'] inside) ?_
  rintro taken m after rfl behind _
  cases taken with
  | true => exact agrees_done behind () rfl
  | false => exact agrees_fail behind .expectedClosingParen

end FormulaField.Descent
