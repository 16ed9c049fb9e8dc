import FormulaField.Pattern.Expression

/-!
Expressions as programs: numbered steps, of which a fork prefers its first branch.
-/

set_option autoImplicit false

namespace FormulaField.Pattern

inductive Step where
  | take (s : CharSet) (next : Nat)
  | check (l : Look) (next : Nat)
  | fork (first second : Nat)
  | jump (next : Nat)
  | accept

-- Steps that start at one number and leave for another. They are laid out in a row.
structure Block where
  size : Nat
  code (start next : Nat) : List Step

namespace Block

def single (step : Nat → Step) : Block := ⟨1, fun _ next => [step next]⟩

def seq (a b : Block) : Block :=
  if b.size = 0 then a
  else ⟨a.size + b.size, fun start next =>
    a.code start (start + a.size) ++ b.code (start + a.size) next⟩

def alt (a b : Block) : Block :=
  ⟨a.size + b.size + 1, fun start next =>
    .fork (start + 1) (start + 1 + a.size) ::
      (a.code (start + 1) next ++ b.code (start + 1 + a.size) next)⟩

def choice (greedy : Bool) (inside past : Nat) : Step :=
  if greedy then .fork inside past else .fork past inside

def row (count : Nat) (b : Block) : Block :=
  ⟨count * b.size, fun start next =>
    (List.range count).flatMap fun i =>
      b.code (start + i * b.size) (if i + 1 = count then next else start + (i + 1) * b.size)⟩

-- At most so many copies in a row. Before each of them the row may be left.
def rowUpTo (count : Nat) (greedy : Bool) (b : Block) : Block :=
  ⟨count * (b.size + 1), fun start next =>
    (List.range count).flatMap fun i =>
      let place := start + i * (b.size + 1)
      choice greedy (place + 1) next ::
        b.code (place + 1) (if i + 1 = count then next else place + (b.size + 1))⟩

def plus (greedy : Bool) (b : Block) : Block :=
  ⟨b.size + 1, fun start next =>
    b.code start (start + b.size) ++ [choice greedy start next]⟩

def star (greedy : Bool) (b : Block) : Block :=
  ⟨b.size + 1, fun start next => choice greedy (start + 1) next :: b.code (start + 1) start⟩

def nonempty (b : Block) : Block := if b.size = 0 then single .jump else b

end Block

namespace Expression

-- The steps of an expression. Repeating something that may be empty any number of times is the
-- same as repeating it one or more times or leaving it out: then the first time is tried in full
-- before the repetition is left.
def block : Expression → Block
  | .empty => .single .jump
  | .set s => .single (.take s)
  | .look l => .single (.check l)
  | .seq a b => .seq a.block b.block
  | .alt a b => .alt a.block b.block
  | .repetition 0 none greedy e =>
      if e.nullable then .rowUpTo 1 greedy (.plus greedy e.block) else .star greedy e.block
  | .repetition 1 none greedy e => .plus greedy e.block
  | .repetition (least + 2) none greedy e =>
      .seq (.row (least + 1) e.block) (.plus greedy e.block)
  | .repetition least (some most) greedy e =>
      .nonempty (.seq (.row least e.block) (.rowUpTo (most - least) greedy e.block))
  | .capture e => e.block

end Expression

abbrev Program := Array Step

def Expression.program (e : Expression) : Program :=
  (e.block.code 0 e.block.size ++ [Step.accept]).toArray

end FormulaField.Pattern
