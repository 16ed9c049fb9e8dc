import FormulaField.Pattern.Search

set_option autoImplicit false

namespace FormulaField.Pattern

def metacharacters : List Char := ['\\', '.', '+', '*', '?', '(', ')', '|', '[', ']', '{', '}', '^', '$']

def Plain (cs : List Char) : Prop := ∀ c ∈ cs, c ∉ metacharacters

instance (cs : List Char) : Decidable (Plain cs) := List.decidableBAll _ cs

def plainLetter (c : Char) : Tree := .letter ⟨c, false⟩

namespace Reader

theorem plain_primitive (c : Char) (cs : List Char) (plain : c ∉ metacharacters) (names : List (List Char)) :
    primitive.run ⟨c :: cs, names, false⟩ = some (plainLetter c, ⟨cs, names, false⟩) := by
  simp only [metacharacters, List.mem_cons, not_or] at plain
  simp [primitive, peek, advance, plain, plainLetter]

theorem plain_alternatives (cs : List Char) (plain : Plain cs) (fuel : Nat) (enough : cs.length < fuel)
    (items : List Tree) (names : List (List Char)) :
    (alternatives fuel [] items).run ⟨cs, names, false⟩ =
      some (Tree.ofItems (items.reverse ++ cs.map plainLetter), ⟨[], names, false⟩) := by
  induction cs generalizing fuel items with
  | nil =>
      cases fuel with
      | zero => cases enough
      | succ fuel =>
          rw [alternatives]
          simp [skipBlanks, peek, Tree.ofBranches]
  | cons c cs ih =>
      cases fuel with
      | zero => cases enough
      | succ fuel =>
          obtain ⟨here, later⟩ := List.forall_mem_cons.mp plain
          have taken := plain_primitive c cs here names
          have rest := ih later fuel (Nat.lt_of_succ_lt_succ enough) (plainLetter c :: items)
          simp only [metacharacters, List.mem_cons, not_or] at here
          rw [alternatives]
          simpa [skipBlanks, peek, here, taken] using rest

end Reader

theorem letters_flat (cs : List Char) : Tree.heightAll (cs.map plainLetter) = 0 := by
  induction cs with
  | nil => rfl
  | cons c cs ih =>
      have flat : (plainLetter c).height = 0 := rfl
      rw [List.map_cons, Tree.heightAll, flat, ih, Nat.max_self]

theorem row_low (cs : List Char) : (Tree.ofItems (cs.map plainLetter)).height ≤ 1 := by
  match cs with
  | [] => exact Nat.zero_le 1
  | [c] => exact Nat.zero_le 1
  | c :: d :: cs => exact Nat.succ_le_succ (Nat.le_of_eq (letters_flat (c :: d :: cs)))

theorem plain_tree (cs : List Char) (plain : Plain cs) :
    Tree.ofChars? cs = some (Tree.ofItems (cs.map plainLetter)) := by
  have low : (Tree.ofItems (cs.map plainLetter)).height ≤ Reader.maxHeight := Nat.le_trans (row_low cs) (by decide)
  rw [Tree.ofChars?, Reader.plain_alternatives cs plain (cs.length + 1) (Nat.lt_succ_self _) [] []]
  simp [low]

def characterSet (c : Char) : Expression := .set (.single c)

def characterRow : List Char → Expression
  | [c] => characterSet c
  | cs => .seqAll (cs.map characterSet)

theorem letters_expressions (cs : List Char) :
    Tree.expressions? {} (cs.map plainLetter) = some (cs.map characterSet, {}) := by
  induction cs with
  | nil => rfl
  | cons c cs ih =>
      have first : Tree.expression? {} (plainLetter c) = some (characterSet c, {}) := rfl
      rw [List.map_cons, Tree.expressions?, first]
      simp only [Option.bind_eq_bind, Option.bind_some, ih]
      rfl

theorem row_expression (cs : List Char) :
    Tree.expression? {} (Tree.ofItems (cs.map plainLetter)) = some (characterRow cs, {}) := by
  match cs with
  | [] => rfl
  | [c] => rfl
  | c :: d :: cs =>
      change Tree.expression? {} (.concat ((c :: d :: cs).map plainLetter)) = _
      rw [Tree.expression?, letters_expressions]
      rfl

theorem plain_expression (cs : List Char) (plain : Plain cs) :
    ofChars? cs = if (characterRow cs).shape.fits then some (characterRow cs) else none := by
  rw [ofChars?, plain_tree cs plain, Option.bind_some, Tree.toExpression?, row_expression]
  rfl

-- From a step on a program takes some characters one after the other and then accepts.
def Spells (program : Program) (step : Nat) : List Char → Prop
  | [] => program[step]? = some .accept ∨
      program[step]? = some (.jump (step + 1)) ∧ program[step + 1]? = some .accept
  | c :: cs => program[step]? = some (.take (.single c) (step + 1)) ∧ Spells program (step + 1) cs

def takingSteps (start : Nat) : List Char → List Step
  | [] => []
  | c :: cs => .take (.single c) (start + 1) :: takingSteps (start + 1) cs

theorem row_block (cs : List Char) :
    (Expression.seqAll (cs.map characterSet)).block.size = cs.length + 1 ∧
      ∀ start next, (Expression.seqAll (cs.map characterSet)).block.code start next =
        takingSteps start cs ++ [.jump next] := by
  induction cs with
  | nil => exact ⟨rfl, fun _ _ => rfl⟩
  | cons c cs ih =>
      obtain ⟨size, code⟩ := ih
      have whole : (Expression.seqAll ((c :: cs).map characterSet)).block =
          .seq (.single (.take (.single c))) (Expression.seqAll (cs.map characterSet)).block := rfl
      have nonempty : (Expression.seqAll (cs.map characterSet)).block.size ≠ 0 := by omega
      rw [whole, Block.seq, if_neg nonempty]
      refine ⟨?_, fun start next => ?_⟩
      · rw [size, List.length_cons, Nat.add_comm]
        rfl
      · simp only [code, Block.single]
        rfl

theorem steps_spell (cs : List Char) (before ending : List Step)
    (accepts : ending = [.accept] ∨ ending = [.jump (before.length + cs.length + 1), .accept]) :
    Spells (before ++ takingSteps before.length cs ++ ending).toArray before.length cs := by
  induction cs generalizing before with
  | nil =>
      rcases accepts with rfl | rfl
      · exact .inl (by simp [takingSteps])
      · exact .inr (by simp [takingSteps])
  | cons c cs ih =>
      have rest := ih (before ++ [.take (.single c) (before.length + 1)])
        (by simpa [Nat.add_assoc, Nat.add_comm 1] using accepts)
      refine ⟨by simp [takingSteps], ?_⟩
      simpa [takingSteps] using rest

theorem row_program (cs : List Char) (given : cs ≠ []) :
    ∃ ending, (characterRow cs).program = (takingSteps 0 cs ++ ending).toArray ∧
      (ending = [.accept] ∨ ending = [.jump (cs.length + 1), .accept]) := by
  match cs with
  | [] => exact absurd rfl given
  | [c] => exact ⟨[.accept], rfl, .inl rfl⟩
  | c :: d :: cs =>
      obtain ⟨size, code⟩ := row_block (c :: d :: cs)
      refine ⟨[.jump ((c :: d :: cs).length + 1), .accept], ?_, .inr rfl⟩
      rw [Expression.program, characterRow, size, code, List.append_assoc]
      · rfl
      · simp

theorem taking_steps_length (cs : List Char) (start : Nat) : (takingSteps start cs).length = cs.length := by
  induction cs generalizing start with
  | nil => rfl
  | cons c cs ih => rw [takingSteps, List.length_cons, List.length_cons, ih]

theorem row_spells (cs : List Char) (given : cs ≠ []) :
    Spells (characterRow cs).program 0 cs ∧ cs.length < (characterRow cs).program.size := by
  obtain ⟨ending, program, accepts⟩ := row_program cs given
  have spells := steps_spell cs [] ending (by simpa using accepts)
  have some : ending.length ≠ 0 := by rcases accepts with rfl | rfl <;> simp
  rw [program]
  refine ⟨spells, ?_⟩
  rw [List.size_toArray, List.length_append, taking_steps_length]
  omega

end FormulaField.Pattern
