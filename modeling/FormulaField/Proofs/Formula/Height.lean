import FormulaField.Proofs.Formula.Completeness

/-!
How high the tree of an accepted formula is. The levels of nesting bound the edges that do not lead
to a left operand; the operators that stand after an operand in its chain come on top of them.
-/

set_option autoImplicit false

namespace FormulaField

namespace Formula

mutual

def height : Formula → Nat
  | .literal _ => 0
  | .field _ => 0
  | .unary _ operand => operand.height + 1
  | .binary _ left right => max left.height right.height + 1
  | .call _ args => heightAll args

def heightAll : List Formula → Nat
  | [] => 0
  | f :: rest => max (f.height + 1) (heightAll rest)

end

mutual

def depth : Formula → Nat
  | .literal _ => 0
  | .field _ => 0
  | .unary _ operand => operand.depth + 1
  | .binary _ left right => max left.depth (right.depth + 1)
  | .call _ args => depthAll args

def depthAll : List Formula → Nat
  | [] => 0
  | f :: rest => max (f.depth + 1) (depthAll rest)

end

mutual

def weight : Formula → Nat
  | .literal _ => 1
  | .field _ => 1
  | .unary _ operand => operand.weight + 1
  | .binary _ left right => left.weight + right.weight + 1
  | .call _ args => weightAll args + 2

def weightAll : List Formula → Nat
  | [] => 0
  | f :: rest => f.weight + 1 + weightAll rest

end

mutual

theorem height_below_weight (f : Formula) : f.height < f.weight := by
  cases f with
  | literal v => simp [height, weight]
  | field name => simp [height, weight]
  | unary op operand =>
      have inner := height_below_weight operand
      simp only [height, weight]
      omega
  | binary op left right =>
      have first := height_below_weight left
      have second := height_below_weight right
      simp only [height, weight]
      omega
  | call name args =>
      have all := height_all_below_weight args
      simp only [height, weight]
      omega

theorem height_all_below_weight (fs : List Formula) : heightAll fs ≤ weightAll fs := by
  cases fs with
  | nil => simp [heightAll]
  | cons f rest =>
      have first := height_below_weight f
      have others := height_all_below_weight rest
      simp only [heightAll, weightAll]
      omega

end

mutual

-- Where the depth does not bound the height there is a binary operator on the way, which weighs
-- more than the edge that it adds.
theorem height_or_weight (f : Formula) : f.height ≤ f.depth ∨ f.height + 2 ≤ f.weight := by
  cases f with
  | literal v => simp [height, depth]
  | field name => simp [height, depth]
  | unary op operand =>
      have inner := height_or_weight operand
      simp only [height, depth, weight]
      omega
  | binary op left right =>
      have first := height_below_weight left
      have second := height_below_weight right
      simp only [height, weight]
      omega
  | call name args =>
      have all := height_all_or_weight args
      simp only [height, depth, weight]
      omega

theorem height_all_or_weight (fs : List Formula) : heightAll fs ≤ depthAll fs ∨ heightAll fs + 2 ≤ weightAll fs := by
  cases fs with
  | nil => simp [heightAll]
  | cons f rest =>
      have first := height_or_weight f
      have others := height_all_or_weight rest
      simp only [heightAll, depthAll, weightAll]
      omega

end

end Formula

def Phrase.Within (n : Nat) : Phrase → Prop
  | .unary f => f.depth ≤ n
  | .power f => f.depth ≤ n
  | .chain _ f => f.depth ≤ n
  | .rest _ left f => f.depth ≤ max left.depth n
  | .items fs => Formula.depthAll fs ≤ n + 1

theorem operand_within (n : Nat) (kind : Chain) (f : Formula) : (kind.operand f).Within n ↔ f.depth ≤ n := by
  cases kind <;> rfl

theorem written_within (n : Nat) (phrase : Phrase) (cs : List Char) (written : Written n phrase cs) :
    phrase.Within n := by
  induction written with
  | spaced n f white cs isWhite inner ih => exact ih
  | number => simp [Phrase.Within, Formula.depth]
  | string => simp [Phrase.Within, Formula.depth]
  | field => simp [Phrase.Within, Formula.depth]
  | boolean => simp [Phrase.Within, Formula.depth]
  | callEmpty => simp [Phrase.Within, Formula.depth, Formula.depthAll]
  | call n name fs cs isName items ih => exact ih
  | group n f cs white isWhite content ih => exact Nat.le_succ_of_le ih
  | signed n op symbol f cs member operand ih => exact Nat.succ_le_succ ih
  | base n f cs inner ih => exact ih
  | raised n a b cs white ds isWhite left right ihLeft ihRight =>
      simp only [Phrase.Within, Formula.depth] at ihLeft ihRight ⊢
      omega
  | chain n kind left f cs ds first others ihFirst ihOthers =>
      rw [operand_within] at ihFirst
      simp only [Phrase.Within] at ihOthers ⊢
      omega
  | done n kind f => exact Nat.le_max_left _ _
  | next n kind op symbol left right f white cs ds isWhite member operand others ihOperand ihOthers =>
      rw [operand_within] at ihOperand
      simp only [Phrase.Within, Formula.depth] at ihOthers ⊢
      omega
  | last n f cs white isWhite item ih =>
      simp only [Phrase.Within, Formula.depthAll] at ih ⊢
      omega
  | more n f fs cs white ds isWhite item others ih ihOthers =>
      simp only [Phrase.Within, Formula.depthAll] at ih ihOthers ⊢
      omega

def Phrase.Fits (length : Nat) : Phrase → Prop
  | .unary f => f.weight ≤ length
  | .power f => f.weight ≤ length
  | .chain _ f => f.weight ≤ length
  | .rest _ left f => f.weight ≤ left.weight + length
  | .items fs => Formula.weightAll fs ≤ length

theorem operand_fits (length : Nat) (kind : Chain) (f : Formula) :
    (kind.operand f).Fits length ↔ f.weight ≤ length := by
  cases kind <;> rfl

theorem written_fits (n : Nat) (phrase : Phrase) (cs : List Char) (written : Written n phrase cs) :
    phrase.Fits cs.length := by
  have named : ∀ name : List Char, IsName name → 1 ≤ name.length := by
    rintro name ⟨⟨c, rest, rfl, _⟩, _⟩
    simp
  induction written with
  | spaced n f white cs isWhite inner ih =>
      simp only [Phrase.Fits, List.length_append] at ih ⊢
      omega
  | number n numeral proper =>
      have digits := List.length_pos_iff.mpr proper.nonempty
      simp only [Phrase.Fits, Formula.weight, numeralChars, List.length_append]
      omega
  | string => simp [Phrase.Fits, Formula.weight]
  | field => simp [Phrase.Fits, Formula.weight]
  | boolean n b name isName word => exact named name isName
  | callEmpty n name white isName isWhite =>
      have letters := named name isName
      simp only [Phrase.Fits, Formula.weight, Formula.weightAll, List.length_append, List.length_cons, List.length_nil]
      omega
  | call n name fs cs isName items ih =>
      have letters := named name isName
      simp only [Phrase.Fits, Formula.weight, List.length_append, List.length_cons] at ih ⊢
      omega
  | group n f cs white isWhite content ih =>
      simp only [Phrase.Fits, List.length_append, List.length_cons] at ih ⊢
      omega
  | signed n op symbol f cs member operand ih =>
      have sign : 1 ≤ symbol.length := by
        simp only [Parser.unaryOperators, List.mem_cons, Prod.mk.injEq, List.not_mem_nil, or_false] at member
        rcases member with ⟨rfl, rfl⟩ | ⟨rfl, rfl⟩ | ⟨rfl, rfl⟩ <;> simp
      simp only [Phrase.Fits, Formula.weight, List.length_append] at ih ⊢
      omega
  | base n f cs inner ih => exact ih
  | raised n a b cs white ds isWhite left right ihLeft ihRight =>
      simp only [Phrase.Fits, Formula.weight, List.length_append, List.length_cons] at ihLeft ihRight ⊢
      omega
  | chain n kind left f cs ds first others ihFirst ihOthers =>
      rw [operand_fits] at ihFirst
      simp only [Phrase.Fits, List.length_append] at ihOthers ⊢
      omega
  | done n kind f => exact Nat.le_refl _
  | next n kind op symbol left right f white cs ds isWhite member operand others ihOperand ihOthers =>
      obtain ⟨c, rest, rfl, _⟩ := operator_start kind op symbol left member
      rw [operand_fits] at ihOperand
      simp only [Phrase.Fits, Formula.weight, List.length_append, List.length_cons] at ihOthers ⊢
      omega
  | last n f cs white isWhite item ih =>
      simp only [Phrase.Fits, Formula.weightAll, List.length_append, List.length_cons] at ih ⊢
      omega
  | more n f fs cs white ds isWhite item others ih ihOthers =>
      simp only [Phrase.Fits, Formula.weightAll, List.length_append, List.length_cons] at ih ihOthers ⊢
      omega

end FormulaField
