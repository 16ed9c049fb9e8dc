import FormulaField.Proofs.Formula.Height

/-!
The highest trees that the levels of nesting allow, and the shortest texts with a tree higher than
that. A chain puts its first operand under all of its operators and takes no level for it, so chains
of the three kinds stand on top of each other, and on a power, at every level.
-/

set_option autoImplicit false

namespace FormulaField

def tallestPower : Nat → Nat
  | 0 => 0
  | n + 1 => tallestPower n + 3 * n + 2

def tallest (n : Nat) : Nat := tallestPower n + 3 * n

def Chain.operandRoom (n : Nat) : Chain → Nat
  | .products => 0
  | .sums => n
  | .comparisons => 2 * n

def Phrase.Low (n : Nat) : Phrase → Prop
  | .unary f => f.height ≤ tallestPower n - 1
  | .power f => f.height ≤ tallestPower n
  | .chain kind f => f.height ≤ tallestPower n + kind.operandRoom n + n
  | .rest kind left f => f.height ≤ max left.height (tallestPower n + kind.operandRoom n) + n
  | .items fs => Formula.heightAll fs ≤ tallest n + 1

theorem operand_low (n : Nat) (kind : Chain) (f : Formula) :
    (kind.operand f).Low n ↔ f.height ≤ tallestPower n + kind.operandRoom n := by
  cases kind with
  | products => rfl
  | sums => rfl
  | comparisons =>
      simp only [Chain.operand, Phrase.Low, Chain.operandRoom]
      omega

theorem operand_room_succ (n : Nat) (kind : Chain) : kind.operandRoom n ≤ kind.operandRoom (n + 1) := by
  cases kind <;> simp only [Chain.operandRoom] <;> omega

theorem written_low (n : Nat) (phrase : Phrase) (cs : List Char) (written : Written n phrase cs) :
    phrase.Low n := by
  induction written with
  | spaced n f white cs isWhite inner ih => exact ih
  | number => simp [Phrase.Low, Formula.height]
  | string => simp [Phrase.Low, Formula.height]
  | field => simp [Phrase.Low, Formula.height]
  | boolean => simp [Phrase.Low, Formula.height]
  | callEmpty => simp [Phrase.Low, Formula.height, Formula.heightAll]
  | call n name fs cs isName items ih =>
      simp only [Phrase.Low, Formula.height, tallestPower, tallest] at ih ⊢
      omega
  | group n f cs white isWhite content ih =>
      simp only [Phrase.Low, Chain.operandRoom, tallestPower] at ih ⊢
      omega
  | signed n op symbol f cs member operand ih =>
      simp only [Phrase.Low, Formula.height, tallestPower] at ih ⊢
      omega
  | base n f cs inner ih =>
      simp only [Phrase.Low] at ih ⊢
      omega
  | raised n a b cs white ds isWhite left right ihLeft ihRight =>
      simp only [Phrase.Low, Formula.height, tallestPower] at ihLeft ihRight ⊢
      omega
  | chain n kind left f cs ds first others ihFirst ihOthers =>
      rw [operand_low] at ihFirst
      simp only [Phrase.Low] at ihOthers ⊢
      omega
  | done n kind f =>
      simp only [Phrase.Low]
      omega
  | next n kind op symbol left right f white cs ds isWhite member operand others ihOperand ihOthers =>
      have room := operand_room_succ n kind
      rw [operand_low] at ihOperand
      simp only [Phrase.Low, Formula.height, tallestPower] at ihOthers ⊢
      omega
  | last n f cs white isWhite item ih =>
      simp only [Phrase.Low, Chain.operandRoom, Formula.heightAll, tallest] at ih ⊢
      omega
  | more n f fs cs white ds isWhite item others ih ihOthers =>
      simp only [Phrase.Low, Chain.operandRoom, Formula.heightAll, tallest] at ih ihOthers ⊢
      omega

def one : Formula := .literal (.number (Number.Numeral.value ⟨['1'], [], 0⟩))

theorem one_written (n : Nat) : Written n (.unary one) ['1'] :=
  .number n ⟨['1'], [], 0⟩ ⟨by simp, by simp [Number.isDigit], by simp, rfl⟩

def lengthened (op : BinaryOperator) : Nat → Formula → Formula
  | 0, f => f
  | n + 1, f => lengthened op n (.binary op f one)

def lengthening (symbol : List Char) : Nat → List Char
  | 0 => []
  | n + 1 => symbol ++ '1' :: lengthening symbol n

theorem lengthened_height (op : BinaryOperator) (n : Nat) (f : Formula) :
    (lengthened op n f).height = f.height + n := by
  induction n generalizing f with
  | zero => rfl
  | succ n ih =>
      rw [lengthened, ih]
      simp only [Formula.height, one]
      omega

theorem lengthening_written (n : Nat) (kind : Chain) (op : BinaryOperator) (symbol : List Char) (f : Formula)
    (member : (symbol, op) ∈ kind.operators) :
    Written n (.rest kind f (lengthened op n f)) (lengthening symbol n) := by
  induction n generalizing f with
  | zero => exact .done 0 kind f
  | succ n ih =>
      have operand := power_operand n kind one ['1'] (.base n one ['1'] (one_written n))
      rw [lengthened, lengthening]
      simpa using
        Written.next n kind op symbol f one _ [] ['1'] _ (by simp [White]) member operand (ih (.binary op f one))

def stacked (n : Nat) (f : Formula) : Formula :=
  lengthened .equal n (lengthened .add n (lengthened .multiply n f))

def stacking (n : Nat) (cs : List Char) : List Char :=
  cs ++ lengthening ['*'] n ++ lengthening ['+'] n ++ lengthening ['='] n

theorem stacking_written (n : Nat) (f : Formula) (cs : List Char) (power : Written n (.power f) cs) :
    Written n (.chain .comparisons (stacked n f)) (stacking n cs) := by
  have product := Written.chain n .products f _ cs _ power
    (lengthening_written n .products .multiply ['*'] f (by simp [Chain.operators, Parser.multiplicativeOperators]))
  have sum := Written.chain n .sums _ _ _ _ product
    (lengthening_written n .sums .add ['+'] _ (by simp [Chain.operators, Parser.additiveOperators]))
  exact Written.chain n .comparisons _ _ _ _ sum
    (lengthening_written n .comparisons .equal ['='] _ (by simp [Chain.operators, Parser.comparisonOperators]))

theorem stacked_height (n : Nat) (f : Formula) : (stacked n f).height = f.height + 3 * n := by
  rw [stacked, lengthened_height, lengthened_height, lengthened_height]
  omega

def tower : Nat → Formula
  | 0 => one
  | n + 1 => .binary .power (.call (String.ofList (Text.upper ['A'])) [stacked n (tower n)]) one

def towerChars : Nat → List Char
  | 0 => ['1']
  | n + 1 => ['A', '('] ++ stacking n (towerChars n) ++ [')', '^', '1']

theorem tower_height (n : Nat) : (tower n).height = tallestPower n := by
  induction n with
  | zero => rfl
  | succ n ih =>
      simp only [tower, Formula.height, Formula.heightAll, one, stacked_height, ih, tallestPower]
      omega

theorem tower_written (n : Nat) : Written n (.power (tower n)) (towerChars n) := by
  induction n with
  | zero => exact .base 0 one ['1'] (one_written 0)
  | succ n ih =>
      have capital : Parser.isNameCharacter 'A' = true := by decide
      have isName : IsName ['A'] := ⟨⟨'A', [], rfl, by decide⟩, by simp [capital]⟩
      have items := Written.last n _ _ [] (by simp [White]) (stacking_written n (tower n) (towerChars n) ih)
      have call := Written.call n ['A'] _ _ isName items
      rw [tower]
      simpa [towerChars] using
        Written.raised n _ one _ [] ['1'] (by simp [White]) call (.base n one ['1'] (one_written n))

def negated : Nat → Formula
  | 0 => one
  | n + 1 => .unary .negate (negated n)

theorem negated_height (n : Nat) : (negated n).height = n := by
  induction n with
  | zero => rfl
  | succ n ih => rw [negated, Formula.height, ih]

theorem negated_written (n : Nat) : Written n (.unary (negated n)) (List.replicate n '-' ++ ['1']) := by
  induction n with
  | zero => exact one_written 0
  | succ n ih => exact .signed n .negate ['-'] (negated n) _ (by simp [Parser.unaryOperators]) ih

def raisedChars (n : Nat) (white : List Char) : List Char :=
  white ++ List.replicate (n + 1) '-' ++ ['1', '^', '1']

theorem raised_written (n : Nat) (white : List Char) (isWhite : White white) :
    Written (n + 1) (.chain .comparisons (.binary .power (negated (n + 1)) one)) (raisedChars n white) := by
  have left := Written.spaced (n + 1) _ white _ isWhite (negated_written (n + 1))
  have power := Written.raised n _ one _ [] ['1'] (by simp [White]) left (.base n one ['1'] (one_written n))
  have sum := power_operand (n + 1) .comparisons _ _ power
  simpa [raisedChars] using Written.chain (n + 1) .comparisons _ _ _ [] sum (.done (n + 1) .comparisons _)

theorem raised_height (n : Nat) : (Formula.binary .power (negated (n + 1)) one).height = n + 2 := by
  simp only [Formula.height, negated_height, one]
  omega

theorem parse_ok (s : String) (f : Formula) (accepted : (parse s).result = .ok f) :
    ∃ cs white, Written Parser.maxDepth (.chain .comparisons f) cs ∧ White white ∧ s.toList = cs ++ white := by
  cases parsed : parse s with
  | mk result names =>
      rw [parsed] at accepted
      subst accepted
      exact (parse_sound s f names parsed).2

theorem written_accepted (f : Formula) (cs : List Char) (written : Written Parser.maxDepth (.chain .comparisons f) cs) :
    (parse (String.ofList cs)).result = .ok f := by
  rw [parse_complete (String.ofList cs) f cs [] written (by simp [White]) (by simp)]

theorem accepted_low (s : String) (f : Formula) (accepted : (parse s).result = .ok f) :
    f.depth ≤ Parser.maxDepth ∧ f.height ≤ tallest Parser.maxDepth ∧
      (s.length < Parser.maxDepth + 3 → f.height ≤ Parser.maxDepth) := by
  obtain ⟨cs, white, written, _, split⟩ := parse_ok s f accepted
  have within : f.depth ≤ Parser.maxDepth := written_within _ _ _ written
  have low := written_low _ _ _ written
  simp only [Phrase.Low, Chain.operandRoom] at low
  have fits : f.weight ≤ cs.length := written_fits _ _ _ written
  refine ⟨within, ?_, ?_⟩
  · rw [tallest]
    omega
  · intro short
    have longer : cs.length ≤ s.length := by
      rw [← String.length_toList, split, List.length_append]
      omega
    have either := Formula.height_or_weight f
    omega

-- The levels bound the edges that do not lead to a left operand. They bound the height of every
-- formula of a given length only up to two characters more than there are levels; over all lengths the
-- greatest height is 99200.
theorem nesting_height (length : Nat) :
    ((∀ s f, s.length = length → (parse s).result = .ok f → f.height ≤ Parser.maxDepth) ↔
        length < Parser.maxDepth + 3) ∧
      (∀ s f, (parse s).result = .ok f → f.depth ≤ Parser.maxDepth ∧ f.height ≤ 99200) ∧
      ∃ s f, (parse s).result = .ok f ∧ f.height = 99200 := by
  have greatest : tallest Parser.maxDepth = 99200 := by decide +kernel
  refine ⟨⟨?_, ?_⟩, ?_, ?_⟩
  · intro bounded
    refine Nat.lt_of_not_le (fun long => ?_)
    have isWhite : White (List.replicate (length - 259) ' ') := by
      intro c member
      rw [List.eq_of_mem_replicate member]
      rfl
    have accepted := written_accepted _ _ (raised_written 255 _ isWhite)
    have sameLength : (String.ofList (raisedChars 255 (List.replicate (length - 259) ' '))).length = length := by
      simp only [raisedChars, String.length_ofList, List.length_append, List.length_replicate, List.length_cons,
        List.length_nil, Parser.maxDepth] at long ⊢
      omega
    have tooHigh := bounded _ _ sameLength accepted
    rw [raised_height 255, Parser.maxDepth] at tooHigh
    omega
  · intro short s f sameLength accepted
    exact (accepted_low s f accepted).2.2 (sameLength ▸ short)
  · intro s f accepted
    obtain ⟨within, low, _⟩ := accepted_low s f accepted
    exact ⟨within, greatest ▸ low⟩
  · have written := stacking_written Parser.maxDepth _ _ (tower_written Parser.maxDepth)
    refine ⟨_, _, written_accepted _ _ written, ?_⟩
    rw [stacked_height, tower_height, ← greatest, tallest]

theorem signs_under_power_too_high :
    ∃ f, (parse (String.ofList (List.replicate 256 '-' ++ ['1', '^', '1']))).result = .ok f ∧
      Parser.maxDepth < f.height := by
  refine ⟨_, written_accepted _ _ (raised_written 255 [] (by simp [White])), ?_⟩
  rw [raised_height 255, Parser.maxDepth]
  omega

end FormulaField
