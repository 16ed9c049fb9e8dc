import FormulaField.Proofs.Formula.References

set_option autoImplicit false

namespace FormulaField

inductive Slot where
  | unary
  | power
  | chain (kind : Chain)
  | rest (kind : Chain) (left : Formula)
  -- The only argument of a call, or the inside of a group, with the closing parenthesis.
  | enclosed
  | items

def Chain.operandSlot : Chain → Slot
  | .products => .power
  | .sums => .chain .products
  | .comparisons => .chain .sums

inductive Begun : Nat → Slot → List Char → List String → Prop where
  | token (n : Nat) : Begun n .unary [] []
  | spaced (n : Nat) (slot : Slot) (white cs : List Char) (names : List String) (isWhite : White white)
      (inner : Begun n slot cs names) : Begun n slot (white ++ cs) names
  | call (n : Nat) (name cs : List Char) (names : List String) (isName : IsName name)
      (inner : Begun n .items cs names) : Begun (n + 1) .unary (name ++ '(' :: cs) names
  | group (n : Nat) (cs : List Char) (names : List String) (inner : Begun n .enclosed cs names) :
      Begun (n + 1) .unary ('(' :: cs) names
  | signed (n : Nat) (op : UnaryOperator) (symbol cs : List Char) (names : List String)
      (member : (symbol, op) ∈ Parser.unaryOperators) (inner : Begun n .unary cs names) :
      Begun (n + 1) .unary (symbol ++ cs) names
  | base (n : Nat) (cs : List Char) (names : List String) (inner : Begun n .unary cs names) : Begun n .power cs names
  | raised (n : Nat) (a : Formula) (cs white ds : List Char) (names : List String) (isWhite : White white)
      (left : Written (n + 1) (.unary a) cs) (inner : Begun n .power ds names) :
      Begun (n + 1) .power (cs ++ white ++ '^' :: ds) (a.fieldNames ++ names)
  | first (n : Nat) (kind : Chain) (cs : List Char) (names : List String)
      (inner : Begun n kind.operandSlot cs names) : Begun n (.chain kind) cs names
  | others (n : Nat) (kind : Chain) (left : Formula) (cs ds : List Char) (names : List String)
      (operand : Written n (kind.operand left) cs) (inner : Begun n (.rest kind left) ds names) :
      Begun n (.chain kind) (cs ++ ds) (left.fieldNames ++ names)
  | operand (n : Nat) (kind : Chain) (op : BinaryOperator) (symbol : List Char) (left : Formula) (cs : List Char)
      (names : List String) (member : (symbol, op) ∈ kind.operators) (inner : Begun n kind.operandSlot cs names) :
      Begun (n + 1) (.rest kind left) (symbol ++ cs) names
  | next (n : Nat) (kind : Chain) (op : BinaryOperator) (symbol : List Char) (left right : Formula)
      (cs ds : List Char) (names : List String) (member : (symbol, op) ∈ kind.operators)
      (operand : Written n (kind.operand right) cs) (inner : Begun n (.rest kind (.binary op left right)) ds names) :
      Begun (n + 1) (.rest kind left) (symbol ++ cs ++ ds) (right.fieldNames ++ names)
  | inside (n : Nat) (cs : List Char) (names : List String) (inner : Begun n (.chain .comparisons) cs names) :
      Begun n .enclosed cs names
  | unclosed (n : Nat) (f : Formula) (cs white : List Char) (isWhite : White white)
      (content : Written n (.chain .comparisons f) cs) : Begun n .enclosed (cs ++ white) f.fieldNames
  | item (n : Nat) (cs : List Char) (names : List String) (inner : Begun n .enclosed cs names) : Begun n .items cs names
  | more (n : Nat) (f : Formula) (cs white ds : List Char) (names : List String) (isWhite : White white)
      (content : Written n (.chain .comparisons f) cs) (inner : Begun n .items ds names) :
      Begun n .items (cs ++ white ++ ',' :: ds) (f.fieldNames ++ names)

theorem begun_power (n : Nat) : Begun n .power [] [] := .base n [] [] (.token n)

theorem begun_operand (n : Nat) (kind : Chain) : Begun n kind.operandSlot [] [] := by
  cases kind with
  | products => exact begun_power n
  | sums => exact .first n .products [] [] (begun_power n)
  | comparisons => exact .first n .sums [] [] (.first n .products [] [] (begun_power n))

theorem begun_enclosed (n : Nat) : Begun n .enclosed [] [] :=
  .inside n [] [] (.first n .comparisons [] [] (begun_operand n .comparisons))

theorem written_succ (n : Nat) (phrase : Phrase) (cs : List Char) (written : Written n phrase cs) :
    Written (n + 1) phrase cs := by
  induction written with
  | spaced n f white cs isWhite inner ih => exact .spaced _ f white cs isWhite ih
  | number n numeral proper => exact .number _ numeral proper
  | string n quote content cs isQuote quoted => exact .string _ quote content cs isQuote quoted
  | field n content unclosed => exact .field _ content unclosed
  | boolean n b name isName word => exact .boolean _ b name isName word
  | callEmpty n name white isName isWhite => exact .callEmpty _ name white isName isWhite
  | call n name fs cs isName items ih => exact .call _ name fs cs isName ih
  | group n f cs white isWhite content ih => exact .group _ f cs white isWhite ih
  | signed n op symbol f cs member operand ih => exact .signed _ op symbol f cs member ih
  | base n f cs inner ih => exact .base _ f cs ih
  | raised n a b cs white ds isWhite left right ihLeft ihRight => exact .raised _ a b cs white ds isWhite ihLeft ihRight
  | chain n kind left f cs ds first others ihFirst ihOthers => exact .chain _ kind left f cs ds ihFirst ihOthers
  | done n kind f => exact .done _ kind f
  | next n kind op symbol left right f white cs ds isWhite member operand others ihOperand ihOthers =>
      exact .next _ kind op symbol left right f white cs ds isWhite member ihOperand ihOthers
  | last n f cs white isWhite item ih => exact .last _ f cs white isWhite ih
  | more n f fs cs white ds isWhite item others ih ihOthers => exact .more _ f fs cs white ds isWhite ih ihOthers

-- A text goes on to a phrase for some tree, also with white space in front of it.
def Completes (n : Nat) (phrase : Formula → Phrase) (cs : List Char) : Prop :=
  ∃ f suffix, ∀ white, White white → Written n (phrase f) (white ++ (cs ++ suffix))

def Slot.Completed (n : Nat) (cs : List Char) : Slot → Prop
  | .unary => Completes n .unary cs
  | .power => Completes n .power cs
  | .chain kind => Completes n (.chain kind) cs
  | .rest kind left => Completes n (.rest kind left) cs
  | .enclosed => Completes n (fun f => .items [f]) cs
  | .items => ∃ fs suffix, ∀ white, White white → Written n (.items fs) (white ++ (cs ++ suffix))

theorem completes_written (n : Nat) (phrase : Formula → Phrase) (f : Formula) (cs suffix : List Char)
    (notRest : ∀ kind left g, phrase f ≠ .rest kind left g) (written : Written n (phrase f) (cs ++ suffix)) :
    Completes n phrase cs :=
  ⟨f, suffix, fun white isWhite => written_spaced n (phrase f) white _ isWhite notRest written⟩

theorem completes_text (n : Nat) (phrase : Formula → Phrase) (cs : List Char) (completes : Completes n phrase cs) :
    ∃ f suffix, Written n (phrase f) (cs ++ suffix) := by
  obtain ⟨f, suffix, written⟩ := completes
  exact ⟨f, suffix, written [] (by simp [White])⟩

theorem operand_completed (n : Nat) (kind : Chain) (cs : List Char) :
    kind.operandSlot.Completed n cs ↔ Completes n kind.operand cs := by
  cases kind <;> rfl

theorem group_of_item (n : Nat) (f : Formula) (cs : List Char) (item : Written n (.items [f]) cs) :
    Written (n + 1) (.unary f) ('(' :: cs) := by
  cases item with
  | last n f cs white isWhite content => exact .group n f cs white isWhite content
  | more n f fs cs white ds isWhite content others => cases others

theorem begun_completed (n : Nat) (slot : Slot) (cs : List Char) (names : List String)
    (begun : Begun n slot cs names) : slot.Completed n cs := by
  have nothing : White [] := by simp [White]
  induction begun with
  | token n =>
      have one : Written n (.unary (.literal (.number (Number.Numeral.mk ['1'] [] 0).value))) ['1'] :=
        .number n ⟨['1'], [], 0⟩ ⟨by simp, by simp [Number.isDigit], by simp, rfl⟩
      exact completes_written n .unary _ [] ['1'] (by simp) one
  | spaced n slot white cs names isWhite inner ih =>
      have further : ∀ phrase : Formula → Phrase, Completes n phrase cs → Completes n phrase (white ++ cs) := by
        rintro phrase ⟨f, suffix, written⟩
        refine ⟨f, suffix, fun space spaceWhite => ?_⟩
        simpa using written (space ++ white) (white_append space white spaceWhite isWhite)
      cases slot with
      | items =>
          obtain ⟨fs, suffix, written⟩ := ih
          refine ⟨fs, suffix, fun space spaceWhite => ?_⟩
          simpa using written (space ++ white) (white_append space white spaceWhite isWhite)
      | _ => exact further _ ih
  | call n name cs names isName inner ih =>
      obtain ⟨fs, suffix, written⟩ := ih
      refine completes_written (n + 1) .unary (.call (String.ofList (Text.upper name)) fs) _ suffix (by simp) ?_
      simpa using Written.call n name fs _ isName (written [] nothing)
  | group n cs names inner ih =>
      obtain ⟨f, suffix, written⟩ := completes_text n _ cs ih
      exact completes_written (n + 1) .unary f ('(' :: cs) suffix (by simp) (group_of_item n f _ written)
  | signed n op symbol cs names member inner ih =>
      obtain ⟨f, suffix, written⟩ := completes_text n _ cs ih
      refine completes_written (n + 1) .unary (.unary op f) _ suffix (by simp) ?_
      simpa using Written.signed n op symbol f _ member written
  | base n cs names inner ih =>
      obtain ⟨f, suffix, written⟩ := completes_text n _ cs ih
      exact completes_written n .power f cs suffix (by simp) (.base n f _ written)
  | raised n a cs white ds names isWhite left inner ih =>
      obtain ⟨b, suffix, written⟩ := completes_text n _ ds ih
      refine completes_written (n + 1) .power (.binary .power a b) _ suffix (by simp) ?_
      simpa using Written.raised n a b cs white _ isWhite left written
  | first n kind cs names inner ih =>
      obtain ⟨f, suffix, written⟩ := completes_text n _ cs ((operand_completed n kind cs).mp ih)
      refine completes_written n (.chain kind) f cs suffix (by simp) ?_
      simpa using Written.chain n kind f f _ [] written (.done n kind f)
  | others n kind left cs ds names operand inner ih =>
      obtain ⟨f, suffix, written⟩ := completes_text n _ ds ih
      refine completes_written n (.chain kind) f _ suffix (by simp) ?_
      simpa using Written.chain n kind left f cs _ operand written
  | operand n kind op symbol left cs names member inner ih =>
      obtain ⟨right, suffix, written⟩ := completes_text n _ cs ((operand_completed n kind cs).mp ih)
      refine ⟨.binary op left right, suffix, fun white isWhite => ?_⟩
      simpa using Written.next n kind op symbol left right _ white _ [] isWhite member written (.done n kind _)
  | next n kind op symbol left right cs ds names member operand inner ih =>
      obtain ⟨f, suffix, written⟩ := completes_text n _ ds ih
      refine ⟨f, suffix, fun white isWhite => ?_⟩
      simpa using Written.next n kind op symbol left right f white cs _ isWhite member operand written
  | inside n cs names inner ih =>
      obtain ⟨f, suffix, written⟩ := completes_text n _ cs ih
      refine completes_written n (fun f => .items [f]) f cs (suffix ++ [')']) (by simp) ?_
      simpa using Written.last n f _ [] nothing written
  | unclosed n f cs white isWhite content =>
      exact completes_written n (fun f => .items [f]) f _ [')'] (by simp) (.last n f cs white isWhite content)
  | item n cs names inner ih =>
      obtain ⟨f, suffix, written⟩ := ih
      exact ⟨[f], suffix, written⟩
  | more n f cs white ds names isWhite content inner ih =>
      obtain ⟨fs, suffix, written⟩ := ih
      refine ⟨f :: fs, suffix, fun space spaceWhite => written_spaced n _ space _ spaceWhite (by simp) ?_⟩
      simpa using Written.more n f fs cs white _ isWhite content (written [] nothing)

theorem begun_reads (n : Nat) (slot : Slot) (cs : List Char) (names : List String) (begun : Begun n slot cs names) :
    Reads cs names := by
  induction begun with
  | token n => exact reads_bare [] (by decide)
  | spaced n slot white cs names isWhite inner ih => exact reads_behind white cs names (white_bare white isWhite) ih
  | call n name cs names isName inner ih =>
      exact reads_behind name _ names (name_bare name isName) (reads_behind ['('] cs names (by decide) ih)
  | group n cs names inner ih => exact reads_behind ['('] cs names (by decide) ih
  | signed n op symbol cs names member inner ih => exact reads_behind symbol cs names (sign_bare op symbol member) ih
  | base n cs names inner ih => exact ih
  | raised n a cs white ds names isWhite left inner ih =>
      have first := reads_before cs white _ (written_reads _ _ cs left) (white_bare white isWhite)
      exact reads_append _ _ _ _ first (reads_behind ['^'] ds names (by decide) ih)
  | first n kind cs names inner ih => exact ih
  | others n kind left cs ds names operand inner ih =>
      exact reads_append cs ds _ names ((operand_reads kind left cs).mp (written_reads n _ cs operand)) ih
  | operand n kind op symbol left cs names member inner ih =>
      exact reads_behind symbol cs names (operator_bare kind op symbol member) ih
  | next n kind op symbol left right cs ds names member operand inner ih =>
      have second := (operand_reads kind right cs).mp (written_reads n _ cs operand)
      exact reads_append _ ds _ names (reads_behind symbol cs _ (operator_bare kind op symbol member) second) ih
  | inside n cs names inner ih => exact ih
  | unclosed n f cs white isWhite content =>
      exact reads_before cs white _ (written_reads n _ cs content) (white_bare white isWhite)
  | item n cs names inner ih => exact ih
  | more n f cs white ds names isWhite content inner ih =>
      have first := reads_before cs white _ (written_reads n _ cs content) (white_bare white isWhite)
      exact reads_append _ _ _ _ first (reads_behind [','] ds names (by decide) ih)

end FormulaField
