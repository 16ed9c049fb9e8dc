import FormulaField.Proofs.Formula.CanonicalText
import FormulaField.Proofs.Number.Comparison

set_option autoImplicit false

namespace FormulaField

namespace Shape

def printableLiteral : Value → Prop
  | .number n => n.isFinite = true ∧ 0 ≤ n
  | .text _ => True
  | .boolean _ => True
  | _ => False

-- A negative zero is not below zero, so it is printable, without its sign.
def printable : Shape :=
  ⟨printableLiteral, closedField, fun name => Text.upper name.toList = name.toList ∧ IsName name.toList⟩

end Shape

def Value.unsigned : Value → Value
  | .number n => .number (Number.unsigned n)
  | v => v

theorem unsigned_literal (v : Value) (printable : Shape.printableLiteral v) :
    Shape.writable.literal v.unsigned ∧ Formula.literalChars v.unsigned = Formula.literalChars v ∧
      v.unsigned.equals v = true := by
  cases v with
  | number n =>
      obtain ⟨finite, notBelow⟩ := printable
      refine ⟨⟨Number.unsigned_not_negative n finite, Number.unsigned_finite n finite⟩, ?_,
        Number.unsigned_equals n finite notBelow⟩
      exact congrArg (String.toList ∘ String.ofList) (Number.unsigned_chars n finite notBelow)
  | text s => exact ⟨⟨trivial, trivial⟩, rfl, beq_self_eq_true s⟩
  | boolean b => exact ⟨⟨trivial, trivial⟩, rfl, beq_self_eq_true b⟩
  | empty => cases printable
  | date i => cases printable

namespace Formula

mutual

def unsigned : Formula → Formula
  | .literal v => .literal v.unsigned
  | .field name => .field name
  | .unary op operand => .unary op operand.unsigned
  | .binary op left right => .binary op left.unsigned right.unsigned
  | .call name args => .call name (unsignedAll args)

def unsignedAll : List Formula → List Formula
  | [] => []
  | f :: rest => f.unsigned :: unsignedAll rest

end

end Formula

structure Keeps (f g : Formula) : Prop where
  writable : g.Has .writable
  fieldNames : g.fieldNames = f.fieldNames
  need : g.need = f.need
  chars : g.chars = f.chars
  equals : g.equals f = true

structure KeepsAll (fs gs : List Formula) : Prop where
  writable : Formula.HasAll .writable gs
  fieldNames : Formula.fieldNamesAll gs = Formula.fieldNamesAll fs
  need : Formula.needAll gs = Formula.needAll fs
  chars : Formula.argumentChars gs = Formula.argumentChars fs
  equals : Formula.equalsAll gs fs = true

theorem keeps_more (f g : Formula) (fs gs : List Formula) (first : Keeps f g) (others : KeepsAll fs gs)
    (sameLength : gs = [] ↔ fs = []) : KeepsAll (f :: fs) (g :: gs) := by
  refine ⟨⟨first.writable, others.writable⟩, ?_, ?_, ?_, ?_⟩
  · rw [Formula.fieldNamesAll, Formula.fieldNamesAll, first.fieldNames, others.fieldNames]
  · rw [Formula.needAll, Formula.needAll, first.need, others.need]
  · cases fs with
    | nil =>
        rw [sameLength.mpr rfl]
        exact first.chars
    | cons f' rest =>
        cases gs with
        | nil => cases sameLength.mp rfl
        | cons g' more =>
            have commas : ∀ h h' : Formula, ∀ hs, Formula.argumentChars (h :: h' :: hs) =
                h.chars ++ ',' :: ' ' :: Formula.argumentChars (h' :: hs) := fun _ _ _ => rfl
            rw [commas, commas, first.chars, others.chars]
  · rw [Formula.equalsAll, first.equals, others.equals, Bool.and_self]

mutual

theorem unsigned_keeps (f : Formula) (printable : f.Has .printable) : Keeps f f.unsigned := by
  cases f with
  | literal v =>
      obtain ⟨writable, chars, equals⟩ := unsigned_literal v printable
      exact ⟨writable, rfl, rfl, chars, equals⟩
  | field name => exact ⟨printable, rfl, rfl, rfl, beq_self_eq_true name⟩
  | unary op operand =>
      have inner := unsigned_keeps operand printable
      refine ⟨inner.writable, inner.fieldNames, ?_, ?_, ?_⟩
      · rw [Formula.unsigned, Formula.need, Formula.need, inner.need]
      · rw [Formula.unsigned, Formula.chars, Formula.chars, inner.chars]
      · rw [Formula.unsigned, Formula.equals, inner.equals, beq_self_eq_true, Bool.and_self]
  | binary op left right =>
      have first := unsigned_keeps left printable.1
      have second := unsigned_keeps right printable.2
      refine ⟨⟨first.writable, second.writable⟩, ?_, ?_, ?_, ?_⟩
      · rw [Formula.unsigned, Formula.fieldNames, Formula.fieldNames, first.fieldNames, second.fieldNames]
      · rw [Formula.unsigned, Formula.need, Formula.need, first.need, second.need]
      · rw [Formula.unsigned, Formula.chars, Formula.chars, first.chars, second.chars]
      · rw [Formula.unsigned, Formula.equals, first.equals, second.equals, beq_self_eq_true, Bool.and_self,
          Bool.and_self]
  | call name args =>
      have all := unsigned_keeps_all args printable.2
      refine ⟨⟨printable.1, all.writable⟩, all.fieldNames, all.need, ?_, ?_⟩
      · rw [Formula.unsigned, Formula.chars, Formula.chars, all.chars]
      · rw [Formula.unsigned, Formula.equals, all.equals, beq_self_eq_true, Bool.and_self]

theorem unsigned_keeps_all (fs : List Formula) (printable : Formula.HasAll .printable fs) :
    KeepsAll fs (Formula.unsignedAll fs) := by
  cases fs with
  | nil => exact ⟨trivial, rfl, rfl, rfl, rfl⟩
  | cons f rest =>
      refine keeps_more f _ rest _ (unsigned_keeps f printable.1) (unsigned_keeps_all rest printable.2) ?_
      cases rest <;> simp [Formula.unsignedAll]

end

-- The text of a tree is read as an equal tree with the fields of the tree where the levels of nesting are
-- enough for its parentheses, and is too deeply nested where they are not. Only the sign of a negative zero
-- is lost, which no comparison sees.
theorem printed_tree_read (f : Formula) (printable : f.Has .printable) :
    (f.need ≤ Parser.maxDepth →
        parse f.text = ⟨.ok f.unsigned, f.fields⟩ ∧ f.unsigned.equals f = true) ∧
      (Parser.maxDepth < f.need → ∃ position, (parse f.text).result = .error (.tooDeeplyNested position)) := by
  have keeps := unsigned_keeps f printable
  have sameText : f.unsigned.text = f.text := congrArg String.ofList keeps.chars
  have sameFields : f.unsigned.fields = f.fields := congrArg Names.ofList keeps.fieldNames
  refine ⟨?_, ?_⟩
  · intro enough
    rw [← keeps.need] at enough
    have accepted := text_read f.unsigned keeps.writable enough
    rw [sameText, sameFields] at accepted
    exact ⟨accepted, keeps.equals⟩
  · intro deep
    rw [← keeps.need] at deep
    rw [← sameText]
    exact text_too_deep f.unsigned keeps.writable deep

def mixed : Formula :=
  .binary .lessEqual (.unary .not (.unary .negate (.literal (.number (Number.zero true)))))
    (.call "_A1" [.field "net \x7b price", .literal (.text "a\"\\"), .call "B" [], .literal (.boolean true)])

theorem mixed_printable : mixed.Has .printable := by
  have zero : (Number.zero true).isFinite = true ∧ 0 ≤ Number.zero true := by decide +kernel
  have braced : Shape.closedField "net \x7b price" := by
    rw [Shape.closedField]
    decide
  have outer : IsName "_A1".toList := name_of_all '_' ['A', '1'] (by decide) (by decide)
  have inner : IsName "B".toList := name_of_all 'B' [] (by decide) (by decide)
  exact ⟨zero, ⟨by decide, outer⟩, braced, trivial, ⟨⟨by decide, inner⟩, trivial⟩, trivial, trivial⟩

theorem powers_printable (n : Nat) : (powers n).Has .printable := by
  have unit : (Number.Numeral.value ⟨['1'], [], 0⟩).isFinite = true ∧ 0 ≤ Number.Numeral.value ⟨['1'], [], 0⟩ := by
    decide +kernel
  induction n with
  | zero => exact unit
  | succ n ih => exact ⟨unit, ih⟩

theorem mixed_read_and_powers_too_deep :
    (mixed.Has .printable ∧ mixed.need ≤ Parser.maxDepth ∧
        parse mixed.text = ⟨.ok mixed.unsigned, mixed.fields⟩ ∧ mixed.unsigned.equals mixed = true) ∧
      (powers 129).Has .printable ∧ Parser.maxDepth < (powers 129).need ∧
        ∃ position, (parse (powers 129).text).result = .error (.tooDeeplyNested position) := by
  have enough : mixed.need ≤ Parser.maxDepth := by decide
  have deep : Parser.maxDepth < (powers 129).need := by
    rw [powers_need]
    decide
  obtain ⟨read, equal⟩ := (printed_tree_read mixed mixed_printable).1 enough
  exact ⟨⟨mixed_printable, enough, read, equal⟩, powers_printable 129, deep,
    (printed_tree_read (powers 129) (powers_printable 129)).2 deep⟩

end FormulaField
