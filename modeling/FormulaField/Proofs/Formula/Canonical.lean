import FormulaField.Formula.Printer
import FormulaField.Proofs.Formula.Completeness
import FormulaField.Proofs.Number.Text
import FormulaField.Proofs.Text.Upper

set_option autoImplicit false

namespace FormulaField

structure Shape where
  literal : Value → Prop
  field : String → Prop
  call : String → Prop

namespace Formula

mutual

def Has (shape : Shape) : Formula → Prop
  | .literal v => shape.literal v
  | .field name => shape.field name
  | .unary _ operand => operand.Has shape
  | .binary _ left right => left.Has shape ∧ right.Has shape
  | .call name args => shape.call name ∧ HasAll shape args

def HasAll (shape : Shape) : List Formula → Prop
  | [] => True
  | f :: rest => f.Has shape ∧ HasAll shape rest

end

mutual

-- The levels of nesting that the canonical text takes: a binary operation takes one for its parentheses
-- and one more for its right side.
def need : Formula → Nat
  | .literal _ => 0
  | .field _ => 0
  | .unary _ operand => 1 + operand.need
  | .binary _ left right => max (1 + left.need) (2 + right.need)
  | .call _ args => needAll args

def needAll : List Formula → Nat
  | [] => 0
  | f :: rest => max (1 + f.need) (needAll rest)

end

end Formula

namespace Shape

def numbersFinite : Value → Prop
  | .number n => n.isFinite = true
  | _ => True

def named : Shape := ⟨numbersFinite, fun _ => True, fun name => IsName name.toList⟩

def unsignedLiteral : Value → Prop
  | .number n => Number.isNegative n = false
  | .text _ => True
  | .boolean _ => True
  | _ => False

def closedField (name : String) : Prop := '}' ∉ name.toList ∧ Text.trim name.toList = name.toList

def read : Shape :=
  ⟨unsignedLiteral, closedField, fun name => Text.upper name.toList = name.toList⟩

def writable : Shape :=
  ⟨fun v => unsignedLiteral v ∧ numbersFinite v, closedField,
    fun name => Text.upper name.toList = name.toList ∧ IsName name.toList⟩

end Shape

mutual

theorem writable_of_read (f : Formula) (wasRead : f.Has .read) (named : f.Has .named) : f.Has .writable := by
  cases f with
  | literal v => exact ⟨wasRead, named⟩
  | field name => exact wasRead
  | unary op operand => exact writable_of_read operand wasRead named
  | binary op left right =>
      exact ⟨writable_of_read left wasRead.1 named.1, writable_of_read right wasRead.2 named.2⟩
  | call name args => exact ⟨⟨wasRead.1, named.1⟩, writable_all_of_read args wasRead.2 named.2⟩

theorem writable_all_of_read (fs : List Formula) (wasRead : Formula.HasAll .read fs)
    (named : Formula.HasAll .named fs) : Formula.HasAll .writable fs := by
  cases fs with
  | nil => trivial
  | cons f rest => exact ⟨writable_of_read f wasRead.1 named.1, writable_all_of_read rest wasRead.2 named.2⟩

end

theorem numeral_unsigned (n : Number.Numeral) : Number.isNegative n.value = false := by
  obtain ⟨m, bound, form⟩ := Number.of_decimal_form n.decimal
  rw [Number.Numeral.value, form, Number.negative_of_magnitude false m bound]

def Phrase.Read : Phrase → Prop
  | .unary f => f.Has .read
  | .power f => f.Has .read
  | .chain _ f => f.Has .read
  | .rest _ left f => left.Has .read → f.Has .read
  | .items fs => Formula.HasAll .read fs

theorem operand_read (kind : Chain) (f : Formula) : (kind.operand f).Read ↔ f.Has .read := by
  cases kind <;> rfl

theorem written_read (n : Nat) (phrase : Phrase) (cs : List Char) (written : Written n phrase cs) : phrase.Read := by
  induction written with
  | spaced n f white cs isWhite inner ih => exact ih
  | number n numeral proper => exact numeral_unsigned numeral
  | string => trivial
  | field n content unclosed =>
      refine ⟨?_, ?_⟩
      · intro member
        rw [String.toList_ofList] at member
        exact unclosed (Text.mem_of_mem_trim content '}' member)
      · rw [String.toList_ofList, Text.trim_trim]
  | boolean => trivial
  | callEmpty n name white isName isWhite =>
      refine ⟨?_, trivial⟩
      simp only [Shape.read, String.toList_ofList, Text.upper_upper]
  | call n name fs cs isName items ih =>
      refine ⟨?_, ih⟩
      simp only [Shape.read, String.toList_ofList, Text.upper_upper]
  | group n f cs white isWhite content ih => exact ih
  | signed n op symbol f cs member operand ih => exact ih
  | base n f cs inner ih => exact ih
  | raised n a b cs white ds isWhite left right ihLeft ihRight => exact ⟨ihLeft, ihRight⟩
  | chain n kind left f cs ds first others ihFirst ihOthers => exact ihOthers ((operand_read kind left).mp ihFirst)
  | done n kind f => exact id
  | next n kind op symbol left right f white cs ds isWhite member operand others ihOperand ihOthers =>
      intro readLeft
      exact ihOthers ⟨readLeft, (operand_read kind right).mp ihOperand⟩
  | last n f cs white isWhite item ih => exact ⟨ih, trivial⟩
  | more n f fs cs white ds isWhite item others ih ihOthers => exact ⟨ih, ihOthers⟩

theorem escaped_quoted (cs : List Char) : Quoted '"' cs (Formula.escaped cs ++ ['"']) := by
  induction cs with
  | nil => exact .close
  | cons c rest ih =>
      rw [Formula.escaped, List.flatMap_cons]
      by_cases special : c = '"' ∨ c = '\\'
      · rw [if_pos special]
        exact .hidden c rest _ ih
      · rw [if_neg special]
        rw [not_or] at special
        exact .plain c rest _ special.1 special.2 ih

theorem word_boolean (b : Bool) : (Value.boolean b).toText.toList = booleanWord b := by
  cases b <;> rfl

theorem word_name (b : Bool) : IsName (booleanWord b) ∧ Text.upper (booleanWord b) = booleanWord b := by
  cases b with
  | true => exact ⟨name_of_all 'T' ['R', 'U', 'E'] (by decide) (by decide), by decide⟩
  | false => exact ⟨name_of_all 'F' ['A', 'L', 'S', 'E'] (by decide) (by decide), by decide⟩

theorem literal_written (v : Value) (n : Nat) (unsigned : Shape.unsignedLiteral v) (finite : Shape.numbersFinite v) :
    Written n (.unary (.literal v)) (Formula.literalChars v) := by
  cases v with
  | number x =>
      obtain ⟨numeral, proper, same, value⟩ := Number.chars_of_unsigned x finite unsigned
      have chars : Formula.literalChars (.number x) = Number.chars x := String.toList_ofList
      rw [chars, same, ← value]
      exact .number n numeral proper
  | text s =>
      have quoted := Written.string n '"' s.toList _ (.inl rfl) (escaped_quoted s.toList)
      rw [String.ofList_toList] at quoted
      exact quoted
  | boolean b =>
      have chars : Formula.literalChars (.boolean b) = booleanWord b := word_boolean b
      rw [chars]
      exact .boolean n b _ (word_name b).1 (word_name b).2
  | empty => cases unsigned
  | date i => cases unsigned

theorem white_space : White [' '] := by
  intro c member
  rw [List.mem_singleton.mp member]
  rfl

theorem binary_written (op : BinaryOperator) (left right : Formula) (n : Nat)
    (first : Written (n + 1) (.unary left) left.chars) (second : Written n (.unary right) right.chars) :
    Written (n + 1) (.chain .comparisons (.binary op left right))
      (left.chars ++ ' ' :: op.symbol ++ ' ' :: right.chars) := by
  have spaced := Written.spaced n right [' '] _ white_space second
  rcases operator_kind op with rfl | ⟨kind, member⟩
  · have power := Written.raised n left right _ [' '] _ white_space first (.base n right _ spaced)
    simpa [BinaryOperator.symbol] using power_comparisons (n + 1) _ _ power
  · have operand := power_operand (n + 1) kind left _ (.base (n + 1) left _ first)
    have other := power_operand n kind right _ (.base n right _ spaced)
    have rest := Written.next n kind op op.symbol left right _ [' '] _ [] white_space member other (.done n kind _)
    have chain := Written.chain (n + 1) kind left _ _ _ operand rest
    simpa using chain_comparisons (n + 1) kind _ _ chain

mutual

theorem canonical_written (f : Formula) (n : Nat) (writable : f.Has .writable) (enough : f.need ≤ n) :
    Written n (.unary f) f.chars := by
  cases f with
  | literal v => exact literal_written v n writable.1 writable.2
  | field name =>
      have field := Written.field n name.toList writable.1
      rw [writable.2, String.ofList_toList] at field
      exact field
  | unary op operand =>
      rw [Formula.need] at enough
      obtain ⟨m, rfl⟩ := Nat.exists_eq_add_of_le' (Nat.le_trans (Nat.le_add_right 1 _) enough)
      exact .signed m op op.symbol operand _ (sign_member op) (canonical_written operand m writable (by omega))
  | binary op left right =>
      rw [Formula.need] at enough
      obtain ⟨m, rfl⟩ := Nat.exists_eq_add_of_le' (Nat.le_trans (Nat.le_add_right 2 _) (Nat.le_trans (Nat.le_max_right _ _) enough))
      have content := binary_written op left right m (canonical_written left (m + 1) writable.1 (by omega))
        (canonical_written right m writable.2 (by omega))
      simpa [Formula.chars] using Written.group (m + 1) _ _ [] (by simp [White]) content
  | call name args =>
      obtain ⟨⟨upper, isName⟩, others⟩ := writable
      rw [Formula.need] at enough
      have sameName : String.ofList (Text.upper name.toList) = name := by rw [upper, String.ofList_toList]
      cases args with
      | nil =>
          have call := Written.callEmpty n name.toList [] isName (by simp [White])
          rw [sameName] at call
          simpa [Formula.chars, Formula.argumentChars] using call
      | cons f rest =>
          have some : 1 ≤ Formula.needAll (f :: rest) := by
            rw [Formula.needAll]
            omega
          obtain ⟨m, rfl⟩ := Nat.exists_eq_add_of_le' (Nat.le_trans some enough)
          have call := Written.call m name.toList _ _ isName (canonical_items f rest m others enough)
          rw [sameName] at call
          simpa [Formula.chars] using call
termination_by sizeOf f

theorem canonical_items (f : Formula) (fs : List Formula) (n : Nat) (writable : Formula.HasAll .writable (f :: fs))
    (enough : Formula.needAll (f :: fs) ≤ n + 1) :
    Written n (.items (f :: fs)) (Formula.argumentChars (f :: fs) ++ [')']) := by
  rw [Formula.needAll] at enough
  have item := power_comparisons n f _ (.base n f _ (canonical_written f n writable.1 (by omega)))
  cases fs with
  | nil => simpa [Formula.argumentChars] using Written.last n f _ [] (by simp [White]) item
  | cons g rest =>
      have others := canonical_items g rest n writable.2 (by omega)
      have spaced := written_spaced n (.items (g :: rest)) [' '] _ white_space (by simp) others
      simpa [Formula.argumentChars] using Written.more n f (g :: rest) _ [] _ (by simp [White]) item spaced
termination_by sizeOf (f :: fs)

end

end FormulaField
