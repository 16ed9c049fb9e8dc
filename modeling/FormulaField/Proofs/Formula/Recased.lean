import FormulaField.Proofs.Formula.References
import FormulaField.Proofs.Text.LetterCase

set_option autoImplicit false

namespace FormulaField

open Text (asciiLower toAsciiLower isAsciiLetter)

-- What opens a string that is not closed, up to the end of the text.
def Unclosed (quote : Char) (cs : List Char) : Prop :=
  ∀ content body tail, Quoted quote content body → cs ≠ body ++ tail

-- Two texts that differ only in the case of ASCII letters outside of strings and references. What opens and is not
-- closed up to the end is neither.
inductive Recased : List Char → List Char → Prop where
  | nil : Recased [] []
  | letter (c d : Char) (cs ds : List Char) (isBare : Bare [c]) (same : toAsciiLower c = toAsciiLower d)
      (rest : Recased cs ds) : Recased (c :: cs) (d :: ds)
  | string (quote : Char) (content body cs ds : List Char) (isQuote : quote = '"' ∨ quote = '\'')
      (quoted : Quoted quote content body) (rest : Recased cs ds) :
      Recased (quote :: (body ++ cs)) (quote :: (body ++ ds))
  | reference (content cs ds : List Char) (unclosed : '}' ∉ content) (rest : Recased cs ds) :
      Recased ('{' :: (content ++ '}' :: cs)) ('{' :: (content ++ '}' :: ds))
  | openString (quote : Char) (cs ds : List Char) (isQuote : quote = '"' ∨ quote = '\'')
      (unclosed : Unclosed quote cs) (same : asciiLower cs = asciiLower ds) : Recased (quote :: cs) (quote :: ds)
  | openReference (cs ds : List Char) (unclosed : '}' ∉ cs) (same : asciiLower cs = asciiLower ds) :
      Recased ('{' :: cs) ('{' :: ds)

theorem recased_refl (cs : List Char) : Recased cs cs := by
  match cs with
  | [] => exact .nil
  | c :: rest =>
      by_cases quote : c = '"' ∨ c = '\''
      · by_cases unclosed : Unclosed c rest
        · exact .openString c rest rest quote unclosed rfl
        · simp only [Unclosed, ne_eq, not_forall, not_not] at unclosed
          obtain ⟨content, body, tail, quoted, rfl⟩ := unclosed
          exact .string c content body tail tail quote quoted (recased_refl tail)
      · by_cases brace : c = '{'
        · subst brace
          by_cases closed : '}' ∈ rest
          · obtain ⟨content, tail, rfl, unclosed⟩ := List.eq_append_cons_of_mem closed
            exact .reference content tail tail unclosed (recased_refl tail)
          · exact .openReference rest rest closed rfl
        · have isBare : Bare [c] := by simpa [Bare, brace, not_or] using quote
          exact .letter c c rest rest isBare rfl (recased_refl rest)
termination_by cs.length

theorem quoted_lower (quote : Char) (content body other : List Char) (isMark : isAsciiLetter quote = false)
    (same : asciiLower body = asciiLower other) (quoted : Quoted quote content body) :
    ∃ content, Quoted quote content other := by
  induction quoted generalizing other with
  | close => exact ⟨[], Text.marks_kept [quote] other same (by simpa using isMark) ▸ .close⟩
  | hidden c content cs inner ih =>
      match other with
      | [] => cases same
      | [_] => simp [asciiLower] at same
      | d :: e :: more =>
          simp only [asciiLower, List.map_cons, List.cons.injEq] at same
          obtain ⟨found, quoted⟩ := ih more same.2.2
          rw [Text.mark_kept '\\' d same.1 (by decide)]
          exact ⟨e :: found, .hidden e found more quoted⟩
  | plain c content cs notQuote notHiding inner ih =>
      cases other with
      | nil => cases same
      | cons d more =>
          simp only [asciiLower, List.map_cons, List.cons.injEq] at same
          obtain ⟨found, quoted⟩ := ih more same.2
          have otherQuote := Text.mark_apart quote c d isMark same.1 notQuote
          have otherHiding := Text.mark_apart '\\' c d (by decide) same.1 notHiding
          exact ⟨d :: found, .plain d found more otherQuote otherHiding quoted⟩

theorem quote_mark (quote : Char) (isQuote : quote = '"' ∨ quote = '\'') : isAsciiLetter quote = false := by
  rcases isQuote with rfl | rfl <;> decide

theorem unclosed_lower (quote : Char) (cs ds : List Char) (isMark : isAsciiLetter quote = false)
    (same : asciiLower cs = asciiLower ds) (unclosed : Unclosed quote cs) : Unclosed quote ds := by
  rintro content body tail quoted rfl
  rw [asciiLower, asciiLower, List.map_append] at same
  obtain ⟨first, rest, rfl, lowered, _⟩ := List.map_eq_append_iff.mp same
  obtain ⟨other, closed⟩ := quoted_lower quote content body first isMark lowered.symm quoted
  exact unclosed other first rest closed rfl

theorem recased_lower (cs ds : List Char) (recased : Recased cs ds) : asciiLower cs = asciiLower ds := by
  induction recased with
  | nil => rfl
  | letter c d cs ds isBare same rest ih =>
      rw [asciiLower, List.map_cons, same, ← asciiLower, ih]
      rfl
  | string quote content body cs ds isQuote quoted rest ih =>
      rw [asciiLower, asciiLower, List.map_cons, List.map_cons, List.map_append, List.map_append, ← asciiLower,
        ← asciiLower, ← asciiLower, ih]
  | reference content cs ds unclosed rest ih =>
      simp only [asciiLower, List.map_cons, List.map_append] at ih ⊢
      rw [ih]
  | openString quote cs ds isQuote unclosed same => exact congrArg (toAsciiLower quote :: ·) same
  | openReference cs ds unclosed same => exact congrArg (toAsciiLower '{' :: ·) same

theorem recased_symm (cs ds : List Char) (recased : Recased cs ds) : Recased ds cs := by
  induction recased with
  | nil => exact .nil
  | letter c d cs ds isBare same rest ih =>
      obtain ⟨noDouble, noSingle, noBrace⟩ := isBare c (by simp)
      refine .letter d c ds cs ?_ same.symm ih
      rw [Bare, List.forall_mem_singleton]
      exact ⟨Text.mark_apart '"' c d (by decide) same noDouble, Text.mark_apart '\'' c d (by decide) same noSingle,
        Text.mark_apart '{' c d (by decide) same noBrace⟩
  | string quote content body cs ds isQuote quoted rest ih => exact .string quote content body ds cs isQuote quoted ih
  | reference content cs ds unclosed rest ih => exact .reference content ds cs unclosed ih
  | openString quote cs ds isQuote unclosed same =>
      exact .openString quote ds cs isQuote (unclosed_lower quote cs ds (quote_mark quote isQuote) same unclosed)
        same.symm
  | openReference cs ds unclosed same =>
      exact .openReference ds cs (fun member => unclosed (Text.mark_member '}' cs ds (by decide) same member)) same.symm

theorem recased_letter (c : Char) (cs ds : List Char) (isBare : Bare [c]) (recased : Recased (c :: cs) ds) :
    ∃ d more, ds = d :: more ∧ toAsciiLower c = toAsciiLower d ∧ Recased cs more := by
  obtain ⟨noDouble, noSingle, noBrace⟩ := isBare c (by simp)
  have noQuote : ¬ (c = '"' ∨ c = '\'') := by simp [noDouble, noSingle]
  cases recased with
  | letter c d cs ds bare same rest => exact ⟨d, ds, rfl, same, rest⟩
  | string quote content body cs ds isQuote => exact absurd isQuote noQuote
  | reference => exact absurd rfl noBrace
  | openString quote cs ds isQuote => exact absurd isQuote noQuote
  | openReference => exact absurd rfl noBrace

theorem recased_split (first rest ds : List Char) (isBare : Bare first) (recased : Recased (first ++ rest) ds) :
    ∃ other more, ds = other ++ more ∧ asciiLower first = asciiLower other ∧ Recased rest more := by
  induction first generalizing ds with
  | nil => exact ⟨[], ds, rfl, rfl, recased⟩
  | cons c first ih =>
      have bareHead : Bare [c] := fun d member => isBare d (List.mem_cons.mpr (.inl (List.mem_singleton.mp member)))
      obtain ⟨d, more, rfl, same, further⟩ := recased_letter c (first ++ rest) ds bareHead recased
      obtain ⟨other, last, rfl, lowered, recased⟩ :=
        ih more (fun e member => isBare e (List.mem_cons_of_mem c member)) further
      exact ⟨d :: other, last, rfl, List.cons_eq_cons.mpr ⟨same, lowered⟩, recased⟩

theorem recased_nil (ds : List Char) (recased : Recased [] ds) : ds = [] :=
  List.map_eq_nil_iff.mp (recased_lower [] ds recased).symm

theorem recased_head (c : Char) (cs ds : List Char) (recased : Recased (c :: cs) ds) :
    ∃ d more, ds = d :: more ∧ toAsciiLower c = toAsciiLower d := by
  have lowered := recased_lower (c :: cs) ds recased
  cases ds with
  | nil => cases lowered
  | cons d more => exact ⟨d, more, rfl, (List.cons.inj lowered).1⟩

theorem numeral_lower (cs ds : List Char) (same : asciiLower cs = asciiLower ds) :
    Parser.numeral cs = Parser.numeral ds := by
  have behind : asciiLower (cs.drop (cs.takeWhile Number.isDigit).length) =
      asciiLower (ds.drop (cs.takeWhile Number.isDigit).length) := by
    rw [asciiLower, asciiLower, List.map_drop, List.map_drop, ← asciiLower, ← asciiLower, same]
  simp only [Parser.numeral, Text.lower_digits cs ds same]
  generalize cs.takeWhile Number.isDigit = whole at behind ⊢
  generalize cs.drop whole.length = rest at behind ⊢
  generalize ds.drop whole.length = others at behind ⊢
  cases rest with
  | nil => rw [List.map_eq_nil_iff.mp behind.symm]
  | cons c rest =>
      cases others with
      | nil => cases behind
      | cons d others =>
          simp only [asciiLower, List.map_cons, List.cons.injEq] at behind
          by_cases point : c = '.'
          · subst point
            rw [Text.mark_kept '.' d behind.1 (by decide)]
            simp only [Text.lower_digits rest others behind.2]
          · have noPoint := Text.mark_apart '.' c d (by decide) behind.1 point
            simp [point, noPoint]

end FormulaField
