import FormulaField.Proofs.Formula.NestingBound
import FormulaField.Proofs.Formula.TooDeep

set_option autoImplicit false

namespace FormulaField

theorem text_read (f : Formula) (writable : f.Has .writable) (enough : f.need ≤ Parser.maxDepth) :
    parse f.text = ⟨.ok f, f.fields⟩ :=
  parse_complete f.text f f.chars []
    (power_comparisons _ f _ (.base _ f _ (canonical_written f Parser.maxDepth writable enough)))
    (by simp [White]) (by simp [Formula.text])

theorem text_too_deep (f : Formula) (writable : f.Has .writable) (deep : Parser.maxDepth < f.need) :
    ∃ position, (parse f.text).result = .error (.tooDeeplyNested position) := by
  have here : (Cursor.start f.text.toList).Before (f.chars ++ []) :=
    Cursor.before_rest _ _ (by simp [Formula.text, Cursor.start])
  obtain ⟨e, isDeep, failed⟩ := formula_fails f.text (unary_too_deep f Parser.maxDepth writable deep [] _ here)
  cases e with
  | tooDeeplyNested position => exact ⟨position, failed⟩
  | _ => cases isDeep

theorem accepted_read (s : String) (f : Formula) (names : Names) (accepted : parse s = ⟨.ok f, names⟩) :
    f.Has .read ∧ names = f.fields := by
  obtain ⟨fields, cs, white, written, _, _⟩ := parse_sound s f names accepted
  exact ⟨written_read _ _ cs written, fields⟩

-- An accepted formula with finite numbers and proper names of functions is read from its canonical text
-- exactly when the parentheses of its operations leave it enough levels of nesting.
theorem canonical_text_read (s : String) (f : Formula) (names : Names) (accepted : parse s = ⟨.ok f, names⟩)
    (named : f.Has .named) :
    (f.need ≤ Parser.maxDepth → parse f.text = ⟨.ok f, names⟩) ∧
      (Parser.maxDepth < f.need → ∃ position, (parse f.text).result = .error (.tooDeeplyNested position)) := by
  obtain ⟨wasRead, rfl⟩ := accepted_read s f names accepted
  have writable := writable_of_read f wasRead named
  exact ⟨text_read f writable, text_too_deep f writable⟩

def powers : Nat → Formula
  | 0 => one
  | n + 1 => .binary .power one (powers n)

def powersChars : Nat → List Char
  | 0 => ['1']
  | n + 1 => ['1'] ++ [] ++ '^' :: powersChars n

theorem powers_written (n more : Nat) : Written (more + n) (.power (powers n)) (powersChars n) := by
  induction n with
  | zero => exact .base more one ['1'] (one_written more)
  | succ n ih => exact .raised (more + n) one (powers n) ['1'] [] _ (by simp [White]) (one_written _) ih

theorem one_finite : (Number.Numeral.value ⟨['1'], [], 0⟩).isFinite = true := by decide +kernel

theorem powers_named (n : Nat) : (powers n).Has .named := by
  induction n with
  | zero => exact one_finite
  | succ n ih => exact ⟨one_finite, ih⟩

theorem powers_need (n : Nat) : (powers n).need = 2 * n := by
  induction n with
  | zero => rfl
  | succ n ih =>
      rw [powers, Formula.need, ih, one, Formula.need]
      omega

theorem powers_accepted (n : Nat) (fits : n ≤ Parser.maxDepth) :
    parse (String.ofList (powersChars n)) = ⟨.ok (powers n), (powers n).fields⟩ := by
  obtain ⟨more, same⟩ := Nat.exists_eq_add_of_le' fits
  have written := powers_written n more
  rw [← same] at written
  exact parse_complete _ _ _ [] (power_comparisons _ _ _ written) (by simp [White]) (by simp)

theorem powers_read_again :
    parse (String.ofList (powersChars 128)) = ⟨.ok (powers 128), (powers 128).fields⟩ ∧ (powers 128).Has .named ∧
      (powers 128).need ≤ Parser.maxDepth ∧ parse (powers 128).text = ⟨.ok (powers 128), (powers 128).fields⟩ := by
  have accepted := powers_accepted 128 (by decide)
  have enough : (powers 128).need ≤ Parser.maxDepth := by
    rw [powers_need]
    decide
  exact ⟨accepted, powers_named 128, enough,
    (canonical_text_read _ _ _ accepted (powers_named 128)).1 enough⟩

theorem call_accepted (letter : Char) (isName : IsName [letter]) :
    parse (String.ofList [letter, '(', '1', ')']) =
      ⟨.ok (.call (String.ofList (Text.upper [letter])) [one]),
        (Formula.call (String.ofList (Text.upper [letter])) [one]).fields⟩ := by
  have argument := power_comparisons 255 one ['1'] (.base 255 one ['1'] (one_written 255))
  have items := Written.last 255 one ['1'] [] (by simp [White]) argument
  have call := Written.call 255 [letter] [one] _ isName items
  exact parse_complete _ _ _ [] (power_comparisons 256 _ _ (.base 256 _ _ call)) (by simp [White]) (by simp)

set_option maxRecDepth 100000 in
theorem caron_name : IsName ['ǰ'] := by
  have letter : Text.alphabetic.contains 'ǰ' = true := by
    rw [Text.alphabetic, Text.runs_of_list]
    decide +kernel
  have alphabetic : Text.isAlphabetic 'ǰ' = true := by
    rw [Text.isAlphabetic, if_neg (by decide), letter]
  refine ⟨⟨'ǰ', [], rfl, by simp [startsName, alphabetic]⟩, ?_⟩
  intro c member
  rw [List.mem_singleton.mp member]
  simp [Parser.isNameCharacter, Text.isAlphanumeric, alphabetic]

set_option maxRecDepth 100000 in
theorem caron_upper : Text.upper ['ǰ'] = ['J', '\u030C'] := by
  have entry : Text.upperExpansions.lookup 0x1F0 = some [0x4A, 0x30C] := by
    rw [Text.upperExpansions, Text.Expansions.ofText, Text.entries_of_list]
    decide +kernel
  have code : 'ǰ'.toNat = 0x1F0 := rfl
  have mapped : Text.upperCharacter 'ǰ' = [Char.ofNat 0x4A, Char.ofNat 0x30C] := by
    rw [Text.upperCharacter, if_neg (by decide), Text.mapCharacter, code, entry]
    rfl
  rw [Text.upper, List.flatMap_cons, mapped]
  rfl

def nines (places : Nat) : Number.Numeral := ⟨List.replicate places '9', [], 0⟩

theorem nines_accepted (places : Nat) :
    parse (String.ofList (List.replicate (places + 1) '9')) =
      ⟨.ok (.literal (.number (nines (places + 1)).value)), ∅⟩ := by
  have proper : IsNumeral (nines (places + 1)) := by
    refine ⟨by simp [nines, List.replicate_succ], ?_, by simp [nines], rfl⟩
    intro c member
    rw [List.eq_of_mem_replicate member]
    rfl
  have chars : numeralChars (nines (places + 1)) = List.replicate (places + 1) '9' := List.append_nil _
  rw [← chars]
  exact parse_complete _ _ _ [] (power_comparisons _ _ _ (.base _ _ _ (.number _ _ proper))) (by simp [White]) (by simp)

theorem nines_infinite : Number.chars (nines 309).value = ['I', 'n', 'f', 'i', 'n', 'i', 't', 'y'] := by
  decide +kernel

-- The texts of a tower of 129 exponents, of a number with 309 digits and of a call whose name in upper case
-- ends in a combining character are accepted; the canonical texts of what they are accepted as are not.
theorem unread_canonical_texts :
    (∃ f names, parse (String.ofList (powersChars 129)) = ⟨.ok f, names⟩ ∧ (parse f.text).isValid = false) ∧
      (∃ f names, parse (String.ofList (List.replicate 309 '9')) = ⟨.ok f, names⟩ ∧
        (parse f.text).isValid = false) ∧
      ∃ f names, parse (String.ofList ['ǰ', '(', '1', ')']) = ⟨.ok f, names⟩ ∧ (parse f.text).isValid = false := by
  refine ⟨⟨_, _, powers_accepted 129 (by decide), ?_⟩, ⟨_, _, nines_accepted 308, ?_⟩,
    ⟨_, _, call_accepted 'ǰ' caron_name, ?_⟩⟩
  · have wasRead := (accepted_read _ _ _ (powers_accepted 129 (by decide))).1
    have deep : Parser.maxDepth < (powers 129).need := by
      rw [powers_need]
      decide
    obtain ⟨position, failed⟩ := text_too_deep _ (writable_of_read _ wasRead (powers_named 129)) deep
    rw [Parsed.isValid, failed]
    rfl
  · have text : (Formula.literal (.number (nines 309).value)).text =
        String.ofList (['I', 'n', 'f', 'i', 'n', 'i', 't', 'y'] ++ []) := by
      rw [← nines_infinite, List.append_nil]
      exact congrArg String.ofList String.toList_ofList
    rw [text]
    exact unknown_word _ [] (name_of_all 'I' _ (by decide) (by decide)) (by simp [Stops]) (by simp) (by decide)
  · have text : (Formula.call (String.ofList (Text.upper ['ǰ'])) [one]).text =
        String.ofList (['J'] ++ '\u030C' :: '(' :: (one.chars ++ [')'])) := by
      rw [caron_upper]
      simp [Formula.text, Formula.chars, Formula.argumentChars]
    have outside := Text.between_not_name_character '\u030C' (by decide)
    rw [text]
    exact unknown_word ['J'] _ (name_of_all 'J' [] (by decide) (by decide)) (by simpa [Stops] using outside) (by simp)
      (by decide)

end FormulaField
