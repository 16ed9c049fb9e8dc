import FormulaField.Proofs.Descent.Outcomes

set_option autoImplicit false

namespace FormulaField

def startsFraction : List Char → Bool
  | '.' :: d :: _ => Number.isDigit d
  | _ => false

theorem starts_fraction (tail : List Char) : startsFraction ('.' :: tail) = tail.head?.any Number.isDigit := by
  cases tail <;> rfl

theorem starts_no_fraction (cs : List Char) (other : ['.'].isPrefixOf cs = false) : startsFraction cs = false := by
  cases cs with
  | nil => rfl
  | cons c tail =>
      have noPoint : c ≠ '.' := by
        rintro rfl
        simp [List.isPrefixOf] at other
      rw [startsFraction]
      rintro d ds same
      exact noPoint (List.cons.inj same).1

def fractionLength (cs : List Char) : Nat :=
  if startsFraction cs then 1 + (cs.tail.takeWhile Number.isDigit).length else 0

theorem numeral_length (cs : List Char) : (Parser.numeral cs).2 =
    (cs.takeWhile Number.isDigit).length + fractionLength (cs.drop (cs.takeWhile Number.isDigit).length) := by
  rw [Parser.numeral]
  simp only
  split
  next tail after =>
    rw [after, fractionLength, starts_fraction, List.tail_cons]
    cases tail with
    | nil => rfl
    | cons d ds =>
        by_cases digit : Number.isDigit d = true
        · simp [List.takeWhile_cons_of_pos digit, digit, Nat.add_assoc]
        · simp [List.takeWhile_cons_of_neg digit, digit]
  next other =>
    rw [fractionLength, starts_no_fraction, if_neg Bool.false_ne_true, Nat.add_zero]
    cases after : cs.drop (cs.takeWhile Number.isDigit).length with
    | nil => rfl
    | cons c tail =>
        have noPoint : c ≠ '.' := fun same => other tail (same ▸ after)
        simp [List.isPrefixOf, Ne.symm noPoint]

theorem numeral_again (cs : List Char) (digit : ∃ c rest, cs = c :: rest ∧ Number.isDigit c = true) :
    (Parser.numeral (cs.take (Parser.numeral cs).2)).1 = (Parser.numeral cs).1 := by
  cases read : Parser.numeral cs with
  | mk numeral length =>
      obtain ⟨tail, split, proper, exactly⟩ := numeral_read cs numeral length digit read
      have alone := numeral_complete numeral [] proper (by simp [Stops])
      rw [List.append_nil] at alone
      rw [split, exactly, List.take_left, alone]

theorem names_of_list_cons (name : String) (names : List String) :
    Names.ofList (name :: names) = (Names.ofList names).insert name := by
  apply Std.ExtTreeSet.ext_mem
  intro other
  rw [mem_names_of_list, Std.ExtTreeSet.mem_insert, mem_names_of_list, Std.compare_eq_iff_eq, List.mem_cons,
    eq_comm (a := name)]

namespace Descent

open Guarded (splitAtByte?)
open Program (loop)

variable {text : String} {known : Names} {n : Nat} {c : Cursor}

theorem yields_fraction (inside : Inside text known n c) :
    Yields text known (fraction text) (placeOf n c) () (placeOf n (c.advance (fractionLength c.rest))) := by
  have fits := inside_fit inside
  have more : Yields text known (atFraction c.rest) (placeOf n c) (startsFraction c.rest) (placeOf n c) := by
    rw [atFraction]
    by_cases point : ['.'].isPrefixOf c.rest = true
    · obtain ⟨tail, split⟩ := List.isPrefixOf_iff_prefix.mp point
      have cut := Guarded.split_at_boundary ['.'] tail
      rw [if_pos point, ← split, List.singleton_append, starts_fraction]
      exact completes_behind (yields_given cut fits) (yields_done _ fits)
    · rw [if_neg point, starts_no_fraction _ (Bool.eq_false_iff.mpr point)]
      exact yields_done _ fits
  refine completes_behind (yields_rest inside) ?_
  refine completes_behind more ?_
  rw [fractionLength]
  cases startsFraction c.rest with
  | true =>
      have digits := yields_skip Number.isDigit (inside_advance inside 1)
      rw [Cursor.advance_add, Cursor.advance, List.drop_one] at digits
      exact completes_behind (yields_advance inside) digits
  | false => exact yields_done _ fits

theorem agrees_number (inside : Inside text known n c)
    (digit : ∃ d rest, c.rest = d :: rest ∧ Number.isDigit d = true) :
    Agrees text known (· = n) (number text) n c (Parser.number.run c) := by
  have fits := inside_fit inside
  have wholeInside := inside_advance inside (c.rest.takeWhile Number.isDigit).length
  have behind := inside_advance inside (Parser.numeral c.rest).2
  have decimals := yields_fraction wholeInside
  rw [Cursor.advance_add, Cursor.advance, ← numeral_length] at decimals
  have ran : Parser.number.run c =
      .ok (.literal (.number (Parser.numeral c.rest).1.value)) (c.advance (Parser.numeral c.rest).2) := rfl
  rw [ran, ← numeral_again c.rest digit]
  refine completes_behind (yields_get fits) ?_
  refine completes_behind (yields_skip Number.isDigit inside) ?_
  refine completes_behind decimals ?_
  refine completes_behind (yields_read_since inside _) ?_
  exact agrees_done behind _ rfl

def stringOutcome (quote : Char) (first : Cursor) (content : List Char) (c : Cursor) :
    EStateM.Result ParseError Cursor (List Char) :=
  match Parser.quoted? quote c.rest with
  | some (further, length) => .ok (content ++ further) (c.advance length)
  | none => .error (.unterminatedString first.position) first

theorem string_goes_on (quote : Char) (first : Cursor) (content : List Char) (d : Char) (k : Nat) (tail : List Char)
    (behind : (c.advance k).rest = tail)
    (read : Parser.quoted? quote c.rest = (Parser.quoted? quote tail).map fun r => (d :: r.1, r.2 + k)) :
    stringOutcome quote first content c = stringOutcome quote first (content ++ [d]) (c.advance k) := by
  rw [stringOutcome, stringOutcome, read, behind]
  cases Parser.quoted? quote tail with
  | none => rfl
  | some r =>
      simp only [Option.map_some, Cursor.advance_add, List.append_assoc, List.singleton_append]
      rw [Nat.add_comm]

-- What is neither a last backslash nor one in front of a character is no backslash.
theorem not_hiding (d : Char) (cs : List Char) (notLast : d = '\\' → cs = [] → False)
    (notHidden : ∀ e ds, d = '\\' → cs = e :: ds → False) : d ≠ '\\' := by
  intro backslash
  cases cs with
  | nil => exact notLast backslash rfl
  | cons e ds => exact notHidden e ds backslash rfl

-- The induction is on the text as the parser takes it, a hidden character with its backslash.
theorem string_loop_agrees (quote : Char) (first : Cursor) (content : List Char) (inside : Inside text known n c)
    (reads : c.reads = first.reads) :
    Agrees text known (· = n) (loop (stringTurn text quote first.position) content) n c
      (stringOutcome quote first content c) := by
  have behind := inside_advance inside 1
  generalize remaining : c.rest = cs
  induction cs using Parser.quoted?.induct quote generalizing c content with
  | case1 =>
      refine agrees_loop (completes_behind (yields_peek inside) ?_)
      rw [stringOutcome, remaining]
      exact completes_fail _ (inside_fit inside) ⟨rfl, congrArg Names.ofList reads⟩
  | case2 =>
      have next : (c.advance 1).rest = [] := congrArg (List.drop 1) remaining
      refine agrees_loop (completes_behind (yields_peek inside) ?_)
      rw [stringOutcome, remaining]
      refine completes_behind (yields_advance inside) ?_
      refine completes_behind (yields_peek behind) ?_
      rw [next]
      exact completes_fail _ (inside_fit behind) ⟨rfl, congrArg Names.ofList reads⟩
  | case3 d cs ih =>
      have next : (c.advance 1).rest = d :: cs := congrArg (List.drop 1) remaining
      have further : (c.advance 2).rest = cs := congrArg (List.drop 2) remaining
      have last := inside_advance inside 2
      have others := ih (content ++ [d]) last reads (inside_advance last 1) further
      rw [← string_goes_on quote first content d 2 cs further (by rw [remaining, Parser.quoted?])] at others
      have advanced := yields_advance behind
      rw [Cursor.advance_add] at advanced
      refine agrees_loop (completes_behind (yields_peek inside) ?_)
      rw [remaining]
      refine completes_behind (yields_advance inside) ?_
      refine completes_behind (yields_peek behind) ?_
      rw [next]
      exact completes_behind advanced (turn_goes_on last others)
  | case4 cs notLast notHidden =>
      have notHiding := not_hiding quote cs notLast notHidden
      refine agrees_loop (completes_behind (yields_peek inside) ?_)
      rw [stringOutcome, remaining, quoted_plain quote quote cs notHiding, if_pos rfl]
      simp only [List.head?_cons, if_neg notHiding, if_true, List.append_nil]
      exact completes_behind (yields_advance inside) (turn_done behind content rfl)
  | case5 d cs notLast notHidden different ih =>
      have notHiding := not_hiding d cs notLast notHidden
      have next : (c.advance 1).rest = cs := congrArg (List.drop 1) remaining
      have others := ih (content ++ [d]) behind reads (inside_advance behind 1) next
      rw [← string_goes_on quote first content d 1 cs next
        (by rw [remaining, quoted_plain quote d cs notHiding, if_neg different])] at others
      refine agrees_loop (completes_behind (yields_peek inside) ?_)
      simp only [remaining, List.head?_cons, if_neg notHiding, if_neg different]
      exact completes_behind (yields_advance inside) (turn_goes_on behind others)

theorem agrees_string (quote : Char) (inside : Inside text known n c) :
    Agrees text known (· = n) (string text quote) n c ((Parser.string quote).run c) := by
  have fits := inside_fit inside
  have behind := inside_advance inside 1
  have content := string_loop_agrees quote c [] behind rfl
  have next : (c.advance 1).rest = c.rest.drop 1 := rfl
  rw [stringOutcome, next] at content
  refine completes_behind (yields_get fits) ?_
  refine completes_behind (yields_advance inside) ?_
  rw [Parser.string, Parser.bind_rest]
  refine completes_after content ?_ ?_
  · rintro cs m after rfl reached ended
    cases read : Parser.quoted? quote (c.rest.drop 1) with
    | none =>
        rw [read] at ended
        cases ended
    | some r =>
        rw [read] at ended
        simp only [Cursor.advance_add] at ended
        cases ended
        rw [Nat.add_comm 1] at reached ⊢
        exact agrees_done reached _ rfl
  · intro e after place failed dependencies
    cases read : Parser.quoted? quote (c.rest.drop 1) with
    | none =>
        rw [read] at failed
        cases failed
        exact ⟨rfl, dependencies⟩
    | some r =>
        rw [read] at failed
        cases failed

theorem yields_note (name : String) (inside : Inside text known n c) :
    Yields text known (note name) (placeOf n c) () (placeOf n { c with reads := name :: c.reads }) ∧
      Inside text known n { c with reads := name :: c.reads } := by
  have fits := inside_fit inside
  have noted : Inside text known n { c with reads := name :: c.reads } :=
    ⟨inside.split, inside.levels, fun other member => List.mem_cons_of_mem name (inside.known other member)⟩
  have place : placeOf n { c with reads := name :: c.reads } =
      { placeOf n c with dependencies := (placeOf n c).dependencies.insert name } := by
    rw [placeOf, names_of_list_cons]
    rfl
  have fitsNoted := inside_fit noted
  rw [place] at fitsNoted ⊢
  exact ⟨completes_behind (yields_get fits) (yields_put fits fitsNoted), noted⟩

theorem agrees_field (inside : Inside text known n c) :
    Agrees text known (· = n) (fieldReference text) n c (Parser.fieldReference.run c) := by
  have fits := inside_fit inside
  have behind := inside_advance inside 1
  have fitsBehind := inside_fit behind
  have remaining := yields_rest behind
  refine completes_behind (yields_get fits) ?_
  refine completes_behind (yields_advance inside) ?_
  refine completes_behind remaining ?_
  have next : (c.advance 1).rest = c.rest.drop 1 := rfl
  rw [Parser.fieldReference, Parser.bind_rest, ← next, Guarded.character_byte]
  by_cases closed : '}' ∈ (c.advance 1).rest
  · obtain ⟨content, tail, split, unclosed⟩ := List.eq_append_cons_of_mem closed
    have taken : (c.advance 1).rest.takeWhile (· != '}') = content := by
      rw [split]
      exact brace_inside content _ unclosed (by simp [Stops])
    have cut : splitAtByte? (byteLength content) (c.advance 1).rest = some (content, '}' :: tail) := by
      rw [split]
      exact Guarded.split_at_boundary content _
    have bytes : byteLength content + 1 = byteLength ((c.advance 1).rest.take (content.length + 1)) := by
      rw [split, List.take_length_add_append, byte_length_append]
      rfl
    have moved := yields_move behind (content.length + 1) _ bytes
    have after := inside_advance behind (content.length + 1)
    rw [Cursor.advance_add, Nat.add_comm 1] at moved after
    obtain ⟨noted, last⟩ := yields_note (String.ofList (Text.trim content)) after
    simp only [taken]
    rw [if_pos closed, if_pos (by rw [split]; simp)]
    refine completes_behind (yields_given cut fitsBehind) ?_
    refine completes_behind moved ?_
    refine completes_behind noted ?_
    exact agrees_done last _ rfl
  · have all : (c.advance 1).rest.takeWhile (· != '}') = (c.advance 1).rest := by
      refine List.takeWhile_eq_self_iff.mpr fun d member => bne_iff_ne.mpr ?_
      rintro rfl
      exact closed member
    simp only [all]
    rw [if_neg closed, if_neg (Nat.lt_irrefl _)]
    exact completes_fail _ fitsBehind ⟨rfl, rfl⟩

end Descent

end FormulaField
