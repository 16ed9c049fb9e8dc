import FormulaField.Function.Signature
import FormulaField.Pattern.Search
import FormulaField.Text.Case

/-!
Functions of texts. Lengths and offsets count characters from zero, and reach no further than
the text.
-/

set_option autoImplicit false

namespace FormulaField.Texts

def text (cs : List Char) : Outcome := .ok (.text (String.ofList cs))

def characters (v : Value) : List Char := v.toText.toList

def countOrOne (count : Option Value) : Nat :=
  match count with
  | some v => v.toCount
  | none => 1

def left (cs : List Char) (count : Nat) : List Char := cs.take count

def right (cs : List Char) (count : Nat) : List Char := cs.drop (cs.length - count)

def middle (cs : List Char) (start : Nat) (count : Option Nat) : List Char :=
  match count with
  | some count => (cs.drop start).take count
  | none => cs.drop start

def firstOccurrence? (sought : List Char) : List Char → Option Nat
  | [] => if sought = [] then some 0 else none
  | c :: cs =>
      if sought.isPrefixOf (c :: cs) then some 0 else (firstOccurrence? sought cs).map (· + 1)

def find? (sought cs : List Char) (start : Nat) : Option Nat :=
  if start ≤ cs.length then (firstOccurrence? sought (cs.drop start)).map (start + ·) else none

def place (position : Option Nat) : Value :=
  match position with
  | some n => .number (Number.ofNat n)
  | none => .empty

def replaceLiteral (sought replacement : List Char) : Nat → List Char → List Char
  | 0, cs => cs
  | _, [] => []
  | fuel + 1, c :: cs =>
      if sought.isPrefixOf (c :: cs) then
        replacement ++ replaceLiteral sought replacement fuel ((c :: cs).drop sought.length)
      else c :: replaceLiteral sought replacement fuel cs

-- The text with every match of a pattern replaced. What is not a pattern is taken literally,
-- and an empty pattern replaces nothing.
def replace (cs pattern replacement : List Char) : List Char :=
  if pattern = [] then cs
  else match Pattern.ofChars? pattern with
    | some e => e.replaceAll cs replacement
    | none => replaceLiteral pattern replacement cs.length cs

def functions : List Function := [
  ⟨"CONCAT", .text, .variadic fun args => text (args.flatMap characters)⟩,
  ⟨"UPPER", .text, .one fun v => text (Text.upper (characters v))⟩,
  ⟨"LOWER", .text, .one fun v => text (Text.lower (characters v))⟩,
  ⟨"TRIM", .text, .one fun v => text (Text.trim (characters v))⟩,
  ⟨"LEN", .text, .one fun v => .ok (.number (Number.ofNat (characters v).length))⟩,
  ⟨"LEFT", .text, .oneOrTwo fun v count => text (left (characters v) (countOrOne count))⟩,
  ⟨"RIGHT", .text, .oneOrTwo fun v count => text (right (characters v) (countOrOne count))⟩,
  ⟨"MID", .text, .twoOrThree fun v start count =>
    text (middle (characters v) start.toCount (count.map Value.toCount))⟩,
  ⟨"FIND", .text, .twoOrThree fun sought v start =>
    .ok (place (find? (characters sought) (characters v) ((start.map Value.toCount).getD 0)))⟩,
  ⟨"REPLACE", .text, .three fun v pattern replacement =>
    text (replace (characters v) (characters pattern) (characters replacement))⟩]

end FormulaField.Texts
