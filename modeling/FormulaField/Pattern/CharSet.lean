import FormulaField.Pattern.WordTable
import FormulaField.Text.Property

set_option autoImplicit false

namespace FormulaField.Pattern

open FormulaField.Text (Runs)

-- A set of characters. The last two constructors add the characters that differ from a member
-- in case only.
inductive CharSet where
  | none
  | range (first last : Char)
  | word
  | runs (table : Runs)
  | union (a b : CharSet)
  | inter (a b : CharSet)
  | diff (a b : CharSet)
  | symmDiff (a b : CharSet)
  | compl (a : CharSet)
  | anyCase (a : CharSet)
  | anyAsciiCase (a : CharSet)

def caseVariants (c : Char) : List Char :=
  let folded := foldShifts.image c.toNat
  c :: Char.ofNat folded :: (foldShifts.sources folded).map Char.ofNat

def isWordCharacter (c : Char) : Bool :=
  if Text.isAscii c then Text.isAsciiLetter c || Text.isAsciiDigit c || c == '_'
  else wordCharacters.contains c

def asciiCaseVariants (c : Char) : List Char :=
  if 'a' ≤ c && c ≤ 'z' then [c, Char.ofNat (c.toNat - 32)]
  else if 'A' ≤ c && c ≤ 'Z' then [c, Char.ofNat (c.toNat + 32)]
  else [c]

namespace CharSet

def contains : CharSet → Char → Bool
  | .none, _ => false
  | .range first last, c => first ≤ c && c ≤ last
  | .word, c => isWordCharacter c
  | .runs table, c => table.contains c
  | .union a b, c => a.contains c || b.contains c
  | .inter a b, c => a.contains c && b.contains c
  | .diff a b, c => a.contains c && !b.contains c
  | .symmDiff a b, c => a.contains c != b.contains c
  | .compl a, c => !a.contains c
  | .anyCase a, c => (caseVariants c).any a.contains
  | .anyAsciiCase a, c => (asciiCaseVariants c).any a.contains

def single (c : Char) : CharSet := .range c c

def all : CharSet := .compl .none

def ofRanges (ranges : List (Char × Char)) : CharSet :=
  ranges.foldr (fun r rest => .union (.range r.1 r.2) rest) .none

def ascii : CharSet := .range (Char.ofNat 0) (Char.ofNat 127)

def asciiDigits : List (Char × Char) := [('0', '9')]

def asciiLetters : List (Char × Char) := [('A', 'Z'), ('a', 'z')]

def asciiSpaces : List (Char × Char) := [('\t', '\r'), (' ', ' ')]

def asciiWord : List (Char × Char) := asciiDigits ++ asciiLetters ++ [('_', '_')]

def asciiNamed : List (List Char × List (Char × Char)) := [
  ("alnum".toList, asciiDigits ++ asciiLetters),
  ("alpha".toList, asciiLetters),
  ("ascii".toList, [(Char.ofNat 0, Char.ofNat 127)]),
  ("blank".toList, [('\t', '\t'), (' ', ' ')]),
  ("cntrl".toList, [(Char.ofNat 0, Char.ofNat 31), (Char.ofNat 127, Char.ofNat 127)]),
  ("digit".toList, asciiDigits),
  ("graph".toList, [('!', '~')]),
  ("lower".toList, [('a', 'z')]),
  ("print".toList, [(' ', '~')]),
  ("punct".toList, [('!', '/'), (':', '@'), ('[', Char.ofNat 96), (Char.ofNat 123, '~')]),
  ("space".toList, asciiSpaces),
  ("upper".toList, [('A', 'Z')]),
  ("word".toList, asciiWord),
  ("xdigit".toList, [('0', '9'), ('A', 'F'), ('a', 'f')])]

def whiteSpace : CharSet :=
  ofRanges ([('\t', '\r'), (' ', ' ')] ++ [(0x85, 0x85), (0xA0, 0xA0), (0x1680, 0x1680),
    (0x2000, 0x200A), (0x2028, 0x2029), (0x202F, 0x202F), (0x205F, 0x205F), (0x3000, 0x3000)].map
      fun r => (Char.ofNat r.1, Char.ofNat r.2))

def decimalDigit : CharSet := .runs Text.decimalDigits

end CharSet

end FormulaField.Pattern
