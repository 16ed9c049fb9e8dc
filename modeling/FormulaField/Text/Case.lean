import FormulaField.Text.CaseTables
import FormulaField.Text.Property

/-!
Upper and lower case of texts. A character may become several, and a capital sigma at the end of
a word becomes the final small sigma.
-/

set_option autoImplicit false

namespace FormulaField.Text

def toAsciiUpper (c : Char) : Char :=
  if 'a' ≤ c && c ≤ 'z' then Char.ofNat (c.toNat - 32) else c

def toAsciiLower (c : Char) : Char :=
  if 'A' ≤ c && c ≤ 'Z' then Char.ofNat (c.toNat + 32) else c

def asciiLower (cs : List Char) : List Char := cs.map toAsciiLower

def mapCharacter (expansions : Expansions) (shifts : Shifts) (c : Char) : List Char :=
  match expansions.lookup c.toNat with
  | some images => images.map Char.ofNat
  | none => [Char.ofNat (shifts.image c.toNat)]

def upperCharacter (c : Char) : List Char :=
  if isAscii c then [toAsciiUpper c] else mapCharacter upperExpansions upperShifts c

def lowerCharacter (c : Char) : List Char :=
  if isAscii c then [toAsciiLower c] else mapCharacter lowerExpansions lowerShifts c

def upper (cs : List Char) : List Char := cs.flatMap upperCharacter

def meetsCased (cs : List Char) : Bool :=
  match cs.dropWhile isCaseIgnorable with
  | c :: _ => isCased c
  | [] => false

def capitalSigma : Char := 'Σ'

-- Lower case of the characters after those in `before`, which are in reverse order. A sigma is
-- final when a cased letter comes before it and none after it.
def lowerAfter (before : List Char) : List Char → List Char
  | [] => []
  | c :: rest =>
      let image :=
        if c = capitalSigma then
          [if meetsCased before && !meetsCased rest then 'ς' else 'σ']
        else lowerCharacter c
      image ++ lowerAfter (c :: before) rest

def lower (cs : List Char) : List Char := lowerAfter [] cs

end FormulaField.Text
