import FormulaField.Text.DigitTable
import FormulaField.Text.PropertyTables

/-!
Character properties. ASCII characters are decided by their ranges, all others by the tables.
-/

set_option autoImplicit false

namespace FormulaField.Text

def isAscii (c : Char) : Bool := c.toNat < 128

def isAsciiLetter (c : Char) : Bool := ('a' ≤ c && c ≤ 'z') || ('A' ≤ c && c ≤ 'Z')

def isAsciiDigit (c : Char) : Bool := '0' ≤ c && c ≤ '9'

def isWhite (c : Char) : Bool :=
  let code := c.toNat
  (9 ≤ code && code ≤ 13) || code == 0x20 || code == 0x85 || code == 0xA0 || code == 0x1680 ||
    (0x2000 ≤ code && code ≤ 0x200A) || code == 0x2028 || code == 0x2029 || code == 0x202F ||
    code == 0x205F || code == 0x3000

def isAlphabetic (c : Char) : Bool := if isAscii c then isAsciiLetter c else alphabetic.contains c

def isNumeric (c : Char) : Bool := if isAscii c then isAsciiDigit c else numeric.contains c

def isAlphanumeric (c : Char) : Bool := isAlphabetic c || isNumeric c

def isDecimalDigit (c : Char) : Bool :=
  if isAscii c then isAsciiDigit c else decimalDigits.contains c

def isCased (c : Char) : Bool := if isAscii c then isAsciiLetter c else cased.contains c

def isCaseIgnorable (c : Char) : Bool := caseIgnorable.contains c

end FormulaField.Text
