import FormulaField.Formula.ParseError
import FormulaField.Text.Words

/-!
The place of a parser in its text: what is left to read, how many bytes are behind, and which
field references were met. The state survives an error, so that the references do too.
-/

set_option autoImplicit false

namespace FormulaField

structure Cursor where
  rest : List Char
  position : Nat
  -- Names of the references met so far, the latest first.
  reads : List String

abbrev Parser := EStateM ParseError Cursor

def byteLength : List Char → Nat
  | [] => 0
  | c :: cs => c.utf8Size + byteLength cs

namespace Cursor

def start (cs : List Char) : Cursor := ⟨cs, 0, []⟩

def advance (c : Cursor) (n : Nat) : Cursor :=
  { c with rest := c.rest.drop n, position := c.position + byteLength (c.rest.take n) }

def skipWhite (c : Cursor) : Cursor := c.advance (c.rest.takeWhile Text.isWhite).length

end Cursor

namespace Parser

def advance (n : Nat) : Parser Unit := modify (·.advance n)

def skipWhite : Parser Unit := modify Cursor.skipWhite

def rest : Parser (List Char) := return (← get).rest

def position : Parser Nat := return (← get).position

def eat (symbol : List Char) : Parser Bool := do
  skipWhite
  if symbol.isPrefixOf (← rest) then
    advance symbol.length
    return true
  else return false

def eatFirst {α : Type} : List (List Char × α) → Parser (Option α)
  | [] => return none
  | (symbol, result) :: others => do
      if ← eat symbol then return some result else eatFirst others

def unexpected {α : Type} (c : Char) : Parser α := do
  throw (.unexpectedCharacter c (← position))

end Parser

end FormulaField
