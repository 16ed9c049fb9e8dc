/-!
Syntax errors of formulas. Positions count the bytes before the place of the error.
-/

set_option autoImplicit false

namespace FormulaField

inductive ParseError where
  | unterminatedString (position : Nat)
  | unterminatedFieldReference (position : Nat)
  | unexpectedCharacter (character : Char) (position : Nat)
  | expectedClosingParen (position : Nat)
  | unexpectedIdentifier (name : String) (position : Nat)
  | tooDeeplyNested (position : Nat)
  | unexpectedEnd
deriving DecidableEq

namespace ParseError

def position? : ParseError → Option Nat
  | .unterminatedString position => some position
  | .unterminatedFieldReference position => some position
  | .unexpectedCharacter _ position => some position
  | .expectedClosingParen position => some position
  | .unexpectedIdentifier _ position => some position
  | .tooDeeplyNested position => some position
  | .unexpectedEnd => none

def message : ParseError → String
  | .unterminatedString position => "Unterminated string starting at position " ++ toString position
  | .unterminatedFieldReference position =>
      "Unterminated field reference starting at position " ++ toString position
  | .unexpectedCharacter character position =>
      "Unexpected character '" ++ String.singleton character ++ "' at position " ++
        toString position
  | .expectedClosingParen position =>
      "Expected closing parenthesis at position " ++ toString position
  | .unexpectedIdentifier name position =>
      "Unexpected identifier '" ++ name ++ "' at position " ++ toString position
  | .tooDeeplyNested position => "Formula is nested too deeply at position " ++ toString position
  | .unexpectedEnd => "Unexpected end of formula"

end ParseError

end FormulaField
