import FormulaField.Json.Basic

/-!
JSON documents as text: compact, or with one member a line and an indent of two spaces. Only
quotes, backslashes and control characters are escaped.
-/

set_option autoImplicit false

namespace FormulaField.Json

def hexDigit (n : Nat) : Char := Nat.digitChar (n % 16)

def escape (c : Char) : List Char :=
  if c = '"' then ['\\', '"']
  else if c = '\\' then ['\\', '\\']
  else if c = '\n' then ['\\', 'n']
  else if c = '\r' then ['\\', 'r']
  else if c = '\t' then ['\\', 't']
  else if c.toNat = 8 then ['\\', 'b']
  else if c.toNat = 12 then ['\\', 'f']
  else if c.toNat < 32 then ['\\', 'u', '0', '0', hexDigit (c.toNat / 16), hexDigit c.toNat]
  else [c]

def quoted (s : String) : List Char := '"' :: s.toList.flatMap escape ++ ['"']

def integerChars (i : Int) : List Char := Number.sign (i < 0) ++ Number.digits i.natAbs

mutual

def compactChars : Json → List Char
  | .null => "null".toList
  | .boolean b => if b then "true".toList else "false".toList
  | .integer i => integerChars i
  | .decimal x => if x.isFinite then Number.documentChars x else "null".toList
  | .text s => quoted s
  | .array items => '[' :: compactItems items ++ [']']
  | .object members => '{' :: compactMembers members ++ ['}']

def compactItems : List Json → List Char
  | [] => []
  | [item] => item.compactChars
  | item :: rest => item.compactChars ++ ',' :: compactItems rest

def compactMembers : List (String × Json) → List Char
  | [] => []
  | [(name, item)] => quoted name ++ ':' :: item.compactChars
  | (name, item) :: rest => quoted name ++ ':' :: item.compactChars ++ ',' :: compactMembers rest

end

def newLine (level : Nat) : List Char := '\n' :: List.replicate (2 * level) ' '

mutual

def prettyChars (level : Nat) : Json → List Char
  | .array [] => ['[', ']']
  | .array items => '[' :: prettyItems (level + 1) items ++ newLine level ++ [']']
  | .object [] => ['{', '}']
  | .object members => '{' :: prettyMembers (level + 1) members ++ newLine level ++ ['}']
  | .null => "null".toList
  | .boolean b => if b then "true".toList else "false".toList
  | .integer i => integerChars i
  | .decimal x => if x.isFinite then Number.documentChars x else "null".toList
  | .text s => quoted s

def prettyItems (level : Nat) : List Json → List Char
  | [] => []
  | [item] => newLine level ++ prettyChars level item
  | item :: rest => newLine level ++ prettyChars level item ++ ',' :: prettyItems level rest

def prettyMembers (level : Nat) : List (String × Json) → List Char
  | [] => []
  | [(name, item)] => newLine level ++ quoted name ++ ':' :: ' ' :: prettyChars level item
  | (name, item) :: rest =>
      newLine level ++ quoted name ++ ':' :: ' ' :: prettyChars level item ++ ',' ::
        prettyMembers level rest

end

def compact (j : Json) : String := String.ofList j.compactChars

def pretty (j : Json) : String := String.ofList (prettyChars 0 j)

end FormulaField.Json
