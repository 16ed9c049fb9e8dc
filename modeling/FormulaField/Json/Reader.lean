import FormulaField.Json.Basic

/-!
Reading JSON documents in two steps. The first follows the grammar alone and gives a draft, in
which a number may be out of range and a string may hold half of a surrogate pair. The second
accepts a draft without such faults and without deep nesting. Members that nobody asks for need
only pass the first step.
-/

set_option autoImplicit false

namespace FormulaField.Json

open FormulaField.Number (isDigit digitValue naturalOf)

inductive Draft where
  | null
  | boolean (b : Bool)
  | integer (i : Int)
  | decimal (x : Option Float)
  | text (s : Option String)
  | array (items : List Draft)
  | object (members : List (Option String × Draft))

instance : Inhabited Draft := ⟨.null⟩

def isSpace (c : Char) : Bool := c == ' ' || c == '\n' || c == '\t' || c == '\r'

def skip (cs : List Char) : List Char := cs.dropWhile isSpace

namespace Lexeme

def maxSignificand : Nat := Number.twoTo 64 - 1

-- Appends digits to a significand as long as it stays below the bound, and gives the digits
-- that are left.
def collect (significand : Nat) : List Char → Nat × List Char
  | [] => (significand, [])
  | d :: ds =>
      let next := 10 * significand + digitValue d
      if maxSignificand < next then (significand, d :: ds) else collect next ds

def powerOfTen (exponent : Nat) : Float := Number.ofDecimal false ⟨1, exponent⟩

-- Multiplies or divides by a power of ten in steps of at most 308, rounding at each step. A
-- result past the largest double is out of range.
def scale? (fuel : Nat) (x : Float) (exponent : Int) : Option Float :=
  if exponent.natAbs ≤ 308 then
    if 0 ≤ exponent then
      let product := x * powerOfTen exponent.natAbs
      if product.isFinite then some product else none
    else some (x / powerOfTen exponent.natAbs)
  else if x == 0 then some x
  else if 0 ≤ exponent then none
  else match fuel with
    | 0 => some x
    | fuel + 1 => scale? fuel (x / powerOfTen 308) (exponent + 308)

def maxExponent : Nat := Number.twoTo 31 - 1

def float? (negative : Bool) (significand : Nat) (exponent : Int) (below : Bool)
    (power : List Char) : Option Float :=
  let signed (x : Float) : Float := if negative then -x else x
  if maxExponent < naturalOf power then
    if significand ≠ 0 ∧ ¬below then none else some (signed 0)
  else
    let exponent : Int := if below then exponent - naturalOf power else exponent + naturalOf power
    (scale? (exponent.natAbs / 308 + 1) (Number.ofNat significand) exponent).map signed

def exponent? (cs : List Char) : Option (Bool × List Char × List Char) :=
  let (below, unsigned) := match cs with
    | '+' :: rest => (false, rest)
    | '-' :: rest => (true, rest)
    | rest => (false, rest)
  let power := unsigned.takeWhile isDigit
  if power.isEmpty then none else some (below, power, unsigned.drop power.length)

-- A whole number of 64 bits, or a double: negative zero and what has more bits is a double.
def whole (negative : Bool) (significand : Nat) : Draft :=
  if ¬negative then .integer significand
  else if 1 ≤ significand ∧ significand ≤ Number.twoTo 63 then .integer (-(significand : Int))
  else .decimal (some (-Number.ofNat significand))

def number? (negative : Bool) (cs : List Char) : Option (Draft × List Char) := do
  let integral := cs.takeWhile isDigit
  let rest := cs.drop integral.length
  if integral.isEmpty ∨ (integral.length ≠ 1 ∧ integral.head? = some '0') then none
  else
    let (significand, dropped) := collect 0 integral
    let (fraction, rest) ← match rest with
      | '.' :: rest =>
          let fraction := rest.takeWhile isDigit
          if fraction.isEmpty then none else some (fraction, rest.drop fraction.length)
      | rest => some ([], rest)
    let (significand', unread) := collect significand fraction
    let exponent : Int := (dropped.length : Int) - (fraction.length - unread.length : Nat)
    match rest with
    | e :: more =>
        if e = 'e' ∨ e = 'E' then
          let (below, power, rest) ← exponent? more
          some (.decimal (float? negative significand' exponent below power), rest)
        else some (plain significand' fraction dropped exponent, rest)
    | [] => some (plain significand' fraction dropped exponent, rest)
where
  plain (significand : Nat) (fraction dropped : List Char) (exponent : Int) : Draft :=
    if fraction.isEmpty ∧ dropped.isEmpty then whole negative significand
    else .decimal (float? negative significand exponent false [])

-- A character of a string, or the unit that an escape names by its code.
inductive Piece where
  | character (c : Char)
  | unit (code : Nat)

def hexDigit? (c : Char) : Option Nat :=
  if isDigit c then some (digitValue c)
  else if 'a' ≤ c && c ≤ 'f' then some (c.toNat - 'a'.toNat + 10)
  else if 'A' ≤ c && c ≤ 'F' then some (c.toNat - 'A'.toNat + 10)
  else none

def unit? (a b c d : Char) : Option Nat := do
  return (((← hexDigit? a) * 16 + (← hexDigit? b)) * 16 + (← hexDigit? c)) * 16 + (← hexDigit? d)

def shortEscape? (c : Char) : Option Char :=
  match c with
  | '"' => some '"'
  | '\\' => some '\\'
  | '/' => some '/'
  | 'b' => some (Char.ofNat 8)
  | 'f' => some (Char.ofNat 12)
  | 'n' => some '\n'
  | 'r' => some '\r'
  | 't' => some '\t'
  | _ => none

def pieces? : List Char → Option (List Piece × List Char)
  | [] => none
  | '"' :: rest => some ([], rest)
  | '\\' :: 'u' :: a :: b :: c :: d :: rest => do
      let code ← unit? a b c d
      let (pieces, rest) ← pieces? rest
      return (.unit code :: pieces, rest)
  | '\\' :: c :: rest => do
      let c ← shortEscape? c
      let (pieces, rest) ← pieces? rest
      return (.character c :: pieces, rest)
  | c :: rest =>
      if c = '\\' ∨ c.toNat < 32 then none
      else do
        let (pieces, rest) ← pieces? rest
        return (.character c :: pieces, rest)

def isHighSurrogate (code : Nat) : Bool := 0xD800 ≤ code && code < 0xDC00

def isLowSurrogate (code : Nat) : Bool := 0xDC00 ≤ code && code < 0xE000

-- The characters of a string, if each high surrogate is followed by a low one and no low one
-- stands alone.
def characters? : List Piece → Option (List Char)
  | [] => some []
  | .character c :: rest => (characters? rest).map (c :: ·)
  | .unit high :: .unit low :: rest =>
      if isHighSurrogate high then
        if isLowSurrogate low then
          (characters? rest).map
            (Char.ofNat (0x10000 + (high - 0xD800) * 0x400 + (low - 0xDC00)) :: ·)
        else none
      else if isLowSurrogate high then none
      else (characters? (.unit low :: rest)).map (Char.ofNat high :: ·)
  | .unit code :: rest =>
      if isHighSurrogate code || isLowSurrogate code then none
      else (characters? rest).map (Char.ofNat code :: ·)

def string? (cs : List Char) : Option (Option String × List Char) := do
  let (pieces, rest) ← pieces? cs
  return ((characters? pieces).map String.ofList, rest)

end Lexeme

namespace Draft

open Lexeme

def after? (word cs : List Char) : Option (List Char) :=
  if word.isPrefixOf cs then some (cs.drop word.length) else none

mutual

def value? : Nat → List Char → Option (Draft × List Char)
  | 0, _ => none
  | fuel + 1, cs =>
      match skip cs with
      | '"' :: rest => do
          let (s, rest) ← string? rest
          return (.text s, rest)
      | '[' :: rest =>
          match skip rest with
          | ']' :: rest => some (.array [], rest)
          | rest => do
              let (items, rest) ← items? fuel rest
              return (.array items, rest)
      | '{' :: rest =>
          match skip rest with
          | '}' :: rest => some (.object [], rest)
          | rest => do
              let (members, rest) ← members? fuel rest
              return (.object members, rest)
      | '-' :: rest => number? true rest
      | 'n' :: rest => return (.null, ← after? ['u', 'l', 'l'] rest)
      | 't' :: rest => return (.boolean true, ← after? ['r', 'u', 'e'] rest)
      | 'f' :: rest => return (.boolean false, ← after? ['a', 'l', 's', 'e'] rest)
      | rest => number? false rest

def items? : Nat → List Char → Option (List Draft × List Char)
  | 0, _ => none
  | fuel + 1, cs => do
      let (item, rest) ← value? fuel cs
      match skip rest with
      | ',' :: rest =>
          let (items, rest) ← items? fuel rest
          return (item :: items, rest)
      | ']' :: rest => return ([item], rest)
      | _ => none

def members? : Nat → List Char → Option (List (Option String × Draft) × List Char)
  | 0, _ => none
  | fuel + 1, cs =>
      match skip cs with
      | '"' :: rest => do
          let (name, rest) ← string? rest
          match skip rest with
          | ':' :: rest =>
              let (item, rest) ← value? fuel rest
              match skip rest with
              | ',' :: rest =>
                  let (members, rest) ← members? fuel rest
                  return ((name, item) :: members, rest)
              | '}' :: rest => return ([(name, item)], rest)
              | _ => none
          | _ => none
      | _ => none

end

-- The draft of a document, which is one value with white space around it. Every value and every
-- item takes a character, so twice the length of the text is enough fuel.
def ofChars? (cs : List Char) : Option Draft :=
  match value? (2 * cs.length + 2) cs with
  | some (draft, rest) => if (skip rest).isEmpty then some draft else none
  | none => none

def ofText? (s : String) : Option Draft := ofChars? s.toList

def maxDepth : Nat := 127

mutual

def accept? (depth : Nat) : Draft → Option Json
  | .null => some .null
  | .boolean b => some (.boolean b)
  | .integer i => some (.integer i)
  | .decimal x => x.map .decimal
  | .text s => s.map .text
  | .array items => if depth = 0 then none else (acceptItems? (depth - 1) items).map .array
  | .object members =>
      if depth = 0 then none else (acceptMembers? (depth - 1) members).map sortedObject

def acceptItems? (depth : Nat) : List Draft → Option (List Json)
  | [] => some []
  | item :: rest => do
      let first ← accept? depth item
      let others ← acceptItems? depth rest
      return first :: others

def acceptMembers? (depth : Nat) : List (Option String × Draft) → Option (List (String × Json))
  | [] => some []
  | (name, item) :: rest => do
      let name ← name
      let first ← accept? depth item
      let others ← acceptMembers? depth rest
      return (name, first) :: others

end

end Draft

def ofText? (s : String) : Option Json := (Draft.ofText? s).bind (Draft.accept? Draft.maxDepth)

mutual

def draft : Json → Draft
  | .null => .null
  | .boolean b => .boolean b
  | .integer i => .integer i
  | .decimal x => .decimal (some x)
  | .text s => .text (some s)
  | .array items => .array (draftItems items)
  | .object members => .object (draftMembers members)

def draftItems : List Json → List Draft
  | [] => []
  | item :: rest => item.draft :: draftItems rest

def draftMembers : List (String × Json) → List (Option String × Draft)
  | [] => []
  | (name, item) :: rest => (some name, item.draft) :: draftMembers rest

end

end FormulaField.Json
