import FormulaField.Pattern.Tree
import FormulaField.Text.Property

/-!
Reading patterns. Where white space is ignored, blanks are white space and comments from a number
sign to the end of the line.
-/

set_option autoImplicit false

namespace FormulaField.Pattern

structure Reading where
  rest : List Char
  names : List (List Char) := []
  spaced : Bool := false

abbrev Reader := StateT Reading Option

namespace Reader

open Text (isWhite isAlphabetic isAlphanumeric)

def rest : Reader (List Char) := return (← get).rest

def peek : Reader (Option Char) := return (← get).rest.head?

def advance (n : Nat) : Reader Unit := modify fun r => { r with rest := r.rest.drop n }

def setSpaced (spaced : Bool) : Reader Unit := modify fun r => { r with spaced := spaced }

def afterBlanks (comment : Bool) : List Char → List Char
  | [] => []
  | c :: cs =>
      if comment then afterBlanks (c != '\n') cs
      else if isWhite c then afterBlanks false cs
      else if c = '#' then afterBlanks true cs
      else c :: cs

def skipBlanks : Reader Unit :=
  modify fun r => if r.spaced then { r with rest := afterBlanks false r.rest } else r

def step : Reader Unit := do
  advance 1
  skipBlanks

def expect (c : Char) : Reader Unit := do
  if (← peek) = some c then step else failure

def spanFrom (condition : Char → Bool) : Nat → Reader (List Char)
  | 0 => return []
  | more + 1 => do
      match ← peek with
      | some c =>
          if condition c then
            step
            return c :: (← spanFrom condition more)
          else return []
      | none => return []

def span (condition : Char → Bool) : Reader (List Char) := do
  spanFrom condition (← rest).length

def skipWhite : Reader Unit := modify fun r => { r with rest := r.rest.dropWhile isWhite }

def maxCount : Nat := 4294967295

def count : Reader Nat := do
  skipWhite
  let digits ← span Text.isAsciiDigit
  skipWhite
  skipBlanks
  let n := digits.foldl (fun n c => 10 * n + (c.toNat - '0'.toNat)) 0
  if digits.isEmpty ∨ maxCount < n then failure else return n

def bounds : Reader (Nat × Option Nat) := do
  step
  let least ← count
  match ← peek with
  | some ',' =>
      step
      if (← peek) = some '}' then
        expect '}'
        return (least, none)
      else
        let most ← count
        expect '}'
        if least ≤ most then return (least, some most) else failure
  | _ =>
      expect '}'
      return (least, some least)

def hexDigit? (c : Char) : Option Nat :=
  if '0' ≤ c && c ≤ '9' then some (c.toNat - '0'.toNat)
  else if 'a' ≤ c && c ≤ 'f' then some (c.toNat - 'a'.toNat + 10)
  else if 'A' ≤ c && c ≤ 'F' then some (c.toNat - 'A'.toNat + 10)
  else none

def isHexDigit (c : Char) : Bool := (hexDigit? c).isSome

def ofHex (digits : List Char) : Reader Char :=
  let code := digits.foldl (fun n c => 16 * n + (hexDigit? c).getD 0) 0
  if Nat.isValidChar code then return Char.ofNat code else failure

def hexDigits : Nat → Reader (List Char)
  | 0 => return []
  | more + 1 => do
      match ← peek with
      | some c =>
          if isHexDigit c then
            step
            return c :: (← hexDigits more)
          else failure
      | none => failure

def codedLetter (width : Nat) : Reader Letter := do
  step
  if (← peek) = some '{' then
    step
    let digits ← span isHexDigit
    expect '}'
    if digits.isEmpty then failure else return ⟨← ofHex digits, false⟩
  else return ⟨← ofHex (← hexDigits width), width = 2⟩

def splitOnce? (separator : List Char) : List Char → Option (List Char × List Char)
  | [] => none
  | c :: cs =>
      if separator.isPrefixOf (c :: cs) then some ([], (c :: cs).drop separator.length)
      else (splitOnce? separator cs).map fun parts => (c :: parts.1, parts.2)

-- Properties are compared by three signs, of which all mean the same.
def queryOf (name : List Char) : PropertyQuery :=
  match splitOnce? ['!', '='] name with
  | some (name, value) => .valued name value
  | none => match splitOnce? [':'] name with
      | some (name, value) => .valued name value
      | none => match splitOnce? ['='] name with
          | some (name, value) => .valued name value
          | none => .named name

def propertyQuery : Reader PropertyQuery := do
  step
  match ← peek with
  | none => failure
  | some '{' =>
      step
      let name ← span (· != '}')
      if (← peek) = some '}' then
        advance 1
        return queryOf name
      else failure
  | some c =>
      if c = '\\' then failure
      else
        step
        return .named [c]

def wordAnchors : List (List Char × Anchor) := [
  ("start".toList, .wordStart), ("end".toList, .wordEnd),
  ("start-half".toList, .wordStartHalf), ("end-half".toList, .wordEndHalf)]

def isAnchorNameCharacter (c : Char) : Bool := Text.isAsciiLetter c || c == '-'

-- The anchor after `\b`, which may have a name in braces. Braces around anything else are a
-- count.
def boundaryAnchor : Reader Anchor := do
  if (← peek) = some '{' then
    let before ← get
    step
    match ← peek with
    | none => failure
    | some c =>
        if isAnchorNameCharacter c then
          let name ← span isAnchorNameCharacter
          if (← peek) = some '}' then
            advance 1
            match wordAnchors.lookup name with
            | some anchor => return anchor
            | none => failure
          else failure
        else
          set before
          return .boundary
  else return .boundary

def controlLetter? (c : Char) : Option Char :=
  match c with
  | 'a' => some (Char.ofNat 7)
  | 'f' => some (Char.ofNat 12)
  | 't' => some '\t'
  | 'n' => some '\n'
  | 'r' => some '\r'
  | 'v' => some (Char.ofNat 11)
  | _ => none

-- ASCII signs stand for themselves after a backslash, apart from angle brackets.
def isEscapable (c : Char) : Bool :=
  Text.isAscii c && !Text.isAsciiLetter c && !Text.isAsciiDigit c && c != '<' && c != '>'

def shorthand? (c : Char) : Option Tree :=
  match c with
  | 'd' => some (.shorthand .digit false)
  | 'D' => some (.shorthand .digit true)
  | 's' => some (.shorthand .space false)
  | 'S' => some (.shorthand .space true)
  | 'w' => some (.shorthand .word false)
  | 'W' => some (.shorthand .word true)
  | _ => none

def escape : Reader Tree := do
  advance 1
  match ← peek with
  | none => failure
  | some 'x' => return .letter (← codedLetter 2)
  | some 'u' => return .letter (← codedLetter 4)
  | some 'U' => return .letter (← codedLetter 8)
  | some 'p' => return .property (← propertyQuery) false
  | some 'P' => return .property (← propertyQuery) true
  | some c =>
      advance 1
      if isEscapable c then return .letter ⟨c, false⟩
      else if let some t := shorthand? c then return t
      else if let some control := controlLetter? c then return .letter ⟨control, false⟩
      else match c with
        | 'A' => return .anchor .startText
        | 'z' => return .anchor .endText
        | 'b' => return .anchor (← boundaryAnchor)
        | 'B' => return .anchor .notBoundary
        | '<' => return .anchor .wordStart
        | '>' => return .anchor .wordEnd
        | _ => failure

def named? (cs : List Char) : Option (ClassTree × List Char) := do
  match cs with
  | '[' :: ':' :: inside =>
      let (negated, inside) := match inside with
        | '^' :: inside => (true, inside)
        | inside => (false, inside)
      let name := inside.takeWhile (· != ':')
      match inside.drop name.length with
      | ':' :: ']' :: rest => return (.named (← CharSet.asciiNamed.lookup name) negated, rest)
      | _ => none
  | _ => none

def classItem? : Tree → Option ClassTree
  | .letter l => some (.letter l)
  | .shorthand s negated => some (.shorthand s negated)
  | .property query negated => some (.property query negated)
  | _ => none

def classItem : Reader ClassTree := do
  match ← peek with
  | none => failure
  | some '\\' => match classItem? (← escape) with
      | some item => return item
      | none => failure
  | some c =>
      advance 1
      return .letter ⟨c, false⟩

-- The character that decides whether a hyphen stands for itself: the next one or, where white
-- space is ignored, the next after white space and at most one number sign.
def afterHyphen (spaced : Bool) (cs : List Char) : Option Char :=
  if spaced then
    match cs.dropWhile isWhite with
    | '#' :: more => match more.dropWhile isWhite with
        | [] => cs.head?
        | c :: _ => some c
    | [] => cs.head?
    | c :: _ => some c
  else cs.head?

def classRange : Reader ClassTree := do
  let first ← classItem
  skipBlanks
  match ← rest with
  | [] => failure
  | c :: more =>
      let following := afterHyphen (← get).spaced more
      if c ≠ '-' ∨ following = some ']' ∨ following = some '-' then return first
      else
        step
        match first, ← classItem with
        | .letter a, .letter b => if a.char ≤ b.char then return .range a b else failure
        | _, _ => failure

-- The opening bracket: whether the class is negated, and the hyphens or the bracket at its start
-- that stand for themselves. The items are in reverse order.
def classOpening : Reader (Bool × List ClassTree) := do
  step
  let negated := (← peek) = some '^'
  if negated then step
  let hyphens ← span (· == '-')
  if hyphens.isEmpty ∧ (← peek) = some ']' then
    step
    return (negated, [.letter ⟨']', false⟩])
  else return (negated, hyphens.map fun c => .letter ⟨c, false⟩)

abbrev PendingOperation := Option (SetOperator × ClassTree)

def complete (pending : PendingOperation) (items : List ClassTree) : ClassTree :=
  match pending with
  | some (op, left) => .operation op left (.ofItems items.reverse)
  | none => .ofItems items.reverse

-- The content of a class up to its closing bracket. The items are in reverse order.
def classContent : Nat → PendingOperation → List ClassTree → Reader ClassTree
  | 0, _, _ => failure
  | fuel + 1, pending, items => do
      skipBlanks
      let cs ← rest
      match cs with
      | [] => failure
      | '[' :: _ => match named? cs with
          | some (item, rest) =>
              modify fun r => { r with rest := rest }
              classContent fuel pending (item :: items)
          | none =>
              let (negated, start) ← classOpening
              let content ← classContent fuel none start
              classContent fuel pending (.bracket negated content :: items)
      | ']' :: _ =>
          advance 1
          return complete pending items
      | '&' :: '&' :: _ =>
          advance 2
          classContent fuel (some (.inter, complete pending items)) []
      | '-' :: '-' :: _ =>
          advance 2
          classContent fuel (some (.diff, complete pending items)) []
      | '~' :: '~' :: _ =>
          advance 2
          classContent fuel (some (.symmDiff, complete pending items)) []
      | _ =>
          let item ← classRange
          classContent fuel pending (item :: items)

def bracket : Reader Tree := do
  let fuel := (← rest).length
  let (negated, start) ← classOpening
  return .bracket negated (← classContent fuel none start)

def flag? (c : Char) : Option Flag :=
  match c with
  | 'i' => some .caseless
  | 'm' => some .multiLine
  | 's' => some .dotAll
  | 'U' => some .swapGreed
  | 'u' => some .unicode
  | 'R' => some .lineEnds
  | 'x' => some .spaced
  | _ => none

-- Flags up to a colon or a closing parenthesis, which comes second. A hyphen switches off those
-- after it; it may come once and not last, and so may each flag.
def flagItems? (negated dangling : Bool) (seen : List Flag) :
    List Char → Option (FlagItems × Char × List Char)
  | [] => none
  | c :: cs =>
      if c = ':' ∨ c = ')' then if dangling then none else some ([], c, cs)
      else if c = '-' then
        if negated then none else flagItems? true true seen cs
      else match flag? c with
        | none => none
        | some flag =>
            if flag ∈ seen then none
            else (flagItems? negated false (flag :: seen) cs).map fun r =>
              ((flag, !negated) :: r.1, r.2)

def isNameStart (c : Char) : Bool := c == '_' || isAlphabetic c

def isNameCharacter (c : Char) : Bool :=
  c == '_' || c == '.' || c == '[' || c == ']' || isAlphanumeric c

def groupName (cs : List Char) : Reader Unit := do
  let name := cs.takeWhile (· != '>')
  match name, cs.drop name.length with
  | first :: others, _ :: rest =>
      if isNameStart first ∧ others.all isNameCharacter ∧ name ∉ (← get).names then
        modify fun r => { r with rest := rest, names := name :: r.names }
      else failure
  | _, _ => failure

inductive GroupStart where
  | flags (items : FlagItems)
  | group (items : FlagItems) (captures : Bool)

def groupStart : Reader GroupStart := do
  step
  match ← rest with
  | '?' :: '=' :: _ => failure
  | '?' :: '!' :: _ => failure
  | '?' :: '<' :: '=' :: _ => failure
  | '?' :: '<' :: '!' :: _ => failure
  | '?' :: 'P' :: '<' :: cs =>
      groupName cs
      return .group [] true
  | '?' :: '<' :: cs =>
      groupName cs
      return .group [] true
  | '?' :: cs => match flagItems? false false [] cs with
      | none => failure
      | some (items, stop, rest) =>
          modify fun r => { r with rest := rest }
          if stop = ':' then return .group items false
          else if items.isEmpty then failure
          else return .flags items
  | _ => return .group [] true

def spacedAfter (items : FlagItems) (spaced : Bool) : Bool :=
  (items.lookup .spaced).getD spaced

-- A repetition takes one item, which must be there and not be flags.
def repeated (items : List Tree) (least : Nat) (most : Option Nat) : Reader (List Tree) := do
  let lazy := (← peek) = some '?'
  if lazy then advance 1
  match items with
  | [] => failure
  | .flags _ :: _ => failure
  | t :: others => return .repetition least most (!lazy) t :: others

def primitive : Reader Tree := do
  match ← peek with
  | none => failure
  | some '\\' => escape
  | some c =>
      advance 1
      match c with
      | '.' => return .dot
      | '^' => return .anchor .startLine
      | '$' => return .anchor .endLine
      | _ => return .letter ⟨c, false⟩

-- Branches up to the end or a closing parenthesis, which is left. Branches and items are in
-- reverse order.
def alternatives : Nat → List Tree → List Tree → Reader Tree
  | 0, _, _ => failure
  | fuel + 1, branches, items => do
      skipBlanks
      let finished := Tree.ofBranches (Tree.ofItems items.reverse :: branches).reverse
      match ← peek with
      | none => return finished
      | some ')' => return finished
      | some '|' =>
          advance 1
          alternatives fuel (Tree.ofItems items.reverse :: branches) []
      | some '(' =>
          let outer := (← get).spaced
          match ← groupStart with
          | .flags flags =>
              setSpaced (spacedAfter flags outer)
              alternatives fuel branches (.flags flags :: items)
          | .group flags captures =>
              setSpaced (spacedAfter flags outer)
              let content ← alternatives fuel [] []
              if (← peek) = some ')' then
                setSpaced outer
                advance 1
                alternatives fuel branches (.group flags captures content :: items)
              else failure
      | some '[' =>
          let t ← bracket
          alternatives fuel branches (t :: items)
      | some '?' =>
          advance 1
          alternatives fuel branches (← repeated items 0 (some 1))
      | some '*' =>
          advance 1
          alternatives fuel branches (← repeated items 0 none)
      | some '+' =>
          advance 1
          alternatives fuel branches (← repeated items 1 none)
      | some '{' =>
          let (least, most) ← bounds
          alternatives fuel branches (← repeated items least most)
      | some _ =>
          let t ← primitive
          alternatives fuel branches (t :: items)

def maxHeight : Nat := 250

end Reader

def Tree.ofChars? (cs : List Char) : Option Tree := do
  let (t, r) ← (Reader.alternatives (cs.length + 1) [] []).run { rest := cs }
  if r.rest.isEmpty ∧ t.height ≤ Reader.maxHeight then return t else none

end FormulaField.Pattern
