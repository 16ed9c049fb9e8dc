import FormulaField.Pattern.CharSet

/-!
Patterns as they are written. Flags are kept where they stand; what they mean for the rest of the
pattern is settled later.
-/

set_option autoImplicit false

namespace FormulaField.Pattern

-- A character, and whether it was written as a byte by two hexadecimal digits.
structure Letter where
  char : Char
  byte : Bool := false

inductive Flag where
  | caseless
  | multiLine
  | dotAll
  | swapGreed
  | unicode
  | lineEnds
  | spaced
deriving DecidableEq

abbrev FlagItems := List (Flag × Bool)

inductive Anchor where
  | startLine
  | endLine
  | startText
  | endText
  | boundary
  | notBoundary
  | wordStart
  | wordEnd
  | wordStartHalf
  | wordEndHalf
deriving DecidableEq

inductive Shorthand where
  | digit
  | space
  | word
deriving DecidableEq

inductive PropertyQuery where
  | named (name : List Char)
  | valued (name value : List Char)

inductive SetOperator where
  | inter
  | diff
  | symmDiff
deriving DecidableEq

inductive ClassTree where
  | empty
  | letter (l : Letter)
  | range (first last : Letter)
  | named (ranges : List (Char × Char)) (negated : Bool)
  | shorthand (s : Shorthand) (negated : Bool)
  | property (query : PropertyQuery) (negated : Bool)
  | bracket (negated : Bool) (content : ClassTree)
  | items (items : List ClassTree)
  | operation (op : SetOperator) (left right : ClassTree)

inductive Tree where
  | empty
  | flags (items : FlagItems)
  | letter (l : Letter)
  | dot
  | anchor (a : Anchor)
  | shorthand (s : Shorthand) (negated : Bool)
  | property (query : PropertyQuery) (negated : Bool)
  | bracket (negated : Bool) (content : ClassTree)
  | repetition (least : Nat) (most : Option Nat) (greedy : Bool) (t : Tree)
  | group (flags : FlagItems) (captures : Bool) (t : Tree)
  | alternation (branches : List Tree)
  | concat (items : List Tree)

instance : Inhabited ClassTree := ⟨.empty⟩

instance : Inhabited Tree := ⟨.empty⟩

namespace ClassTree

mutual

def height : ClassTree → Nat
  | .bracket _ content => content.height + 1
  | .items parts => heightAll parts + 1
  | .operation _ left right => max left.height right.height + 1
  | _ => 0

def heightAll : List ClassTree → Nat
  | [] => 0
  | t :: rest => max t.height (heightAll rest)

end

def ofItems : List ClassTree → ClassTree
  | [] => .empty
  | [t] => t
  | parts => .items parts

end ClassTree

namespace Tree

mutual

def height : Tree → Nat
  | .bracket _ content => content.height + 1
  | .repetition _ _ _ t => t.height + 1
  | .group _ _ t => t.height + 1
  | .alternation branches => heightAll branches + 1
  | .concat items => heightAll items + 1
  | _ => 0

def heightAll : List Tree → Nat
  | [] => 0
  | t :: rest => max t.height (heightAll rest)

end

mutual

def isZeroWidth : Tree → Bool
  | .empty => true
  | .flags _ => true
  | .anchor _ => true
  | .repetition _ most _ t => most == some 0 || t.isZeroWidth
  | .group _ _ t => t.isZeroWidth
  | .alternation branches => areZeroWidth branches
  | .concat items => areZeroWidth items
  | _ => false

def areZeroWidth : List Tree → Bool
  | [] => true
  | t :: rest => t.isZeroWidth && areZeroWidth rest

end

def ofItems : List Tree → Tree
  | [] => .empty
  | [t] => t
  | items => .concat items

def ofBranches : List Tree → Tree
  | [] => .empty
  | [t] => t
  | branches => .alternation branches

end Tree

end FormulaField.Pattern
