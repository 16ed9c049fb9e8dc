import FormulaField.Pattern.Property
import FormulaField.Pattern.Tree

/-!
What a pattern means once its flags are applied. A pattern may still be refused here: for a
property that is unknown or for a set beyond ASCII where Unicode is switched off.
-/

set_option autoImplicit false

namespace FormulaField.Pattern

-- Conditions on the characters before and after a place. Those about words either look at all
-- scripts or at ASCII alone.
inductive Look where
  | start
  | stop
  | lineStart
  | lineStop
  | lineEndsStart
  | lineEndsStop
  | boundary (unicode : Bool)
  | notBoundary (unicode : Bool)
  | wordStart (unicode : Bool)
  | wordEnd (unicode : Bool)
  | wordStartHalf (unicode : Bool)
  | wordEndHalf (unicode : Bool)
deriving DecidableEq

inductive Expression where
  | empty
  | set (s : CharSet)
  | look (l : Look)
  | seq (a b : Expression)
  | alt (a b : Expression)
  | repetition (least : Nat) (most : Option Nat) (greedy : Bool) (e : Expression)
  | capture (e : Expression)

instance : Inhabited Expression := ⟨.empty⟩

namespace Expression

def seqAll (es : List Expression) : Expression := es.foldr .seq .empty

def altAll (es : List Expression) : Expression := es.foldr .alt (.set .none)

def nullable : Expression → Bool
  | .empty => true
  | .set _ => false
  | .look _ => true
  | .seq a b => a.nullable && b.nullable
  | .alt a b => a.nullable || b.nullable
  | .repetition least _ _ e => least == 0 || e.nullable
  | .capture e => e.nullable

end Expression

structure Flags where
  caseless : Bool := false
  multiLine : Bool := false
  dotAll : Bool := false
  swapGreed : Bool := false
  unicode : Bool := true
  lineEnds : Bool := false

namespace Flags

def set (f : Flags) (item : Flag × Bool) : Flags :=
  match item.1 with
  | .caseless => { f with caseless := item.2 }
  | .multiLine => { f with multiLine := item.2 }
  | .dotAll => { f with dotAll := item.2 }
  | .swapGreed => { f with swapGreed := item.2 }
  | .unicode => { f with unicode := item.2 }
  | .lineEnds => { f with lineEnds := item.2 }
  | .spaced => f

def setAll (f : Flags) (items : FlagItems) : Flags := items.foldl set f

def fold (f : Flags) (s : CharSet) : CharSet :=
  if f.caseless then if f.unicode then .anyCase s else .anyAsciiCase s else s

-- A complement reaches beyond ASCII, so without Unicode there is none.
def negate? (f : Flags) (negated : Bool) (s : CharSet) : Option CharSet :=
  if negated then if f.unicode then some (.compl s) else none else some s

-- Without Unicode a byte beyond ASCII is no character.
def letter? (f : Flags) (l : Letter) : Option Char :=
  if ¬f.unicode ∧ l.byte ∧ ¬Text.isAscii l.char then none else some l.char

def classLetter? (f : Flags) (l : Letter) : Option Char :=
  if f.unicode ∨ Text.isAscii l.char then some l.char else none

def shorthand? (f : Flags) (s : Shorthand) (negated : Bool) : Option CharSet :=
  f.negate? negated (match s, f.unicode with
    | .digit, true => .decimalDigit
    | .space, true => .whiteSpace
    | .word, true => .word
    | .digit, false => .ofRanges CharSet.asciiDigits
    | .space, false => .ofRanges CharSet.asciiSpaces
    | .word, false => .ofRanges CharSet.asciiWord)

def property? (f : Flags) (query : PropertyQuery) (negated : Bool) : Option CharSet :=
  if f.unicode then do
    let s ← match query with
      | .named name => Property.named? name
      | .valued name value => Property.valued? name value
    f.negate? negated (f.fold s)
  else none

def look (f : Flags) (a : Anchor) : Look :=
  match a with
  | .startLine => if f.multiLine then if f.lineEnds then .lineEndsStart else .lineStart else .start
  | .endLine => if f.multiLine then if f.lineEnds then .lineEndsStop else .lineStop else .stop
  | .startText => .start
  | .endText => .stop
  | .boundary => .boundary f.unicode
  | .notBoundary => .notBoundary f.unicode
  | .wordStart => .wordStart f.unicode
  | .wordEnd => .wordEnd f.unicode
  | .wordStartHalf => .wordStartHalf f.unicode
  | .wordEndHalf => .wordEndHalf f.unicode

def dot? (f : Flags) : Option CharSet :=
  if ¬f.unicode then none
  else if f.dotAll then some .all
  else if f.lineEnds then some (.compl (.union (.single '\r') (.single '\n')))
  else some (.compl (.single '\n'))

end Flags

def SetOperator.apply : SetOperator → CharSet → CharSet → CharSet
  | .inter => .inter
  | .diff => .diff
  | .symmDiff => .symmDiff

namespace ClassTree

mutual

def set? (f : Flags) : ClassTree → Option CharSet
  | .empty => some .none
  | .letter l => (f.classLetter? l).map .single
  | .range first last => do return .range (← f.classLetter? first) (← f.classLetter? last)
  | .named ranges negated => f.negate? negated (f.fold (.ofRanges ranges))
  | .shorthand s negated => f.shorthand? s negated
  | .property query negated => f.property? query negated
  | .bracket negated content => do f.negate? negated (f.fold (← set? f content))
  | .items parts => unionSet? f parts
  | .operation op left right => do
      let a ← set? f left
      let b ← set? f right
      return op.apply (f.fold a) (f.fold b)

def unionSet? (f : Flags) : List ClassTree → Option CharSet
  | [] => some .none
  | t :: rest => do
      let a ← set? f t
      let b ← unionSet? f rest
      return .union a b

end

end ClassTree

namespace Tree

mutual

def expression? (f : Flags) : Tree → Option (Expression × Flags)
  | .empty => some (.empty, f)
  | .flags items => some (.empty, f.setAll items)
  | .letter l => do return (.set (f.fold (.single (← f.letter? l))), f)
  | .dot => do return (.set (← f.dot?), f)
  | .anchor a => some (.look (f.look a), f)
  | .shorthand s negated => do return (.set (← f.shorthand? s negated), f)
  | .property query negated => do return (.set (← f.property? query negated), f)
  | .bracket negated content => do
      return (.set (← f.negate? negated (f.fold (← content.set? f))), f)
  | .repetition least most greedy t => do
      let (e, after) ← expression? f t
      let (least, most) :=
        if t.isZeroWidth then (min least 1, some (min (most.getD 1) 1)) else (least, most)
      return (.repetition least most (greedy != after.swapGreed) e, after)
  | .group items captures t => do
      let (e, _) ← expression? (f.setAll items) t
      return (if captures then .capture e else e, f)
  | .alternation branches => do
      let (es, after) ← expressions? f branches
      return (.altAll es, after)
  | .concat items => do
      let (es, after) ← expressions? f items
      return (.seqAll es, after)

def expressions? (f : Flags) : List Tree → Option (List Expression × Flags)
  | [] => some ([], f)
  | t :: rest => do
      let (e, after) ← expression? f t
      let (es, last) ← expressions? after rest
      return (e :: es, last)

end

end Tree

end FormulaField.Pattern
