import FormulaField.Pattern.Automaton
import FormulaField.Pattern.Program
import FormulaField.Pattern.Reader
import Std.Data.ExtTreeSet

/-!
Searching texts for patterns. Threads are tried in the order of preference: those that start
earlier come first, and so do the first branches of forks. A step that was reached at a place
before is not tried there again.
-/

set_option autoImplicit false

namespace FormulaField.Pattern

structure Place where
  index : Nat
  before : Option Char
  after : List Char

namespace Place

def start (cs : List Char) : Place := ⟨0, none, cs⟩

def andLater (p : Place) : List Place :=
  p :: later p.index p.after
where
  later (index : Nat) : List Char → List Place
    | [] => []
    | c :: cs => ⟨index + 1, some c, cs⟩ :: later (index + 1) cs

def next? (p : Place) : Option Place :=
  match p.after with
  | [] => none
  | c :: cs => some ⟨p.index + 1, some c, cs⟩

end Place

def isWord (unicode : Bool) (c : Option Char) : Bool :=
  match c with
  | some c => if unicode then isWordCharacter c
      else (CharSet.ofRanges CharSet.asciiWord).contains c
  | none => false

namespace Look

-- The condition holds between two characters. A line with line ends is not split between a
-- carriage return and a line feed.
def holds (l : Look) (before after : Option Char) : Bool :=
  match l with
  | .start => before == none
  | .stop => after == none
  | .lineStart => before == none || before == some '\n'
  | .lineStop => after == none || after == some '\n'
  | .lineEndsStart =>
      before == none || before == some '\n' || (before == some '\r' && after != some '\n')
  | .lineEndsStop =>
      after == none || after == some '\r' || (after == some '\n' && before != some '\r')
  | .boundary unicode => isWord unicode before != isWord unicode after
  | .notBoundary unicode => isWord unicode before == isWord unicode after
  | .wordStart unicode => !isWord unicode before && isWord unicode after
  | .wordEnd unicode => isWord unicode before && !isWord unicode after
  | .wordStartHalf unicode => !isWord unicode before
  | .wordEndHalf unicode => !isWord unicode after

end Look

structure Thread where
  step : Nat
  origin : Place
  place : Place

namespace Thread

def goTo (t : Thread) (step : Nat) : Thread := { t with step := step }

def after (t : Thread) : Step → List Thread
  | .take s next => match t.place.after, t.place.next? with
      | c :: _, some place => if s.contains c then [⟨next, t.origin, place⟩] else []
      | _, _ => []
  | .check l next => if l.holds t.place.before t.place.after.head? then [t.goTo next] else []
  | .fork first second => [t.goTo first, t.goTo second]
  | .jump next => [t.goTo next]
  | .accept => []

-- A number for the step and the place of a thread in a text of some length.
def key (t : Thread) (length : Nat) : Nat := t.step * (length + 1) + t.place.index

end Thread

abbrev Visited := Std.ExtTreeSet Nat

def firstMatch? (program : Program) (length : Nat) :
    Nat → List Thread → Visited → Option (Place × Place)
  | 0, _, _ => none
  | _, [], _ => none
  | fuel + 1, t :: rest, visited =>
      if t.key length ∈ visited then firstMatch? program length fuel rest visited
      else match program[t.step]? with
        | none => firstMatch? program length fuel rest visited
        | some .accept => some (t.origin, t.place)
        | some step =>
            firstMatch? program length fuel (t.after step ++ rest)
              (visited.insert (t.key length))

-- The first match at or after a place. Each step leads to at most two threads at each place.
def matchFrom? (program : Program) (p : Place) : Option (Place × Place) :=
  let length := p.index + p.after.length
  firstMatch? program length ((2 * program.size + 1) * (p.after.length + 1) + 1)
    (p.andLater.map fun place => ⟨0, place, place⟩) ∅

-- The next match after one that ended at a place. An empty match right there does not count.
def nextMatch? (program : Program) (p : Place) (afterMatch : Bool) : Option (Place × Place) :=
  match matchFrom? program p with
  | some (first, last) =>
      if afterMatch ∧ last.index = p.index then p.next?.bind (matchFrom? program)
      else some (first, last)
  | none => none

def replaceFrom (program : Program) (replacement : List Char) :
    Nat → Place → Bool → List Char
  | 0, p, _ => p.after
  | fuel + 1, p, afterMatch =>
      match nextMatch? program p afterMatch with
      | some (first, last) =>
          p.after.take (first.index - p.index) ++ replacement ++
            replaceFrom program replacement fuel last true
      | none => p.after

-- The text with every match of an expression replaced. Every match but the first ends after
-- the one before.
def Expression.replaceAll (e : Expression) (cs replacement : List Char) : List Char :=
  replaceFrom e.program replacement (cs.length + 2) (.start cs) false

def ofChars? (cs : List Char) : Option Expression := (Tree.ofChars? cs).bind Tree.toExpression?

end FormulaField.Pattern
