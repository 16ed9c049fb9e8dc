import FormulaField.Pattern.Shape
import Std.Data.HashMap

/-!
The room for the automata of a pattern. One automaton reads the bytes of a text forwards and finds
out where matches end, another reads them backwards and finds out where they start. They are counted
here, not built: how many states there are and how much their lists take.
-/

set_option autoImplicit false

namespace FormulaField.Pattern

namespace Automaton

def maxRoom : Nat := 10 * 1024 * 1024

def stateRoom : Nat := 32

def rangeRoom : Nat := 8

def branchRoom : Nat := 4

structure Tally where
  states : Nat := 0
  lists : Nat := 0

def Tally.room (t : Tally) : Nat := t.states * stateRoom + t.lists

abbrev Counting := StateT Tally Option

def spend (states lists : Nat) : Counting Unit := fun t =>
  let after : Tally := ⟨t.states + states, t.lists + lists⟩
  if after.room ≤ maxRoom then some ((), after) else none

def state (lists : Nat) : Counting Nat := do
  let number := (← get).states
  spend 1 lists
  return number

def branch : Counting Unit := spend 0 branchRoom

-- The way on from the last state of a part. If it is a fork, it gets a branch.
def goOn (fork : Bool) : Counting Unit := if fork then branch else return ()

-- The slot of a key in a table of so many slots. A slot keeps the last entry only.
def slot (slots : UInt64) (key : List UInt64) : UInt64 :=
  key.foldl (fun h n => (h ^^^ n) * 1099511628211) 14695981039346656037 % slots

/-! Sets beyond ASCII that are read backwards. A sequence of bytes is built from its first byte,
which comes last; states for the same bytes before the same state are shared. -/

structure Link where
  target : Nat
  range : ByteRange
deriving DecidableEq

abbrev Links := Std.HashMap UInt64 (Link × Nat)

def Link.slot (l : Link) : UInt64 :=
  Automaton.slot 1000 [l.target.toUInt64, l.range.first.toUInt64, l.range.last.toUInt64]

def linked (known : Links) (l : Link) : Counting (Nat × Links) := do
  match known[l.slot]? with
  | some (l', number) => if l = l' then return (number, known) else create
  | none => create
where
  create : Counting (Nat × Links) := do
    let number ← state 0
    return (number, known.insert l.slot (l, number))

def linkAll (known : Links) (target : Nat) : List ByteRange → Counting Links
  | [] => return known
  | r :: rest => do
      let (number, known) ← linked known ⟨target, r⟩
      linkAll known number rest

def linkSequences (known : Links) (target : Nat) : List (List ByteRange) → Counting Unit
  | [] => return ()
  | s :: rest => do
      let known ← linkAll known target s
      branch
      linkSequences known target rest

def backwardSet (sequences : List (List ByteRange)) : Counting Unit := do
  spend 1 0
  let target ← state 0
  linkSequences ∅ target sequences

/-! Sets beyond ASCII that are read forwards. The sequences come in their order, so a state is
complete as soon as a sequence goes another way; states with the same links are shared. -/

-- A state under construction: its links, the last one first, and the range of bytes by which the
-- last sequence leaves it.
structure Draft where
  links : List Link
  last : Option ByteRange

abbrev Drawn := Std.HashMap UInt64 (List Link × Nat)

def drawn (known : Drawn) (links : List Link) : Counting (Nat × Drawn) := do
  let key := slot 10000 (links.flatMap fun l =>
    [l.range.first.toUInt64, l.range.last.toUInt64, l.target.toUInt64])
  let create : Counting (Nat × Drawn) := do
    let number ← state (rangeRoom * links.length)
    return (number, known.insert key (links, number))
  match known[key]? with
  | some (links', number) => if links = links' then return (number, known) else create
  | none => create

def Draft.settle (d : Draft) (target : Nat) : List Link :=
  match d.last with
  | some r => ⟨target, r⟩ :: d.links
  | none => d.links

def settleAll (known : Drawn) (target : Nat) : List Draft → Counting (Nat × Drawn)
  | [] => return (target, known)
  | d :: deeper => do
      let (number, known) ← settleAll known target deeper
      drawn known (d.settle number).reverse

def drawSequence (known : Drawn) (target : Nat) :
    List Draft → List ByteRange → Counting (List Draft × Drawn)
  | d :: deeper, r :: rest => do
      if d.last = some r then
        let (deeper, known) ← drawSequence known target deeper rest
        return (d :: deeper, known)
      else
        let (number, known) ← settleAll known target deeper
        return (⟨d.settle number, some r⟩ :: rest.map (⟨[], some ·⟩), known)
  | [], rest => return (rest.map (⟨[], some ·⟩), known)
  | drafts, [] => return (drafts, known)

def drawSequences (known : Drawn) (target : Nat) (drafts : List Draft) :
    List (List ByteRange) → Counting Unit
  | [] => do
      let _ ← settleAll known target drafts
  | s :: rest => do
      let (drafts, known) ← drawSequence known target drafts s
      drawSequences known target drafts rest

def forwardSet (sequences : List (List ByteRange)) : Counting Unit := do
  let target ← state 0
  drawSequences ∅ target [⟨[], none⟩] sequences

-- A set. One of ASCII characters is a single step.
def set (backward : Bool) (rs : List CodeRange) : Counting Unit :=
  if rs.all (·.last ≤ 0x7F) then spend 2 (rangeRoom * rs.length)
  else
    let sequences := rs.flatMap CodeRange.byteSequences
    if backward then backwardSet sequences else forwardSet sequences

/-! Literals to choose from share their first bytes. -/

-- Literals in groups. One that ends here ends the group before it; more of them make no difference
-- as long as no other literal came.
def groups (current : List (List UInt8)) (ended other : Bool) :
    List (List UInt8) → List (List (List UInt8))
  | [] => [current.reverse]
  | [] :: rest =>
      if ended && !other then groups current ended other rest
      else current.reverse :: groups [] true other rest
  | bytes :: rest => groups (bytes :: current) ended true rest

def firstBytes (literals : List (List UInt8)) : List UInt8 :=
  (literals.filterMap List.head?).eraseDups

def ends (literals : List (List UInt8)) (b : UInt8) : List (List UInt8) :=
  (literals.filter (·.head? = some b)).map List.tail

-- The fork between groups of literals and the states behind it. The depth is at least the length
-- of the longest literal.
def choice : Nat → List (List UInt8) → Counting Unit
  | 0, _ => return ()
  | depth + 1, literals => do
      let groups := groups [] false false literals
      groups.forM fun group => (firstBytes group).forM fun b =>
        let later := ends group b
        if later.all List.isEmpty then return () else choice depth later
      groups.forM fun group =>
        match (firstBytes group).length with
        | 0 => return ()
        | 1 => spend 1 branchRoom
        | n => spend 1 (rangeRoom * n + branchRoom)
      spend 1 (branchRoom * (groups.length - 1))

def utf8 (cs : List Char) : List UInt8 := cs.flatMap String.utf8EncodeChar

def literals (backward : Bool) (texts : List (List Char)) : Counting Unit := do
  let bytes := texts.map fun cs => if backward then (utf8 cs).reverse else utf8 cs
  spend 1 0
  choice ((bytes.map List.length).foldl max 0 + 1) bytes

/-! Repetitions of a part that is counted. Each count tells whether the last state is a fork. -/

def copiesAfter (part : Counting Bool) (fork : Bool) : Nat → Counting Bool
  | 0 => return fork
  | n + 1 => do
      let next ← part
      goOn fork
      copiesAfter part next n

def copies (part : Counting Bool) : Nat → Counting Bool
  | 0 => do
      spend 1 0
      return false
  | n + 1 => do copiesAfter part (← part) n

def options (part : Counting Bool) (fork : Bool) : Nat → Counting Bool
  | 0 => return fork
  | n + 1 => do
      spend 1 0
      let next ← part
      goOn fork
      spend 0 (2 * branchRoom)
      options part next n

def oneOrMore (part : Counting Bool) : Counting Bool := do
  let fork ← part
  spend 1 0
  goOn fork
  branch
  return true

-- Any number of times. If the part may match no bytes, it is tried once in full.
def anyNumber (takes : Bool) (part : Counting Bool) : Counting Bool := do
  if takes then
    spend 1 0
    let fork ← part
    branch
    goOn fork
    return true
  else
    let _ ← oneOrMore part
    spend 2 (3 * branchRoom)
    return false

def optional (part : Counting Bool) : Counting Bool := do
  spend 1 0
  let fork ← part
  spend 1 (2 * branchRoom)
  goOn fork
  return false

def repetition (takes : Bool) (part : Counting Bool) : Nat → Option Nat → Counting Bool
  | 0, some 1 => optional part
  | 0, none => anyNumber takes part
  | 1, none => oneOrMore part
  | least + 2, none => do
      let fork ← copies part (least + 1)
      let last ← part
      spend 1 0
      goOn fork
      goOn last
      branch
      return true
  | least, some most =>
      if least = most then copies part least
      else do
        let fork ← copies part least
        spend 1 0
        goOn (← options part fork (most - least))
        return false

end Automaton

namespace Shape

open Automaton

def text? : Shape → Option (List Char)
  | .literal cs => some cs
  | _ => none

mutual

def count (backward : Bool) : Shape → Counting Bool
  | .empty => do
      spend 1 0
      return false
  | .literal cs => do
      spend (utf8 cs).length 0
      return false
  | .set rs => do
      Automaton.set backward rs
      return false
  | .look _ => do
      spend 1 0
      return false
  | .repetition least most _ s =>
      Automaton.repetition (s.leastLength?.any (0 < ·)) (s.count backward) least most
  | .capture s => do
      if backward then s.count backward
      else
        spend 1 0
        let fork ← s.count backward
        spend 1 0
        goOn fork
        return false
  | .row [] => do
      spend 1 0
      return false
  | .row (s :: rest) => do countAfter backward (← s.count backward) rest
  | .alternation (a :: b :: rest) => do
      match (a :: b :: rest).mapM text? with
      | some texts => literals backward texts
      | none =>
          let forkA ← a.count backward
          let forkB ← b.count backward
          spend 2 (2 * branchRoom)
          goOn forkA
          goOn forkB
          countBranches backward rest
      return false
  | .alternation [s] => s.count backward
  | .alternation [] => do
      spend 1 0
      return false

def countAfter (backward fork : Bool) : List Shape → Counting Bool
  | [] => return fork
  | s :: rest => do
      let next ← s.count backward
      goOn fork
      countAfter backward next rest

def countBranches (backward : Bool) : List Shape → Counting Unit
  | [] => return ()
  | s :: rest => do
      let fork ← s.count backward
      branch
      goOn fork
      countBranches backward rest

end

-- A whole automaton. One that may start anywhere begins with any number of bytes. The forward one
-- also has the states around the match.
def countWhole (backward : Bool) (s : Shape) : Counting Unit := do
  let anchored := s.startsWith (if backward then .stop else .start)
  if anchored then spend 1 0 else spend 3 (rangeRoom + 2 * branchRoom)
  if backward then goOn (← s.count backward)
  else
    spend 1 0
    goOn (← s.count backward)
    spend 1 0
  spend 1 0

def fits (s : Shape) : Bool :=
  ((countWhole false s).run {}).isSome && ((countWhole true s.reversed).run {}).isSome

end Shape

def Tree.toExpression? (t : Tree) : Option Expression := do
  let (e, _) ← t.expression? {}
  if e.shape.fits then return e else none

end FormulaField.Pattern
