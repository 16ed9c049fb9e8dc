import FormulaField.Pattern.CharSet

/-!
Sets of characters as lists of ranges of code points: in order, apart from each other and none of
them empty. Surrogates are no characters, so the code points around them are neighbours.
-/

set_option autoImplicit false

namespace FormulaField.Pattern

open FormulaField.Text (Run Runs Shift Shifts)

structure CodeRange where
  first : Nat
  last : Nat
deriving DecidableEq

namespace CodeRange

def maxCode : Nat := 0x10FFFF

def next (code : Nat) : Nat := if code = 0xD7FF then 0xE000 else code + 1

def previous (code : Nat) : Nat := if code = 0xE000 then 0xD7FF else code - 1

def joinTo (r : CodeRange) : List CodeRange → List CodeRange
  | [] => [r]
  | later :: rest =>
      if later.first ≤ next r.last then joinTo ⟨r.first, max r.last later.last⟩ rest
      else r :: later :: rest

def join (rs : List CodeRange) : List CodeRange := rs.foldr joinTo []

def startsBefore (a b : CodeRange) : Bool := a.first ≤ b.first

def ofList (rs : List CodeRange) : List CodeRange := join (rs.mergeSort startsBefore)

def union (a b : List CodeRange) : List CodeRange := join (a.merge b startsBefore)

def gapsFrom (code : Nat) : List CodeRange → List CodeRange
  | [] => if code ≤ maxCode then [⟨code, maxCode⟩] else []
  | r :: rest =>
      let later := gapsFrom (next r.last) rest
      if code < r.first then ⟨code, previous r.first⟩ :: later else later

def complement (rs : List CodeRange) : List CodeRange := gapsFrom 0 rs

def inter (a b : List CodeRange) : List CodeRange :=
  complement (union (complement a) (complement b))

def diff (a b : List CodeRange) : List CodeRange := inter a (complement b)

def within (run : Run) (r : CodeRange) : List CodeRange :=
  let steps := (max run.first r.first - run.first + run.step - 1) / run.step
  let first := run.first + steps * run.step
  let last := min run.last r.last
  if last < first then []
  else if run.step = 1 then [⟨first, last⟩]
  else (List.range ((last - first) / run.step + 1)).map fun i =>
    ⟨first + i * run.step, first + i * run.step⟩

def ofRuns (runs : Runs) : List CodeRange :=
  ofList (runs.flatMap fun run => within run ⟨0, maxCode⟩)

def move (distance : Int) (code : Nat) : Nat := (code + distance).toNat

def images (shifts : Shifts) (rs : List CodeRange) : List CodeRange :=
  shifts.flatMap fun shift => rs.flatMap fun r => (within shift.run r).map fun part =>
    ⟨move shift.distance part.first, move shift.distance part.last⟩

def backwards (shift : Shift) : Shift :=
  ⟨⟨move shift.distance shift.run.first, move shift.distance shift.run.last, shift.run.step⟩,
    -shift.distance⟩

-- The set with all code points that have the same image as a member.
def withVariants (shifts : Shifts) (rs : List CodeRange) : List CodeRange :=
  let folded := ofList (rs ++ images shifts rs)
  ofList (folded ++ images (shifts.map backwards) folded)

end CodeRange

def asciiFoldShifts : Shifts := [⟨⟨'A'.toNat, 'Z'.toNat, 1⟩, 32⟩]

open CodeRange in
def CharSet.ranges : CharSet → List CodeRange
  | .none => []
  | .range first last => if first ≤ last then [⟨first.toNat, last.toNat⟩] else []
  | .word => ofRuns wordCharacters
  | .runs table => ofRuns table
  | .union a b => CodeRange.union a.ranges b.ranges
  | .inter a b => CodeRange.inter a.ranges b.ranges
  | .diff a b => CodeRange.diff a.ranges b.ranges
  | .symmDiff a b =>
      CodeRange.union (CodeRange.diff a.ranges b.ranges) (CodeRange.diff b.ranges a.ranges)
  | .compl a => complement a.ranges
  | .anyCase a => withVariants foldShifts a.ranges
  | .anyAsciiCase a => withVariants asciiFoldShifts a.ranges

end FormulaField.Pattern
