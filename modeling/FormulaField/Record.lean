import FormulaField.Value
import Std.Data.ExtTreeMap

/-!
Records: fields by name. A field holds a value, or a cell of several observations of which a
resolver picks the one that formulas see.
-/

set_option autoImplicit false

namespace FormulaField

open Calendar (Instant)

structure Observation where
  value : Value
  timestamp : Option Instant
  context : Option String

structure Cell where
  observations : List Observation

structure View where
  name : Option String := none
  preferred : List String := []
deriving DecidableEq

abbrev Resolver := Cell → View → Value

def timestampBefore : Option Instant → Option Instant → Bool
  | _, none => false
  | none, some _ => true
  | some a, some b => a.before b

namespace Cell

-- The later of two observations; of two with one timestamp the first.
def later (best : Option Observation) (next : Observation) : Option Observation :=
  match best with
  | none => some next
  | some current => if timestampBefore current.timestamp next.timestamp then some next else best

def latest? (cell : Cell) : Option Observation := cell.observations.foldl later none

def mostRecent : Resolver := fun cell _ =>
  match cell.latest? with
  | some observation => observation.value
  | none => .empty

-- The value of the first observation made in the most preferred context that has one. The name
-- of the view counts as its least preferred context.
def byContext : Resolver := fun cell view =>
  let wanted := view.preferred ++ view.name.toList
  match wanted.findSome? fun context => cell.observations.find? (·.context == some context) with
  | some observation => observation.value
  | none => .empty

end Cell

inductive Field where
  | value (v : Value)
  | cell (c : Cell)

abbrev Record := Std.ExtTreeMap String Field

end FormulaField
