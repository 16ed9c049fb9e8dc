/-!
Tables over code points. A run is a first and a last code point with a step between members; the
tables are written as hexadecimal text, `41-5A` for a run, `100-12E/2` for every second code point.
-/

set_option autoImplicit false

namespace FormulaField.Text

structure Run where
  first : Nat
  last : Nat
  step : Nat
deriving DecidableEq

def Run.contains (run : Run) (code : Nat) : Bool :=
  run.first ≤ code && code ≤ run.last && (code - run.first) % run.step == 0

abbrev Runs := List Run

def Runs.contains (runs : Runs) (c : Char) : Bool := runs.any (Run.contains · c.toNat)

def hexDigitValue (c : Char) : Nat :=
  if '0' ≤ c && c ≤ '9' then c.toNat - '0'.toNat
  else if 'A' ≤ c && c ≤ 'F' then c.toNat - 'A'.toNat + 10
  else c.toNat - 'a'.toNat + 10

def hexValue (ds : List Char) : Nat := ds.foldl (fun n c => 16 * n + hexDigitValue c) 0

def splitAt (separator : Char) (cs : List Char) : List (List Char) :=
  cs.foldr (fun c parts =>
    if c = separator then [] :: parts
    else match parts with
      | part :: rest => (c :: part) :: rest
      | [] => [[c]]) [[]]

def entries (table : String) : List (List Char) :=
  (splitAt ' ' (table.toList.map fun c => if c = '\n' then ' ' else c)).filter (· ≠ [])

def Run.ofChars (word : List Char) : Run :=
  match splitAt '/' word with
  | [ends, step] => withStep ends (hexValue step)
  | _ => withStep word 1
where
  withStep (ends : List Char) (step : Nat) : Run :=
    match splitAt '-' ends with
    | [first, last] => ⟨hexValue first, hexValue last, step⟩
    | _ => ⟨hexValue ends, hexValue ends, 1⟩

def Runs.ofText (table : String) : Runs := (entries table).map Run.ofChars

structure Shift where
  run : Run
  distance : Int
deriving DecidableEq

abbrev Shifts := List Shift

def Shifts.image (shifts : Shifts) (code : Nat) : Nat :=
  match shifts.find? (·.run.contains code) with
  | some shift => ((code : Int) + shift.distance).toNat
  | none => code

def Shifts.sources (shifts : Shifts) (image : Nat) : List Nat :=
  shifts.filterMap fun shift =>
    let source := (image : Int) - shift.distance
    if 0 ≤ source && shift.run.contains source.toNat then some source.toNat else none

def Shift.ofChars (word : List Char) : Shift :=
  match splitAt ':' word with
  | [run, '-' :: ds] => ⟨Run.ofChars run, -(decimal ds : Int)⟩
  | [run, ds] => ⟨Run.ofChars run, decimal ds⟩
  | _ => ⟨Run.ofChars word, 0⟩
where
  decimal (ds : List Char) : Nat := ds.foldl (fun n c => 10 * n + hexDigitValue c) 0

def Shifts.ofText (table : String) : Shifts := (entries table).map Shift.ofChars

abbrev Expansions := List (Nat × List Nat)

def Expansions.ofText (table : String) : Expansions :=
  (entries table).filterMap fun word =>
    match splitAt '=' word with
    | [source, images] => some (hexValue source, (splitAt '.' images).map hexValue)
    | _ => none

end FormulaField.Text
