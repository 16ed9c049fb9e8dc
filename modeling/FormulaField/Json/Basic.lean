import FormulaField.Number.Layout
import Std.Data.ExtTreeMap

/-!
JSON values. Whole numbers of 64 bits are kept apart from doubles.
-/

set_option autoImplicit false

namespace FormulaField

inductive Json where
  | null
  | boolean (b : Bool)
  | integer (i : Int)
  | decimal (x : Float)
  | text (s : String)
  | array (items : List Json)
  | object (members : List (String × Json))

namespace Json

instance : Inhabited Json := ⟨.null⟩

-- Members in the order of their names; of several with one name the last.
def sortedMembers {α : Type} (members : List (String × α)) : List (String × α) :=
  (members.foldl (fun (m : Std.ExtTreeMap String α) entry => m.insert entry.1 entry.2) ∅).toList

def sortedObject (members : List (String × Json)) : Json := .object (sortedMembers members)

def member? (name : String) : Json → Option Json
  | .object members => members.lookup name
  | _ => none

def text? : Json → Option String
  | .text s => some s
  | _ => none

end Json

end FormulaField
