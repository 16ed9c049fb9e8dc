import FormulaField.Json.Reader
import FormulaField.Record

/-!
Records as JSON objects. A scalar member is the value of a field, and an object with an array
`observations` is a cell. Numbers that JSON does not have and dates are written as their texts.
-/

set_option autoImplicit false

namespace FormulaField

open Calendar (Instant)

inductive RecordError where
  | badDocument
  | notAnObject
  | withoutObservations (field : String)
  | badObservation (field : String)
  | notAScalar (field : String)
  | badTimestamp (field : String)
deriving DecidableEq

namespace RecordError

def reason : RecordError → String
  | .badDocument => "not a JSON text"
  | .notAnObject => "record must be a JSON object"
  | .withoutObservations field =>
      "field '" ++ field ++ "': objects must carry an 'observations' array"
  | .badObservation field => "field '" ++ field ++ "': observation must be an object"
  | .notAScalar field => "field '" ++ field ++ "': expected a scalar value"
  | .badTimestamp field => "field '" ++ field ++ "': observation timestamp is not a date"

def message : RecordError → String
  | .badDocument => "JSON error: " ++ reason .badDocument
  | e => "Invalid record: " ++ e.reason

def causes : RecordError → List String
  | .badDocument => [message .badDocument, reason .badDocument]
  | e => [e.message]

end RecordError

namespace Value

def ofJson? : Json → Option Value
  | .null => some .empty
  | .boolean b => some (.boolean b)
  | .integer i => some (.number (Number.ofInt i))
  | .decimal x => some (.number x)
  | .text s => some (.text s)
  | .array _ => none
  | .object _ => none

-- Whole numbers below this bound are written as integers.
def integerBound : Nat := 9000000000000000

def toJson : Value → Json
  | .empty => .null
  | .boolean b => .boolean b
  | .text s => .text s
  | .number n =>
      if n.isFinite then
        if Number.isWhole n ∧ Number.truncatedAbs n < integerBound then
          .integer (Number.truncate n)
        else .decimal n
      else .text (Value.number n).toText
  | .date i => .text i.text

end Value

namespace Observation

def readValue (field : String) (observation : Json) : Except RecordError Value :=
  match observation.member? "value" with
  | none => .ok .empty
  | some j => match Value.ofJson? j with
      | some v => .ok v
      | none => .error (.notAScalar field)

def readTimestamp (field : String) (observation : Json) : Except RecordError (Option Instant) :=
  match observation.member? "timestamp" with
  | none => .ok none
  | some .null => .ok none
  | some (.text s) => match Instant.ofText? s with
      | some i => .ok (some i)
      | none => .error (.badTimestamp field)
  | some _ => .error (.badTimestamp field)

-- An observation of a field. The value is judged before the timestamp, and a context that is no
-- text is none.
def ofJson (field : String) (j : Json) : Except RecordError Observation :=
  match j with
  | .object _ => do
      let value ← readValue field j
      let timestamp ← readTimestamp field j
      return ⟨value, timestamp, (j.member? "context").bind Json.text?⟩
  | _ => .error (.badObservation field)

def toJson (o : Observation) : Json :=
  .sortedObject
    (("value", o.value.toJson) ::
      (o.timestamp.map fun i => ("timestamp", Value.toJson (.date i))).toList ++
      (o.context.map fun context => ("context", Json.text context)).toList)

end Observation

namespace Field

def ofJson (name : String) (j : Json) : Except RecordError Field :=
  match j with
  | .object _ => match j.member? "observations" with
      | some (.array items) => do
          let observations ← items.mapM (Observation.ofJson name)
          return .cell ⟨observations⟩
      | _ => .error (.withoutObservations name)
  | _ => match Value.ofJson? j with
      | some v => .ok (.value v)
      | none => .error (.notAScalar name)

def toJson : Field → Json
  | .value v => v.toJson
  | .cell c => .object [("observations", .array (c.observations.map Observation.toJson))]

end Field

namespace Record

def addMembers (record : Record) : List (String × Json) → Except RecordError Record
  | [] => .ok record
  | (name, j) :: rest => do
      let field ← Field.ofJson name j
      addMembers (record.insert name field) rest

-- The record of an object. Of several faulty fields the first by name is reported.
def ofJson (j : Json) : Except RecordError Record :=
  match j with
  | .object members => addMembers ∅ (Json.sortedMembers members)
  | _ => .error .notAnObject

def ofText (s : String) : Except RecordError Record :=
  match Json.ofText? s with
  | some j => ofJson j
  | none => .error .badDocument

def toJson (record : Record) : Json :=
  .object (record.toList.map fun entry => (entry.1, entry.2.toJson))

end Record

end FormulaField
