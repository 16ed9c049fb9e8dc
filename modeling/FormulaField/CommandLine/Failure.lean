import FormulaField.Number.Decimal

set_option autoImplicit false

namespace FormulaField.CommandLine

structure Failure where
  message : String
  causes : List String := []

def indented (margin : Nat) (s : String) : String :=
  String.ofList (s.toList.flatMap fun c =>
    if c = '\n' then '\n' :: List.replicate margin ' ' else [c])

def rightAligned (width : Nat) (cs : List Char) : List Char :=
  List.replicate (width - cs.length) ' ' ++ cs

def numberedCause (number : Nat) (cause : String) : String :=
  "\n" ++ String.ofList (rightAligned 5 (Number.digits number)) ++ ": " ++ indented 7 cause

namespace Failure

-- The causes; one alone has no number.
def causesText (f : Failure) : String :=
  match f.causes with
  | [] => ""
  | [cause] => "\n\nCaused by:\n    " ++ indented 4 cause
  | causes => "\n\nCaused by:" ++
      String.join (causes.zipIdx.map fun entry => numberedCause entry.2 entry.1)

def text (f : Failure) : String := "Error: " ++ f.message ++ f.causesText ++ "\n"

end Failure

end FormulaField.CommandLine
