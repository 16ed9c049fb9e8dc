import FormulaField.DisplayFormat
import FormulaField.Function.Signature

set_option autoImplicit false

namespace FormulaField.Inspection

def count (condition : Value → Bool) (args : List Value) : Outcome :=
  .ok (.number (Number.ofNat (args.countP condition)))

def test (condition : Value → Bool) : Signature := .one fun v => .ok (.boolean (condition v))

def isNumber : Value → Bool
  | .number n => !n.isNaN
  | _ => false

def isText : Value → Bool
  | .text _ => true
  | _ => false

-- Not a number, or infinite. Errors of evaluation never become values.
def isError : Value → Bool
  | .number n => !n.isFinite
  | _ => false

def text (v : Value) (decimals : Option Value) : String :=
  match v, decimals with
  | .number n, some decimals =>
      if n.isFinite then
        String.ofList (Number.fixed (min decimals.toCount DisplayFormat.maxDecimals) n)
      else v.toText
  | _, _ => v.toText

def functions : List Function := [
  ⟨"COUNT", .info, .variadic (count fun v => !v.isEmpty)⟩,
  ⟨"COUNTA", .info, .variadic (count fun v => !v.isBlank)⟩,
  ⟨"COUNTBLANK", .info, .variadic (count Value.isBlank)⟩,
  ⟨"ISBLANK", .info, test Value.isBlank⟩,
  ⟨"ISNUMBER", .info, test isNumber⟩,
  ⟨"ISTEXT", .info, test isText⟩,
  ⟨"ISERROR", .info, test isError⟩,
  ⟨"VALUE", .info, .one fun v => .ok (.number v.toNumber)⟩,
  ⟨"TEXT", .info, .oneOrTwo fun v decimals => .ok (.text (text v decimals))⟩,
  ⟨"BLANK", .info, .nullary fun _ => .empty⟩]

end FormulaField.Inspection
