import FormulaField.CommandLine.Run
import Std.Time.DateTime.Timestamp

set_option autoImplicit false

namespace FormulaField.CommandLine

open Calendar (Instant)

def reason : IO.Error → String
  | .noFileOrDirectory _ _ _ => "No such file or directory (os error 2)"
  | .permissionDenied _ _ _ => "Permission denied (os error 13)"
  | .inappropriateType _ 21 _ => "Is a directory (os error 21)"
  | .inappropriateType _ _ _ => "Not a directory (os error 20)"
  | e => toString e

def readText (path : String) : IO (Except String String) := do
  try
    match String.fromUTF8? (← IO.FS.readBinFile path) with
    | some s => return .ok s
    | none => return .error "stream did not contain valid UTF-8"
  catch e => return .error (reason e)

def readAll (paths : List String) : IO Files := do
  let texts ← paths.mapM fun path => do return (path, ← readText path)
  return fun path => (texts.lookup path).getD (.error "not read")

def clock : IO Instant := do
  let now := (← Std.Time.Timestamp.now).toNanosecondsSinceUnixEpoch.val
  return ⟨now / 1000000000, (now % 1000000000).toNat⟩

end FormulaField.CommandLine

open FormulaField.CommandLine in
def main (arguments : List String) : IO UInt32 := do
  let paths := ((Command.ofArguments? arguments).map Command.files).getD []
  let output := run (← readAll paths) (← clock) arguments
  IO.print output.stdout
  IO.eprint output.stderr
  return UInt32.ofNat output.code
