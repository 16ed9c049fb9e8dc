import FormulaField.Function.Signature

set_option autoImplicit false

namespace FormulaField.Logic

-- Picks one of two values; both have been computed before.
def choose (condition whenTrue : Value) (whenFalse : Option Value) : Value :=
  if condition.isTruthy then whenTrue else whenFalse.getD .empty

def functions : List Function := [
  ⟨"IF", .logical, .twoOrThree fun condition whenTrue whenFalse =>
    .ok (choose condition whenTrue whenFalse)⟩,
  ⟨"AND", .logical, .variadic fun args => .ok (.boolean (args.all Value.isTruthy))⟩,
  ⟨"OR", .logical, .variadic fun args => .ok (.boolean (args.any Value.isTruthy))⟩,
  ⟨"NOT", .logical, .one fun v => .ok (.boolean !v.isTruthy)⟩]

end FormulaField.Logic
