
set_option autoImplicit false

namespace FormulaField.Number

def twoTo (n : Nat) : Nat := Nat.pow 2 n

def fiveTo (n : Nat) : Nat := Nat.pow 5 n

def tenTo (n : Nat) : Nat := Nat.pow 10 n

end FormulaField.Number
