import FormulaField.Text.Property

set_option autoImplicit false

namespace FormulaField.Text

def trimStart (cs : List Char) : List Char := cs.dropWhile isWhite

def trimEnd (cs : List Char) : List Char := (cs.reverse.dropWhile isWhite).reverse

def trim (cs : List Char) : List Char := trimEnd (trimStart cs)

def words (cs : List Char) : List (List Char) :=
  match cs with
  | [] => []
  | c :: rest =>
      if isWhite c then words rest
      else match rest, words rest with
        | next :: _, word :: more =>
            if isWhite next then [c] :: word :: more else (c :: word) :: more
        | _, more => [c] :: more

def joinWith (separator : List Char) (parts : List (List Char)) : List Char :=
  List.intercalate separator parts

def collapse (cs : List Char) : List Char := joinWith [' '] (words cs)

end FormulaField.Text
