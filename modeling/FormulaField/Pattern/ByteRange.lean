import FormulaField.Pattern.CodeRange

/-!
Ranges of characters as sequences of ranges of bytes. The characters that a sequence stands for are
those whose UTF-8 form has its first byte in the first range, its second in the second, and so on.
-/

set_option autoImplicit false

namespace FormulaField.Pattern

structure ByteRange where
  first : UInt8
  last : UInt8
deriving DecidableEq

namespace ByteRange

def utf8 (code : Nat) : List UInt8 := String.utf8EncodeChar (Char.ofNat code)

def sequence (first last : Nat) : List ByteRange :=
  List.zipWith ByteRange.mk (utf8 first) (utf8 last)

-- The sequences of the characters between two whose forms are equally long. A block holds the
-- characters that differ in their last bytes only. Where the characters are of several blocks, those
-- of a first and of a last block that is not whole go by themselves, and the blocks between them are
-- part of larger blocks.
def sequencesBetween : Nat → Nat → Nat → Nat → List (List ByteRange)
  | 0, _, first, last => [sequence first last]
  | levels + 1, block, first, last =>
      let later := if first % block = 0 then first else (first / block + 1) * block
      let earlier := if (last + 1) % block = 0 then last + 1 else last / block * block
      if first / block = last / block then [sequence first last]
      else
        let head := if first = later then [] else [sequence first (later - 1)]
        if later / block = last / block then head ++ [sequence later last]
        else
          let tail := if earlier = last + 1 then [] else [sequence earlier last]
          head ++ sequencesBetween levels (64 * block) later (earlier - 1) ++ tail

def equalLengths : List CodeRange :=
  [⟨0, 0x7F⟩, ⟨0x80, 0x7FF⟩, ⟨0x800, 0xD7FF⟩, ⟨0xE000, 0xFFFF⟩, ⟨0x10000, 0x10FFFF⟩]

end ByteRange

open ByteRange in
def CodeRange.byteSequences (r : CodeRange) : List (List ByteRange) :=
  equalLengths.flatMap fun part =>
    let first := max r.first part.first
    let last := min r.last part.last
    if last < first then []
    else if last ≤ 0x7F then [ByteRange.sequence first last]
    else sequencesBetween 3 64 first last

end FormulaField.Pattern
