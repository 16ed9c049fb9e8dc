import FormulaField.Pattern.ByteRange
import FormulaField.Pattern.Expression

/-!
Expressions in a short form, from which automata are built: characters in a row are one literal,
rows and alternations are flat, a choice between sets is a set, and what all branches start with is
written once.
-/

set_option autoImplicit false

namespace FormulaField.Pattern

inductive Shape where
  | empty
  | literal (cs : List Char)
  | set (ranges : List CodeRange)
  | look (l : Look)
  | repetition (least : Nat) (most : Option Nat) (greedy : Bool) (s : Shape)
  | capture (s : Shape)
  | row (items : List Shape)
  | alternation (branches : List Shape)

namespace Shape

instance : Inhabited Shape := ⟨.empty⟩

mutual

-- Two shapes have the same form. Captures are numbered, so no two of them are the same.
def same : Shape → Shape → Bool
  | .empty, .empty => true
  | .literal a, .literal b => a == b
  | .set a, .set b => a == b
  | .look a, .look b => a == b
  | .repetition least most greedy s, .repetition least' most' greedy' s' =>
      least == least' && most == most' && greedy == greedy' && same s s'
  | .row a, .row b => sameAll a b
  | .alternation a, .alternation b => sameAll a b
  | _, _ => false

def sameAll : List Shape → List Shape → Bool
  | [], [] => true
  | a :: as, b :: bs => same a b && sameAll as bs
  | _, _ => false

end

mutual

def isZeroWidth : Shape → Bool
  | .empty => true
  | .literal _ => false
  | .set _ => false
  | .look _ => true
  | .repetition _ most _ s => most.isSome && s.isZeroWidth
  | .capture s => s.isZeroWidth
  | .row items => areZeroWidth items
  | .alternation branches => areZeroWidth branches

def areZeroWidth : List Shape → Bool
  | [] => true
  | s :: rest => s.isZeroWidth && areZeroWidth rest

end

mutual

-- The least number of bytes of a match; none if a set without members may be needed.
def leastLength? : Shape → Option Nat
  | .empty => some 0
  | .literal cs => some (cs.foldl (fun n c => n + c.utf8Size) 0)
  | .set [] => none
  | .set (r :: _) => some (ByteRange.utf8 r.first).length
  | .look _ => some 0
  | .repetition least _ _ s => s.leastLength?.map (least * ·)
  | .capture s => s.leastLength?
  | .row items => (leastLengths? items).map fun lengths => lengths.foldl (· + ·) 0
  | .alternation branches => (leastLengths? branches).bind List.min?

def leastLengths? : List Shape → Option (List Nat)
  | [] => some []
  | s :: rest => do return (← s.leastLength?) :: (← leastLengths? rest)

end

mutual

def startsWith (l : Look) : Shape → Bool
  | .look l' => l == l'
  | .repetition least _ _ s => 0 < least && startsWith l s
  | .capture s => startsWith l s
  | .row items => rowStartsWith l items
  | .alternation branches => allStartWith l branches
  | _ => false

def rowStartsWith (l : Look) : List Shape → Bool
  | [] => false
  | s :: rest => startsWith l s || (s.isZeroWidth && rowStartsWith l rest)

def allStartWith (l : Look) : List Shape → Bool
  | [] => true
  | s :: rest => startsWith l s && allStartWith l rest

end

def parts : Shape → List Shape
  | .empty => []
  | .row items => items
  | s => [s]

def prepend : Shape → List Shape → List Shape
  | .literal a, .literal b :: rest => .literal (a ++ b) :: rest
  | s, rest => s :: rest

def ofParts (items : List Shape) : Shape :=
  match items.foldr prepend [] with
  | [] => .empty
  | [s] => s
  | many => .row many

def ofRanges (rs : List CodeRange) : Shape :=
  match rs with
  | [r] => if r.first = r.last then .literal [Char.ofNat r.first] else .set rs
  | _ => .set rs

-- A repetition; there is no use in repeating what matches no characters.
def ofRepetition (least : Nat) (most : Option Nat) (greedy : Bool) (s : Shape) : Shape :=
  let least' := if s.isZeroWidth then min least 1 else least
  let most' := if s.isZeroWidth then some (min (most.getD 1) 1) else most
  if least' = 0 ∧ most' = some 0 then .empty
  else if least' = 1 ∧ most' = some 1 then s
  else .repetition least' most' greedy s

def character? : Shape → Option CodeRange
  | .literal [c] => some ⟨c.toNat, c.toNat⟩
  | _ => none

def ranges? : Shape → Option (List CodeRange)
  | .set rs => some rs
  | _ => none

def items? : Shape → Option (List Shape)
  | .row items => some items
  | _ => none

def branches : Shape → List Shape
  | .alternation more => more
  | s => [s]

def asSet? (bs : List Shape) : Option Shape :=
  ((bs.mapM character?).orElse fun _ => (bs.mapM ranges?).map List.flatten).map fun rs =>
    ofRanges (CodeRange.ofList rs)

-- An alternation of flat branches, whatever they start with.
def ofBranches (bs : List Shape) : Shape :=
  match bs with
  | [] => .set []
  | [s] => s
  | _ => (asSet? bs).getD (.alternation bs)

def commonStart : List Shape → List Shape → List Shape
  | a :: as, b :: bs => if same a b then a :: commonStart as bs else []
  | _, _ => []

def sharedStart? (bs : List Shape) : Option Shape := do
  let rows ← bs.mapM items?
  let start := match rows with
    | [] => []
    | first :: rest => rest.foldl commonStart first
  if start.isEmpty then none
  else
    let ends := rows.map fun items => ofParts (items.drop start.length)
    return ofParts (start ++ (ofBranches (ends.flatMap branches)).parts)

def ofAlternation (bs : List Shape) : Shape :=
  match bs.flatMap branches with
  | [] => .set []
  | [s] => s
  | flat => ((asSet? flat).orElse fun _ => sharedStart? flat).getD (.alternation flat)

mutual

def reversed : Shape → Shape
  | .literal cs => .literal cs.reverse
  | .repetition least most greedy s => .repetition least most greedy s.reversed
  | .capture s => .capture s.reversed
  | .row items => .row (reversedAll items).reverse
  | .alternation bs => .alternation (reversedAll bs)
  | s => s

def reversedAll : List Shape → List Shape
  | [] => []
  | s :: rest => s.reversed :: reversedAll rest

end

end Shape

namespace Expression

mutual

def parts : Expression → List Shape
  | .empty => []
  | .set s => [.ofRanges s.ranges]
  | .look l => [.look l]
  | .seq a b => a.parts ++ b.parts
  | .alt a b => (Shape.ofAlternation (.ofParts a.parts :: b.branches)).parts
  | .repetition least most greedy e =>
      (Shape.ofRepetition least most greedy (.ofParts e.parts)).parts
  | .capture e => [.capture (.ofParts e.parts)]

def branches : Expression → List Shape
  | .alt a b => .ofParts a.parts :: b.branches
  | _ => []

end

def shape (e : Expression) : Shape := .ofParts e.parts

end Expression

end FormulaField.Pattern
