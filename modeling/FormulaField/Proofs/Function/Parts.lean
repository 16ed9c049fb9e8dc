import FormulaField.Formula.Evaluation
import FormulaField.Proofs.Value.Counts

set_option autoImplicit false

namespace FormulaField.Texts

-- The whole part of a value that is read as a number, as far as 64 bits reach.
def countOf (v : Value) : Nat := min (Number.wholePart v.toNumber) (2 ^ 64 - 1)

theorem to_count (v : Value) : v.toCount = countOf v := Value.count_is_whole_part v

theorem characters_of_part (cs : List Char) : characters (.text (String.ofList cs)) = cs := String.toList_ofList

theorem parts_joined (cs ds : List Char) :
    BinaryOperator.concat.apply (.text (String.ofList cs)) (.text (String.ofList ds)) = text (cs ++ ds) :=
  congrArg (fun s => Except.ok (Value.text s)) String.ofList_append.symm

theorem function_called (context : Context) (name : String) (function : Function)
    (found : Function.named? name = some function) (args : List Formula) (values : List Value)
    (counted : function.checkCount args.length = .ok ()) (given : evaluateAll context args = .ok values) :
    evaluate context (.call name args) = function.apply context.now values := by
  simp only [evaluate, found, counted, given]
  rfl

section

variable (context : Context) (f : Formula) (v : Value) (given : evaluate context f = .ok v)

include given

theorem length_called : evaluate context (.call "LEN" [f]) = .ok (.number (Number.ofNat (characters v).length)) := by
  have values : evaluateAll context [f] = .ok [v] := by
    simp only [evaluateAll, given]
    rfl
  rw [function_called context "LEN" _ rfl [f] [v] rfl values]
  rfl

variable (g : Formula) (w : Value) (counted : evaluate context g = .ok w)

include counted

theorem pair_evaluated : evaluateAll context [f, g] = .ok [v, w] := by
  simp only [evaluateAll, given, counted]
  rfl

theorem left_called : evaluate context (.call "LEFT" [f, g]) = text ((characters v).take (countOf w)) := by
  rw [function_called context "LEFT" _ rfl [f, g] [v, w] rfl (pair_evaluated context f v given g w counted), ← to_count]
  rfl

theorem right_called :
    evaluate context (.call "RIGHT" [f, g]) = text ((characters v).drop ((characters v).length - countOf w)) := by
  rw [function_called context "RIGHT" _ rfl [f, g] [v, w] rfl (pair_evaluated context f v given g w counted), ← to_count]
  rfl

theorem behind_called : evaluate context (.call "MID" [f, g]) = text ((characters v).drop (countOf w)) := by
  rw [function_called context "MID" _ rfl [f, g] [v, w] rfl (pair_evaluated context f v given g w counted), ← to_count]
  rfl

theorem middle_called (h : Formula) (u : Value) (most : evaluate context h = .ok u) :
    evaluate context (.call "MID" [f, g, h]) = text (((characters v).drop (countOf w)).take (countOf u)) := by
  have values : evaluateAll context [f, g, h] = .ok [v, w, u] := by
    simp only [evaluateAll, given, counted, most]
    rfl
  rw [function_called context "MID" _ rfl [f, g, h] [v, w, u] rfl values, ← to_count, ← to_count]
  rfl

end

structure Divided (context : Context) (f count : Formula) (cs : List Char) (k : Nat) : Prop where
  joined : evaluate context (.binary .concat (.call "LEFT" [f, count]) (.call "MID" [f, count])) = text cs
  on_left : evaluate context (.call "LEN" [.call "LEFT" [f, count]]) = .ok (.number (Number.ofNat k))
  on_right : evaluate context (.call "LEN" [.call "RIGHT" [f, count]]) = .ok (.number (Number.ofNat k))
  right_behind : ∀ start w, evaluate context start = .ok w → countOf w = cs.length - k →
    ∃ part, evaluate context (.call "RIGHT" [f, count]) = text part ∧ evaluate context (.call "MID" [f, start]) = text part

theorem divided (context : Context) (f count : Formula) (v c : Value) (given : evaluate context f = .ok v)
    (counted : evaluate context count = .ok c) :
    Divided context f count (characters v) (min (countOf c) (characters v).length) := by
  have left := left_called context f v given count c counted
  have right := right_called context f v given count c counted
  have behind := behind_called context f v given count c counted
  refine ⟨?_, ?_, ?_, ?_⟩
  · rw [evaluate, left, behind]
    exact (parts_joined _ _).trans (congrArg text (List.take_append_drop _ _))
  · rw [length_called context _ _ left, characters_of_part, List.length_take]
  · have length : (characters v).length - ((characters v).length - countOf c) = min (countOf c) (characters v).length := by
      omega
    rw [length_called context _ _ right, characters_of_part, List.length_drop, length]
  · intro start w started leftOver
    have place : (characters v).length - countOf c = countOf w := by omega
    exact ⟨_, right, place ▸ behind_called context f v given start w started⟩

-- A text is divided by any count, and any part in its middle is on the left of what is behind the start of that part.
theorem text_divided (context : Context) (f count : Formula) (v c : Value) (given : evaluate context f = .ok v)
    (counted : evaluate context count = .ok c) :
    Divided context f count (characters v) (min (countOf c) (characters v).length) ∧
      ((characters v).length < 2 ^ 53 → ∀ k ≤ (characters v).length, countOf (.number (Number.ofNat k)) = k) ∧
      ∀ start most a b, evaluate context start = .ok a → evaluate context most = .ok b →
        ∃ part, evaluate context (.call "MID" [f, start, most]) = text part ∧
          evaluate context (.call "LEFT" [.call "MID" [f, start], most]) = text part := by
  refine ⟨divided context f count v c given counted, ?_, ?_⟩
  · intro small k within
    rw [← to_count]
    exact Value.count_of_natural k (by omega)
  · intro start most a b started limited
    have behind := behind_called context f v given start a started
    have left := left_called context _ _ behind most b limited
    rw [characters_of_part] at left
    exact ⟨_, middle_called context f v given start a started most b limited, left⟩

def greeting : Formula := .literal (.text "Grüße")

def nowhere : Context := ⟨∅, none, {}, ⟨0, 0⟩⟩

theorem greeting_divided :
    evaluate nowhere greeting = .ok (.text "Grüße") ∧ countOf (.text "3.9 of 5") = 3 ∧
      Divided nowhere greeting (.literal (.text "3.9 of 5")) "Grüße".toList 3 ∧
      evaluate nowhere (.call "MID" [greeting, .literal (.text "3.9 of 5")]) =
        evaluate nowhere (.call "RIGHT" [greeting, .literal (.number (Number.ofNat 2))]) := by
  have three : countOf (.text "3.9 of 5") = 3 := by
    rw [← to_count]
    decide +kernel
  have two : countOf (.number (Number.ofNat 2)) = 2 := by
    rw [← to_count]
    decide +kernel
  have first := (text_divided nowhere greeting (.literal (.text "3.9 of 5")) (.text "Grüße") _ rfl rfl).1
  have last := (text_divided nowhere greeting (.literal (.number (Number.ofNat 2))) (.text "Grüße") _ rfl rfl).1
  rw [two] at last
  rw [three] at first
  obtain ⟨part, right, behind⟩ := last.right_behind (.literal (.text "3.9 of 5")) _ rfl three
  exact ⟨rfl, three, first, behind.trans right.symm⟩

end FormulaField.Texts
