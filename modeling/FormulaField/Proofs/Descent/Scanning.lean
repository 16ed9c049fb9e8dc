import FormulaField.Proofs.Descent.Procedures
import FormulaField.Proofs.Formula.Completeness

set_option autoImplicit false

namespace FormulaField

theorem byte_length_size (cs : List Char) : (String.ofList cs).utf8ByteSize = byteLength cs := by
  induction cs with
  | nil => rfl
  | cons c rest ih =>
      rw [String.ofList_cons, String.utf8ByteSize_append, ih, String.utf8ByteSize_singleton, byteLength]

theorem cut_split (byte : Nat) (cs : List Char) (parts : List Char × List Char)
    (cut : Guarded.splitAtByte? byte cs = some parts) : cs = parts.1 ++ parts.2 ∧ byteLength parts.1 = byte := by
  induction cs generalizing byte parts with
  | nil =>
      cases byte with
      | zero =>
          rw [Guarded.splitAtByte?] at cut
          cases cut
          exact ⟨rfl, rfl⟩
      | succ byte => cases cut
  | cons c rest ih =>
      cases byte with
      | zero =>
          rw [Guarded.splitAtByte?] at cut
          cases cut
          exact ⟨rfl, rfl⟩
      | succ byte =>
          rw [Guarded.splitAtByte?] at cut
          split at cut
          next fits =>
            obtain ⟨inner, behind, rfl⟩ := Option.map_eq_some_iff.mp cut
            obtain ⟨split, length⟩ := ih _ inner behind
            refine ⟨by rw [split, List.cons_append], ?_⟩
            rw [byteLength, length]
            omega
          next => cases cut

-- A text can be cut at a byte exactly between two of its characters and at its ends.
theorem cut_iff_position (s : String) (byte : Nat) :
    (∃ parts, Guarded.splitAtByte? byte s.toList = some parts) ↔ String.Pos.Raw.IsValid s ⟨byte⟩ := by
  rw [String.Pos.Raw.isValid_iff_exists_append]
  constructor
  · rintro ⟨parts, cut⟩
    obtain ⟨split, length⟩ := cut_split byte s.toList parts cut
    refine ⟨String.ofList parts.1, String.ofList parts.2, ?_, ?_⟩
    · rw [← String.ofList_append, ← split, String.ofList_toList]
    · rw [String.rawEndPos, byte_length_size, length]
  · rintro ⟨before, after, rfl, position⟩
    have length : byte = byteLength before.toList := by
      rw [← byte_length_size, String.ofList_toList]
      exact congrArg String.Pos.Raw.byteIdx position
    rw [String.toList_append, length]
    exact ⟨_, Guarded.split_at_boundary before.toList after.toList⟩

namespace Cursor

theorem advance_add (c : Cursor) (j k : Nat) : (c.advance j).advance k = c.advance (j + k) := by
  rw [advance, advance, advance]
  simp only [List.drop_drop, List.take_add, byte_length_append, Nat.add_assoc]

end Cursor

namespace Descent

open Guarded (splitAtByte? minus?)
open Program (given get put)

def placeOf (n : Nat) (c : Cursor) : Place := ⟨c.position, Parser.maxDepth - n, Names.ofList c.reads⟩

theorem place_depth (n : Nat) (c : Cursor) : (placeOf n c).depth = Parser.maxDepth - n := rfl

structure Fit (text : String) (known : Names) (place : Place) : Prop where
  boundary : String.Pos.Raw.IsValid text ⟨place.position⟩
  depth : place.depth ≤ Parser.maxDepth
  known : ∀ name ∈ known, name ∈ place.dependencies

-- The cursor stands in the text, with no more levels left than there are.
structure Inside (text : String) (known : Names) (n : Nat) (c : Cursor) : Prop where
  split : ∃ before, text.toList = before ++ c.rest ∧ byteLength before = c.position
  levels : n ≤ Parser.maxDepth
  known : ∀ name ∈ known, name ∈ c.reads

variable {α β : Type} {text : String} {known : Names} {n : Nat} {c : Cursor}

theorem inside_cut (inside : Inside text known n c) : ∃ before, splitAtByte? c.position text.toList = some (before, c.rest) := by
  obtain ⟨before, split, length⟩ := inside.split
  rw [split, ← length]
  exact ⟨before, Guarded.split_at_boundary before c.rest⟩

theorem inside_fit (inside : Inside text known n c) : Fit text known (placeOf n c) := by
  obtain ⟨before, cut⟩ := inside_cut inside
  exact ⟨(cut_iff_position text c.position).mp ⟨_, cut⟩, Nat.sub_le _ _,
    fun name member => (mem_names_of_list c.reads name).mpr (inside.known name member)⟩

theorem inside_advance (inside : Inside text known n c) (k : Nat) : Inside text known n (c.advance k) := by
  obtain ⟨before, split, length⟩ := inside.split
  refine ⟨⟨before ++ c.rest.take k, ?_, ?_⟩, inside.levels, inside.known⟩
  · rw [split, Cursor.advance, List.append_assoc, List.take_append_drop]
  · rw [byte_length_append, length, Cursor.advance]

def Yields (text : String) (known : Names) (program : Program α) (place : Place) (a : α) (after : Place) : Prop :=
  Completes (body text) (Fit text known) program place fun result reached => result = .ok a ∧ reached = after

theorem yields_done {place : Place} (a : α) (fits : Fit text known place) : Yields text known (pure a) place a place :=
  completes_done a fits ⟨rfl, rfl⟩

theorem completes_behind {first : Program α} {next : α → Program β} {place middle : Place} {a : α}
    {post : Except ParseError β → Place → Prop} (yields : Yields text known first place a middle)
    (completes : Completes (body text) (Fit text known) (next a) middle post) :
    Completes (body text) (Fit text known) (first >>= next) place post := by
  refine completes_bind yields ?_ ?_
  · rintro _ _ _ ⟨same, rfl⟩
    cases same
    exact completes
  · rintro e after ⟨never, _⟩
    cases never

theorem yields_get {place : Place} (fits : Fit text known place) : Yields text known get place place place :=
  completes_step fits (fun _ => rfl) (yields_done place fits)

theorem yields_put {place after : Place} (fits : Fit text known place) (fitsAfter : Fit text known after) :
    Yields text known (put after) place () after :=
  completes_step fits (fun _ => rfl) (yields_done () fitsAfter)

theorem yields_given {place : Place} {outcome : Option α} {a : α} (found : outcome = some a)
    (fits : Fit text known place) : Yields text known (given outcome) place a place := by
  subst found
  exact completes_step fits (fun _ => rfl) (yields_done a fits)

section

variable (inside : Inside text known n c)

include inside

theorem yields_rest : Yields text known (rest text) (placeOf n c) c.rest (placeOf n c) := by
  have fits := inside_fit inside
  obtain ⟨before, cut⟩ := inside_cut inside
  refine completes_behind (yields_get fits) ?_
  refine completes_behind (yields_given cut fits) ?_
  exact yields_done _ fits

theorem yields_peek : Yields text known (peek text) (placeOf n c) c.rest.head? (placeOf n c) :=
  completes_behind (yields_rest inside) (yields_done _ (inside_fit inside))

theorem yields_move (k : Nat) (bytes : Nat) (same : bytes = byteLength (c.rest.take k)) :
    Yields text known (moveBy bytes) (placeOf n c) () (placeOf n (c.advance k)) := by
  subst same
  have fits := inside_fit inside
  refine completes_behind (yields_get fits) ?_
  exact yields_put fits (inside_fit (inside_advance inside k))

theorem yields_advance : Yields text known (advance text) (placeOf n c) () (placeOf n (c.advance 1)) := by
  have fits := inside_fit inside
  refine completes_behind (yields_peek inside) ?_
  cases next : c.rest with
  | nil =>
      have same : c.advance 1 = c := by
        rw [Cursor.advance, next]
        exact congrArg (fun cs => Cursor.mk cs c.position c.reads) next.symm
      rw [same]
      exact yields_done _ fits
  | cons d tail => exact yields_move inside 1 d.utf8Size (by rw [next]; rfl)

end

theorem yields_skip (test : Char → Bool) (inside : Inside text known n c) :
    Yields text known (skip text test) (placeOf n c) () (placeOf n (c.advance (c.rest.takeWhile test).length)) := by
  have fits := inside_fit inside
  generalize remaining : c.rest = cs
  induction cs generalizing c with
  | nil =>
      refine completes_loop (completes_behind (yields_peek inside) ?_)
      rw [remaining]
      exact completes_done _ fits ⟨rfl, rfl⟩
  | cons d tail ih =>
      refine completes_loop (completes_behind (yields_peek inside) ?_)
      by_cases passes : test d = true
      · have behind := inside_advance inside 1
        have further := ih behind (inside_fit behind) (by rw [Cursor.advance, remaining]; rfl)
        rw [Cursor.advance_add, Nat.add_comm] at further
        rw [List.takeWhile_cons_of_pos passes, List.length_cons]
        simp only [remaining, List.head?_cons, Option.any_some, passes, if_true]
        refine completes_behind (yields_advance inside) ?_
        exact completes_done _ (inside_fit behind) further
      · rw [List.takeWhile_cons_of_neg passes]
        simp only [remaining, List.head?_cons, Option.any_some, passes, Bool.false_eq_true, if_false]
        exact completes_done _ fits ⟨rfl, rfl⟩

theorem yields_white (inside : Inside text known n c) :
    Yields text known (skip text Text.isWhite) (placeOf n c) () (placeOf n c.skipWhite) :=
  yields_skip Text.isWhite inside

theorem inside_white (inside : Inside text known n c) : Inside text known n c.skipWhite := inside_advance inside _

theorem yields_read_since (inside : Inside text known n c) (k : Nat) :
    Yields text known (readSince text c.position) (placeOf n (c.advance k)) (c.rest.take k) (placeOf n (c.advance k)) := by
  have fits := inside_fit (inside_advance inside k)
  obtain ⟨before, cut⟩ := inside_cut inside
  have length : minus? (placeOf n (c.advance k)).position c.position = some (byteLength (c.rest.take k)) := by
    rw [placeOf, Cursor.advance, minus?, if_pos (Nat.le_add_right _ _), Nat.add_sub_cancel_left]
  refine completes_behind (yields_get fits) ?_
  refine completes_behind (yields_given length fits) ?_
  refine completes_behind (yields_given cut fits) ?_
  refine completes_behind (yields_given (Guarded.split_at_character c.rest k) fits) ?_
  exact yields_done _ fits

end Descent

end FormulaField
