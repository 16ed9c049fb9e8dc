import FormulaField.Function.Texts
import FormulaField.Proofs.Pattern.PlainPatterns

set_option autoImplicit false

namespace FormulaField.Pattern

-- What may have been visited when a thread is at a step: no more than the steps of threads that started before it, and
-- its own steps before this one. A program takes some characters and accepts behind them without a visit.
def Behind (length steps : Nat) (visited : Visited) (origin step : Nat) : Prop :=
  ∀ s i, i ≤ length → s * (length + 1) + i ∈ visited → s ≤ steps ∧ (i < origin + s ∨ i = origin + s ∧ s < step)

theorem key_injective (length s t i j : Nat) (first : i ≤ length) (second : j ≤ length)
    (same : s * (length + 1) + i = t * (length + 1) + j) : s = t ∧ i = j := by
  have steps := congrArg (· / (length + 1)) same
  have places := congrArg (· % (length + 1)) same
  simp only [Nat.mul_comm _ (length + 1), Nat.mul_add_div (Nat.succ_pos length), Nat.mul_add_mod,
    Nat.mod_eq_of_lt (Nat.lt_succ_of_le first), Nat.mod_eq_of_lt (Nat.lt_succ_of_le second),
    Nat.div_eq_of_lt (Nat.lt_succ_of_le first), Nat.div_eq_of_lt (Nat.lt_succ_of_le second)] at steps places
  exact ⟨steps, places⟩

section

variable (length steps : Nat) (visited : Visited) (origin step : Nat) (behind : Behind length steps visited origin step)

include behind

theorem behind_later : Behind length steps visited (origin + 1) 0 := by
  intro s i within member
  obtain ⟨few, before⟩ := behind s i within member
  exact ⟨few, by omega⟩

variable (within : origin + step ≤ length)

include within

theorem behind_fresh : step * (length + 1) + (origin + step) ∉ visited := by
  intro member
  have before := (behind step (origin + step) within member).2
  omega

theorem behind_insert (few : step ≤ steps) :
    Behind length steps (visited.insert (step * (length + 1) + (origin + step))) origin (step + 1) := by
  intro s i inside member
  rcases Std.ExtTreeSet.mem_insert.mp member with same | old
  · obtain ⟨rfl, rfl⟩ := key_injective length step s _ i within inside (Nat.compare_eq_eq.mp same)
    exact ⟨few, by omega⟩
  · obtain ⟨fewer, before⟩ := behind s i inside old
    exact ⟨fewer, by omega⟩

end

section

variable (program : Program) (length fuel : Nat) (t : Thread) (rest : List Thread) (visited : Visited)
  (fresh : t.key length ∉ visited)

include fresh

theorem search_accepts (found : program[t.step]? = some .accept) :
    firstMatch? program length (fuel + 1) (t :: rest) visited = some (t.origin, t.place) := by
  rw [firstMatch?, if_neg fresh, found]

theorem search_takes (s : CharSet) (next : Nat) (found : program[t.step]? = some (.take s next)) :
    firstMatch? program length (fuel + 1) (t :: rest) visited =
      firstMatch? program length fuel (t.after (.take s next) ++ rest) (visited.insert (t.key length)) := by
  rw [firstMatch?, if_neg fresh, found]

theorem search_jumps (next : Nat) (found : program[t.step]? = some (.jump next)) :
    firstMatch? program length (fuel + 1) (t :: rest) visited =
      firstMatch? program length fuel (t.goTo next :: rest) (visited.insert (t.key length)) := by
  rw [firstMatch?, if_neg fresh, found]
  rfl

end

theorem single_contains_iff (c d : Char) : (CharSet.single c).contains d = true ↔ c = d := by
  simp only [CharSet.single, CharSet.contains, Bool.and_eq_true, decide_eq_true_eq]
  exact ⟨fun ⟨first, last⟩ => Char.le_antisymm first last, fun same => same ▸ ⟨Char.le_refl _, Char.le_refl _⟩⟩

def Thread.taken (t : Thread) (c : Char) (later : List Char) : Thread :=
  ⟨t.step + 1, t.origin, ⟨t.place.index + 1, some c, later⟩⟩

theorem takes_next (t : Thread) (c : Char) (later : List Char) (ahead : t.place.after = c :: later) :
    t.after (.take (.single c) (t.step + 1)) = [t.taken c later] := by
  have itself : (CharSet.single c).contains c = true := (single_contains_iff c c).mpr rfl
  simp [Thread.after, Thread.taken, Place.next?, ahead, itself]

theorem takes_nothing (t : Thread) (c : Char) (next : Nat) (other : t.place.after.head? ≠ some c) :
    t.after (.take (.single c) next) = [] := by
  rw [Thread.after]
  split
  · next d others place ahead moves =>
      have different : (CharSet.single c).contains d ≠ true := fun same => by
        rw [ahead, (single_contains_iff c d).mp same] at other
        exact other rfl
      rw [if_neg different]
  · rfl

structure InStep (length : Nat) (t : Thread) : Prop where
  index : t.place.index = t.origin.index + t.step
  inside : t.place.index + t.place.after.length = length

theorem InStep.within {length : Nat} {t : Thread} (inStep : InStep length t) : t.origin.index + t.step ≤ length := by
  rw [← inStep.index, ← inStep.inside]
  exact Nat.le_add_right _ _

theorem InStep.taken {length : Nat} {t : Thread} (inStep : InStep length t) (c : Char) (later : List Char)
    (ahead : t.place.after = c :: later) : InStep length (t.taken c later) where
  index := congrArg (· + 1) inStep.index
  inside := by
    have inside := inStep.inside
    rw [ahead, List.length_cons] at inside
    change t.place.index + 1 + later.length = length
    omega

section

variable (length steps : Nat) (t : Thread) (visited : Visited) (inStep : InStep length t)
  (behind : Behind length steps visited t.origin.index t.step)

include inStep behind

theorem thread_fresh : t.key length ∉ visited := by
  rw [Thread.key, inStep.index]
  exact behind_fresh length steps visited t.origin.index t.step behind inStep.within

theorem thread_visits (few : t.step ≤ steps) :
    Behind length steps (visited.insert (t.key length)) t.origin.index (t.step + 1) := by
  rw [Thread.key, inStep.index]
  exact behind_insert length steps visited t.origin.index t.step behind inStep.within few

end

theorem ending_fresh (length : Nat) (t : Thread) (visited : Visited) (inside : t.place.index ≤ length)
    (behind : Behind length t.step visited t.origin.index (t.step + 1)) :
    (t.goTo (t.step + 1)).key length ∉ visited := by
  intro member
  have few := (behind (t.step + 1) t.place.index inside member).1
  omega

-- What becomes of the first thread: it is the match with the characters that it still had to take, or the others are
-- tried without it.
def Followed (program : Program) (length fuel : Nat) (t : Thread) (rest : List Thread) (visited : Visited)
    (cs : List Char) : Prop :=
  (cs <+: t.place.after ∧ ∃ last, firstMatch? program length fuel (t :: rest) visited = some (t.origin, last) ∧
      last.index = t.place.index + cs.length ∧ last.after = t.place.after.drop cs.length) ∨
    ¬cs <+: t.place.after ∧ ∃ left later, fuel ≤ left + cs.length ∧
      Behind length (t.step + cs.length) later (t.origin.index + 1) 0 ∧
      firstMatch? program length fuel (t :: rest) visited = firstMatch? program length left rest later

theorem thread_accepted (program : Program) (length fuel : Nat) (t : Thread) (rest : List Thread) (visited : Visited)
    (spells : Spells program t.step []) (inStep : InStep length t)
    (behind : Behind length t.step visited t.origin.index t.step) :
    firstMatch? program length (fuel + 2) (t :: rest) visited = some (t.origin, t.place) := by
  have fresh := thread_fresh length _ t visited inStep behind
  rcases spells with accepts | ⟨jumps, accepts⟩
  · exact search_accepts program length _ t rest visited fresh accepts
  · have inside : t.place.index ≤ length := inStep.index ▸ inStep.within
    have visits := thread_visits length _ t visited inStep behind (Nat.le_refl _)
    rw [search_jumps program length _ t rest visited fresh _ jumps]
    exact search_accepts program length _ (t.goTo (t.step + 1)) rest _ (ending_fresh length t _ inside visits) accepts

theorem thread_followed (program : Program) (length : Nat) (rest : List Thread) (cs : List Char) (t : Thread)
    (fuel : Nat) (visited : Visited) (spells : Spells program t.step cs) (inStep : InStep length t)
    (behind : Behind length (t.step + cs.length) visited t.origin.index t.step) (enough : cs.length + 2 ≤ fuel) :
    Followed program length fuel t rest visited cs := by
  -- A character that is taken moves the thread on by one step and one place, so it stays ahead of what was visited.
  induction cs generalizing t fuel visited with
  | nil =>
      obtain ⟨fuel, rfl⟩ := Nat.exists_eq_add_of_le' enough
      exact .inl ⟨List.nil_prefix, t.place, thread_accepted program length fuel t rest visited spells inStep behind,
        rfl, rfl⟩
  | cons c cs ih =>
      obtain ⟨fuel, rfl⟩ := Nat.exists_eq_add_of_le' (Nat.le_of_add_left_le enough : 1 ≤ fuel)
      obtain ⟨takes, spells⟩ := spells
      have fresh := thread_fresh length _ t visited inStep behind
      have visits := thread_visits length _ t visited inStep behind (Nat.le_add_right _ _)
      have goesOn := search_takes program length fuel t rest visited fresh _ _ takes
      have steps : t.step + (c :: cs).length = t.step + 1 + cs.length := (Nat.succ_add_eq_add_succ _ _).symm
      by_cases here : t.place.after.head? = some c
      · obtain ⟨later, ahead⟩ := List.head?_eq_some_iff.mp here
        rw [takes_next t c later ahead] at goesOn
        rw [steps] at visits
        have further := ih (t.taken c later) fuel _ spells (inStep.taken c later ahead) visits
          (Nat.le_of_succ_le_succ enough)
        rw [Followed, goesOn, ahead, List.cons_prefix_cons, and_iff_right rfl, steps]
        rcases further with ⟨goes, last, found, index, after⟩ | ⟨stops, left, visited, enough, behind, found⟩
        · have behindAll : t.place.index + 1 + cs.length = t.place.index + (c :: cs).length :=
            Nat.succ_add_eq_add_succ _ _
          exact .inl ⟨goes, last, found, index.trans behindAll, after⟩
        · exact .inr ⟨stops, left, visited, Nat.succ_le_succ enough, behind, found⟩
      · rw [takes_nothing t c _ here] at goesOn
        have stops : ¬c :: cs <+: t.place.after := fun goes => by
          obtain ⟨later, ahead⟩ := goes
          rw [← ahead] at here
          exact here rfl
        exact .inr ⟨stops, fuel, _, Nat.add_le_add_left (Nat.succ_le_succ (Nat.zero_le _)) fuel,
          behind_later length _ _ _ _ visits, goesOn⟩

def FoundFirst (cs : List Char) (p : Place) (found : Option (Place × Place)) : Prop :=
  match Texts.firstOccurrence? cs p.after with
  | some i => ∃ first last, found = some (first, last) ∧ first.index = p.index + i ∧
      last.index = p.index + i + cs.length ∧ last.after = p.after.drop (i + cs.length)
  | none => found = none

def startThread (p : Place) : Thread := ⟨0, p, p⟩

theorem found_here (cs : List Char) (p last : Place) (found : Option (Place × Place)) (goes : cs <+: p.after)
    (given : cs ≠ []) (here : found = some (p, last)) (index : last.index = p.index + cs.length)
    (after : last.after = p.after.drop cs.length) : FoundFirst cs p found := by
  have atOnce : Texts.firstOccurrence? cs p.after = some 0 := by
    cases ahead : p.after with
    | nil => exact absurd (List.prefix_nil.mp (ahead ▸ goes)) given
    | cons c later => rw [Texts.firstOccurrence?, if_pos (List.isPrefixOf_iff_prefix.mpr (ahead ▸ goes))]
  rw [FoundFirst, atOnce]
  exact ⟨p, last, here, rfl, index, by rw [after, Nat.zero_add]⟩

theorem found_later (cs : List Char) (p : Place) (c : Char) (later : List Char) (found : Option (Place × Place))
    (ahead : p.after = c :: later) (stops : ¬cs <+: p.after)
    (next : FoundFirst cs ⟨p.index + 1, some c, later⟩ found) : FoundFirst cs p found := by
  rw [ahead] at stops
  rw [FoundFirst, ahead, Texts.firstOccurrence?, if_neg fun isPrefix => stops (List.isPrefixOf_iff_prefix.mp isPrefix)]
  rw [FoundFirst] at next
  cases occurs : Texts.firstOccurrence? cs later with
  | none =>
      rw [occurs] at next
      exact next
  | some i =>
      rw [occurs] at next
      obtain ⟨first, last, found, start, ending, after⟩ := next
      refine ⟨first, last, found, ?_, ?_, ?_⟩
      · exact start.trans (Nat.succ_add_eq_add_succ p.index i)
      · exact ending.trans (congrArg (· + cs.length) (Nat.succ_add_eq_add_succ p.index i))
      · rw [after, Nat.add_right_comm i 1 cs.length, List.drop_succ_cons]

theorem searched (program : Program) (length : Nat) (cs : List Char) (given : cs ≠ []) (spells : Spells program 0 cs)
    (later : List Char) (p : Place) (ahead : p.after = later) (inside : p.index + p.after.length = length) (fuel : Nat)
    (visited : Visited) (behind : Behind length (0 + cs.length) visited p.index 0)
    (enough : (cs.length + 2) * (later.length + 1) ≤ fuel) :
    FoundFirst cs p (firstMatch? program length fuel (p.andLater.map startThread) visited) := by
  -- The induction is along the text: what a thread that failed has visited is behind the one that starts next.
  induction later generalizing p fuel visited with
  | nil =>
      have alone : p.andLater.map startThread = [startThread p] := by
        rw [Place.andLater, ahead]
        rfl
      rw [List.length_nil, Nat.zero_add, Nat.mul_one] at enough
      rw [alone]
      rcases thread_followed program length [] cs (startThread p) fuel visited spells ⟨rfl, inside⟩ behind enough with
        ⟨goes, _⟩ | ⟨_, left, visited, _, _, found⟩
      · rw [startThread, ahead] at goes
        exact absurd (List.prefix_nil.mp goes) given
      · rw [FoundFirst, ahead, Texts.firstOccurrence?, if_neg given, found]
        cases left <;> rfl
  | cons c later ih =>
      have next : p.andLater.map startThread =
          startThread p :: (Place.andLater ⟨p.index + 1, some c, later⟩).map startThread := by
        rw [Place.andLater, ahead]
        rfl
      rw [List.length_cons, Nat.mul_succ] at enough
      rw [next]
      have once : cs.length + 2 ≤ fuel := Nat.le_of_add_left_le enough
      rcases thread_followed program length _ cs (startThread p) fuel visited spells ⟨rfl, inside⟩ behind once with
        ⟨goes, last, found, index, after⟩ | ⟨stops, left, visited, spent, behind, found⟩
      · exact found_here cs p last _ goes given found index after
      · have insideNext : p.index + 1 + later.length = length := by
          rw [ahead, List.length_cons] at inside
          omega
        have enoughNext : (cs.length + 2) * (later.length + 1) ≤ left := by omega
        rw [found]
        exact found_later cs p c later _ ahead stops (ih _ rfl insideNext left visited behind enoughNext)

theorem row_found (program : Program) (cs : List Char) (given : cs ≠ []) (spells : Spells program 0 cs)
    (short : cs.length < program.size) (p : Place) : FoundFirst cs p (matchFrom? program p) := by
  have behind : Behind (p.index + p.after.length) (0 + cs.length) ∅ p.index 0 := fun s i _ member =>
    absurd member Std.ExtTreeSet.not_mem_empty
  have enough : (cs.length + 2) * (p.after.length + 1) ≤ (2 * program.size + 1) * (p.after.length + 1) + 1 :=
    Nat.le_succ_of_le (Nat.mul_le_mul_right _ (by omega))
  exact searched program _ cs given spells p.after p rfl rfl _ ∅ behind enough

theorem found_ends (cs : List Char) (given : cs ≠ []) (p first last : Place)
    (found : FoundFirst cs p (some (first, last))) : last.index ≠ p.index := by
  have longer := List.length_pos_iff.mpr given
  rw [FoundFirst] at found
  cases occurs : Texts.firstOccurrence? cs p.after with
  | none =>
      rw [occurs] at found
      cases found
  | some i =>
      rw [occurs] at found
      obtain ⟨_, _, same, _, ending, _⟩ := found
      cases same
      omega

theorem row_found_next (program : Program) (cs : List Char) (given : cs ≠ []) (spells : Spells program 0 cs)
    (short : cs.length < program.size) (p : Place) (afterMatch : Bool) :
    FoundFirst cs p (nextMatch? program p afterMatch) := by
  have found := row_found program cs given spells short p
  rw [nextMatch?]
  cases here : matchFrom? program p with
  | none =>
      rw [here] at found
      exact found
  | some places =>
      obtain ⟨first, last⟩ := places
      rw [here] at found
      have ends := found_ends cs given p first last found
      simp only [ends, and_false, if_false]
      exact found

end FormulaField.Pattern
