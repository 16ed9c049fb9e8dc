import FormulaField.Record
import Mathlib

set_option autoImplicit false

namespace FormulaField

open Calendar (Instant)

-- The place of a timestamp in time. A missing one is below all others.
def timestampRank : Option Instant → WithBot (ℤ ×ₗ ℕ)
  | none => ⊥
  | some i => (toLex (i.seconds, i.nanos) : ℤ ×ₗ ℕ)

def Observation.rank (o : Observation) : WithBot (ℤ ×ₗ ℕ) := timestampRank o.timestamp

theorem timestamp_before_iff (a b : Option Instant) :
    timestampBefore a b = true ↔ timestampRank a < timestampRank b := by
  cases a with
  | none =>
      cases b with
      | none => simp [timestampBefore, timestampRank]
      | some j => simp [timestampBefore, timestampRank]
  | some i =>
      cases b with
      | none => simp [timestampBefore, timestampRank]
      | some j => simp [timestampBefore, timestampRank, Instant.before, Prod.Lex.toLex_lt_toLex]

theorem rank_injective (a b : Option Instant) (same : timestampRank a = timestampRank b) : a = b := by
  cases a with
  | none =>
      cases b with
      | none => rfl
      | some j => cases same
  | some i =>
      cases b with
      | none => cases same
      | some j =>
          obtain ⟨seconds, nanos⟩ := i
          obtain ⟨otherSeconds, otherNanos⟩ := j
          cases same
          rfl

-- An observation among others: the first of those with the latest timestamp.
structure FirstLatest (before : List Observation) (winner : Observation) (after : List Observation) : Prop where
  latest : IsGreatest {t | ∃ o ∈ before ++ winner :: after, o.rank = t} winner.rank
  first : ∀ o ∈ before, o.timestamp ≠ winner.timestamp

theorem first_latest_iff (before after : List Observation) (winner : Observation) :
    FirstLatest before winner after ↔
      (∀ o ∈ before, o.rank < winner.rank) ∧ ∀ o ∈ after, o.rank ≤ winner.rank := by
  constructor
  · rintro ⟨⟨_, greatest⟩, first⟩
    constructor
    · intro o member
      have apart : o.rank ≠ winner.rank := fun same => first o member (rank_injective _ _ same)
      exact lt_of_le_of_ne (greatest ⟨o, by simp [member], rfl⟩) apart
    · intro o member
      exact greatest ⟨o, by simp [member], rfl⟩
  · rintro ⟨lower, notHigher⟩
    refine ⟨⟨⟨winner, by simp, rfl⟩, ?_⟩, ?_⟩
    · rintro _ ⟨o, member, rfl⟩
      rcases List.mem_append.mp member with inBefore | rest
      · exact (lower o inBefore).le
      · rcases List.mem_cons.mp rest with rfl | inAfter
        · exact le_refl _
        · exact notHigher o inAfter
    · intro o member same
      exact (lower o member).ne (congrArg timestampRank same)

theorem rank_before_iff (a b : Observation) : timestampBefore a.timestamp b.timestamp = true ↔ a.rank < b.rank :=
  timestamp_before_iff a.timestamp b.timestamp

theorem latest_found (observations : List Observation) :
    match observations.foldl Cell.later none with
    | none => observations = []
    | some winner => ∃ before after, observations = before ++ winner :: after ∧ FirstLatest before winner after := by
  induction observations using List.reverseRecOn with
  | nil => rfl
  | append_singleton done next ih =>
      rw [List.foldl_append, List.foldl_cons, List.foldl_nil]
      cases found : done.foldl Cell.later none with
      | none =>
          rw [found] at ih
          subst ih
          exact ⟨[], [], rfl, (first_latest_iff _ _ _).mpr ⟨nofun, nofun⟩⟩
      | some winner =>
          rw [found] at ih
          obtain ⟨before, after, rfl, latest⟩ := ih
          obtain ⟨lower, notHigher⟩ := (first_latest_iff _ _ _).mp latest
          by_cases later : winner.rank < next.rank
          · rw [Cell.later, if_pos ((rank_before_iff _ _).mpr later)]
            refine ⟨before ++ winner :: after, [], rfl, (first_latest_iff _ _ _).mpr ⟨?_, nofun⟩⟩
            intro o member
            exact (latest.latest.2 ⟨o, member, rfl⟩).trans_lt later
          · rw [Cell.later, if_neg fun isBefore => later ((rank_before_iff _ _).mp isBefore)]
            have noneAbove : ∀ o ∈ after ++ [next], o.rank ≤ winner.rank :=
              List.forall_mem_append.mpr ⟨notHigher, List.forall_mem_singleton.mpr (not_lt.mp later)⟩
            exact ⟨before, after ++ [next], by simp, (first_latest_iff _ _ _).mpr ⟨lower, noneAbove⟩⟩

theorem split_around {α : Type} (before after left right : List α) (a : α)
    (same : before ++ a :: after = left ++ right) :
    (∃ between, before = left ++ between ∧ right = between ++ a :: after) ∨
      ∃ between, left = before ++ a :: between ∧ after = between ++ right := by
  rcases List.append_eq_append_iff.mp same with ⟨between, left_eq, rest⟩ | ⟨between, before_eq, rest⟩
  · cases between with
    | nil => exact .inl ⟨[], by simp [left_eq], by simpa using rest.symm⟩
    | cons b between =>
        obtain ⟨rfl, after_eq⟩ := List.cons.inj rest
        exact .inr ⟨between, left_eq, after_eq⟩
  · exact .inl ⟨between, before_eq, rest⟩

theorem first_latest_unique (before after otherBefore otherAfter : List Observation) (winner other : Observation)
    (latest : FirstLatest before winner after) (otherLatest : FirstLatest otherBefore other otherAfter)
    (same : before ++ winner :: after = otherBefore ++ other :: otherAfter) : winner = other := by
  have sameRank : winner.rank = other.rank := latest.latest.unique (same ▸ otherLatest.latest)
  have sameTime : winner.timestamp = other.timestamp := rank_injective _ _ sameRank
  rcases split_around before after otherBefore _ winner same with ⟨between, split, rest⟩ | ⟨between, split, _⟩
  · cases between with
    | nil => exact (List.cons.inj rest).1.symm
    | cons o between =>
        obtain ⟨rfl, _⟩ := List.cons.inj rest
        exact absurd sameTime.symm (latest.first other (by simp [split]))
  · exact absurd sameTime (otherLatest.first winner (by simp [split]))

theorem resolved (before after : List Observation) (winner : Observation) (view : View)
    (latest : FirstLatest before winner after) : Cell.mostRecent ⟨before ++ winner :: after⟩ view = winner.value := by
  have found := latest_found (before ++ winner :: after)
  rw [Cell.mostRecent, Cell.latest?]
  cases search : (before ++ winner :: after).foldl Cell.later none with
  | none =>
      rw [search] at found
      simp at found
  | some other =>
      rw [search] at found
      obtain ⟨otherBefore, otherAfter, same, otherLatest⟩ := found
      rw [first_latest_unique _ _ _ _ winner other latest otherLatest same]

theorem resolved_with (before after left right : List Observation) (winner o : Observation) (view : View)
    (latest : FirstLatest before winner after) (place : before ++ winner :: after = left ++ right)
    (lower : o.rank < winner.rank ∨ o.timestamp = winner.timestamp ∧ before.length < left.length) :
    Cell.mostRecent ⟨left ++ o :: right⟩ view = winner.value := by
  obtain ⟨allLower, notHigher⟩ := (first_latest_iff _ _ _).mp latest
  have notAbove : o.rank ≤ winner.rank := lower.elim le_of_lt fun tie => (congrArg timestampRank tie.1).le
  rcases split_around before after left right winner place with ⟨between, rfl, rfl⟩ | ⟨between, rfl, rfl⟩
  · have below : o.rank < winner.rank := by
      refine lower.resolve_right fun tie => ?_
      rw [List.length_append] at tie
      omega
    obtain ⟨inLeft, inBetween⟩ := List.forall_mem_append.mp allLower
    have allBelow : ∀ p ∈ left ++ o :: between, p.rank < winner.rank :=
      List.forall_mem_append.mpr ⟨inLeft, List.forall_mem_cons.mpr ⟨below, inBetween⟩⟩
    have still : FirstLatest (left ++ o :: between) winner after := (first_latest_iff _ _ _).mpr ⟨allBelow, notHigher⟩
    simpa using resolved _ _ winner view still
  · obtain ⟨inBetween, inRight⟩ := List.forall_mem_append.mp notHigher
    have noneAbove : ∀ p ∈ between ++ o :: right, p.rank ≤ winner.rank :=
      List.forall_mem_append.mpr ⟨inBetween, List.forall_mem_cons.mpr ⟨notAbove, inRight⟩⟩
    have still : FirstLatest before winner (between ++ o :: right) :=
      (first_latest_iff _ _ _).mpr ⟨allLower, noneAbove⟩
    simpa using resolved _ _ winner view still

theorem resolved_reordered (observations others : List Observation) (view : View) (perm : others.Perm observations)
    (distinct : (observations.map Observation.timestamp).Nodup) :
    Cell.mostRecent ⟨others⟩ view = Cell.mostRecent ⟨observations⟩ view := by
  have found := latest_found observations
  have otherFound := latest_found others
  rw [Cell.mostRecent, Cell.mostRecent, Cell.latest?, Cell.latest?]
  cases search : observations.foldl Cell.later none with
  | none =>
      rw [search] at found
      subst found
      rw [perm.eq_nil]
      rfl
  | some winner =>
      cases otherSearch : others.foldl Cell.later none with
      | none =>
          rw [otherSearch] at otherFound
          subst otherFound
          rw [perm.symm.eq_nil] at search
          cases search
      | some other =>
          rw [search] at found
          rw [otherSearch] at otherFound
          obtain ⟨before, after, rfl, latest⟩ := found
          obtain ⟨otherBefore, otherAfter, rfl, otherLatest⟩ := otherFound
          have sameSet : {t | ∃ o ∈ otherBefore ++ other :: otherAfter, o.rank = t} =
              {t | ∃ o ∈ before ++ winner :: after, o.rank = t} :=
            Set.ext fun t => exists_congr fun o => and_congr_left fun _ => perm.mem_iff
          have sameRank : winner.rank = other.rank := latest.latest.unique (sameSet ▸ otherLatest.latest)
          have member : other ∈ before ++ winner :: after := perm.mem_iff.mp (by simp)
          rw [List.inj_on_of_nodup_map distinct (by simp) member (rank_injective _ _ sameRank)]

-- The first of the observations with the latest timestamp counts. Others that are earlier, or as late and declared after
-- it, make no difference.
theorem latest_observation_counts (cell : Cell) (view : View) :
    (cell.observations = [] → cell.mostRecent view = .empty) ∧
      (cell.observations ≠ [] → ∃ before winner after, cell.observations = before ++ winner :: after ∧
        FirstLatest before winner after ∧ cell.mostRecent view = winner.value ∧
        ∀ left right o, cell.observations = left ++ right →
          (o.rank < winner.rank ∨ o.timestamp = winner.timestamp ∧ before.length < left.length) →
          Cell.mostRecent ⟨left ++ o :: right⟩ view = cell.mostRecent view) ∧
      ∀ others : List Observation, others.Perm cell.observations → (cell.observations.map Observation.timestamp).Nodup →
        Cell.mostRecent ⟨others⟩ view = cell.mostRecent view := by
  obtain ⟨observations⟩ := cell
  refine ⟨?_, ?_, fun others => resolved_reordered observations others view⟩
  · rintro rfl
    rfl
  · intro some
    have found := latest_found observations
    cases search : observations.foldl Cell.later none with
    | none =>
        rw [search] at found
        exact absurd found some
    | some winner =>
        rw [search] at found
        obtain ⟨before, after, rfl, latest⟩ := found
        have own := resolved before after winner view latest
        refine ⟨before, winner, after, rfl, latest, own, ?_⟩
        intro left right o place lower
        exact (resolved_with before after left right winner o view latest place lower).trans own.symm

example : Cell.mostRecent ⟨[⟨.text "undated", none, none⟩, ⟨.text "first", some ⟨0, 0⟩, none⟩,
    ⟨.text "second", some ⟨0, 0⟩, none⟩]⟩ {} = .text "first" := rfl

end FormulaField
