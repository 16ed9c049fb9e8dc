import FormulaField.Proofs.Dependency.CycleSearch
import Mathlib.Data.List.Chain

set_option autoImplicit false

namespace FormulaField.DependencyGraph

open Relation (TransGen ReflTransGen)

inductive Searches (g : DependencyGraph) (target : String) :
    List String → Names → Option (List String) → Names → Prop
  | nothing (seen : Names) : Searches g target [] seen none seen
  | target (rest : List String) (seen : Names) : Searches g target (target :: rest) seen (some [target]) seen
  | plain (name : String) (rest : List String) (seen after : Names) (way : Option (List String))
      (different : name ≠ target) (absent : g.precedents[name]? = none)
      (tail : Searches g target rest seen way after) : Searches g target (name :: rest) seen way after
  | again (name : String) (rest : List String) (names seen after : Names) (way : Option (List String))
      (different : name ≠ target) (found : g.precedents[name]? = some names) (old : name ∈ seen)
      (tail : Searches g target rest seen way after) : Searches g target (name :: rest) seen way after
  | through (name : String) (rest : List String) (names seen after : Names) (way : List String)
      (different : name ≠ target) (found : g.precedents[name]? = some names) (fresh : name ∉ seen)
      (deeper : Searches g target names.toList (seen.insert name) (some way) after) :
      Searches g target (name :: rest) seen (some (name :: way)) after
  | back (name : String) (rest : List String) (names seen middle after : Names) (way : Option (List String))
      (different : name ≠ target) (found : g.precedents[name]? = some names) (fresh : name ∉ seen)
      (deeper : Searches g target names.toList (seen.insert name) none middle)
      (tail : Searches g target rest middle way after) : Searches g target (name :: rest) seen way after

-- Who reads what once a field reads some names, whatever it read before.
def ReadsInstead (g : DependencyGraph) (field : String) (names : Names) (reader name : String) : Prop :=
  if reader = field then name ∈ names else g.Reads reader name

structure Closes (g : DependencyGraph) (field : String) (names : Names) (between : List String) : Prop where
  others : ∀ name ∈ between, g.contains name = true ∧ name ≠ field
  edges : (field :: between ++ [field]).IsChain (g.ReadsInstead field names)

theorem searches_kept (g : DependencyGraph) (target : String) (names : List String) (before after : Names)
    (way : Option (List String)) (search : g.Searches target names before way after) :
    ∀ name ∈ before, name ∈ after := by
  induction search with
  | nothing seen => exact fun _ member => member
  | target rest seen => exact fun _ member => member
  | plain name rest seen after way different absent tail ih => exact ih
  | again name rest names seen after way different found old tail ih => exact ih
  | through name rest names seen after way different found fresh deeper ih =>
      exact fun other member => ih other (by simp [member])
  | back name rest names seen middle after way different found fresh deeper tail ihDeeper ihTail =>
      exact fun other member => ihTail other (ihDeeper other (by simp [member]))

-- With room for the formula fields that are not seen yet, the search is not cut short.
def Unbounded (g : DependencyGraph) (target : String) (room : Nat) (search : Search) : Prop :=
  ∀ names before, (g.unseen before).length ≤ room →
    g.Searches target names before (search names before).1 (search names before).2

theorem first_way_unbounded (g : DependencyGraph) (target : String) (deeper : Search) (room : Nat)
    (below : ∀ less < room, g.Unbounded target less deeper) : g.Unbounded target room (firstWay g target deeper) := by
  intro names
  induction names with
  | nil => exact fun before _ => .nothing before
  | cons name rest ih =>
      intro before enough
      rw [firstWay]
      by_cases same : name = target
      · rw [if_pos same, same]
        exact .target rest before
      rw [if_neg same]
      cases found : g.precedents[name]? with
      | none => exact .plain name rest before _ _ same found (ih before enough)
      | some reads =>
          by_cases old : name ∈ before
          · simp only [if_pos old]
            exact .again name rest reads before _ _ same found old (ih before enough)
          simp only [if_neg old]
          have member : name ∈ g.precedents := by
            rw [Std.ExtTreeMap.mem_iff_isSome_getElem?, found]
            rfl
          have fewer := unseen_insert g before name member old
          have inner := below _ (Nat.lt_of_lt_of_le fewer enough) reads.toList (before.insert name) (Nat.le_refl _)
          cases deep : deeper reads.toList (before.insert name) with
          | mk way middle =>
              rw [deep] at inner
              cases way with
              | some way => exact .through name rest reads before middle way same found old inner
              | none =>
                  have kept := searches_kept g target _ _ middle none inner
                  have less := (unseen_sublist g before middle fun other inBefore =>
                    kept other (by simp [inBefore])).length_le
                  exact .back name rest reads before middle _ _ same found old inner
                    (ih middle (Nat.le_trans less enough))

theorem way_unbounded (g : DependencyGraph) (target : String) (depth : Nat) :
    g.Unbounded target depth (way g target depth) := by
  induction depth with
  | zero => exact first_way_unbounded g target _ 0 (by simp)
  | succ depth ih =>
      refine first_way_unbounded g target _ (depth + 1) ?_
      intro less bound names before enough
      exact ih names before (Nat.le_trans enough (Nat.le_of_lt_succ bound))

theorem cycle_searches (g : DependencyGraph) (field : String) (names : Names) :
    ∃ way seen, g.Searches field names.toList ∅ way seen ∧ g.cycle? field names = way.map (field :: ·) :=
  ⟨_, _, way_unbounded g field g.size names.toList ∅
    (Nat.le_trans (List.length_filter_le _ _) (Nat.le_of_eq (by simp [size]))), rfl⟩

theorem reads_instead (g : DependencyGraph) (field reader name : String) (names : Names) :
    (g.insert field names).Reads reader name ↔ g.ReadsInstead field names reader name := by
  by_cases same : reader = field
  · subst same
    rw [insert_reads_here, ReadsInstead, if_pos rfl]
  · rw [insert_reads_elsewhere g field reader name names same, ReadsInstead, if_neg same]

-- By induction on the search: a way that it finds goes on from whoever reads the names that it was given, and
-- the fields before the target are different ones that were not seen before.
theorem searches_way (g : DependencyGraph) (target : String) (proposed : Names) (names : List String)
    (before after : Names) (way : List String) (search : g.Searches target names before (some way) after) :
    ∃ between, way = between ++ [target] ∧ between.Nodup ∧
      (∀ name ∈ between, name ∉ before ∧ g.contains name = true ∧ name ≠ target) ∧
      ∀ reader, (∀ name ∈ names, g.ReadsInstead target proposed reader name) →
        (reader :: way).IsChain (g.ReadsInstead target proposed) := by
  generalize result : some way = found at search
  induction search generalizing way with
  | nothing seen => cases result
  | target rest seen =>
      cases result
      refine ⟨[], rfl, List.nodup_nil, by simp, ?_⟩
      intro reader reads
      exact .cons_cons (reads target List.mem_cons_self) (.singleton target)
  | plain name rest seen after found different absent tail ih =>
      obtain ⟨between, shape, nodup, others, edges⟩ := ih way result
      exact ⟨between, shape, nodup, others, fun reader reads =>
        edges reader fun read member => reads read (List.mem_cons_of_mem name member)⟩
  | again name rest names seen after found different isFound old tail ih =>
      obtain ⟨between, shape, nodup, others, edges⟩ := ih way result
      exact ⟨between, shape, nodup, others, fun reader reads =>
        edges reader fun read member => reads read (List.mem_cons_of_mem name member)⟩
  | through name rest names seen after inner different found fresh deeper ih =>
      cases result
      obtain ⟨between, shape, nodup, others, edges⟩ := ih inner rfl
      have formulaField : g.contains name = true := by
        rw [contains, Std.ExtTreeMap.contains_eq_isSome_getElem?, found]
        rfl
      have apart : name ∉ between := fun member => (others name member).1 (by simp)
      refine ⟨name :: between, by rw [shape, List.cons_append], List.nodup_cons.mpr ⟨apart, nodup⟩, ?_, ?_⟩
      · refine List.forall_mem_cons.mpr ⟨⟨fresh, formulaField, different⟩, ?_⟩
        intro other member
        obtain ⟨away, isField, notTarget⟩ := others other member
        exact ⟨fun old => away (by simp [old]), isField, notTarget⟩
      · intro reader reads
        refine .cons_cons (reads name List.mem_cons_self) (edges name ?_)
        intro read member
        rw [ReadsInstead, if_neg different]
        exact ⟨names, found, Std.ExtTreeSet.mem_toList.mp member⟩
  | back name rest names seen middle after found different isFound fresh deeper tail ihDeeper ihTail =>
      obtain ⟨between, shape, nodup, others, edges⟩ := ihTail way result
      have kept := searches_kept g target _ _ middle none deeper
      refine ⟨between, shape, nodup, ?_, fun reader reads =>
        edges reader fun read member => reads read (List.mem_cons_of_mem name member)⟩
      intro other member
      obtain ⟨away, rest⟩ := others other member
      exact ⟨fun old => away (kept other (by simp [old])), rest⟩

theorem closes_returns (g : DependencyGraph) (field : String) (names : Names) (between : List String)
    (closes : g.Closes field names between) : TransGen (g.insert field names).Reads field field := by
  have edges : (field :: (between ++ [field])).IsChain (g.insert field names).Reads :=
    closes.edges.imp fun reader name => (reads_instead g field reader name names).mpr
  cases between with
  | nil => exact .single (List.isChain_pair.mp edges)
  | cons first rest =>
      obtain ⟨edge, onward⟩ := List.isChain_cons_cons.mp edges
      exact .head' edge (List.relationReflTransGen_of_exists_isChain_cons (rest ++ [field]) onward (by simp))

theorem cycle_found_where_closed (g : DependencyGraph) (field : String) (names : Names) :
    match g.cycle? field names with
    | some cycle => ∃ between, cycle = field :: between ++ [field] ∧ between.Nodup ∧ g.Closes field names between
    | none => ∀ between, ¬ g.Closes field names between := by
  obtain ⟨way, seen, search, result⟩ := cycle_searches g field names
  cases way with
  | none =>
      rw [result]
      exact fun between closes => no_cycle_no_return g field names result (closes_returns g field names between closes)
  | some way =>
      rw [result]
      obtain ⟨between, rfl, nodup, others, edges⟩ := searches_way g field names names.toList ∅ seen way search
      refine ⟨between, rfl, nodup, fun name member => (others name member).2, edges field ?_⟩
      intro name member
      rw [ReadsInstead, if_pos rfl]
      exact Std.ExtTreeSet.mem_toList.mp member

-- The search leaves the cycle of X and Y, which A does not belong to, for the way back to A.
example :
    let reads (g : DependencyGraph) (entry : String × List String) := g.insert entry.1 (Names.ofList entry.2)
    ([("B", ["X", "A"]), ("X", ["X", "Y"]), ("Y", ["X"])].foldl reads ∅).cycle? "A" (Names.ofList ["B"]) =
      some ["A", "B", "A"] := by
  decide +kernel

end FormulaField.DependencyGraph
