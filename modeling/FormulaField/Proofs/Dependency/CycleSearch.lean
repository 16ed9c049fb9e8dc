import FormulaField.Proofs.Dependency.Reads
import Mathlib.Data.List.Basic

/-!
The search for a cycle misses none and invents none. A search that comes back without a way has seen
every formula field that it could reach, and the target is not among the names that these read; so the
edges that were searched for close no cycle. A way that it comes back with leads to the target by edges
of the graph.
-/

set_option autoImplicit false

namespace FormulaField.DependencyGraph

open Relation (TransGen ReflTransGen)

def Settled (g : DependencyGraph) (target : String) (seen : Names) (name : String) : Prop :=
  name ≠ target ∧ (name ∈ g.precedents → name ∈ seen)

-- What a search owes that ends without a way: it forgets nothing, and it settles the names that it
-- was given and all that the newly seen fields read.
structure Exhausted (g : DependencyGraph) (target : String) (names : List String) (before after : Names) :
    Prop where
  kept : ∀ name ∈ before, name ∈ after
  given : ∀ name ∈ names, g.Settled target after name
  read : ∀ field ∈ after, field ∉ before → ∀ name, g.Reads field name → g.Settled target after name

def unseen (g : DependencyGraph) (seen : Names) : List String :=
  g.precedents.keys.filter (· ∉ seen)

def Exhaustive (g : DependencyGraph) (target : String) (room : Nat) (search : Search) : Prop :=
  ∀ names before after, (g.unseen before).length ≤ room → search names before = (none, after) →
    g.Exhausted target names before after

theorem settled_mono (g : DependencyGraph) (target name : String) (before after : Names)
    (settled : g.Settled target before name) (kept : ∀ name ∈ before, name ∈ after) :
    g.Settled target after name :=
  ⟨settled.1, fun member => kept name (settled.2 member)⟩

theorem unseen_sublist (g : DependencyGraph) (before after : Names) (kept : ∀ name ∈ before, name ∈ after) :
    List.Sublist (g.unseen after) (g.unseen before) := by
  apply List.monotone_filter_right
  intro name notAfter
  simp only [decide_eq_true_eq] at notAfter ⊢
  exact fun member => notAfter (kept name member)

theorem unseen_insert (g : DependencyGraph) (seen : Names) (name : String) (member : name ∈ g.precedents)
    (fresh : name ∉ seen) : (g.unseen (seen.insert name)).length < (g.unseen seen).length := by
  have fewer := unseen_sublist g seen (seen.insert name) (fun other inSeen => by simp [inSeen])
  refine Nat.lt_of_le_of_ne fewer.length_le ?_
  intro sameLength
  have here : name ∈ g.unseen seen := by
    simpa only [unseen, List.mem_filter, Std.ExtTreeMap.mem_keys, decide_eq_true_eq] using And.intro member fresh
  rw [← fewer.eq_of_length sameLength] at here
  simp [unseen] at here

theorem exhausted_nil (g : DependencyGraph) (target : String) (seen : Names) :
    g.Exhausted target [] seen seen :=
  ⟨fun _ member => member, by simp, fun _ now before => absurd now before⟩

theorem exhausted_skip (g : DependencyGraph) (target name : String) (rest : List String) (before after : Names)
    (settled : g.Settled target before name) (tail : g.Exhausted target rest before after) :
    g.Exhausted target (name :: rest) before after := by
  refine ⟨tail.kept, ?_, tail.read⟩
  intro other member
  rcases List.mem_cons.mp member with same | later
  · subst same
    exact settled_mono g target other before after settled tail.kept
  · exact tail.given other later

theorem exhausted_enter (g : DependencyGraph) (target name : String) (names : Names) (rest : List String)
    (before middle after : Names) (different : name ≠ target) (found : g.precedents[name]? = some names)
    (deeper : g.Exhausted target names.toList (before.insert name) middle)
    (tail : g.Exhausted target rest middle after) : g.Exhausted target (name :: rest) before after := by
  have entered : name ∈ middle := deeper.kept name (by simp)
  refine ⟨fun other member => tail.kept other (deeper.kept other (by simp [member])), ?_, ?_⟩
  · intro other member
    rcases List.mem_cons.mp member with same | later
    · subst same
      exact ⟨different, fun _ => tail.kept other entered⟩
    · exact tail.given other later
  · intro field now notBefore read edge
    by_cases inMiddle : field ∈ middle
    · refine settled_mono g target read middle after ?_ tail.kept
      by_cases same : field = name
      · subst same
        obtain ⟨own, ownFound, member⟩ := edge
        have sameNames : own = names := Option.some.inj (ownFound.symm.trans found)
        subst sameNames
        exact deeper.given read (by simpa using member)
      · refine deeper.read field inMiddle ?_ read edge
        simp only [Std.ExtTreeSet.mem_insert, not_or]
        exact ⟨fun equal => same (Std.LawfulEqCmp.eq_of_compare equal).symm, notBefore⟩
    · exact tail.read field now inMiddle read edge

theorem first_way_exhaustive (g : DependencyGraph) (target : String) (deeper : Search) (room : Nat)
    (below : ∀ less < room, g.Exhaustive target less deeper) :
    g.Exhaustive target room (firstWay g target deeper) := by
  intro names
  induction names with
  | nil =>
      intro before after _ ended
      cases ended
      exact exhausted_nil g target before
  | cons name rest ih =>
      intro before after enough ended
      rw [firstWay] at ended
      by_cases same : name = target
      · simp [same] at ended
      rw [if_neg same] at ended
      cases found : g.precedents[name]? with
      | none =>
          simp only [found] at ended
          refine exhausted_skip g target name rest before after ⟨same, ?_⟩ (ih before after enough ended)
          intro member
          rw [Std.ExtTreeMap.mem_iff_isSome_getElem?, found] at member
          cases member
      | some reads =>
          simp only [found] at ended
          by_cases seen : name ∈ before
          · rw [if_pos seen] at ended
            exact exhausted_skip g target name rest before after ⟨same, fun _ => seen⟩
              (ih before after enough ended)
          · rw [if_neg seen] at ended
            have member : name ∈ g.precedents := by
              rw [Std.ExtTreeMap.mem_iff_isSome_getElem?, found]
              rfl
            have fewer := unseen_insert g before name member seen
            cases deep : deeper reads.toList (before.insert name) with
            | mk way middle =>
                rw [deep] at ended
                cases way with
                | some way => simp at ended
                | none =>
                    have inner := below _ (Nat.lt_of_lt_of_le fewer enough) reads.toList _ middle
                      (Nat.le_refl _) deep
                    have less := (unseen_sublist g before middle
                      (fun other inBefore => inner.kept other (by simp [inBefore]))).length_le
                    exact exhausted_enter g target name reads rest before middle after same found inner
                      (ih middle after (Nat.le_trans less enough) ended)

theorem way_exhaustive (g : DependencyGraph) (target : String) (depth : Nat) :
    g.Exhaustive target depth (way g target depth) := by
  induction depth with
  | zero => exact first_way_exhaustive g target _ 0 (by simp)
  | succ depth ih =>
      refine first_way_exhaustive g target _ (depth + 1) ?_
      intro less bound names before after enough
      exact ih names before after (Nat.le_trans enough (Nat.le_of_lt_succ bound))

theorem no_cycle_exhausted (g : DependencyGraph) (field : String) (names : Names)
    (none : g.cycle? field names = none) : ∃ seen, g.Exhausted field names.toList ∅ seen := by
  have noWay : (way g field g.size names.toList ∅).1 = Option.none := by
    simpa [cycle?] using none
  refine ⟨(way g field g.size names.toList ∅).2,
    way_exhaustive g field g.size names.toList ∅ _ ?_ (Prod.ext noWay rfl)⟩
  exact Nat.le_trans (List.length_filter_le _ _) (Nat.le_of_eq (by simp [size]))

theorem no_cycle_no_return (g : DependencyGraph) (field : String) (names : Names)
    (none : g.cycle? field names = none) : ¬ TransGen (g.insert field names).Reads field field := by
  obtain ⟨seen, exhausted⟩ := no_cycle_exhausted g field names none
  have settled : ∀ name, TransGen (g.insert field names).Reads field name → g.Settled field seen name := by
    intro name way
    induction way with
    | single edge =>
        rw [insert_reads_here] at edge
        exact exhausted.given _ (by simpa using edge)
    | @tail middle last _ edge ih =>
        rw [insert_reads_elsewhere g field middle last names ih.1] at edge
        exact exhausted.read middle (ih.2 (reads_formula_field g middle last edge)) (by simp) last edge
  intro way
  exact (settled field way).1 rfl

theorem checked_insert_acyclic (g : DependencyGraph) (field : String) (names : Names) (acyclic : g.Acyclic)
    (none : g.cycle? field names = none) : (g.insert field names).Acyclic :=
  insert_acyclic g field names acyclic (no_cycle_no_return g field names none)

-- A way from one of some names to the target, on which each name before the target is read from the
-- graph.
inductive Leads (g : DependencyGraph) (target : String) : List String → List String → Prop
  | here (names : List String) (member : target ∈ names) : Leads g target names [target]
  | through (names : List String) (name : String) (reads : Names) (way : List String) (member : name ∈ names)
      (different : name ≠ target) (found : g.precedents[name]? = some reads)
      (onward : Leads g target reads.toList way) : Leads g target names (name :: way)

theorem leads_mono (g : DependencyGraph) (target : String) (few many way : List String)
    (leads : g.Leads target few way) (kept : ∀ name ∈ few, name ∈ many) : g.Leads target many way := by
  cases leads with
  | here _ member => exact .here many (kept _ member)
  | through _ name reads way member different found onward =>
      exact .through many name reads way (kept name member) different found onward

def Sound (g : DependencyGraph) (target : String) (search : Search) : Prop :=
  ∀ names before after way, search names before = (some way, after) → g.Leads target names way

theorem first_way_sound (g : DependencyGraph) (target : String) (deeper : Search)
    (below : g.Sound target deeper) : g.Sound target (firstWay g target deeper) := by
  intro names
  induction names with
  | nil =>
      intro before after way found
      cases found
  | cons name rest ih =>
      intro before after way found
      have later : ∀ before after, firstWay g target deeper rest before = (some way, after) →
          g.Leads target (name :: rest) way := fun before after tail =>
        leads_mono g target rest _ way (ih before after way tail) (fun _ member => List.mem_cons_of_mem name member)
      rw [firstWay] at found
      by_cases same : name = target
      · subst same
        rw [if_pos rfl] at found
        cases found
        exact .here _ List.mem_cons_self
      rw [if_neg same] at found
      cases reads : g.precedents[name]? with
      | none =>
          simp only [reads] at found
          exact later before after found
      | some names =>
          simp only [reads] at found
          by_cases seen : name ∈ before
          · rw [if_pos seen] at found
            exact later before after found
          · rw [if_neg seen] at found
            cases deep : deeper names.toList (before.insert name) with
            | mk inner middle =>
                rw [deep] at found
                cases inner with
                | none => exact later middle after found
                | some inner =>
                    cases found
                    exact .through _ name names inner (by simp) same reads (below _ _ _ inner deep)

theorem way_sound (g : DependencyGraph) (target : String) (depth : Nat) : g.Sound target (way g target depth) := by
  induction depth with
  | zero => exact first_way_sound g target _ (fun _ _ _ _ found => nomatch found)
  | succ depth ih => exact first_way_sound g target _ ih

theorem leads_reads (g : DependencyGraph) (target : String) (given : Names) (names way : List String)
    (leads : g.Leads target names way) :
    ∃ name ∈ names, ReflTransGen (g.insert target given).Reads name target := by
  induction leads with
  | here names member => exact ⟨target, member, .refl⟩
  | through names name reads way member different found onward ih =>
      obtain ⟨next, inReads, rest⟩ := ih
      refine ⟨name, member, .head ?_ rest⟩
      rw [insert_reads_elsewhere g target name next given different]
      exact ⟨reads, found, Std.ExtTreeSet.mem_toList.mp inReads⟩

theorem cycle_returns (g : DependencyGraph) (field : String) (names : Names) (cycle : List String)
    (found : g.cycle? field names = some cycle) : TransGen (g.insert field names).Reads field field := by
  obtain ⟨way, searched, rfl⟩ := Option.map_eq_some_iff.mp found
  have leads := way_sound g field g.size names.toList ∅ _ way (Prod.ext searched rfl)
  obtain ⟨name, member, rest⟩ := leads_reads g field names _ way leads
  refine TransGen.head' ?_ rest
  rw [insert_reads_here]
  exact Std.ExtTreeSet.mem_toList.mp member

end FormulaField.DependencyGraph
