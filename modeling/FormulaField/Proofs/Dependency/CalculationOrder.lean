import FormulaField.Dependency.Order
import FormulaField.Proofs.Dependency.Reads
import Mathlib.Data.List.Nodup
import Mathlib.Data.List.Perm.Subperm

set_option autoImplicit false

namespace FormulaField.DependencyGraph

open Relation (TransGen)

-- The latest first: each field has behind it the formula fields that it reads, except those that
-- read it back.
def Follows (g : DependencyGraph) : List String → Prop
  | [] => True
  | field :: earlier =>
      (∀ name, g.Reads field name → name ∈ g.precedents → name ∈ earlier ∨ TransGen g.Reads name field) ∧
        g.Follows earlier

structure Extends (g : DependencyGraph) (path before after : List String) : Prop where
  kept : ∀ name ∈ before, name ∈ after
  added : ∀ name ∈ after, name ∈ before ∨ name ∈ g.precedents ∧ name ∉ path
  nodup : before.Nodup → after.Nodup
  follows : g.Follows before → g.Follows after

theorem extends_refl (g : DependencyGraph) (path fields : List String) : g.Extends path fields fields :=
  ⟨fun _ member => member, fun _ member => .inl member, id, id⟩

theorem extends_trans (g : DependencyGraph) (path before middle after : List String)
    (first : g.Extends path before middle) (second : g.Extends path middle after) :
    g.Extends path before after := by
  refine ⟨fun name member => second.kept name (first.kept name member), ?_,
    fun nodup => second.nodup (first.nodup nodup), fun follows => second.follows (first.follows follows)⟩
  intro name member
  rcases second.added name member with inMiddle | fresh
  · exact first.added name inMiddle
  · exact .inr fresh

structure Waiting (g : DependencyGraph) (path : List String) (field : String) : Prop where
  nodup : path.Nodup
  inside : ∀ name ∈ path, name ∈ g.precedents
  reading : ∀ name ∈ path, TransGen g.Reads name field

theorem waiting_length (g : DependencyGraph) (path : List String) (field : String)
    (waiting : g.Waiting path field) : path.length ≤ g.size := by
  have inKeys : path ⊆ g.precedents.keys := fun name member =>
    Std.ExtTreeMap.mem_keys.mpr (waiting.inside name member)
  simpa [size] using (List.subperm_of_subset waiting.nodup inKeys).length_le

theorem waiting_deeper (g : DependencyGraph) (path : List String) (field name : String)
    (waiting : g.Waiting path field) (fresh : field ∉ path) (edge : g.Reads field name) :
    g.Waiting (field :: path) name := by
  refine ⟨List.nodup_cons.mpr ⟨fresh, waiting.nodup⟩, ?_, ?_⟩
  · intro other member
    rcases List.mem_cons.mp member with same | older
    · exact same ▸ reads_formula_field g field name edge
    · exact waiting.inside other older
  · intro other member
    rcases List.mem_cons.mp member with same | older
    · exact same ▸ .single edge
    · exact (waiting.reading other older).tail edge

-- What a step owes that finishes one field.
def Finishes (g : DependencyGraph) (path : List String) (step : List String → String → List String)
    (field : String) : Prop :=
  ∀ done, g.Extends path done (step done field) ∧
    (field ∈ g.precedents → field ∈ step done field ∨ field ∈ path)

theorem finishes_all (g : DependencyGraph) (path : List String) (step : List String → String → List String)
    (names : List String) (each : ∀ name ∈ names, g.Finishes path step name) (done : List String) :
    g.Extends path done (names.foldl step done) ∧
      ∀ name ∈ names, name ∈ g.precedents → name ∈ names.foldl step done ∨ name ∈ path := by
  induction names generalizing done with
  | nil => exact ⟨extends_refl g path done, by simp⟩
  | cons first rest ih =>
      obtain ⟨here, finished⟩ := each first (by simp) done
      obtain ⟨later, all⟩ := ih (fun name member => each name (by simp [member])) (step done first)
      refine ⟨extends_trans g path done _ _ here later, ?_⟩
      intro name member formulaField
      rcases List.mem_cons.mp member with same | inRest
      · subst same
        exact (finished formulaField).imp (later.kept name) id
      · exact all name inRest formulaField

theorem extends_cons (g : DependencyGraph) (path before after : List String) (field : String)
    (formulaField : field ∈ g.precedents) (fresh : field ∉ before) (waiting : g.Waiting path field)
    (offPath : field ∉ path) (inner : g.Extends (field :: path) before after)
    (read : ∀ name, g.Reads field name → name ∈ g.precedents → name ∈ after ∨ name ∈ field :: path) :
    g.Extends path before (field :: after) := by
  have notInside : field ∉ after := by
    intro member
    rcases inner.added field member with old | ⟨_, away⟩
    · exact fresh old
    · exact away (by simp)
  refine ⟨fun name member => List.mem_cons_of_mem field (inner.kept name member), ?_,
    fun nodup => List.nodup_cons.mpr ⟨notInside, inner.nodup nodup⟩, fun follows => ⟨?_, inner.follows follows⟩⟩
  · intro name member
    rcases List.mem_cons.mp member with same | inAfter
    · exact .inr ⟨same ▸ formulaField, same ▸ offPath⟩
    · rcases inner.added name inAfter with old | ⟨inside, away⟩
      · exact .inl old
      · exact .inr ⟨inside, fun onPath => away (List.mem_cons_of_mem field onPath)⟩
  · intro name edge inside
    rcases read name edge inside with earlier | onPath
    · exact .inl earlier
    · rcases List.mem_cons.mp onPath with same | older
      · subst same
        exact .inr (.single edge)
      · exact .inr (waiting.reading name older)

theorem finish_finishes (g : DependencyGraph) (depth : Nat) (path : List String) (field : String)
    (room : g.size < depth + path.length) (waiting : g.Waiting path field) :
    g.Finishes path (finish g depth path) field := by
  induction depth generalizing path field with
  | zero =>
      have bound := waiting_length g path field waiting
      omega
  | succ depth ih =>
      intro done
      by_cases skip : field ∈ done ∨ field ∈ path
      · rw [finish, if_pos skip]
        exact ⟨extends_refl g path done, fun _ => skip⟩
      obtain ⟨fresh, offPath⟩ := not_or.mp skip
      rw [finish, if_neg skip]
      cases found : g.precedents[field]? with
      | none =>
          refine ⟨extends_refl g path done, fun formulaField => ?_⟩
          obtain ⟨names, present⟩ := formula_field_precedents g field formulaField
          simp [found] at present
      | some names =>
          have edge : ∀ name ∈ names.toList, g.Reads field name := fun name member =>
            ⟨names, found, Std.ExtTreeSet.mem_toList.mp member⟩
          have each : ∀ name ∈ names.toList, g.Finishes (field :: path) (finish g depth (field :: path)) name := by
            intro name member
            refine ih (field :: path) name ?_ (waiting_deeper g path field name waiting offPath (edge name member))
            simp only [List.length_cons]
            omega
          obtain ⟨inner, all⟩ := finishes_all g (field :: path) _ names.toList each done
          have formulaField : field ∈ g.precedents := by
            rw [Std.ExtTreeMap.mem_iff_isSome_getElem?, found]
            rfl
          refine ⟨extends_cons g path done _ field formulaField fresh waiting offPath inner ?_, fun _ => .inl (by simp)⟩
          rintro name ⟨own, ownFound, member⟩ inside
          have same : own = names := Option.some.inj (ownFound.symm.trans found)
          subst same
          exact all name (Std.ExtTreeSet.mem_toList.mpr member) inside

theorem finished_all (g : DependencyGraph) :
    g.Extends [] [] (g.precedents.keys.foldl (finish g (g.size + 1) []) []) ∧
      ∀ name ∈ g.precedents.keys, name ∈ g.precedents →
        name ∈ g.precedents.keys.foldl (finish g (g.size + 1) []) [] ∨ name ∈ ([] : List String) := by
  apply finishes_all
  intro name _
  exact finish_finishes g (g.size + 1) [] name (by simp) ⟨List.nodup_nil, by simp, by simp⟩

theorem calculation_order_nodup (g : DependencyGraph) : g.calculationOrder.Nodup :=
  List.nodup_reverse.mpr ((finished_all g).1.nodup List.nodup_nil)

theorem mem_calculation_order (g : DependencyGraph) (name : String) :
    name ∈ g.calculationOrder ↔ name ∈ g.precedents := by
  obtain ⟨all, finished⟩ := finished_all g
  rw [calculationOrder, List.mem_reverse]
  constructor
  · intro member
    rcases all.added name member with old | ⟨inside, _⟩
    · simp at old
    · exact inside
  · intro inside
    simpa using finished name (Std.ExtTreeMap.mem_keys.mpr inside) inside

theorem follows_read_back (g : DependencyGraph) (fields : List String) (field earlier : String)
    (follows : g.Follows fields) (away : field ∉ fields) (member : earlier ∈ fields)
    (edge : g.Reads earlier field) (inside : field ∈ g.precedents) : TransGen g.Reads field earlier := by
  induction fields with
  | nil => simp at member
  | cons next rest ih =>
      have awayRest : field ∉ rest := fun inRest => away (List.mem_cons_of_mem next inRest)
      rcases List.mem_cons.mp member with same | inRest
      · subst same
        exact (follows.1 field edge inside).resolve_left awayRest
      · exact ih follows.2 awayRest inRest

theorem follows_pairwise (g : DependencyGraph) (fields : List String) (follows : g.Follows fields)
    (nodup : fields.Nodup) :
    fields.Pairwise fun later earlier =>
      g.Reads earlier later → later ∈ g.precedents → TransGen g.Reads later earlier := by
  induction fields with
  | nil => exact .nil
  | cons field rest ih =>
      obtain ⟨away, restNodup⟩ := List.nodup_cons.mp nodup
      exact .cons (fun earlier member => follows_read_back g rest field earlier follows.2 away member)
        (ih follows.2 restNodup)

theorem calculation_order_pairwise (g : DependencyGraph) :
    g.calculationOrder.Pairwise fun earlier later =>
      g.Reads earlier later → later ∈ g.precedents → TransGen g.Reads later earlier := by
  have all := (finished_all g).1
  exact List.pairwise_reverse.mpr (follows_pairwise g _ (all.follows trivial) (all.nodup List.nodup_nil))

theorem acyclic_order_pairwise (g : DependencyGraph) (acyclic : g.Acyclic) :
    g.calculationOrder.Pairwise fun earlier later => ¬ g.Reads earlier later := by
  refine (calculation_order_pairwise g).imp_of_mem ?_
  intro earlier later _ laterMember back edge
  have inside := (mem_calculation_order g later).mp laterMember
  exact acyclic later ((back edge inside).tail edge)

-- Induction along the edges: a property holds of every name if it holds of a field as soon as it holds of all that
-- the field reads.
theorem acyclic_induction (g : DependencyGraph) (acyclic : g.Acyclic) (property : String → Prop)
    (step : ∀ field, (∀ name, g.Reads field name → property name) → property field) (field : String) :
    property field := by
  have plain : ∀ name, name ∉ g.precedents → property name := fun name outside =>
    step name fun read edge => absurd (reads_formula_field g name read edge) outside
  have listed : ∀ fields, g.Follows fields → ∀ name ∈ fields, property name := by
    intro fields follows
    induction fields with
    | nil => simp
    | cons first earlier ih =>
        have before := ih follows.2
        refine List.forall_mem_cons.mpr ⟨step first ?_, before⟩
        intro name edge
        by_cases inside : name ∈ g.precedents
        · exact before name ((follows.1 name edge inside).resolve_right fun back => acyclic name (back.tail edge))
        · exact plain name inside
  by_cases inside : field ∈ g.precedents
  · have member := List.mem_reverse.mp ((mem_calculation_order g field).mpr inside)
    exact listed _ ((finished_all g).1.follows trivial) field member
  · exact plain field inside

end FormulaField.DependencyGraph
