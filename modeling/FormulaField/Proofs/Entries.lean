import Std.Data.ExtTreeMap
import Mathlib.Data.List.Forall2
import Mathlib.Data.List.Perm.Basic

set_option autoImplicit false

namespace FormulaField

variable {α : Type}

def insertAll (entries : List (String × α)) : Std.ExtTreeMap String α :=
  entries.foldl (fun m entry => m.insert entry.1 entry.2) ∅

def InOrder (entries : List (String × α)) : Prop := entries.Pairwise fun a b => compare a.1 b.1 = .lt

theorem erase_absent (m : Std.ExtTreeMap String α) (name : String) (absent : name ∉ m) : m.erase name = m := by
  apply Std.ExtTreeMap.ext_getElem?
  intro other
  rw [Std.ExtTreeMap.getElem?_erase]
  split
  next same => rw [← Std.LawfulEqCmp.eq_of_compare same, Std.ExtTreeMap.getElem?_eq_none absent]
  next => rfl

theorem insert_all_member (entries : List (String × α)) (distinct : entries.Pairwise fun a b => ¬ compare a.1 b.1 = .eq)
    (name : String) (v : α) (member : (name, v) ∈ entries) : (insertAll entries)[name]? = some v := by
  rw [insertAll, ← Std.ExtTreeMap.insertMany_list_eq_foldl]
  exact Std.ExtTreeMap.getElem?_insertMany_list_of_mem (Std.ReflCmp.compare_self) distinct member

theorem insert_all_absent (entries : List (String × α)) (name : String) (absent : name ∉ entries.map Prod.fst) :
    (insertAll entries)[name]? = none := by
  rw [insertAll, ← Std.ExtTreeMap.insertMany_list_eq_foldl,
    Std.ExtTreeMap.getElem?_insertMany_list_of_contains_eq_false, Std.ExtTreeMap.getElem?_empty]
  simpa using absent

theorem insert_all_names (entries : List (String × α)) (name : String) :
    name ∈ insertAll entries ↔ name ∈ entries.map Prod.fst := by
  rw [insertAll, ← Std.ExtTreeMap.insertMany_list_eq_foldl, Std.ExtTreeMap.mem_insertMany_list]
  simp

theorem insert_all_perm (m : Std.ExtTreeMap String α) (entries : List (String × α))
    (perm : entries.Perm m.toList) : insertAll entries = m := by
  have distinct : entries.Pairwise fun a b => ¬ compare a.1 b.1 = .eq :=
    perm.symm.pairwise Std.ExtTreeMap.distinct_keys_toList (fun apart same => apart (Std.OrientedCmp.eq_symm same))
  apply Std.ExtTreeMap.ext_getElem?
  intro name
  cases found : m[name]? with
  | some v =>
      refine insert_all_member entries distinct name v ?_
      exact perm.mem_iff.mpr (Std.ExtTreeMap.mem_toList_iff_getElem?_eq_some.mpr found)
  | none =>
      apply insert_all_absent
      intro member
      obtain ⟨⟨_, v⟩, listed, rfl⟩ := List.mem_map.mp member
      rw [Std.ExtTreeMap.mem_toList_iff_getElem?_eq_some.mp (perm.mem_iff.mp listed)] at found
      cases found

theorem insert_all_entries (m : Std.ExtTreeMap String α) : insertAll m.toList = m :=
  insert_all_perm m m.toList (.refl _)

theorem in_order_distinct (entries : List (String × α)) (ordered : InOrder entries) :
    entries.Pairwise fun a b => ¬ compare a.1 b.1 = .eq :=
  ordered.imp fun before same => by
    rw [same] at before
    cases before

theorem in_order_nodup (entries : List (String × α)) (ordered : InOrder entries) : entries.Nodup := by
  refine (in_order_distinct entries ordered).imp ?_
  rintro a b apart rfl
  exact apart Std.ReflCmp.compare_self

theorem names_of_pairs {β : Type} {related : String × α → String × β → Prop} (entries : List (String × α))
    (others : List (String × β)) (pairs : List.Forall₂ related entries others) (same : ∀ a b, related a b → b.1 = a.1) :
    others.map Prod.fst = entries.map Prod.fst := by
  induction pairs with
  | nil => rfl
  | cons pair _ ih => rw [List.map_cons, List.map_cons, same _ _ pair, ih]

theorem in_order_of_names {β : Type} (entries : List (String × α)) (others : List (String × β))
    (names : others.map Prod.fst = entries.map Prod.fst) (ordered : InOrder entries) : InOrder others := by
  rw [InOrder, ← List.pairwise_map (f := Prod.fst) (R := fun a b => compare a b = .lt)] at ordered ⊢
  rwa [names]

theorem insert_all_in_order (entries : List (String × α)) (ordered : InOrder entries) :
    (insertAll entries).toList = entries := by
  have distinct := in_order_distinct entries ordered
  have own : InOrder (insertAll entries).toList := Std.ExtTreeMap.ordered_keys_toList
  have perm : (insertAll entries).toList.Perm entries := by
    refine (List.perm_ext_iff_of_nodup (in_order_nodup _ own) (in_order_nodup _ ordered)).mpr ?_
    rintro ⟨name, v⟩
    rw [Std.ExtTreeMap.mem_toList_iff_getElem?_eq_some]
    constructor
    · intro found
      by_cases listed : name ∈ entries.map Prod.fst
      · obtain ⟨⟨_, w⟩, member, rfl⟩ := List.mem_map.mp listed
        rw [insert_all_member entries distinct _ w member] at found
        cases found
        exact member
      · rw [insert_all_absent entries name listed] at found
        cases found
    · exact insert_all_member entries distinct name v
  refine perm.eq_of_pairwise ?_ own ordered
  intro a b _ _ before after
  have swapped : compare b.1 a.1 = (compare a.1 b.1).swap := Std.OrientedCmp.eq_swap
  rw [before, after] at swapped
  cases swapped

end FormulaField
