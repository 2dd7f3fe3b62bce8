import TextDiagram.Layout.Hierarchy.Forest
import TextDiagram.Proofs.Hierarchy.Ancestors

/-!
# Whole forests

A forest is grown to a fixed depth. Main statements: the number of nodes is deep enough, so that the
forest of some siblings holds all that lies in them, and no node stands in it twice.
-/
namespace TextDiagram.Hierarchy

namespace Forest

variable {β : Type} {inside : β → List β}

/-- The forest of these siblings, each with all that `inside` says it holds. -/
inductive Unfolds (inside : β → List β) : List β → Forest β → Prop where
  | nil : Unfolds inside [] .nil
  | cons {value : β} {rest : List β} {held after : Forest β} :
      Unfolds inside (inside value) held → Unfolds inside rest after →
        Unfolds inside (value :: rest) (.cons value held after)

theorem Unfolds.unique {siblings : List β} {forest other : Forest β}
    (unfolds : Unfolds inside siblings forest) (also : Unfolds inside siblings other) :
    forest = other := by
  induction unfolds generalizing other with
  | nil =>
    cases also
    rfl
  | cons _ _ held_unique after_unique =>
    cases also with
    | cons held after => rw [held_unique held, after_unique after]

/-- A forest is whole when it is grown deeper than any of its siblings is loaded. -/
theorem grow_unfolds (load : β → Nat)
    (lighter : ∀ value, ∀ held ∈ inside value, load held < load value)
    (depth : Nat) (siblings : List β) (bounded : ∀ value ∈ siblings, load value < depth) :
    Unfolds inside siblings (grow inside depth siblings) := by
  induction depth generalizing siblings with
  | zero =>
    cases siblings with
    | nil => exact .nil
    | cons value _ => exact absurd (bounded value List.mem_cons_self) (Nat.not_lt_zero _)
  | succ depth deeper =>
    unfold grow
    induction siblings with
    | nil => exact .nil
    | cons value rest ih =>
      rw [List.foldr_cons]
      refine .cons (deeper _ fun held member => ?_) (ih fun other member => ?_)
      · have light := lighter value held member
        have bound := bounded value List.mem_cons_self
        omega
      · exact bounded other (List.mem_cons_of_mem value member)

end Forest

/-! ### The forest of groups -/

variable {n : Nat} {up? : Fin n → Option (Fin n)}

open Forest

theorem Acyclic.grow_unfolds (acyclic : Acyclic up?) (siblings : List (Fin n)) :
    Unfolds (children up?) siblings (grow (children up?) n siblings) := by
  apply Forest.grow_unfolds (load up?)
  · intro parent child member
    exact load_lt_of_parent acyclic (mem_children.mp member)
  · intro i _
    exact load_lt acyclic i

/-- A forest holds the nodes that are under one of its siblings. -/
theorem mem_values {siblings : List (Fin n)} {forest : Forest (Fin n)}
    (unfolds : Unfolds (children up?) siblings forest) (i : Fin n) :
    i ∈ forest.values ↔ ∃ top ∈ siblings, Under up? i top := by
  induction unfolds with
  | nil => simp [values]
  | @cons value rest held after _ _ in_held in_after =>
    simp only [values, List.mem_cons, List.mem_append, in_held, in_after, exists_eq_or_imp]
    refine Iff.trans or_assoc.symm (or_congr_left ?_)
    rw [Under, Relation.ReflTransGen.cases_tail_iff, eq_comm]
    simp only [mem_children, IsParent, and_comm]

theorem Acyclic.values_nodup (acyclic : Acyclic up?) {siblings : List (Fin n)}
    {forest : Forest (Fin n)}
    (unfolds : Unfolds (children up?) siblings forest) (distinct : siblings.Nodup)
    (common : Option (Fin n)) (have_common : ∀ i ∈ siblings, up? i = common) :
    forest.values.Nodup := by
  induction unfolds generalizing common with
  | nil => exact List.nodup_nil
  | @cons value rest held after held_unfolds after_unfolds held_nodup after_nodup =>
    obtain ⟨not_among, rest_distinct⟩ := List.nodup_cons.mp distinct
    have children_common : ∀ i ∈ children up? value, up? i = some value :=
      fun i member => mem_children.mp member
    -- What is held by the first sibling is under it, and nothing is under two siblings.
    have held_within {i : Fin n} (member : i ∈ held.values) : Within up? i value := by
      obtain ⟨child, is_child, under⟩ := (mem_values held_unfolds i).mp member
      exact .tail' under (mem_children.mp is_child)
    have after_apart {i : Fin n} (member : i ∈ after.values) : ¬ Under up? i value := by
      intro under_value
      obtain ⟨top, among, under⟩ := (mem_values after_unfolds i).mp member
      have siblings_agree : up? value = up? top :=
        (have_common value List.mem_cons_self).trans
          (have_common top (List.mem_cons_of_mem value among)).symm
      exact not_among (acyclic.sibling_unique under_value under siblings_agree ▸ among)
    rw [values, List.nodup_cons, List.mem_append, List.nodup_append']
    have rest_common := fun i member => have_common i (List.mem_cons_of_mem value member)
    refine ⟨?_, held_nodup (children_nodup up? value) _ children_common,
      after_nodup rest_distinct common rest_common, ?_⟩
    · rintro (in_held | in_after)
      · exact acyclic value (held_within in_held)
      · exact after_apart in_after .refl
    · exact fun i in_held in_after => after_apart in_after (held_within in_held).to_reflTransGen

end TextDiagram.Hierarchy
