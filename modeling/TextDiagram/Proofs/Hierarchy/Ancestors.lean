import Mathlib.Data.Fintype.Card
import Mathlib.Dynamics.PeriodicPts.Lemmas
import TextDiagram.Layout.Hierarchy.Parents

/-!
# Ancestors

The ancestors of a node are the nodes that following parents comes to. Main statements: the test for
cycles finds exactly the nodes that are ancestors of themselves, so among effective parents there
are none; and two nodes that are not ancestors of one another stand in two different siblings.
-/
namespace TextDiagram.Hierarchy

variable {n : Nat} {up? : Fin n → Option (Fin n)}

def IsParent (up? : Fin n → Option (Fin n)) (child parent : Fin n) : Prop :=
  up? child = some parent

/-- The node lies in the ancestor, at any depth. -/
def Within (up? : Fin n → Option (Fin n)) : Fin n → Fin n → Prop :=
  Relation.TransGen (IsParent up?)

/-- The node is the ancestor or lies in it. -/
def Under (up? : Fin n → Option (Fin n)) : Fin n → Fin n → Prop :=
  Relation.ReflTransGen (IsParent up?)

/-- The node that a number of steps from parent to parent comes to. -/
def ascend (up? : Fin n → Option (Fin n)) : Nat → Fin n → Option (Fin n)
  | 0, i => some i
  | steps + 1, i => (up? i).bind (ascend up? steps)

theorem within_iff {i ancestor : Fin n} :
    Within up? i ancestor ↔ ∃ parent, up? i = some parent ∧ Under up? parent ancestor :=
  Relation.TransGen.head'_iff

theorem under_iff {i ancestor : Fin n} :
    Under up? i ancestor ↔ i = ancestor ∨ Within up? i ancestor :=
  Relation.reflTransGen_iff_eq_or_transGen.trans (or_congr_left eq_comm)

theorem not_within_of_root {i : Fin n} (top : up? i = none) (ancestor : Fin n) :
    ¬ Within up? i ancestor := by
  rw [within_iff, top]
  rintro ⟨_, found, _⟩
  cases found

/-! ### The test for cycles -/

theorem leadsTo_iff (target : Fin n) (steps : Nat) (i : Fin n) :
    leadsTo up? target steps i = true ↔ ∃ k < steps, ascend up? (k + 1) i = some target := by
  induction steps generalizing i with
  | zero => simp [leadsTo]
  | succ steps ih =>
    cases found : up? i with
    | none => simp [leadsTo, ascend, found]
    | some parent =>
      simp only [leadsTo, found, Bool.or_eq_true, decide_eq_true_eq, ih]
      constructor
      · rintro (here | ⟨k, bound, reached⟩)
        · exact ⟨0, by omega, by simp [ascend, found, here]⟩
        · refine ⟨k + 1, by omega, ?_⟩
          rw [ascend, found, Option.bind_some]
          exact reached
      · rintro ⟨k, bound, reached⟩
        rw [ascend, found, Option.bind_some] at reached
        cases k with
        | zero => exact .inl (Option.some.inj reached)
        | succ k => exact .inr ⟨k, by omega, reached⟩

theorem within_iff_ascend (i ancestor : Fin n) :
    Within up? i ancestor ↔ ∃ k, ascend up? (k + 1) i = some ancestor := by
  constructor
  · intro within
    induction within using Relation.TransGen.head_induction_on with
    | single found => exact ⟨0, by simp [ascend, show up? _ = _ from found]⟩
    | head found _ ih =>
      obtain ⟨k, reached⟩ := ih
      exact ⟨k + 1, by rw [ascend, show up? _ = _ from found]; exact reached⟩
  · rintro ⟨k, reached⟩
    induction k generalizing i with
    | zero =>
      obtain ⟨parent, found, here⟩ := Option.bind_eq_some_iff.mp reached
      exact .single (found.trans here)
    | succ k ih =>
      obtain ⟨parent, found, reached⟩ := Option.bind_eq_some_iff.mp reached
      exact .head found (ih parent reached)

def parentOrSelf (up? : Fin n → Option (Fin n)) (i : Fin n) : Fin n :=
  (up? i).getD i

/-- Up to where it comes, following parents is the iteration of a function. -/
theorem ascend_eq_iterate {i last : Fin n} {steps k : Nat}
    (reached : ascend up? steps i = some last)
    (bound : k ≤ steps) : ascend up? k i = some ((parentOrSelf up?)^[k] i) := by
  induction steps generalizing i k with
  | zero =>
    rw [Nat.le_zero.mp bound]
    rfl
  | succ steps ih =>
    obtain ⟨parent, found, rest⟩ := Option.bind_eq_some_iff.mp reached
    cases k with
    | zero => rfl
    | succ k =>
      rw [ascend, found, Function.iterate_succ_apply, parentOrSelf, found]
      exact ih rest (by omega)

/-- A way back to a node need not be longer than there are nodes. -/
theorem ascend_back_le {i : Fin n} {steps : Nat} (back : ascend up? (steps + 1) i = some i) :
    ∃ k < n, ascend up? (k + 1) i = some i := by
  have periodic : Function.IsPeriodicPt (parentOrSelf up?) (steps + 1) i :=
    (Option.some.inj (back.symm.trans (ascend_eq_iterate back (Nat.le_refl _)))).symm
  have positive := periodic.minimalPeriod_pos (Nat.succ_pos steps)
  have short : Function.minimalPeriod (parentOrSelf up?) i ≤ n := by
    simpa using Function.minimalPeriod_le_card (f := parentOrSelf up?) (x := i)
  refine ⟨Function.minimalPeriod (parentOrSelf up?) i - 1, by omega, ?_⟩
  rw [Nat.sub_add_cancel positive,
    ascend_eq_iterate back (periodic.minimalPeriod_le (Nat.succ_pos steps)),
    Function.iterate_minimalPeriod]

theorem onCycle_iff (i : Fin n) : onCycle up? i = true ↔ Within up? i i := by
  rw [onCycle, leadsTo_iff, within_iff_ascend]
  constructor
  · rintro ⟨k, _, back⟩
    exact ⟨k, back⟩
  · rintro ⟨k, back⟩
    exact ascend_back_le back

/-! ### Parents without cycles -/

theorem acyclicParent?_of_some {i parent : Fin n}
    (found : acyclicParent? up? i = some parent) : up? i = some parent ∧ ¬ Within up? i i := by
  unfold acyclicParent? at found
  split at found
  · cases found
  next off_cycle => exact ⟨found, fun back => off_cycle ((onCycle_iff i).mpr back)⟩

/-- No node comes back to itself along effective parents. -/
theorem acyclicParent?_acyclic (i : Fin n) : ¬ Within (acyclicParent? up?) i i := by
  intro back
  obtain ⟨parent, found, _⟩ := within_iff.mp back
  -- The cycle was there before any parent was dropped, so the first step has been dropped too.
  have back_before : Within up? i i :=
    Relation.TransGen.mono (fun _ _ step => (acyclicParent?_of_some step).1) i i back
  exact (acyclicParent?_of_some found).2 back_before

def Acyclic (up? : Fin n → Option (Fin n)) : Prop :=
  ∀ i, ¬ Within up? i i

theorem parent?_acyclic (nodes : List Node) : Acyclic (parent? nodes) :=
  acyclicParent?_acyclic

/-! ### Depth -/

open Classical in
/-- How many nodes lie in a node. -/
noncomputable def load (up? : Fin n → Option (Fin n)) (i : Fin n) : Nat :=
  (Finset.univ.filter fun j => Within up? j i).card

theorem load_lt (acyclic : Acyclic up?) (i : Fin n) : load up? i < n := by
  classical
  have proper : (Finset.univ.filter fun j => Within up? j i) ⊂ Finset.univ := by
    rw [Finset.filter_ssubset]
    exact ⟨i, Finset.mem_univ i, acyclic i⟩
  simpa [load] using Finset.card_lt_card proper

theorem load_lt_of_parent (acyclic : Acyclic up?) {i parent : Fin n}
    (found : up? i = some parent) : load up? i < load up? parent := by
  classical
  apply Finset.card_lt_card
  rw [Finset.ssubset_iff_of_subset]
  · have inside : Within up? i parent := .single found
    exact ⟨i, by simpa using inside, by simpa using acyclic i⟩
  · intro j inside
    simp only [Finset.mem_filter, Finset.mem_univ, true_and] at inside ⊢
    exact inside.tail found

/-- Induction from the roots on: what holds of roots and passes from parents to children holds of
every node. -/
theorem Acyclic.induction (acyclic : Acyclic up?) {motive : Fin n → Prop}
    (root : ∀ i, up? i = none → motive i)
    (child : ∀ i parent, up? i = some parent → motive parent → motive i) (i : Fin n) :
    motive i := by
  induction left : n - load up? i using Nat.strongRecOn generalizing i with
  | ind left ih =>
    cases found : up? i with
    | none => exact root i found
    | some parent =>
      have higher := load_lt_of_parent acyclic found
      have bounded := load_lt acyclic parent
      exact child i parent found (ih _ (by omega) parent rfl)

theorem Acyclic.exists_root (acyclic : Acyclic up?) (i : Fin n) :
    ∃ root, Under up? i root ∧ up? root = none := by
  induction i using acyclic.induction with
  | root i top => exact ⟨i, .refl, top⟩
  | child i parent found ih =>
    obtain ⟨root, under, top⟩ := ih
    exact ⟨root, .head found under, top⟩

/-! ### Siblings -/

/-- A node is under one of several siblings at most. -/
theorem Acyclic.sibling_unique (acyclic : Acyclic up?) {i a b : Fin n}
    (under_a : Under up? i a) (under_b : Under up? i b) (siblings : up? a = up? b) :
    a = b := by
  have parents_unique : Relator.RightUnique (IsParent up?) :=
    fun _ _ _ one other => Option.some.inj (one.symm.trans other)
  -- Of two ancestors of a node one is under the other, and then comes back to itself by the parent.
  have same {a b : Fin n} (siblings : up? a = up? b) (under : Under up? a b) : a = b := by
    rcases Relation.ReflTransGen.cases_head under with here | ⟨parent, found, rest⟩
    · exact here
    · exact (acyclic b (Relation.TransGen.head' (siblings.symm.trans found) rest)).elim
  rcases Relation.ReflTransGen.total_of_right_unique parents_unique under_a under_b with
    below | below
  · exact same siblings below
  · exact (same siblings.symm below).symm

/-- Two nodes of which none is under the other are under two different siblings. -/
theorem Acyclic.exists_siblings (acyclic : Acyclic up?) {i j : Fin n}
    (i_apart : ¬ Under up? i j) (j_apart : ¬ Under up? j i) :
    ∃ a b, a ≠ b ∧ up? a = up? b ∧ Under up? i a ∧ Under up? j b := by
  induction i using acyclic.induction with
  | root i top =>
    obtain ⟨root, under, other_top⟩ := acyclic.exists_root j
    refine ⟨i, root, ?_, top.trans other_top.symm, .refl, under⟩
    rintro rfl
    exact j_apart under
  | child i parent found ih =>
    have parent_apart : ¬ Under up? parent j := fun under => i_apart (.head found under)
    by_cases below : Under up? j parent
    · -- The other node is in the same parent, and not itself that parent.
      rcases Relation.ReflTransGen.cases_tail below with here | ⟨b, under, up_too⟩
      · exact (parent_apart (here ▸ .refl)).elim
      · refine ⟨i, b, ?_, found.trans up_too.symm, .refl, under⟩
        rintro rfl
        exact j_apart under
    · obtain ⟨a, b, different, siblings, under_a, under_b⟩ := ih parent_apart below
      exact ⟨a, b, different, siblings, .head found under_a, under_b⟩

/-! ### Children and roots -/

theorem mem_children {i child : Fin n} : child ∈ children up? i ↔ up? child = some i := by
  simp [children]

theorem children_nodup (up? : Fin n → Option (Fin n)) (i : Fin n) :
    (children up? i).Nodup :=
  (List.nodup_finRange n).filter _

theorem mem_roots {i : Fin n} : i ∈ roots up? ↔ up? i = none := by
  simp [roots]

theorem roots_nodup (up? : Fin n → Option (Fin n)) : (roots up?).Nodup :=
  (List.nodup_finRange n).filter _

end TextDiagram.Hierarchy
