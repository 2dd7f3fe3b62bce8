import Mathlib.Data.List.Chain
import Mathlib.Data.List.Nodup
import TextDiagram.Layout.Flow.Walk

/-!
# Laying rows

The nodes of a flow are placed one after the other, each at the end of its row. Main statements: a
rule that every node meets as it is placed, towards the node before it on the row or as the first
one of the row, holds along every row in the end; and what every step of a walk keeps, walking from
all starts keeps.
-/
namespace TextDiagram.Flow

variable {α : Type} {n : Nat}

/-- The slots on a row, in the order of their placement. -/
def onRow (slots : List (Slot α n)) (row : Nat) : List (Slot α n) :=
  slots.filter (·.row = row)

theorem mem_onRow {slots : List (Slot α n)} {row : Nat} {slot : Slot α n} :
    slot ∈ onRow slots row ↔ slot ∈ slots ∧ slot.row = row := by
  simp [onRow]

theorem onRow_append (slots more : List (Slot α n)) (row : Nat) :
    onRow (slots ++ more) row = onRow slots row ++ onRow more row :=
  List.filter_append slots more

theorem onRow_append_self (slots : List (Slot α n)) (slot : Slot α n) :
    onRow (slots ++ [slot]) slot.row = onRow slots slot.row ++ [slot] := by
  simp [onRow]

theorem onRow_append_of_ne (slots : List (Slot α n)) {slot : Slot α n} {row : Nat}
    (other : slot.row ≠ row) : onRow (slots ++ [slot]) row = onRow slots row := by
  simp [onRow, other]

theorem onRow_eq_nil {slots : List (Slot α n)} {row : Nat}
    (unused : ∀ slot ∈ slots, slot.row ≠ row) : onRow slots row = [] := by
  simpa [onRow] using unused

/-! ### Rules for rows -/

section Rules

/-- A rule for the slots of a row: what each has to do with the one before it, and what the first
one has to do with the slots of other rows. -/
structure Rule (α : Type) (n : Nat) where
  follows : Slot α n → Slot α n → Prop
  opens : List (Slot α n) → Slot α n → Prop

variable {rule : Rule α n}

/-- The slot may come next on its row. -/
structure Rule.Allows (rule : Rule α n) (slots : List (Slot α n)) (slot : Slot α n) : Prop where
  follows : ∀ last, (onRow slots slot.row).getLast? = some last → rule.follows last slot
  opens : onRow slots slot.row = [] → rule.opens slots slot

theorem Rule.allows_of_last {slots : List (Slot α n)} {slot last : Slot α n}
    (is_last : (onRow slots slot.row).getLast? = some last) (follows : rule.follows last slot) :
    rule.Allows slots slot where
  follows := by
    intro other also_last
    cases Option.some.inj (is_last.symm.trans also_last)
    exact follows
  opens := by
    intro unused
    rw [unused] at is_last
    cases is_last

theorem Rule.allows_of_unused {slots : List (Slot α n)} {slot : Slot α n}
    (unused : onRow slots slot.row = []) (opens : rule.opens slots slot) :
    rule.Allows slots slot where
  follows := by
    intro last is_last
    rw [unused] at is_last
    cases is_last
  opens := fun _ => opens

/-- Every slot was allowed when it came. -/
inductive Rule.Laid (rule : Rule α n) : List (Slot α n) → Prop where
  | nil : rule.Laid []
  | snoc {slots : List (Slot α n)} {slot : Slot α n} :
      rule.Laid slots → rule.Allows slots slot → rule.Laid (slots ++ [slot])

theorem Rule.Laid.isChain {slots : List (Slot α n)} (laid : rule.Laid slots) (row : Nat) :
    (onRow slots row).IsChain rule.follows := by
  induction laid with
  | nil => exact .nil
  | @snoc slots slot _ allowed ih =>
    by_cases same : slot.row = row
    · subst same
      rw [onRow_append_self]
      refine ih.append (.singleton slot) fun last is_last next is_next => ?_
      cases is_next
      exact allowed.follows last is_last
    · rw [onRow_append_of_ne slots same]
      exact ih

/-- The first slot of a row opened it, with the slots placed by then. -/
theorem Rule.Laid.opened {slots : List (Slot α n)} (laid : rule.Laid slots) {row : Nat}
    {first : Slot α n} (is_first : (onRow slots row).head? = some first) :
    ∃ earlier later, slots = earlier ++ first :: later ∧ rule.opens earlier first := by
  induction laid with
  | nil => cases is_first
  | @snoc slots slot _ allowed ih =>
    have keep (is_first : (onRow slots row).head? = some first) : ∃ earlier later,
        slots ++ [slot] = earlier ++ first :: later ∧ rule.opens earlier first := by
      obtain ⟨earlier, later, split, opens⟩ := ih is_first
      exact ⟨earlier, later ++ [slot], by rw [split, List.append_assoc, List.cons_append], opens⟩
    by_cases same : slot.row = row
    · subst same
      rw [onRow_append_self] at is_first
      cases used : onRow slots slot.row with
      | nil =>
        rw [used] at is_first
        cases is_first
        exact ⟨slots, [], rfl, allowed.opens used⟩
      | cons head rest =>
        rw [used] at is_first
        exact keep (used ▸ is_first)
    · rw [onRow_append_of_ne slots same] at is_first
      exact keep is_first

theorem Rule.Laid.mono {other : Rule α n} {slots : List (Slot α n)} (laid : rule.Laid slots)
    (follows : ∀ last slot, rule.follows last slot → other.follows last slot)
    (opens : ∀ slots slot, rule.opens slots slot → other.opens slots slot) : other.Laid slots := by
  induction laid with
  | nil => exact .nil
  | snoc _ allowed ih =>
    exact .snoc ih ⟨fun last is_last => follows _ _ (allowed.follows last is_last),
      fun unused => opens _ _ (allowed.opens unused)⟩

end Rules

/-! ### Placing and opening -/

/-- Opens a row for each start, below all others. -/
def Placement.openRows (placement : Placement α n) (starts : List α) : Placement α n :=
  { placement with cursors := placement.cursors ++ starts }

theorem openBranches_eq (placement : Placement α n) (start : α) (nodes : List (Fin n)) :
    openBranches placement start nodes =
      (placement.openRows (List.replicate nodes.length start),
        nodes.zipIdx placement.cursors.length) := by
  induction nodes generalizing placement with
  | nil => simp [openBranches, Placement.openRows]
  | cons node rest ih =>
    simp [openBranches, ih, Placement.openRows, Placement.openRow, List.replicate_succ]

theorem ranked_perm (next : Fin n → List (Fin n)) (nodes : List (Fin n)) :
    (ranked next nodes).Perm nodes := by
  unfold ranked
  split
  · exact .refl _
  · refine ((List.mergeSort_perm _ _).map Prod.fst).trans (.of_eq ?_)
    simp [Function.comp_def]

variable [Scalar α]

namespace Placement

theorem place_placed (placement : Placement α n) (node : Fin n) (row : Nat) (width spacing : α) :
    (placement.place node row width spacing).placed = placement.placed ++ [node] := by
  simp [placed, place]

theorem place_cursors_length (placement : Placement α n) (node : Fin n) (row : Nat)
    (width spacing : α) :
    (placement.place node row width spacing).cursors.length = placement.cursors.length := by
  simp [place]

theorem cursor_place_self (placement : Placement α n) (node : Fin n) {row : Nat} (width spacing : α)
    (opened : row < placement.cursors.length) :
    (placement.place node row width spacing).cursor row =
      placement.cursor row + (width + spacing) := by
  simp [place, cursor, List.getD, List.getElem?_eq_getElem opened]

theorem cursor_place_of_ne (placement : Placement α n) (node : Fin n) {row other : Nat}
    (width spacing : α) (different : row ≠ other) :
    (placement.place node row width spacing).cursor other = placement.cursor other := by
  simp [place, cursor, List.getD, different]

theorem cursor_openRows_of_lt (placement : Placement α n) (starts : List α) {row : Nat}
    (opened : row < placement.cursors.length) :
    (placement.openRows starts).cursor row = placement.cursor row := by
  simp [openRows, cursor, List.getD, List.getElem?_append_left opened]

theorem cursor_openRows_new (placement : Placement α n) (start : α) {count k : Nat}
    (inside : k < count) :
    (placement.openRows (List.replicate count start)).cursor (placement.cursors.length + k) =
      start := by
  simp [openRows, cursor, List.getD, inside]

end Placement

/-! ### Walks -/

section Walks

variable {next : Fin n → List (Fin n)} {width : Fin n → α} {spacing : α}

/-- Behind a node go all its successors still to be placed, the first one on the same row and each
other one on a new row. -/
theorem branch_cases (next : Fin n → List (Fin n)) (placement : Placement α n) (row : Nat)
    (node : Fin n) :
    ((next node).filter (fun target => !placement.placed.contains target) = [] ∧
      branch next placement row node = (placement, [])) ∨
    ∃ first others,
      (first :: others).Perm ((next node).filter fun target => !placement.placed.contains target) ∧
        branch next placement row node =
          (placement.openRows (List.replicate others.length (placement.cursor row)),
            (first, row) :: others.zipIdx placement.cursors.length) := by
  let waiting := (next node).filter fun target => !placement.placed.contains target
  have perm : (ranked next waiting).Perm waiting := ranked_perm next waiting
  simp only [branch, openBranches_eq]
  cases order : ranked next waiting with
  | nil =>
    rw [order] at perm
    exact .inl ⟨perm.nil_eq.symm, rfl⟩
  | cons first others =>
    rw [order] at perm
    exact .inr ⟨first, others, perm, rfl⟩

theorem branch_targets (next : Fin n → List (Fin n)) (placement : Placement α n) (row : Nat)
    (node : Fin n) :
    ((branch next placement row node).2.map Prod.fst).Perm
      ((next node).filter fun target => !placement.placed.contains target) := by
  rcases branch_cases next placement row node with
    ⟨none_left, ends⟩ | ⟨first, others, perm, forks⟩
  · rw [none_left, ends]
    exact .nil
  · rw [forks, List.map_cons, List.zipIdx_map_fst]
    exact perm

/-- What holds of a placement and the branches still to be walked, all along the walks from these
starts. -/
structure Invariant (next : Fin n → List (Fin n)) (width : Fin n → α) (spacing : α)
    (starts : List (Fin n)) (holds : Placement α n → List (Fin n × Nat) → Prop) : Prop where
  start : ∀ placement node, node ∈ starts → holds placement [] →
    holds (placement.openRow Scalar.zero) [(node, placement.cursors.length)]
  skip : ∀ placement node row rest, node ∈ placement.placed →
    holds placement ((node, row) :: rest) → holds placement rest
  step : ∀ placement node row rest, node ∉ placement.placed →
    holds placement ((node, row) :: rest) →
      let moved := branch next (placement.place node row (width node) spacing) row node
      holds moved.1 (moved.2 ++ rest)

namespace Invariant

variable {starts : List (Fin n)} {holds : Placement α n → List (Fin n × Nat) → Prop}

theorem walk (invariant : Invariant next width spacing starts holds) {placement : Placement α n}
    {branches : List (Fin n × Nat)} (before : holds placement branches) :
    holds (Flow.walk next width spacing placement branches) [] := by
  fun_induction Flow.walk next width spacing placement branches with
  | case1 => exact before
  | case2 placement node row rest placed ih =>
    exact ih (invariant.skip placement node row rest (by simpa using placed) before)
  | case3 placement node row rest unplaced moved ih =>
    exact ih (invariant.step placement node row rest (by simpa using unplaced) before)

theorem walkAll (invariant : Invariant next width spacing starts holds) {placement : Placement α n}
    {list : List (Fin n)} (among : list ⊆ starts) (before : holds placement []) :
    holds (list.foldl (walkFrom next width spacing) placement) [] := by
  induction list generalizing placement with
  | nil => exact before
  | cons node rest ih =>
    obtain ⟨is_start, rest_among⟩ := List.cons_subset.mp among
    apply ih rest_among
    unfold walkFrom
    split
    · exact before
    · exact invariant.walk (invariant.start placement node is_start before)

end Invariant

end Walks

end TextDiagram.Flow
