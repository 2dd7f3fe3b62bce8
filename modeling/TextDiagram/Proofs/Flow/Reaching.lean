import Mathlib.Logic.Relation
import TextDiagram.Proofs.Flow.Walking

/-!
# What walks come to

Main statements: walks go on below the rows they find, and begin on a new row with the start where
it is still to be placed; they place no node twice; and they come to the nodes that links lead to
from a start, and to no other.
-/
namespace TextDiagram.Flow

variable {α : Type} {n : Nat}

/-! ### Rows further down -/

/-- The placement has come from these slots by placing on rows from the first one on, and so it will
go on. -/
structure Extends (slots : List (Slot α n)) (first : Nat) (placement : Placement α n)
    (branches : List (Fin n × Nat)) : Prop where
  opened : first ≤ placement.cursors.length
  slots : ∃ more, placement.slots = slots ++ more ∧ ∀ slot ∈ more, first ≤ slot.row
  branches : ∀ node row, (node, row) ∈ branches → first ≤ row

namespace Extends

variable {slots : List (Slot α n)} {first : Nat} {placement : Placement α n}
  {branches rest : List (Fin n × Nat)}

theorem refl (placement : Placement α n) :
    Extends placement.slots placement.cursors.length placement [] where
  opened := Nat.le_refl _
  slots := ⟨[], by simp⟩
  branches := by simp

theorem placed (extended : Extends slots first placement branches) :
    slots.map Slot.node ⊆ placement.placed := by
  obtain ⟨more, split, _⟩ := extended.slots
  rw [Placement.placed, split, List.map_append]
  exact List.subset_append_left _ _

theorem with_branches (extended : Extends slots first placement rest)
    (below : ∀ node row, (node, row) ∈ branches → first ≤ row) :
    Extends slots first placement branches where
  opened := extended.opened
  slots := extended.slots
  branches := below

theorem skip {branch : Fin n × Nat} (extended : Extends slots first placement (branch :: rest)) :
    Extends slots first placement rest :=
  extended.with_branches fun node row member =>
    extended.branches node row (List.mem_cons_of_mem branch member)

theorem openRows (extended : Extends slots first placement rest) (columns : List α) :
    Extends slots first (placement.openRows columns) rest where
  opened := by
    have before := extended.opened
    simp only [Placement.openRows, List.length_append]
    omega
  slots := extended.slots
  branches := extended.branches

variable [Scalar α] {next : Fin n → List (Fin n)} {width : Fin n → α} {spacing : α}

theorem place {node : Fin n} {row : Nat}
    (extended : Extends slots first placement ((node, row) :: rest)) :
    Extends slots first (placement.place node row (width node) spacing) rest where
  opened := by
    rw [Placement.place_cursors_length]
    exact extended.opened
  slots := by
    obtain ⟨more, split, below⟩ := extended.slots
    refine ⟨more ++ [⟨node, row, placement.cursor row⟩], ?_, ?_⟩
    · simp only [Placement.place, split, List.append_assoc]
    · intro slot member
      rcases List.mem_append.mp member with before | here
      · exact below slot before
      · cases List.mem_singleton.mp here
        exact extended.branches node row List.mem_cons_self
  branches := extended.skip.branches

theorem branch {row : Nat} (node : Fin n) (extended : Extends slots first placement rest)
    (below : first ≤ row) :
    let moved := Flow.branch next placement row node
    Extends slots first moved.1 (moved.2 ++ rest) := by
  intro moved
  rcases branch_cases next placement row node with ⟨_, ends⟩ | ⟨head, others, _, forks⟩
  · simp only [moved, ends, List.nil_append]
    exact extended
  · simp only [moved, forks]
    apply (extended.openRows _).with_branches
    intro other other_row member
    simp only [List.cons_append, List.mem_cons, List.mem_append] at member
    rcases member with here | new | waiting
    · cases here
      exact below
    · exact extended.opened.trans (List.mem_zipIdx new).1
    · exact extended.branches other other_row waiting

theorem invariant (starts : List (Fin n)) :
    Invariant next width spacing starts (Extends slots first) where
  start := by
    intro placement start _ extended
    apply (extended.openRows [Scalar.zero]).with_branches
    intro node row member
    cases List.mem_singleton.mp member
    exact extended.opened
  skip := fun _ _ _ _ _ extended => extended.skip
  step := by
    intro placement node row rest _ extended
    exact extended.place.branch node (extended.branches node row List.mem_cons_self)

theorem walkAll (extended : Extends slots first placement []) (starts : List (Fin n)) :
    Extends slots first (starts.foldl (walkFrom next width spacing) placement) [] :=
  (invariant starts).walkAll (List.Subset.refl starts) extended

end Extends

section Walks

variable [Scalar α] {next : Fin n → List (Fin n)} {width : Fin n → α} {spacing : α}
  {placement : Placement α n}

/-- A start still to be placed comes first on a new row, and the walk goes on on rows from this one
on. -/
theorem walkFrom_unplaced {start : Fin n} (unplaced : start ∉ placement.placed) :
    Extends (placement.slots ++ [⟨start, placement.cursors.length, Scalar.zero⟩])
      placement.cursors.length (walkFrom next width spacing placement start) [] := by
  rw [walkFrom, if_neg (by simpa using unplaced), walk.eq_def]
  dsimp only
  rw [if_neg (by simpa [Placement.placed, Placement.openRow] using unplaced)]
  apply (Extends.invariant [start]).walk
  apply Extends.branch
  · constructor
    case opened => simp [Placement.place, Placement.openRow]
    case slots =>
      refine ⟨[], ?_, by simp⟩
      simp [Placement.place, Placement.openRow, Placement.cursor]
    case branches => simp
  · exact Nat.le_refl _

theorem walkAll_placed_nodup (starts : List (Fin n)) (nodup : placement.placed.Nodup) :
    (starts.foldl (walkFrom next width spacing) placement).placed.Nodup := by
  have invariant :
      Invariant next width spacing starts fun placement _ => placement.placed.Nodup := by
    constructor
    case start => exact fun _ _ _ nodup => nodup
    case skip => exact fun _ _ _ _ _ nodup => nodup
    case step =>
      intro placement node row rest unplaced nodup
      dsimp only
      rw [branch_place_placed]
      exact nodup.append (List.nodup_singleton node) (by simpa using unplaced)
  exact invariant.walkAll (List.Subset.refl starts) nodup

end Walks

/-! ### What walks come to -/

section Reach

/-- Links lead from one of the starts to the node. -/
def Reached (next : Fin n → List (Fin n)) (starts : List (Fin n)) (node : Fin n) : Prop :=
  ∃ start ∈ starts, Relation.ReflTransGen (fun source target => target ∈ next source) start node

/-- No link leads out of what has been placed, but to the branches. -/
def Closed (next : Fin n → List (Fin n)) (placement : Placement α n)
    (branches : List (Fin n × Nat)) : Prop :=
  ∀ node ∈ placement.placed, ∀ target ∈ next node,
    target ∈ placement.placed ∨ target ∈ branches.map Prod.fst

variable {next : Fin n → List (Fin n)} {placement : Placement α n}

theorem Closed.skip {node : Fin n} {row : Nat} {rest : List (Fin n × Nat)}
    (placed : node ∈ placement.placed) (closed : Closed next placement ((node, row) :: rest)) :
    Closed next placement rest := by
  intro source source_placed target linked
  rcases closed source source_placed target linked with target_placed | waiting
  · exact .inl target_placed
  · rcases List.mem_cons.mp waiting with rfl | later
    · exact .inl placed
    · exact .inr later

variable [Scalar α] {width : Fin n → α} {spacing : α} {starts : List (Fin n)}

namespace Closed

theorem step {node : Fin n} {row : Nat} {rest : List (Fin n × Nat)}
    (closed : Closed next placement ((node, row) :: rest)) :
    let moved := branch next (placement.place node row (width node) spacing) row node
    Closed next moved.1 (moved.2 ++ rest) := by
  intro moved source source_placed target linked
  rw [branch_place_placed] at source_placed ⊢
  -- What a link leads to either has been placed by now, or waits behind the node just placed.
  by_cases placed : target ∈ placement.placed ++ [node]
  · exact .inl placed
  right
  rw [List.map_append, List.mem_append]
  rcases List.mem_append.mp source_placed with before | here
  · rcases closed source before target linked with target_placed | waiting
    · exact absurd (List.mem_append_left _ target_placed) placed
    · rcases List.mem_cons.mp waiting with rfl | later
      · exact absurd (List.mem_append_right _ (List.mem_singleton_self _)) placed
      · exact .inr later
  · cases List.mem_singleton.mp here
    left
    rw [(branch_targets _ _ row node).mem_iff, List.mem_filter, Placement.place_placed]
    exact ⟨linked, by simpa using placed⟩

theorem invariant (starts : List (Fin n)) :
    Invariant next width spacing starts (Closed next) where
  start := by
    intro placement start _ closed source placed target linked
    exact .inl ((closed source placed target linked).resolve_right (by simp))
  skip := fun _ _ _ _ placed closed => closed.skip placed
  step := fun _ _ _ _ _ closed => closed.step

end Closed

theorem starts_placed (starts : List (Fin n)) :
    ∀ start ∈ starts, start ∈ (starts.foldl (walkFrom next width spacing) placement).placed := by
  induction starts generalizing placement with
  | nil => simp
  | cons start rest ih =>
    intro other among
    rw [List.foldl_cons]
    rcases List.mem_cons.mp among with rfl | later
    · have placed : other ∈ (walkFrom next width spacing placement other).placed := by
        by_cases before : other ∈ placement.placed
        · rwa [walkFrom, if_pos (by simpa using before)]
        · exact (walkFrom_unplaced before).placed (by simp)
      exact (Extends.refl _).walkAll rest |>.placed placed
    · exact ih other later

theorem Reached.of_laid {slots : List (Slot α n)}
    (laid : (linkRule next width spacing starts).Laid slots) :
    ∀ slot ∈ slots, Reached next starts slot.node := by
  induction laid with
  | nil => simp
  | @snoc slots new _ allowed ih =>
    have step (gate : Slot α n) (placed : gate ∈ slots) (linked : new.node ∈ next gate.node) :
        Reached next starts new.node := by
      obtain ⟨start, among, path⟩ := ih gate placed
      exact ⟨start, among, path.tail linked⟩
    intro slot member
    rcases List.mem_append.mp member with before | here
    · exact ih slot before
    · obtain rfl := List.mem_singleton.mp here
      cases last : (onRow slots slot.row).getLast? with
      | some gate =>
        exact step gate (mem_onRow.mp (List.mem_of_getLast? last)).1 (allowed.follows gate last).1
      | none =>
        rcases allowed.opens (List.getLast?_eq_none_iff.mp last) with
          ⟨start, _⟩ | ⟨gate, placed, _, linked, _⟩
        · exact ⟨slot.node, start, .refl⟩
        · exact step gate placed linked

/-- The walks come to the nodes that are reachable from a start. -/
theorem mem_walkAll_placed {node : Fin n} :
    node ∈ (starts.foldl (walkFrom next width spacing) .empty).placed ↔
      Reached next starts node := by
  constructor
  · intro placed
    obtain ⟨slot, member, rfl⟩ := List.mem_map.mp placed
    exact .of_laid (Ready.walkAll next _ _ starts).laid slot member
  · rintro ⟨start, among, path⟩
    induction path with
    | refl => exact starts_placed starts start among
    | tail _ linked ih =>
      have none_placed : Closed next (.empty : Placement α n) [] := by
        simp [Closed, Placement.placed, Placement.empty]
      have invariant : Invariant next width spacing starts (Closed next) := Closed.invariant starts
      have closed := invariant.walkAll (List.Subset.refl starts) none_placed
      exact (closed _ ih _ linked).resolve_right (by simp)

end Reach

end TextDiagram.Flow
