import TextDiagram.Number.Scalar
import TextDiagram.Layout.Flow.Links

/-!
# Walking a flow

A walk places the nodes of a flow on rows. Every row has a cursor, the place of its next node. A
node is placed once, by the first branch that comes to it, which also ends every cycle. Behind a
node with several successors still to place, the branch that reaches most nodes goes on on the same
row, and each other one gets a row of its own further down that starts in the same column.
-/
namespace TextDiagram.Flow

variable {α : Type} {n : Nat}

/-- Where a node has been placed. -/
structure Slot (α : Type) (n : Nat) where
  node : Fin n
  row : Nat
  x : α
deriving Repr

/-- The rows opened so far with their cursors, and the nodes placed so far in order. -/
structure Placement (α : Type) (n : Nat) where
  cursors : List α
  slots : List (Slot α n)
deriving Repr

namespace Placement

def empty : Placement α n :=
  ⟨[], []⟩

/-- The nodes placed so far. -/
def placed (placement : Placement α n) : List (Fin n) :=
  placement.slots.map Slot.node

def slot? (placement : Placement α n) (node : Fin n) : Option (Slot α n) :=
  placement.slots.find? (·.node = node)

/-- Opens a row below all others. -/
def openRow (placement : Placement α n) (start : α) : Placement α n :=
  { placement with cursors := placement.cursors ++ [start] }

def cursor [Scalar α] (placement : Placement α n) (row : Nat) : α :=
  placement.cursors.getD row Scalar.zero

/-- Places a node at the cursor of a row, and moves the cursor behind it. -/
def place [Scalar α] (placement : Placement α n) (node : Fin n) (row : Nat) (width spacing : α) :
    Placement α n where
  cursors := placement.cursors.modify row (· + (width + spacing))
  slots := placement.slots ++ [⟨node, row, placement.cursor row⟩]

end Placement

/-- The nodes ordered by how many nodes they reach, the greatest number first and equal numbers in
the given order. A single node needs no counting. -/
def ranked (next : Fin n → List (Fin n)) : List (Fin n) → List (Fin n)
  | [only] => [only]
  | nodes =>
    ((nodes.map fun node => (node, reach next node)).mergeSort fun a b => b.2 ≤ a.2).map Prod.fst

/-- Opens a row for each of a list of branches, all starting in the same column, and gives each
branch its row. -/
def openBranches (placement : Placement α n) (start : α) :
    List (Fin n) → Placement α n × List (Fin n × Nat)
  | [] => (placement, [])
  | node :: rest =>
    let row := placement.cursors.length
    let (opened, branches) := openBranches (placement.openRow start) start rest
    (opened, (node, row) :: branches)

theorem openBranches_slots (placement : Placement α n) (start : α) (nodes : List (Fin n)) :
    (openBranches placement start nodes).1.slots = placement.slots := by
  induction nodes generalizing placement with
  | nil => rfl
  | cons node rest ih => simp [openBranches, ih, Placement.openRow]

/-- Goes on behind a node just placed on a row: gives the branches to walk next, each with its
row. -/
def branch [Scalar α] (next : Fin n → List (Fin n)) (placement : Placement α n) (row : Nat)
    (node : Fin n) : Placement α n × List (Fin n × Nat) :=
  let waiting := (next node).filter fun target => !placement.placed.contains target
  match ranked next waiting with
  | [] => (placement, [])
  | first :: others =>
    let (opened, branches) := openBranches placement (placement.cursor row) others
    (opened, (first, row) :: branches)

theorem branch_slots [Scalar α] (next : Fin n → List (Fin n)) (placement : Placement α n)
    (row : Nat) (node : Fin n) : (branch next placement row node).1.slots = placement.slots := by
  unfold branch
  dsimp only
  split
  · rfl
  · exact openBranches_slots ..

theorem branch_place_placed [Scalar α] (next : Fin n → List (Fin n)) (placement : Placement α n)
    (row : Nat) (node : Fin n) (width spacing : α) :
    (branch next (placement.place node row width spacing) row node).1.placed =
      placement.placed ++ [node] := by
  simp [Placement.placed, branch_slots, Placement.place]

theorem outside_append_length_lt {seen : List (Fin n)} {node : Fin n} (fresh : node ∉ seen) :
    (outside (seen ++ [node])).length < (outside seen).length := by
  have same : outside (seen ++ [node]) = outside (node :: seen) := by
    simp only [outside]
    apply List.filter_congr
    intro other _
    simp [or_comm]
  rw [same]
  exact outside_cons_length_lt fresh

/-- Walks a list of branches, each from a node on along a row, and all that opens on the way. -/
def walk [Scalar α] (next : Fin n → List (Fin n)) (width : Fin n → α) (spacing : α)
    (placement : Placement α n) : List (Fin n × Nat) → Placement α n
  | [] => placement
  | (node, row) :: rest =>
    if placement.placed.contains node then
      walk next width spacing placement rest
    else
      let step := branch next (placement.place node row (width node) spacing) row node
      walk next width spacing step.1 (step.2 ++ rest)
termination_by branches => ((outside placement.placed).length, branches.length)
decreasing_by
  · exact Prod.Lex.right _ (Nat.lt_succ_self _)
  · refine Prod.Lex.left _ _ ?_
    rw [branch_place_placed]
    next unplaced => exact outside_append_length_lt (by simpa using unplaced)

/-- Walks from a start node along a new row, unless another walk has placed the node before. -/
def walkFrom [Scalar α] (next : Fin n → List (Fin n)) (width : Fin n → α) (spacing : α)
    (placement : Placement α n) (start : Fin n) : Placement α n :=
  if placement.placed.contains start then
    placement
  else
    walk next width spacing (placement.openRow Scalar.zero) [(start, placement.cursors.length)]

/-- Places the nodes that no walk came to on one further row, in order. -/
def placeRest [Scalar α] (width : Fin n → α) (spacing : α) (placement : Placement α n) :
    Placement α n :=
  match outside placement.placed with
  | [] => placement
  | rest =>
    let row := placement.cursors.length
    rest.foldl (fun placement node => placement.place node row (width node) spacing)
      (placement.openRow Scalar.zero)

/-- Places every node of a flow. -/
def placement [Scalar α] (nodes : List Node) (links : List (Link nodes.length))
    (width : Fin nodes.length → α) (spacing : α) : Placement α nodes.length :=
  let next := Vector.ofFn (successors links)
  placeRest width spacing
    ((startNodes nodes links).foldl (walkFrom next.get width spacing) .empty)

end TextDiagram.Flow
