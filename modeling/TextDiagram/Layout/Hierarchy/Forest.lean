import TextDiagram.Layout.Hierarchy.Grid
import TextDiagram.Layout.Hierarchy.Parents

/-!
# The forest of groups

Nodes and what they hold, as a forest. Sizes are computed from the inside out, since a group is as
large as the grid of its members; places are then given from the outside in, since a nested group
needs the place of the group around it. Both are recursions on the forest.
-/
namespace TextDiagram.Hierarchy

variable {α : Type}

/-- Siblings in order, each with the forest inside of it. -/
inductive Forest (β : Type) where
  | nil
  | cons (value : β) (inside rest : Forest β)
deriving Repr

namespace Forest

def tops {β : Type} : Forest β → List β
  | nil => []
  | cons value _ rest => value :: rest.tops

/-- All values, each before those inside of it. -/
def values {β : Type} : Forest β → List β
  | nil => []
  | cons value inside rest => value :: (inside.values ++ rest.values)

/-- The forest of these siblings and of what `inside` says each of them holds, to a depth. -/
def grow {β : Type} (inside : β → List β) : Nat → List β → Forest β
  | 0, _ => nil
  | depth + 1, siblings =>
    siblings.foldr (fun value rest => cons value (grow inside depth (inside value)) rest) nil

end Forest

structure Sized (α : Type) (n : Nat) where
  index : Fin n
  size : Size α
deriving Repr

structure Boxed (α : Type) (n : Nat) where
  index : Fin n
  box : Box α
deriving Repr

variable [Scalar α] {n : Nat}

/-- The size of a group around a grid of members: the grid and the padding around it, or the
smallest size of a group where that is larger. -/
def sizeAround (config : Config α) (members : List (Size α)) : Size α :=
  if members.isEmpty then
    ⟨config.minContainerWidth, config.minContainerHeight⟩
  else
    let grid := Grid.ofSizes config.maxColumns members
    { width := Scalar.max (grid.width config + config.groupPadding.horizontal)
        config.minContainerWidth
      height := Scalar.max (grid.height config + config.groupPadding.vertical)
        config.minContainerHeight }

/-- The size of a node that is no group. -/
def leafSize : Size α :=
  ⟨Scalar.ofNat 80, Scalar.ofNat 80⟩

/-- The forest with the size of every node, from the inside out. -/
def measure (config : Config α) (isGroup : Fin n → Bool) : Forest (Fin n) → Forest (Sized α n)
  | .nil => .nil
  | .cons index inside rest =>
    let sized := measure config isGroup inside
    let size := if isGroup index then sizeAround config (sized.tops.map Sized.size) else leafSize
    .cons ⟨index, size⟩ sized (measure config isGroup rest)

/-- The boxes of the members of a group with this box. Where the smallest size of a group leaves
room, the grid stands in the middle of it. -/
def memberBoxes (config : Config α) (box : Box α) (members : List (Size α)) : List (Box α) :=
  let grid := Grid.ofSizes config.maxColumns members
  let padding := config.groupPadding
  let roomX := box.width - padding.horizontal - grid.width config
  let roomY := box.height - padding.vertical - grid.height config
  Grid.boxes config
    (box.x + padding.left + Scalar.max (Scalar.half roomX) Scalar.zero)
    (box.y + padding.top + Scalar.max (Scalar.half roomY) Scalar.zero)
    members

/-- The boxes of all nodes of a forest whose outermost siblings have these boxes. -/
def place (config : Config α) : List (Box α) → Forest (Sized α n) → List (Boxed α n)
  | box :: boxes, .cons sized inside rest =>
    let members := memberBoxes config box (inside.tops.map Sized.size)
    ⟨sized.index, box⟩ :: (place config members inside ++ place config boxes rest)
  | _, .nil => []
  | [], .cons .. => []

end TextDiagram.Hierarchy
