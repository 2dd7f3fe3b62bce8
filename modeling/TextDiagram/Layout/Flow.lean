import TextDiagram.Config
import TextDiagram.Geometry
import TextDiagram.Layout.Flow.Walk

/-!
# The layout of a flow

A flow reads from left to right. The walk decides the row and the x of every node; rows that ended
up without nodes are left out, and every node is centred on the tallest of its row.
-/
namespace TextDiagram.Flow

variable {α : Type} [Scalar α]

/-- The width and height of a node. Tasks grow with their label, by its characters. -/
def nodeSize (node : Node) : α × α :=
  match node.kind with
  | .start | .finish => (Scalar.ofNat 40, Scalar.ofNat 40)
  | .gateway => (Scalar.ofNat 60, Scalar.ofNat 60)
  | .task | .group | .service =>
    let labelWidth := Scalar.ofNat node.label.length * Scalar.ofNat 8 + Scalar.ofNat 24
    (Scalar.max labelWidth (Scalar.ofNat 120), Scalar.ofNat 60)

variable {n : Nat}

/-- The rows with nodes, from the top. -/
def usedRows (placement : Placement α n) : List Nat :=
  (List.range placement.cursors.length).filter fun row => placement.slots.any (·.row == row)

/-- The row of a node among the rows with nodes. -/
def rowOf (used : List Nat) (placement : Placement α n) (node : Fin n) : Nat :=
  match placement.slot? node with
  | none => 0
  | some slot => used.countP (· < slot.row)

/-- The row and the height of every node, in order. -/
def rowsAndHeights (nodes : List Node) (used : List Nat) (placement : Placement α nodes.length) :
    List (Nat × α) :=
  (List.finRange nodes.length).map fun i => (rowOf used placement i, (nodeSize (nodes.get i)).2)

/-- The height of the tallest node of a row. -/
def rowHeight (rows : List (Nat × α)) (row : Nat) : α :=
  Scalar.greatest ((rows.filter (·.1 == row)).map Prod.snd)

/-- The box of a node on a row, centred on the tallest node of the row. -/
def boxOf (config : Config α) (rows : List (Nat × α)) (x : α) (row : Nat) (size : α × α) :
    Box α where
  x := x
  y := Scalar.ofNat row * config.verticalSpacing + Scalar.half (rowHeight rows row - size.2)
  width := size.1
  height := size.2

/-- The x of a node. -/
def columnOf (placement : Placement α n) (node : Fin n) : α :=
  match placement.slot? node with
  | none => Scalar.zero
  | some slot => slot.x

/-- The nodes with the boxes that a placement gives them. -/
def arrange (nodes : List Node) (config : Config α) (placement : Placement α nodes.length) :
    List (Placed α) :=
  let used := usedRows placement
  let rows := rowsAndHeights nodes used placement
  (List.finRange nodes.length).map fun i =>
    let node := nodes.get i
    ⟨node, boxOf config rows (columnOf placement i) (rowOf used placement i) (nodeSize node)⟩

/-- Lays out a flow, in the order of the nodes. -/
def layout (nodes : List Node) (connections : List Connection) (config : Config α) :
    List (Placed α) :=
  let width : Fin nodes.length → α := fun i => (nodeSize (nodes.get i)).1
  arrange nodes config
    (placement nodes (links nodes connections) width config.horizontalSpacing)

end TextDiagram.Flow
