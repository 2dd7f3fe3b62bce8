import TextDiagram.Config
import TextDiagram.Geometry

/-!
# Grids

Siblings stand in a grid, row by row in their order. A column is as wide as the widest of its
items and a row as high as the highest, and every item is centred in its cell.
-/
namespace TextDiagram.Hierarchy

variable {α : Type} [Scalar α]

structure Size (α : Type) where
  width : α
  height : α
deriving Repr, DecidableEq

/-- The column widths and row heights of a grid. -/
structure Grid (α : Type) where
  columns : Nat
  widths : List α
  heights : List α
deriving Repr, DecidableEq

namespace Grid

/-- How many columns a number of items is set in. -/
def columnCount (maxColumns items : Nat) : Nat :=
  max (min (max maxColumns 1) items) 1

/-- How many rows a number of items fills. -/
def rowCount (columns items : Nat) : Nat :=
  (items + columns - 1) / columns

/-- The items whose position satisfies a condition, in order. -/
def itemsAt {β : Type} (condition : Nat → Bool) (items : List β) : List β :=
  (items.zipIdx.filter fun item => condition item.2).map Prod.fst

/-- The grid of items of these sizes. -/
def ofSizes (maxColumns : Nat) (sizes : List (Size α)) : Grid α :=
  let columns := columnCount maxColumns sizes.length
  let rows := rowCount columns sizes.length
  { columns
    widths := (List.range columns).map fun column =>
      Scalar.greatest ((itemsAt (· % columns == column) sizes).map Size.width)
    heights := (List.range rows).map fun row =>
      Scalar.greatest ((itemsAt (· / columns == row) sizes).map Size.height) }

/-- The width of the grid with the gaps between its columns. -/
def width (grid : Grid α) (config : Config α) : α :=
  Scalar.sum grid.widths + Scalar.ofNat (grid.widths.length - 1) * config.horizontalSpacing

/-- The height of the grid with the gaps between its rows. -/
def height (grid : Grid α) (config : Config α) : α :=
  Scalar.sum grid.heights + Scalar.ofNat (grid.heights.length - 1) * config.verticalSpacing

/-- Where the cell of a line number starts, behind the lines before it and the gaps. -/
def lineStart (origin : α) (lines : List α) (spacing : α) (line : Nat) : α :=
  origin + Scalar.sum (lines.take line) + Scalar.ofNat line * spacing

/-- The box of the item of this size at a position. -/
def boxAt (grid : Grid α) (config : Config α) (x y : α) (position : Nat) (size : Size α) : Box α :=
  let column := position % grid.columns
  let row := position / grid.columns
  let cellWidth := grid.widths.getD column Scalar.zero
  let cellHeight := grid.heights.getD row Scalar.zero
  { x := lineStart x grid.widths config.horizontalSpacing column +
      Scalar.half (cellWidth - size.width)
    y := lineStart y grid.heights config.verticalSpacing row +
      Scalar.half (cellHeight - size.height)
    width := size.width
    height := size.height }

/-- The boxes of the items of a grid whose corner stands at `(x, y)`. -/
def boxes (config : Config α) (x y : α) (sizes : List (Size α)) : List (Box α) :=
  let grid := ofSizes config.maxColumns sizes
  sizes.zipIdx.map fun (size, position) => grid.boxAt config x y position size

end Grid

end TextDiagram.Hierarchy
