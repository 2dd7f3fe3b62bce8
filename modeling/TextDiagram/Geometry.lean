import TextDiagram.Number.Scalar
import TextDiagram.Graph.Basic

/-!
# Boxes

Axis-aligned boxes, given by their top left corner and their size, with the y axis pointing down.
The bounding box of a list is computed in two ways, which agree up to rounding: `bounds?` follows
the four extremes and forms the size at the end, `union?` joins one box after the other.
-/
namespace TextDiagram

variable {α : Type}

structure Box (α : Type) where
  x : α
  y : α
  width : α
  height : α
deriving Repr, DecidableEq

/-- The four extremes of a set of points. -/
structure Extent (α : Type) where
  left : α
  top : α
  right : α
  bottom : α
deriving Repr, DecidableEq

namespace Box

variable [Scalar α]

def right (box : Box α) : α :=
  box.x + box.width

def bottom (box : Box α) : α :=
  box.y + box.height

/-- Whether `inner` lies inside of the box. Edges may touch, and rounding is forgiven. -/
def contains (box inner : Box α) : Bool :=
  Scalar.le (box.x - Scalar.slack) inner.x &&
    Scalar.le (box.y - Scalar.slack) inner.y &&
    Scalar.le inner.right (box.right + Scalar.slack) &&
    Scalar.le inner.bottom (box.bottom + Scalar.slack)

/-- The box grown by a margin on every side. -/
def inflate (box : Box α) (margin : α) : Box α where
  x := box.x - margin
  y := box.y - margin
  width := box.width + Scalar.ofNat 2 * margin
  height := box.height + Scalar.ofNat 2 * margin

def shift (dx dy : α) (box : Box α) : Box α :=
  { box with x := box.x + dx, y := box.y + dy }

/-- The smallest box around two boxes. -/
def union (a b : Box α) : Box α :=
  let x := Scalar.min a.x b.x
  let y := Scalar.min a.y b.y
  { x
    y
    width := Scalar.max a.right b.right - x
    height := Scalar.max a.bottom b.bottom - y }

/-- The bounding box of a list of boxes, joined one after the other. -/
def union? : List (Box α) → Option (Box α)
  | [] => none
  | first :: rest => some (rest.foldl union first)

end Box

namespace Extent

variable [Scalar α]

def ofBox (box : Box α) : Extent α :=
  ⟨box.x, box.y, box.right, box.bottom⟩

def widen (extent : Extent α) (box : Box α) : Extent α where
  left := Scalar.min extent.left box.x
  top := Scalar.min extent.top box.y
  right := Scalar.max extent.right box.right
  bottom := Scalar.max extent.bottom box.bottom

def toBox (extent : Extent α) : Box α :=
  ⟨extent.left, extent.top, extent.right - extent.left, extent.bottom - extent.top⟩

end Extent

namespace Box

variable [Scalar α]

/-- The bounding box of a list of boxes, from its four extremes. -/
def bounds? : List (Box α) → Option (Box α)
  | [] => none
  | first :: rest => some (rest.foldl Extent.widen (.ofBox first)).toBox

/-- The boxes moved so that the centre of their bounding box is the origin. -/
def centered (boxes : List (Box α)) : List (Box α) :=
  match bounds? boxes with
  | none => boxes
  | some bounds =>
    boxes.map (shift (-(bounds.x + Scalar.half bounds.width))
      (-(bounds.y + Scalar.half bounds.height)))

end Box

/-! ## Placed nodes -/

/-- A node and the box it has been given. -/
structure Placed (α : Type) where
  node : Node
  box : Box α
deriving Repr, DecidableEq

namespace Placed

/-- The nodes with new boxes, in order. -/
def withBoxes (placed : List (Placed α)) (boxes : List (Box α)) : List (Placed α) :=
  placed.zipWith (fun node box => { node with box }) boxes

/-- The whole layout moved so that the centre of its bounding box is the origin. -/
def centered [Scalar α] (placed : List (Placed α)) : List (Placed α) :=
  withBoxes placed (Box.centered (placed.map Placed.box))

end Placed

end TextDiagram
