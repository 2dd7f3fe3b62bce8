import TextDiagram.Proofs.Geometry.Bounding
import TextDiagram.Proofs.Plan.Indices

/-!
# Moving plans and layouts

A plan is moved to a corner and a layout is centred, each by the offset of its bounding box. Main
statement: over exact numbers both go by the same bounding box, both move all boxes by one offset,
and a second move to the same place moves nothing.
-/
namespace TextDiagram

namespace Plan

variable {plan : Plan Rat} {bounds : Box Rat}

theorem shift_zero (plan : Plan Rat) : plan.shift 0 0 = plan := by
  simp only [shift, Box.shift_zero, List.map_id']

theorem shift_boxes (dx dy : Rat) (plan : Plan Rat) :
    (plan.shift dx dy).shapes.map PlannedShape.box =
      (plan.shapes.map PlannedShape.box).map (Box.shift dx dy) := by
  simp [shift, Function.comp_def]

theorem bounds?_shift (found : plan.bounds? = some bounds) (dx dy : Rat) :
    (plan.shift dx dy).bounds? = some (bounds.shift dx dy) := by
  rw [bounds?, shift_boxes]
  exact Box.union?_shift found dx dy

theorem exists_bounds (some_shape : plan.shapes ≠ []) : ∃ bounds, plan.bounds? = some bounds :=
  Box.exists_bounds (by simpa using some_shape)

theorem moveTo_eq (found : plan.bounds? = some bounds) (x y : Rat) :
    plan.moveTo x y = plan.shift (x - bounds.x) (y - bounds.y) := by
  simp only [moveTo, found]
  rfl

/-- A plan that has been moved to a corner has its bounding box there. -/
theorem bounds?_moveTo (found : plan.bounds? = some bounds) (x y : Rat) :
    (plan.moveTo x y).bounds? = some ⟨x, y, bounds.width, bounds.height⟩ := by
  rw [moveTo_eq found, bounds?_shift found, Option.some.injEq]
  exact congrArg₂ (fun x y => Box.mk x y bounds.width bounds.height)
    (add_sub_cancel bounds.x x) (add_sub_cancel bounds.y y)

theorem moveTo_moveTo (found : plan.bounds? = some bounds) (x y : Rat) :
    (plan.moveTo x y).moveTo x y = plan.moveTo x y := by
  -- The bounding box already has its corner there.
  rw [moveTo_eq (bounds?_moveTo found x y)]
  simp only [sub_self]
  exact shift_zero _

end Plan

namespace Placed

variable {placed : List (Placed Rat)} {bounds : Box Rat}

/-- The layout with all boxes moved by an offset. -/
def shift (dx dy : Rat) (placed : List (Placed Rat)) : List (Placed Rat) :=
  placed.map fun item => { item with box := item.box.shift dx dy }

theorem shift_zero (placed : List (Placed Rat)) : shift 0 0 placed = placed := by
  simp only [shift, Box.shift_zero, List.map_id']

theorem shift_boxes (dx dy : Rat) (placed : List (Placed Rat)) :
    (shift dx dy placed).map Placed.box = (placed.map Placed.box).map (Box.shift dx dy) := by
  simp [shift, Function.comp_def]

theorem centered_eq (found : Box.union? (placed.map Placed.box) = some bounds) :
    centered placed = shift (-bounds.center) (-bounds.middle) placed := by
  have moved : Box.centered (placed.map Placed.box) =
      (placed.map Placed.box).map (Box.shift (-bounds.center) (-bounds.middle)) := by
    rw [Box.centered, Box.bounds?_eq_union?, found]
    rfl
  rw [centered, moved, withBoxes, shift, List.map_map, List.zipWith_map_right, List.zipWith_self]
  rfl

/-- A layout that has been centred has the centre of its bounding box at the origin. -/
theorem union?_centered (found : Box.union? (placed.map Placed.box) = some bounds) :
    Box.union? ((centered placed).map Placed.box) =
      some (bounds.shift (-bounds.center) (-bounds.middle)) := by
  rw [centered_eq found, shift_boxes]
  exact Box.union?_shift found _ _

theorem centered_centered (found : Box.union? (placed.map Placed.box) = some bounds) :
    centered (centered placed) = centered placed := by
  rw [centered_eq (union?_centered found), Box.center_shift, Box.middle_shift, add_neg_cancel,
    add_neg_cancel, neg_zero, shift_zero]

end Placed

/-! ### Main statement -/

/-- The bounding box of a layout and that of a plan of the same boxes are the same, and its edges
are the outermost ones that a box has. Moved to a corner, the plan has the bounding box there, and
centred, the layout has the centre of its bounding box at the origin. Both moves are rigid, and both
have nothing left to move when they are repeated. -/
theorem Box.bounds_and_moves (boxes : List (Box Rat)) (some_box : boxes ≠ [])
    (placed : List (Placed Rat)) (placed_boxes : placed.map Placed.box = boxes) (plan : Plan Rat)
    (plan_boxes : plan.shapes.map PlannedShape.box = boxes) :
    ∃ bounds, Box.bounds? (placed.map Placed.box) = some bounds ∧ plan.bounds? = some bounds ∧
      Bounds bounds boxes ∧
      (∀ x y,
        (plan.moveTo x y).bounds? = some ⟨x, y, bounds.width, bounds.height⟩ ∧
        Rigid boxes ((plan.moveTo x y).shapes.map PlannedShape.box) ∧
        (plan.moveTo x y).moveTo x y = plan.moveTo x y) ∧
      (∃ centered, Box.bounds? ((Placed.centered placed).map Placed.box) = some centered ∧
        centered.center = 0 ∧ centered.middle = 0) ∧
      Rigid boxes ((Placed.centered placed).map Placed.box) ∧
      Placed.centered (Placed.centered placed) = Placed.centered placed := by
  obtain ⟨bounds, found⟩ := exists_bounds some_box
  have of_plan : plan.bounds? = some bounds := by rw [Plan.bounds?, plan_boxes, found]
  have of_placed : Box.union? (placed.map Placed.box) = some bounds := by rw [placed_boxes, found]
  refine ⟨bounds, ?_, of_plan, union?_eq_some_iff.mp found, fun x y => ⟨?_, ?_, ?_⟩,
    ⟨bounds.shift (-bounds.center) (-bounds.middle), ?_, ?_, ?_⟩, ?_, ?_⟩
  · rw [bounds?_eq_union?, of_placed]
  · exact Plan.bounds?_moveTo of_plan x y
  · rw [Plan.moveTo_eq of_plan, Plan.shift_boxes, plan_boxes]
    exact rigid_shift _ _ boxes
  · exact Plan.moveTo_moveTo of_plan x y
  · rw [bounds?_eq_union?, Placed.union?_centered of_placed]
  · rw [center_shift]
    exact add_neg_cancel bounds.center
  · rw [middle_shift]
    exact add_neg_cancel bounds.middle
  · rw [Placed.centered_eq of_placed, Placed.shift_boxes, placed_boxes]
    exact rigid_shift _ _ boxes
  · exact Placed.centered_centered of_placed

/-- Three boxes on both sides of the axes, one of them drawn from its lower right corner. -/
theorem Box.bounds_and_moves_mirrored :
    let boxes : List (Box Rat) := [⟨-10, 5, 30, 20⟩, ⟨40, -7, -60, 12⟩, ⟨3, 8, 1 / 2, -40⟩]
    let placed := boxes.map fun box => (⟨⟨"a", "a", .task, none, none⟩, box⟩ : Placed Rat)
    let plan := Plan.ofGraph ⟨.flow, placed.map Placed.node, []⟩ placed
    boxes ≠ [] ∧ placed.map Placed.box = boxes ∧ plan.shapes.map PlannedShape.box = boxes ∧
      ∃ bounds, Box.bounds? (placed.map Placed.box) = some bounds ∧ plan.bounds? = some bounds ∧
        Bounds bounds boxes ∧
        Rigid boxes ((plan.moveTo 500 (-20)).shapes.map PlannedShape.box) ∧
        Rigid boxes ((Placed.centered placed).map Placed.box) := by
  intro boxes placed plan
  have some_box : boxes ≠ [] := by decide
  have placed_boxes : placed.map Placed.box = boxes := rfl
  have plan_boxes : plan.shapes.map PlannedShape.box = boxes := rfl
  obtain ⟨bounds, of_placed, of_plan, is_bounds, moved, -, centered, -⟩ :=
    bounds_and_moves boxes some_box placed placed_boxes plan plan_boxes
  exact ⟨some_box, placed_boxes, plan_boxes, bounds, of_placed, of_plan, is_bounds,
    (moved 500 (-20)).2.1, centered⟩

end TextDiagram
