import Mathlib.Order.Bounds.Image
import TextDiagram.Proofs.Geometry.Exact

/-!
# Bounding boxes

The bounding box of some boxes reaches from the outermost edge on one side to the outermost edge on
the other, on both axes, whatever the signs of coordinates and sizes. Main statements: there is one
such box, both ways of computing it find it, and it moves along when all boxes are moved by one
offset.
-/
namespace TextDiagram

theorem Scalar.min_rat (a b : Rat) : Scalar.min a b = Min.min a b := by
  rw [min_def]
  rfl

namespace Box

variable {bounds : Box Rat} {boxes : List (Box Rat)}

/-- How far to the right the centre of a box lies. -/
def center (box : Box Rat) : Rat :=
  box.x + box.width / 2

/-- Where some boxes have an edge. -/
def edges (edge : Box Rat → Rat) (boxes : List (Box Rat)) : Set Rat :=
  {place | ∃ box ∈ boxes, edge box = place}

/-- Each edge of the box is the outermost one that some boxes have on its side. -/
structure Bounds (bounds : Box Rat) (boxes : List (Box Rat)) : Prop where
  left : IsLeast (edges Box.x boxes) bounds.x
  top : IsLeast (edges Box.y boxes) bounds.y
  right : IsGreatest (edges Box.right boxes) bounds.right
  bottom : IsGreatest (edges Box.bottom boxes) bounds.bottom

theorem isLeast_edges {edge : Box Rat → Rat} {box : Box Rat} {place : Rat} (member : box ∈ boxes)
    (there : edge box = place) (outermost : ∀ other ∈ boxes, place ≤ edge other) :
    IsLeast (edges edge boxes) place := by
  refine ⟨⟨box, member, there⟩, ?_⟩
  rintro _ ⟨other, held, rfl⟩
  exact outermost other held

theorem isGreatest_edges {edge : Box Rat → Rat} {box : Box Rat} {place : Rat}
    (member : box ∈ boxes) (there : edge box = place)
    (outermost : ∀ other ∈ boxes, edge other ≤ place) : IsGreatest (edges edge boxes) place := by
  refine ⟨⟨box, member, there⟩, ?_⟩
  rintro _ ⟨other, held, rfl⟩
  exact outermost other held

theorem edges_singleton (edge : Box Rat → Rat) (box : Box Rat) :
    edges edge [box] = {edge box} := by
  ext place
  simp [edges, eq_comm]

theorem edges_append (edge : Box Rat → Rat) (boxes others : List (Box Rat)) :
    edges edge (boxes ++ others) = edges edge boxes ∪ edges edge others := by
  ext place
  simp [edges, or_and_right, exists_or]

theorem edges_map (along : Rat → Rat) {edge : Box Rat → Rat} {move : Box Rat → Box Rat}
    (moved : ∀ box, edge (move box) = along (edge box)) (boxes : List (Box Rat)) :
    edges edge (boxes.map move) = along '' edges edge boxes := by
  ext place
  simp [edges, moved]

/-- Two boxes with the same four edges are the same. -/
theorem ext_edges {a b : Box Rat} (left : a.x = b.x) (top : a.y = b.y) (right : a.right = b.right)
    (bottom : a.bottom = b.bottom) : a = b := by
  obtain ⟨x, y, width, height⟩ := a
  cases left
  cases top
  cases add_left_cancel right
  cases add_left_cancel bottom
  rfl

namespace Bounds

theorem unique {other : Box Rat} (is_bounds : Bounds bounds boxes) (also : Bounds other boxes) :
    bounds = other :=
  ext_edges (is_bounds.left.unique also.left) (is_bounds.top.unique also.top)
    (is_bounds.right.unique also.right) (is_bounds.bottom.unique also.bottom)

theorem encloses (is_bounds : Bounds bounds boxes) {box : Box Rat} (member : box ∈ boxes) :
    bounds.Encloses box where
  left := is_bounds.left.2 ⟨box, member, rfl⟩
  top := is_bounds.top.2 ⟨box, member, rfl⟩
  right := is_bounds.right.2 ⟨box, member, rfl⟩
  bottom := is_bounds.bottom.2 ⟨box, member, rfl⟩

theorem singleton (box : Box Rat) : Bounds box [box] := by
  constructor
  all_goals rw [edges_singleton]
  · exact isLeast_singleton
  · exact isLeast_singleton
  · exact isGreatest_singleton
  · exact isGreatest_singleton

end Bounds

/-! ### Joining boxes -/

theorem right_union (a b : Box Rat) : (a.union b).right = Max.max a.right b.right := by
  rw [right_rat, union, Scalar.max_rat]
  exact add_sub_cancel _ _

theorem bottom_union (a b : Box Rat) : (a.union b).bottom = Max.max a.bottom b.bottom := by
  rw [bottom_rat, union, Scalar.max_rat]
  exact add_sub_cancel _ _

theorem Bounds.union {a b : Box Rat} {others : List (Box Rat)} (of_boxes : Bounds a boxes)
    (of_others : Bounds b others) : Bounds (a.union b) (boxes ++ others) := by
  constructor
  all_goals rw [edges_append]
  · rw [Box.union, Scalar.min_rat]
    exact of_boxes.left.union of_others.left
  · rw [Box.union, Scalar.min_rat]
    exact of_boxes.top.union of_others.top
  · rw [right_union]
    exact of_boxes.right.union of_others.right
  · rw [bottom_union]
    exact of_boxes.bottom.union of_others.bottom

/-- Joining further boxes to the bounds of some gives the bounds of all. -/
theorem foldl_union_bounds (is_bounds : Bounds bounds boxes) (others : List (Box Rat)) :
    Bounds (others.foldl union bounds) (boxes ++ others) := by
  induction others generalizing bounds boxes with
  | nil => simpa using is_bounds
  | cons first rest ih =>
    have joined := ih (is_bounds.union (.singleton first))
    rwa [List.append_assoc] at joined

/-- The box that is found by joining is the bounds, and there is none only without boxes. -/
theorem union?_eq_some_iff : union? boxes = some bounds ↔ Bounds bounds boxes := by
  have joined (first : Box Rat) (rest : List (Box Rat)) :
      Bounds (rest.foldl Box.union first) (first :: rest) :=
    foldl_union_bounds (.singleton first) rest
  cases boxes with
  | nil =>
    constructor
    · intro found
      cases found
    · intro is_bounds
      obtain ⟨_, member, _⟩ := is_bounds.left.1
      cases member
  | cons first rest =>
    rw [union?, Option.some.injEq]
    constructor
    · rintro rfl
      exact joined first rest
    · exact fun is_bounds => (joined first rest).unique is_bounds

theorem exists_bounds (some_box : boxes ≠ []) : ∃ bounds, union? boxes = some bounds := by
  cases boxes with
  | nil => exact absurd rfl some_box
  | cons first rest => exact ⟨_, rfl⟩

/-- Following the four extremes comes to the same as joining the boxes. -/
theorem bounds?_eq_union? (boxes : List (Box Rat)) : bounds? boxes = union? boxes := by
  -- The extremes determine the box, and joining a box to it widens them.
  have whole (extent : Extent Rat) :
      extent.toBox.right = extent.right ∧ extent.toBox.bottom = extent.bottom :=
    ⟨add_sub_cancel _ _, add_sub_cancel _ _⟩
  have step (extent : Extent Rat) (box : Box Rat) :
      extent.toBox.union box = (extent.widen box).toBox := by
    apply ext_edges
    · rfl
    · rfl
    · rw [right_union, (whole _).1, (whole _).1, ← Scalar.max_rat]
      rfl
    · rw [bottom_union, (whole _).2, (whole _).2, ← Scalar.max_rat]
      rfl
  cases boxes with
  | nil => rfl
  | cons first rest =>
    have first_whole : (Extent.ofBox first).toBox = first :=
      ext_edges rfl rfl (whole _).1 (whole _).2
    rw [bounds?, union?, ← List.foldl_hom Extent.toBox step, first_whole]

/-! ### Moving boxes -/

theorem shift_zero (box : Box Rat) : box.shift 0 0 = box := by
  simp only [shift]
  exact congrArg₂ (fun x y => Box.mk x y box.width box.height) (add_zero _) (add_zero _)

theorem right_shift (dx dy : Rat) (box : Box Rat) : (box.shift dx dy).right = box.right + dx :=
  add_right_comm box.x dx box.width

theorem bottom_shift (dx dy : Rat) (box : Box Rat) : (box.shift dx dy).bottom = box.bottom + dy :=
  add_right_comm box.y dy box.height

theorem center_shift (dx dy : Rat) (box : Box Rat) : (box.shift dx dy).center = box.center + dx :=
  add_right_comm box.x dx (box.width / 2)

theorem middle_shift (dx dy : Rat) (box : Box Rat) : (box.shift dx dy).middle = box.middle + dy :=
  add_right_comm box.y dy (box.height / 2)

/-- The bounds of boxes that are moved by one offset are moved along. -/
theorem Bounds.shift (is_bounds : Bounds bounds boxes) (dx dy : Rat) :
    Bounds (bounds.shift dx dy) (boxes.map (Box.shift dx dy)) := by
  -- Moving keeps the order of the edges, so the outermost one stays the outermost one.
  have along (offset : Rat) : Monotone (· + offset) := fun _ _ below => add_le_add_left below offset
  constructor
  · rw [edges_map (· + dx) fun _ => rfl]
    exact (along dx).map_isLeast is_bounds.left
  · rw [edges_map (· + dy) fun _ => rfl]
    exact (along dy).map_isLeast is_bounds.top
  · rw [edges_map (· + dx) (right_shift dx dy), right_shift]
    exact (along dx).map_isGreatest is_bounds.right
  · rw [edges_map (· + dy) (bottom_shift dx dy), bottom_shift]
    exact (along dy).map_isGreatest is_bounds.bottom

theorem union?_shift (found : union? boxes = some bounds) (dx dy : Rat) :
    union? (boxes.map (shift dx dy)) = some (bounds.shift dx dy) :=
  union?_eq_some_iff.mpr ((union?_eq_some_iff.mp found).shift dx dy)

/-- The same boxes at other places: their sizes are the same, and so are the distances from the
corner of one to the corner of another. -/
structure Rigid (before after : List (Box Rat)) : Prop where
  widths : after.map Box.width = before.map Box.width
  heights : after.map Box.height = before.map Box.height
  distances : ∀ (i j : Nat) (a b moved_a moved_b : Box Rat), before[i]? = some a →
    before[j]? = some b → after[i]? = some moved_a → after[j]? = some moved_b →
      moved_a.x - moved_b.x = a.x - b.x ∧ moved_a.y - moved_b.y = a.y - b.y

theorem rigid_shift (dx dy : Rat) (boxes : List (Box Rat)) :
    Rigid boxes (boxes.map (shift dx dy)) := by
  constructor
  case widths => simp [Function.comp_def, shift]
  case heights => simp [Function.comp_def, shift]
  case distances =>
    intro i j a b moved_a moved_b at_i at_j moved_i moved_j
    rw [List.getElem?_map, at_i, Option.map_some, Option.some.injEq] at moved_i
    rw [List.getElem?_map, at_j, Option.map_some, Option.some.injEq] at moved_j
    subst moved_i moved_j
    exact ⟨add_sub_add_right_eq_sub a.x b.x dx, add_sub_add_right_eq_sub a.y b.y dy⟩

end Box

end TextDiagram
