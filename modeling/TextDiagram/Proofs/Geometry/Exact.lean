import Mathlib.Algebra.BigOperators.Group.List.Basic
import Mathlib.Algebra.Order.Ring.Rat
import Mathlib.Data.List.Pairwise
import Mathlib.Data.Set.Prod
import Mathlib.Order.Interval.Set.Basic
import Mathlib.Tactic.Linarith
import TextDiagram.Config
import TextDiagram.Geometry

/-!
# Exact boxes

Over the rational numbers boxes are measured without rounding, and the operations of scalars are
those of the numbers. What lies inside of what, and what is apart, is then said by inequalities
between the edges of boxes.
-/
namespace TextDiagram

/-- What holds between items one way round, holds between any two of them one way or the other. -/
theorem related_of_pairwise {β : Type} {r : β → β → Prop} {items : List β}
    (pairwise : items.Pairwise r) {a b : β} (a_member : a ∈ items) (b_member : b ∈ items)
    (different : a ≠ b) : r a b ∨ r b a := by
  have symmetric : Std.Symm fun a b => r a b ∨ r b a := ⟨fun _ _ => Or.symm⟩
  exact (pairwise.imp (S := fun a b => r a b ∨ r b a) .inl).forall a_member b_member different

namespace Scalar

theorem ofNat_rat (n : Nat) : (ofNat n : Rat) = n :=
  rfl

theorem zero_rat : (zero : Rat) = 0 :=
  rfl

theorem half_rat (a : Rat) : half a = a / 2 :=
  rfl

theorem max_rat (a b : Rat) : Scalar.max a b = Max.max a b := by
  rw [max_def]
  rfl

theorem sum_rat (items : List Rat) : sum items = items.sum :=
  List.sum_eq_foldl.symm

theorem le_foldl_max (items : List Rat) (least : Rat) :
    least ≤ items.foldl Scalar.max least ∧ ∀ item ∈ items, item ≤ items.foldl Scalar.max least := by
  induction items generalizing least with
  | nil => simp
  | cons first rest ih =>
    obtain ⟨above, above_rest⟩ := ih (Scalar.max least first)
    rw [max_rat] at above above_rest
    simp only [List.foldl_cons, List.mem_cons, forall_eq_or_imp, max_rat]
    exact ⟨(le_max_left _ _).trans above, (le_max_right _ _).trans above, above_rest⟩

theorem greatest_nonneg (items : List Rat) : 0 ≤ greatest items :=
  (le_foldl_max items 0).1

theorem le_greatest {items : List Rat} {item : Rat} (member : item ∈ items) :
    item ≤ greatest items :=
  (le_foldl_max items 0).2 item member

theorem greatest_le {items : List Rat} {bound : Rat} (nonneg : 0 ≤ bound)
    (bounded : ∀ item ∈ items, item ≤ bound) : greatest items ≤ bound := by
  have least_bounded (least : Rat) (below : least ≤ bound) :
      items.foldl Scalar.max least ≤ bound := by
    induction items generalizing least with
    | nil => exact below
    | cons first rest ih =>
      rw [List.foldl_cons]
      refine ih (fun item member => bounded item (List.mem_cons_of_mem first member)) _ ?_
      rw [max_rat]
      exact max_le below (bounded first List.mem_cons_self)
  exact least_bounded 0 nonneg

end Scalar

namespace Padding

theorem horizontal_rat (padding : Padding Rat) :
    padding.horizontal = padding.left + padding.right :=
  rfl

theorem vertical_rat (padding : Padding Rat) : padding.vertical = padding.top + padding.bottom :=
  rfl

structure Nonneg (padding : Padding Rat) : Prop where
  top : 0 ≤ padding.top
  right : 0 ≤ padding.right
  bottom : 0 ≤ padding.bottom
  left : 0 ≤ padding.left

end Padding

namespace Box

theorem right_rat (box : Box Rat) : box.right = box.x + box.width :=
  rfl

theorem bottom_rat (box : Box Rat) : box.bottom = box.y + box.height :=
  rfl

/-- The height at which the centre of a box lies. -/
def middle (box : Box Rat) : Rat :=
  box.y + box.height / 2

/-! ### Boxes in boxes -/

/-- No edge of the inner box stands out. Edges may touch. -/
structure Encloses (outer inner : Box Rat) : Prop where
  left : outer.x ≤ inner.x
  top : outer.y ≤ inner.y
  right : inner.right ≤ outer.right
  bottom : inner.bottom ≤ outer.bottom

theorem Encloses.refl (box : Box Rat) : box.Encloses box :=
  ⟨le_rfl, le_rfl, le_rfl, le_rfl⟩

theorem Encloses.trans {a b c : Box Rat} (ab : a.Encloses b) (bc : b.Encloses c) :
    a.Encloses c where
  left := ab.left.trans bc.left
  top := ab.top.trans bc.top
  right := bc.right.trans ab.right
  bottom := bc.bottom.trans ab.bottom

/-- The box without the room that a padding keeps free on each side. -/
def shrink (box : Box Rat) (padding : Padding Rat) : Box Rat where
  x := box.x + padding.left
  y := box.y + padding.top
  width := box.width - padding.horizontal
  height := box.height - padding.vertical

theorem right_shrink (box : Box Rat) (padding : Padding Rat) :
    (box.shrink padding).right = box.right - padding.right := by
  simp only [right_rat, shrink, Padding.horizontal_rat]
  linarith

theorem bottom_shrink (box : Box Rat) (padding : Padding Rat) :
    (box.shrink padding).bottom = box.bottom - padding.bottom := by
  simp only [bottom_rat, shrink, Padding.vertical_rat]
  linarith

theorem encloses_shrink (box : Box Rat) {padding : Padding Rat} (nonneg : padding.Nonneg) :
    box.Encloses (box.shrink padding) where
  left := le_add_of_nonneg_right nonneg.left
  top := le_add_of_nonneg_right nonneg.top
  right := by
    rw [right_shrink]
    exact sub_le_self _ nonneg.right
  bottom := by
    rw [bottom_shrink]
    exact sub_le_self _ nonneg.bottom

/-! ### Boxes apart -/

/-- The points inside of a box, without its edges. -/
def interior (box : Box Rat) : Set (Rat × Rat) :=
  Set.Ioo box.x box.right ×ˢ Set.Ioo box.y box.bottom

/-- One of the boxes ends, on some axis, before the other one starts. Edges may touch. -/
def Apart (a b : Box Rat) : Prop :=
  a.right ≤ b.x ∨ b.right ≤ a.x ∨ a.bottom ≤ b.y ∨ b.bottom ≤ a.y

theorem Apart.symm {a b : Box Rat} (apart : a.Apart b) : b.Apart a := by
  rcases apart with left | right | above | below
  · exact .inr (.inl left)
  · exact .inl right
  · exact .inr (.inr (.inr above))
  · exact .inr (.inr (.inl below))

/-- What is inside of boxes that are apart is apart. -/
theorem Apart.mono {a b outer_a outer_b : Box Rat} (apart : outer_a.Apart outer_b)
    (in_a : outer_a.Encloses a) (in_b : outer_b.Encloses b) : a.Apart b := by
  rcases apart with left | right | above | below
  · exact .inl (in_a.right.trans (left.trans in_b.left))
  · exact .inr (.inl (in_b.right.trans (right.trans in_a.left)))
  · exact .inr (.inr (.inl (in_a.bottom.trans (above.trans in_b.top))))
  · exact .inr (.inr (.inr (in_b.bottom.trans (below.trans in_a.top))))

theorem Apart.interior_inter {a b : Box Rat} (apart : a.Apart b) : a.interior ∩ b.interior = ∅ := by
  rw [Set.eq_empty_iff_forall_notMem]
  rintro ⟨x, y⟩ ⟨⟨⟨a_left, a_right⟩, a_top, a_bottom⟩, ⟨b_left, b_right⟩, b_top, b_bottom⟩
  rcases apart with left | right | above | below
  · exact absurd (b_left.trans a_right) (not_lt.mpr left)
  · exact absurd (a_left.trans b_right) (not_lt.mpr right)
  · exact absurd (b_top.trans a_bottom) (not_lt.mpr above)
  · exact absurd (a_top.trans b_bottom) (not_lt.mpr below)

end Box

end TextDiagram
