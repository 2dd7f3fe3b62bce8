import Mathlib.Data.Nat.Nth
import TextDiagram.Layout.Flow
import TextDiagram.Proofs.Document.Keyed
import TextDiagram.Proofs.Flow.Placing

/-!
# Row numbers

Rows that ended up without nodes are left out, and the others are numbered from the top. Main
statements: row numbers are in the order of the rows, a number stands for one row only, and no
number up to the greatest one is left out.
-/
namespace TextDiagram.Flow

variable {α : Type} {n : Nat} {placement : Placement α n}

/-- The number of a row counts the rows with nodes above it. -/
theorem countP_usedRows {row : Nat} (opened : row ≤ placement.cursors.length) :
    (usedRows placement).countP (· < row) = Nat.count (· ∈ placement.slots.map Slot.row) row := by
  obtain ⟨below, split⟩ := Nat.exists_eq_add_of_le opened
  -- Rows from this one on are counted too, but come to nothing.
  let counted (other : Nat) : Bool := decide (other < row) && placement.slots.any (·.row == other)
  have none_counted : (List.range below).countP (counted ∘ (row + ·)) = 0 := by
    simp [counted, List.countP_eq_zero]
  rw [usedRows, List.countP_filter, split, List.range_add, List.countP_append, List.countP_map,
    none_counted, Nat.count]
  apply List.countP_congr
  intro other inside
  simp [List.mem_range.mp inside]

namespace Complete

theorem exists_slot (complete : Complete placement) (node : Fin n) :
    ∃ slot ∈ placement.slots, slot.node = node :=
  List.mem_map.mp (complete.all node)

variable {slot a b : Slot α n}

theorem slot?_eq (complete : Complete placement) (member : slot ∈ placement.slots) :
    placement.slot? slot.node = some slot :=
  find?_key_of_mem Slot.node complete.nodup member

theorem columnOf_eq [Scalar α] (complete : Complete placement) (member : slot ∈ placement.slots) :
    columnOf placement slot.node = slot.x := by
  rw [columnOf, complete.slot?_eq member]

theorem rowOf_eq (complete : Complete placement) (member : slot ∈ placement.slots) :
    rowOf (usedRows placement) placement slot.node =
      Nat.count (· ∈ placement.slots.map Slot.row) slot.row := by
  rw [rowOf, complete.slot?_eq member]
  exact countP_usedRows (complete.opened slot member).le

theorem rowOf_lt (complete : Complete placement) (a_placed : a ∈ placement.slots)
    (b_placed : b ∈ placement.slots) :
    rowOf (usedRows placement) placement a.node < rowOf (usedRows placement) placement b.node ↔
      a.row < b.row := by
  rw [complete.rowOf_eq a_placed, complete.rowOf_eq b_placed]
  constructor
  · exact Nat.lt_of_count_lt_count
  · exact Nat.count_strict_mono (List.mem_map_of_mem a_placed)

theorem rowOf_inj (complete : Complete placement) (a_placed : a ∈ placement.slots)
    (b_placed : b ∈ placement.slots) :
    rowOf (usedRows placement) placement a.node = rowOf (usedRows placement) placement b.node ↔
      a.row = b.row := by
  rw [complete.rowOf_eq a_placed, complete.rowOf_eq b_placed]
  constructor
  · exact Nat.count_injective (List.mem_map_of_mem a_placed) (List.mem_map_of_mem b_placed)
  · exact congrArg _

theorem exists_rowOf (complete : Complete placement) (number : Nat) :
    (∃ node, rowOf (usedRows placement) placement node = number) ↔
      number < (usedRows placement).length := by
  have count : (usedRows placement).length =
      Nat.count (· ∈ placement.slots.map Slot.row) placement.cursors.length := by
    rw [← countP_usedRows (Nat.le_refl _), List.countP_eq_length.mpr]
    intro row used
    simpa using (List.mem_filter.mp used).1
  rw [count]
  constructor
  · rintro ⟨node, rfl⟩
    obtain ⟨slot, placed, rfl⟩ := complete.exists_slot node
    rw [complete.rowOf_eq placed]
    exact Nat.count_strict_mono (List.mem_map_of_mem placed) (complete.opened slot placed)
  · intro counted
    have below_card (finite : (Set.ofPred (· ∈ placement.slots.map Slot.row)).Finite) :=
      counted.trans_le (Nat.count_le_card finite _)
    obtain ⟨slot, placed, row⟩ := List.mem_map.mp (Nat.nth_mem number below_card)
    refine ⟨slot.node, ?_⟩
    rw [complete.rowOf_eq placed, row]
    exact Nat.count_nth below_card

/-- The nodes with the number of a row are those that were placed on the row, in order. -/
theorem placed_filter_rowOf (complete : Complete placement) (member : slot ∈ placement.slots) :
    placement.placed.filter (fun node => rowOf (usedRows placement) placement node =
      rowOf (usedRows placement) placement slot.node) =
        (onRow placement.slots slot.row).map Slot.node := by
  rw [Placement.placed, List.filter_map, onRow]
  congr 1
  apply List.filter_congr
  intro other placed
  rw [Function.comp_apply, decide_eq_decide]
  exact complete.rowOf_inj placed member

end Complete

end TextDiagram.Flow
