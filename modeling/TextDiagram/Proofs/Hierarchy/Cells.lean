import Mathlib.Data.List.GetD
import Mathlib.Tactic.Ring
import TextDiagram.Layout.Hierarchy.Grid
import TextDiagram.Proofs.Geometry.Exact

/-!
# Cells of a grid

A grid is one list of lines on each axis, and an item stands on one line of each. Main statements:
on an axis every item stays between the start of its line and the start of the next one, so that a
grid encloses its items and two items of a grid are apart.
-/
namespace TextDiagram.Hierarchy.Grid

/-! ### Lines -/

/-- Where an item of some extent starts, in the middle of a line. -/
def itemStart (origin : Rat) (lines : List Rat) (spacing : Rat) (line : Nat) (extent : Rat) : Rat :=
  lineStart origin lines spacing line + Scalar.half (lines.getD line Scalar.zero - extent)

section Lines

variable {origin spacing extent : Rat} {lines : List Rat} {line other : Nat}

theorem lineStart_rat (origin : Rat) (lines : List Rat) (spacing : Rat) (line : Nat) :
    lineStart origin lines spacing line = origin + (lines.take line).sum + line * spacing := by
  rw [lineStart, Scalar.sum_rat]
  rfl

theorem lineStart_zero (origin : Rat) (lines : List Rat) (spacing : Rat) :
    lineStart origin lines spacing 0 = origin := by
  simp [lineStart_rat]

theorem lineStart_succ (inside : line < lines.length) :
    lineStart origin lines spacing (line + 1) =
      lineStart origin lines spacing line + lines.getD line Scalar.zero + spacing := by
  simp only [lineStart_rat, List.sum_take_succ lines line inside, Nat.cast_add, Nat.cast_one,
    List.getD_eq_getElem _ _ inside]
  ring

/-- The gaps are between the lines, so that the last line is not followed by one. -/
theorem lineStart_length (some_line : lines ≠ []) :
    lineStart origin lines spacing lines.length =
      origin + (lines.sum + (lines.length - 1 : Nat) * spacing) + spacing := by
  have positive : 1 ≤ lines.length := List.length_pos_iff.mpr some_line
  rw [lineStart_rat, List.take_length, Nat.cast_sub positive, Nat.cast_one]
  ring

theorem lineStart_le (nonneg : ∀ extent ∈ lines, 0 ≤ extent) (spacing_nonneg : 0 ≤ spacing)
    (before : line ≤ other) (inside : other ≤ lines.length) :
    lineStart origin lines spacing line ≤ lineStart origin lines spacing other := by
  induction other, before using Nat.le_induction with
  | base => exact le_rfl
  | succ other _ ih =>
    have line_nonneg : 0 ≤ lines.getD other Scalar.zero := by
      rw [List.getD_eq_getElem _ _ (by omega)]
      exact nonneg _ (List.getElem_mem _)
    rw [lineStart_succ (by omega)]
    linarith [ih (by omega)]

theorem lineStart_le_itemStart (fits : extent ≤ lines.getD line Scalar.zero) :
    lineStart origin lines spacing line ≤ itemStart origin lines spacing line extent := by
  rw [itemStart, Scalar.half_rat]
  linarith

theorem itemStart_add_le_lineStart (inside : line < lines.length)
    (fits : extent ≤ lines.getD line Scalar.zero) :
    itemStart origin lines spacing line extent + extent + spacing ≤
      lineStart origin lines spacing (line + 1) := by
  rw [itemStart, Scalar.half_rat, lineStart_succ inside]
  linarith

/-- An item stays between the first and the last line. -/
theorem itemStart_inside (origin : Rat) (nonneg : ∀ extent ∈ lines, 0 ≤ extent)
    (spacing_nonneg : 0 ≤ spacing)
    (inside : line < lines.length) (fits : extent ≤ lines.getD line Scalar.zero) :
    origin ≤ itemStart origin lines spacing line extent ∧
      itemStart origin lines spacing line extent + extent ≤
        origin + (lines.sum + (lines.length - 1 : Nat) * spacing) := by
  constructor
  · calc origin = lineStart origin lines spacing 0 := (lineStart_zero ..).symm
      _ ≤ lineStart origin lines spacing line :=
        lineStart_le nonneg spacing_nonneg (Nat.zero_le _) inside.le
      _ ≤ _ := lineStart_le_itemStart fits
  · have some_line : lines ≠ [] := List.length_pos_iff.mp (Nat.zero_lt_of_lt inside)
    apply le_of_add_le_add_right (a := spacing)
    rw [← lineStart_length some_line]
    exact (itemStart_add_le_lineStart inside fits).trans
      (lineStart_le nonneg spacing_nonneg inside le_rfl)

/-- An item ends, with the gap behind it, before any item of a later line starts. -/
theorem itemStart_add_le_itemStart {later_extent : Rat} (nonneg : ∀ extent ∈ lines, 0 ≤ extent)
    (spacing_nonneg : 0 ≤ spacing) (before : line < other) (inside : other < lines.length)
    (fits : extent ≤ lines.getD line Scalar.zero)
    (later_fits : later_extent ≤ lines.getD other Scalar.zero) :
    itemStart origin lines spacing line extent + extent + spacing ≤
      itemStart origin lines spacing other later_extent :=
  calc
    _ ≤ lineStart origin lines spacing (line + 1) :=
      itemStart_add_le_lineStart (before.trans inside) fits
    _ ≤ lineStart origin lines spacing other :=
      lineStart_le nonneg spacing_nonneg before inside.le
    _ ≤ _ := lineStart_le_itemStart later_fits

end Lines

/-! ### Lines of a grid -/

section Counts

variable {α : Type} [Scalar α]

theorem columnCount_pos (maxColumns items : Nat) : 0 < columnCount maxColumns items := by
  unfold columnCount
  omega

theorem div_lt_rowCount {columns items position : Nat} (some_column : 0 < columns)
    (inside : position < items) : position / columns < rowCount columns items := by
  rw [rowCount, ← Nat.succ_le_iff, Nat.le_div_iff_mul_le some_column, Nat.succ_mul]
  have := Nat.div_mul_le_self position columns
  omega

theorem mem_itemsAt {β : Type} {condition : Nat → Bool} {items : List β} {item : β} :
    item ∈ itemsAt condition items ↔
      ∃ position, items[position]? = some item ∧ condition position = true := by
  simp [itemsAt, List.mem_zipIdx_iff_getElem?]

theorem ofSizes_columns_pos (maxColumns : Nat) (sizes : List (Size α)) :
    0 < (ofSizes maxColumns sizes).columns :=
  columnCount_pos maxColumns sizes.length

theorem ofSizes_widths_length (maxColumns : Nat) (sizes : List (Size α)) :
    (ofSizes maxColumns sizes).widths.length = (ofSizes maxColumns sizes).columns := by
  simp [ofSizes]

theorem ofSizes_heights_length (maxColumns : Nat) (sizes : List (Size α)) :
    (ofSizes maxColumns sizes).heights.length =
      rowCount (ofSizes maxColumns sizes).columns sizes.length := by
  simp [ofSizes]

variable {sizes : List (Size α)} {position : Nat} {size : Size α}

theorem column_lt (maxColumns : Nat) (sizes : List (Size α)) (position : Nat) :
    position % (ofSizes maxColumns sizes).columns < (ofSizes maxColumns sizes).widths.length := by
  rw [ofSizes_widths_length]
  exact Nat.mod_lt _ (ofSizes_columns_pos maxColumns sizes)

theorem row_lt (maxColumns : Nat) (found : sizes[position]? = some size) :
    position / (ofSizes maxColumns sizes).columns < (ofSizes maxColumns sizes).heights.length := by
  rw [ofSizes_heights_length]
  have inside := (List.getElem?_eq_some_iff.mp found).1
  exact div_lt_rowCount (ofSizes_columns_pos maxColumns sizes) inside

end Counts

section Measures

variable {maxColumns position : Nat} {sizes : List (Size Rat)} {size : Size Rat}

theorem forall_greatest_nonneg {β : Type} (lengths : β → List Rat) (lines : List β) :
    ∀ length ∈ lines.map fun line => Scalar.greatest (lengths line), 0 ≤ length := by
  intro length member
  obtain ⟨line, _, rfl⟩ := List.mem_map.mp member
  exact Scalar.greatest_nonneg _

theorem ofSizes_widths_nonneg (maxColumns : Nat) (sizes : List (Size Rat)) :
    ∀ width ∈ (ofSizes maxColumns sizes).widths, 0 ≤ width :=
  forall_greatest_nonneg _ _

theorem ofSizes_heights_nonneg (maxColumns : Nat) (sizes : List (Size Rat)) :
    ∀ height ∈ (ofSizes maxColumns sizes).heights, 0 ≤ height :=
  forall_greatest_nonneg _ _

theorem width_le_column (maxColumns : Nat) (found : sizes[position]? = some size) :
    size.width ≤ (ofSizes maxColumns sizes).widths.getD
      (position % (ofSizes maxColumns sizes).columns) Scalar.zero := by
  rw [List.getD_eq_getElem _ _ (column_lt maxColumns sizes position)]
  simp only [ofSizes, List.getElem_map, List.getElem_range]
  exact Scalar.le_greatest (List.mem_map_of_mem (mem_itemsAt.mpr ⟨position, found, by simp⟩))

theorem height_le_row (maxColumns : Nat) (found : sizes[position]? = some size) :
    size.height ≤ (ofSizes maxColumns sizes).heights.getD
      (position / (ofSizes maxColumns sizes).columns) Scalar.zero := by
  rw [List.getD_eq_getElem _ _ (row_lt maxColumns found)]
  simp only [ofSizes, List.getElem_map, List.getElem_range]
  exact Scalar.le_greatest (List.mem_map_of_mem (mem_itemsAt.mpr ⟨position, found, by simp⟩))

end Measures

/-! ### Boxes of a grid -/

section Boxes

variable {config : Config Rat} {x y : Rat} {sizes : List (Size Rat)}

theorem boxes_getElem? (config : Config Rat) (x y : Rat) (sizes : List (Size Rat))
    (position : Nat) :
    (boxes config x y sizes)[position]? = sizes[position]?.map
      ((ofSizes config.maxColumns sizes).boxAt config x y position) := by
  simp [boxes, Function.comp_def]

theorem width_rat (grid : Grid Rat) (config : Config Rat) :
    grid.width config =
      grid.widths.sum + (grid.widths.length - 1 : Nat) * config.horizontalSpacing := by
  rw [width, Scalar.sum_rat]
  rfl

theorem height_rat (grid : Grid Rat) (config : Config Rat) :
    grid.height config =
      grid.heights.sum + (grid.heights.length - 1 : Nat) * config.verticalSpacing := by
  rw [height, Scalar.sum_rat]
  rfl

theorem boxAt_inside (horizontal_nonneg : 0 ≤ config.horizontalSpacing)
    (vertical_nonneg : 0 ≤ config.verticalSpacing) {position : Nat} {size : Size Rat}
    (found : sizes[position]? = some size) :
    let grid := ofSizes config.maxColumns sizes
    (⟨x, y, grid.width config, grid.height config⟩ : Box Rat).Encloses
      (grid.boxAt config x y position size) := by
  intro grid
  obtain ⟨left, right⟩ := itemStart_inside x
    (ofSizes_widths_nonneg config.maxColumns sizes) horizontal_nonneg
    (column_lt config.maxColumns sizes position) (width_le_column config.maxColumns found)
  obtain ⟨top, bottom⟩ := itemStart_inside y
    (ofSizes_heights_nonneg config.maxColumns sizes) vertical_nonneg
    (row_lt config.maxColumns found) (height_le_row config.maxColumns found)
  constructor
  · exact left
  · exact top
  · rw [Box.right_rat, Box.right_rat, width_rat]
    exact right
  · rw [Box.bottom_rat, Box.bottom_rat, height_rat]
    exact bottom

theorem boxes_inside (horizontal_nonneg : 0 ≤ config.horizontalSpacing)
    (vertical_nonneg : 0 ≤ config.verticalSpacing) {box : Box Rat}
    (member : box ∈ boxes config x y sizes) :
    let grid := ofSizes config.maxColumns sizes
    (⟨x, y, grid.width config, grid.height config⟩ : Box Rat).Encloses box := by
  obtain ⟨position, at_position⟩ := List.mem_iff_getElem?.mp member
  rw [boxes_getElem?, Option.map_eq_some_iff] at at_position
  obtain ⟨size, found, rfl⟩ := at_position
  exact boxAt_inside horizontal_nonneg vertical_nonneg found

section Positions

variable {i j : Nat} {a b : Size Rat}

theorem boxAt_before (horizontal_nonneg : 0 ≤ config.horizontalSpacing)
    (found_a : sizes[i]? = some a) (found_b : sizes[j]? = some b) :
    let grid := ofSizes config.maxColumns sizes
    i % grid.columns < j % grid.columns →
      (grid.boxAt config x y i a).right + config.horizontalSpacing ≤
        (grid.boxAt config x y j b).x := by
  intro grid before
  exact itemStart_add_le_itemStart (ofSizes_widths_nonneg config.maxColumns sizes)
    horizontal_nonneg before (column_lt config.maxColumns sizes j)
    (width_le_column config.maxColumns found_a) (width_le_column config.maxColumns found_b)

theorem boxAt_above (vertical_nonneg : 0 ≤ config.verticalSpacing)
    (found_a : sizes[i]? = some a) (found_b : sizes[j]? = some b) :
    let grid := ofSizes config.maxColumns sizes
    i / grid.columns < j / grid.columns →
      (grid.boxAt config x y i a).bottom + config.verticalSpacing ≤
        (grid.boxAt config x y j b).y := by
  intro grid above
  exact itemStart_add_le_itemStart (ofSizes_heights_nonneg config.maxColumns sizes)
    vertical_nonneg above (row_lt config.maxColumns found_b)
    (height_le_row config.maxColumns found_a) (height_le_row config.maxColumns found_b)

end Positions

/-- Items of different positions stand in different columns or in different rows. -/
theorem boxAt_apart (horizontal_nonneg : 0 ≤ config.horizontalSpacing)
    (vertical_nonneg : 0 ≤ config.verticalSpacing) {i j : Nat} {a b : Size Rat} (different : i ≠ j)
    (found_a : sizes[i]? = some a) (found_b : sizes[j]? = some b) :
    let grid := ofSizes config.maxColumns sizes
    (grid.boxAt config x y i a).Apart (grid.boxAt config x y j b) := by
  intro grid
  have gap (edge : Rat) := le_add_of_nonneg_right horizontal_nonneg (a := edge)
  have drop (edge : Rat) := le_add_of_nonneg_right vertical_nonneg (a := edge)
  rcases Nat.lt_trichotomy (i % grid.columns) (j % grid.columns) with before | same_column | after
  · exact .inl ((gap _).trans (boxAt_before horizontal_nonneg found_a found_b before))
  · rcases Nat.lt_trichotomy (i / grid.columns) (j / grid.columns) with above | same_row | below
    · exact .inr (.inr (.inl ((drop _).trans (boxAt_above vertical_nonneg found_a found_b above))))
    · have same_position : i = j := by
        rw [← Nat.div_add_mod i grid.columns, ← Nat.div_add_mod j grid.columns, same_column,
          same_row]
      exact absurd same_position different
    · exact .inr (.inr (.inr ((drop _).trans (boxAt_above vertical_nonneg found_b found_a below))))
  · exact .inr (.inl ((gap _).trans (boxAt_before horizontal_nonneg found_b found_a after)))

theorem boxes_pairwise (x y : Rat) (sizes : List (Size Rat))
    (horizontal_nonneg : 0 ≤ config.horizontalSpacing)
    (vertical_nonneg : 0 ≤ config.verticalSpacing) :
    (boxes config x y sizes).Pairwise Box.Apart := by
  rw [List.pairwise_iff_getElem]
  intro i j i_bound j_bound before
  have at_i := boxes_getElem? config x y sizes i
  have at_j := boxes_getElem? config x y sizes j
  rw [List.getElem?_eq_getElem i_bound, eq_comm, Option.map_eq_some_iff] at at_i
  rw [List.getElem?_eq_getElem j_bound, eq_comm, Option.map_eq_some_iff] at at_j
  obtain ⟨a_size, found_a, box_a⟩ := at_i
  obtain ⟨b_size, found_b, box_b⟩ := at_j
  rw [← box_a, ← box_b]
  exact boxAt_apart horizontal_nonneg vertical_nonneg (Nat.ne_of_lt before) found_a found_b

end Boxes

end TextDiagram.Hierarchy.Grid
