import TextDiagram.Proofs.Geometry.Bounding
import TextDiagram.Proofs.Hierarchy.Separation

/-!
# Tight grids

Main statement: over exact numbers siblings stand in rows and columns, each centred on its row and
its column, and a group fits them tightly: their bounding box is in the middle of the room that the
padding leaves, and fills this room unless the group has been kept at its smallest size. A column is
as wide as one of its items and a row as high as one of its items, so that the grid is the bounding
box of what stands in it.
-/
namespace TextDiagram

namespace Scalar

/-- The greatest of some sizes is one of them. -/
theorem greatest_mem {items : List Rat} (some_item : items ≠ [])
    (nonneg : ∀ item ∈ items, 0 ≤ item) : greatest items ∈ items := by
  have least_or_mem (items : List Rat) (least : Rat) :
      items.foldl Scalar.max least = least ∨ items.foldl Scalar.max least ∈ items := by
    induction items generalizing least with
    | nil => exact .inl rfl
    | cons first rest ih =>
      rw [List.foldl_cons, List.mem_cons]
      rcases ih (Scalar.max least first) with same | later
      · rw [same, max_rat]
        exact (max_choice least first).imp id .inl
      · exact .inr (.inr later)
  rcases least_or_mem items 0 with zero | member
  · -- All sizes are then zero, so that the first one is the greatest.
    obtain ⟨first, member⟩ := List.exists_mem_of_ne_nil items some_item
    have first_le := le_greatest member
    have is_zero : greatest items = 0 := zero
    rw [is_zero] at first_le ⊢
    rwa [le_antisymm first_le (nonneg first member)] at member
  · exact member

end Scalar

namespace Hierarchy

namespace Grid

/-! ### The middle and the ends of lines -/

section Lines

variable {origin spacing extent : Rat} {lines : List Rat} {line : Nat}

/-- Items of one line have their centres at the same place, whatever their extents are. -/
theorem itemStart_center (origin : Rat) (lines : List Rat) (spacing : Rat) (line : Nat)
    (extent : Rat) :
    itemStart origin lines spacing line extent + extent / 2 =
      lineStart origin lines spacing line + lines.getD line Scalar.zero / 2 := by
  rw [itemStart, Scalar.half_rat]
  ring

theorem itemStart_full (full : extent = lines.getD line Scalar.zero) :
    itemStart origin lines spacing line extent = lineStart origin lines spacing line := by
  rw [itemStart, full, Scalar.half_rat, sub_self, zero_div, add_zero]

/-- The last line ends where the grid does. -/
theorem lineStart_last (some_line : lines ≠ []) :
    lineStart origin lines spacing (lines.length - 1) + lines.getD (lines.length - 1) Scalar.zero =
      origin + (lines.sum + (lines.length - 1 : Nat) * spacing) := by
  have positive : 0 < lines.length := List.length_pos_iff.mpr some_line
  have behind : lineStart origin lines spacing (lines.length - 1 + 1) = _ :=
    lineStart_succ (Nat.sub_one_lt_of_lt positive)
  rw [Nat.sub_add_cancel positive, lineStart_length some_line] at behind
  exact (add_right_cancel behind).symm

end Lines

/-! ### Lines and the items that fill them -/

section Measures

variable {maxColumns line : Nat} {sizes : List (Size Rat)}

theorem columnCount_eq (maxColumns : Nat) {items : Nat} (some_item : 0 < items) :
    columnCount maxColumns items = min (max maxColumns 1) items := by
  unfold columnCount
  omega

theorem columnCount_le (maxColumns : Nat) {items : Nat} (some_item : 0 < items) :
    columnCount maxColumns items ≤ items := by
  unfold columnCount
  omega

/-- The first item of a row is there. -/
theorem mul_lt_of_lt_rowCount {columns items row : Nat} (some_column : 0 < columns)
    (inside : row < rowCount columns items) : row * columns < items := by
  have upto : (row + 1) * columns ≤ items + columns - 1 :=
    (Nat.le_div_iff_mul_le some_column).mp inside
  rw [Nat.succ_mul] at upto
  omega

/-- The greatest extent of the items on a line is that of one of them. -/
theorem exists_greatest_item (on_line : Nat → Bool) {extent : Size Rat → Rat} {first : Nat}
    (bound : first < sizes.length) (first_on_line : on_line first = true)
    (nonneg : ∀ size ∈ sizes, 0 ≤ extent size) :
    ∃ position size, sizes[position]? = some size ∧ on_line position = true ∧
      extent size = Scalar.greatest ((itemsAt on_line sizes).map extent) := by
  have first_member : sizes[first] ∈ itemsAt on_line sizes :=
    mem_itemsAt.mpr ⟨first, List.getElem?_eq_getElem bound, first_on_line⟩
  have extents_nonneg : ∀ item ∈ (itemsAt on_line sizes).map extent, 0 ≤ item := by
    simp only [List.forall_mem_map]
    intro size member
    obtain ⟨position, found, _⟩ := mem_itemsAt.mp member
    exact nonneg size (List.mem_of_getElem? found)
  have greatest :=
    Scalar.greatest_mem (List.ne_nil_of_mem (List.mem_map_of_mem first_member)) extents_nonneg
  obtain ⟨size, member, same⟩ := List.mem_map.mp greatest
  obtain ⟨position, found, on_this_line⟩ := mem_itemsAt.mp member
  exact ⟨position, size, found, on_this_line, same⟩

/-- A column is as wide as one of its items. -/
theorem exists_column_width (some_item : sizes ≠ []) (nonneg : ∀ size ∈ sizes, 0 ≤ size.width)
    (inside : line < (ofSizes maxColumns sizes).widths.length) :
    ∃ position size, sizes[position]? = some size ∧
      position % (ofSizes maxColumns sizes).columns = line ∧
      size.width = (ofSizes maxColumns sizes).widths.getD line Scalar.zero := by
  have in_columns : line < (ofSizes maxColumns sizes).columns := by
    rwa [ofSizes_widths_length] at inside
  have enough : (ofSizes maxColumns sizes).columns ≤ sizes.length :=
    columnCount_le maxColumns (List.length_pos_iff.mpr some_item)
  -- The first item of the column stands in the first row.
  obtain ⟨position, size, found, in_column, width⟩ := exists_greatest_item
    (· % (ofSizes maxColumns sizes).columns == line) (in_columns.trans_le enough)
    (by simpa using Nat.mod_eq_of_lt in_columns) nonneg
  refine ⟨position, size, found, by simpa using in_column, ?_⟩
  rw [List.getD_eq_getElem _ _ inside, width]
  simp [ofSizes]

/-- A row is as high as one of its items. -/
theorem exists_row_height (nonneg : ∀ size ∈ sizes, 0 ≤ size.height)
    (inside : line < (ofSizes maxColumns sizes).heights.length) :
    ∃ position size, sizes[position]? = some size ∧
      position / (ofSizes maxColumns sizes).columns = line ∧
      size.height = (ofSizes maxColumns sizes).heights.getD line Scalar.zero := by
  have some_column := ofSizes_columns_pos maxColumns sizes
  have in_rows : line < rowCount (ofSizes maxColumns sizes).columns sizes.length := by
    rwa [ofSizes_heights_length] at inside
  -- The first item of the row stands in the first column.
  obtain ⟨position, size, found, in_row, height⟩ := exists_greatest_item
    (· / (ofSizes maxColumns sizes).columns == line)
    (mul_lt_of_lt_rowCount some_column in_rows)
    (by simpa using Nat.mul_div_cancel line some_column) nonneg
  refine ⟨position, size, found, by simpa using in_row, ?_⟩
  rw [List.getD_eq_getElem _ _ inside, height]
  simp [ofSizes]

end Measures

/-! ### The bounding box of a grid -/

section Boxes

variable {config : Config Rat} {sizes : List (Size Rat)}

theorem mem_boxes {x y : Rat} {position : Nat} {size : Size Rat}
    (found : sizes[position]? = some size) :
    (ofSizes config.maxColumns sizes).boxAt config x y position size ∈
      boxes config x y sizes := by
  apply List.mem_of_getElem? (i := position)
  rw [boxes_getElem?, found, Option.map_some]

/-- The grid is the bounding box of its items: on each side it ends with an item that fills the
outermost line. -/
theorem boxes_bounds (x y : Rat) (some_item : sizes ≠ [])
    (horizontal_nonneg : 0 ≤ config.horizontalSpacing)
    (vertical_nonneg : 0 ≤ config.verticalSpacing)
    (widths_nonneg : ∀ size ∈ sizes, 0 ≤ size.width)
    (heights_nonneg : ∀ size ∈ sizes, 0 ≤ size.height) :
    let grid := ofSizes config.maxColumns sizes
    Box.Bounds ⟨x, y, grid.width config, grid.height config⟩ (boxes config x y sizes) := by
  intro grid
  have encloses {box : Box Rat} (member : box ∈ boxes config x y sizes) :=
    boxes_inside horizontal_nonneg vertical_nonneg member
  have some_column : 0 < grid.widths.length := by
    rw [ofSizes_widths_length]
    exact ofSizes_columns_pos config.maxColumns sizes
  have some_row : 0 < grid.heights.length := by
    have first := List.getElem?_eq_getElem (List.length_pos_iff.mpr some_item)
    simpa using row_lt config.maxColumns first
  constructor
  case left =>
    obtain ⟨position, size, found, in_column, full⟩ :=
      exists_column_width some_item widths_nonneg some_column
    refine Box.isLeast_edges (mem_boxes found) ?_ fun _ member => (encloses member).left
    show itemStart x grid.widths config.horizontalSpacing _ size.width = x
    rw [in_column, itemStart_full full, lineStart_zero]
  case top =>
    obtain ⟨position, size, found, in_row, full⟩ := exists_row_height heights_nonneg some_row
    refine Box.isLeast_edges (mem_boxes found) ?_ fun _ member => (encloses member).top
    show itemStart y grid.heights config.verticalSpacing _ size.height = y
    rw [in_row, itemStart_full full, lineStart_zero]
  case right =>
    obtain ⟨position, size, found, in_column, full⟩ :=
      exists_column_width some_item widths_nonneg (Nat.sub_one_lt_of_lt some_column)
    refine Box.isGreatest_edges (mem_boxes found) ?_ fun _ member => (encloses member).right
    show itemStart x grid.widths config.horizontalSpacing _ size.width + size.width =
      x + grid.width config
    rw [in_column, itemStart_full full, full, lineStart_last (List.length_pos_iff.mp some_column),
      width_rat]
  case bottom =>
    obtain ⟨position, size, found, in_row, full⟩ :=
      exists_row_height heights_nonneg (Nat.sub_one_lt_of_lt some_row)
    refine Box.isGreatest_edges (mem_boxes found) ?_ fun _ member => (encloses member).bottom
    show itemStart y grid.heights config.verticalSpacing _ size.height + size.height =
      y + grid.height config
    rw [in_row, itemStart_full full, full, lineStart_last (List.length_pos_iff.mp some_row),
      height_rat]

/-- Boxes of one column have their centres one above the other. -/
theorem boxAt_center {x y : Rat} {i j : Nat} (a b : Size Rat) :
    let grid := ofSizes config.maxColumns sizes
    i % grid.columns = j % grid.columns →
      (grid.boxAt config x y i a).center = (grid.boxAt config x y j b).center := by
  intro grid same_column
  have centre (position : Nat) (size : Size Rat) :=
    itemStart_center x grid.widths config.horizontalSpacing (position % grid.columns) size.width
  exact (centre i a).trans (same_column ▸ (centre j b).symm)

/-- Boxes of one row have their centres side by side. -/
theorem boxAt_middle {x y : Rat} {i j : Nat} (a b : Size Rat) :
    let grid := ofSizes config.maxColumns sizes
    i / grid.columns = j / grid.columns →
      (grid.boxAt config x y i a).middle = (grid.boxAt config x y j b).middle := by
  intro grid same_row
  have centre (position : Nat) (size : Size Rat) :=
    itemStart_center y grid.heights config.verticalSpacing (position / grid.columns) size.height
  exact (centre i a).trans (same_row ▸ (centre j b).symm)

end Boxes

end Grid

/-! ### Siblings -/

variable {nodes : List Node} {config : Config Rat}

/-- The nodes that stand in one grid: the children of a group, or those outside of all groups. -/
def ShareGrid (nodes : List Node) (siblings : List (Fin nodes.length)) : Prop :=
  siblings = orphans nodes ∨ ∃ group, siblings = members nodes group

theorem ShareGrid.boxes {siblings : List (Fin nodes.length)} (share : ShareGrid nodes siblings)
    (config : Config Rat) :
    ∃ x y, siblings.map (nodeBox nodes config) =
      Grid.boxes config x y (siblings.map (sizeOf nodes config)) := by
  rcases share with rfl | ⟨group, rfl⟩
  · exact ⟨_, _, orphans_boxes nodes config⟩
  · exact ⟨_, _, members_boxes nodes config group⟩

/-- A sibling has the box that the grid has for its position. -/
theorem ShareGrid.standing {siblings : List (Fin nodes.length)} (share : ShareGrid nodes siblings)
    (config : Config Rat) :
    let sizes := siblings.map (sizeOf nodes config)
    let grid := Grid.ofSizes config.maxColumns sizes
    ∃ x y, ∀ (position : Nat) (i : Fin nodes.length), siblings[position]? = some i →
      sizes[position]? = some (sizeOf nodes config i) ∧
        nodeBox nodes config i = grid.boxAt config x y position (sizeOf nodes config i) := by
  intro sizes grid
  obtain ⟨x, y, placed⟩ := share.boxes config
  refine ⟨x, y, fun position i found => ?_⟩
  have sized : sizes[position]? = some (sizeOf nodes config i) := by
    rw [List.getElem?_map, found, Option.map_some]
  have boxed := Grid.boxes_getElem? config x y sizes position
  rw [← placed, List.getElem?_map, found, sized, Option.map_some, Option.map_some,
    Option.some.injEq] at boxed
  exact ⟨sized, boxed⟩

/-- Siblings of one column or row have their centres in line, and those of different columns or rows
are apart by the spacing. -/
theorem ShareGrid.in_lines {siblings : List (Fin nodes.length)} (share : ShareGrid nodes siblings)
    (nonneg : config.Nonneg) {i j : Nat} {a b : Fin nodes.length} (at_i : siblings[i]? = some a)
    (at_j : siblings[j]? = some b) :
    let columns := min (max config.maxColumns 1) siblings.length
    let box_a := nodeBox nodes config a
    let box_b := nodeBox nodes config b
    (i % columns = j % columns → box_a.center = box_b.center) ∧
    (i / columns = j / columns → box_a.middle = box_b.middle) ∧
    (i % columns < j % columns → box_a.right + config.horizontalSpacing ≤ box_b.x) ∧
    (i / columns < j / columns → box_a.bottom + config.verticalSpacing ≤ box_b.y) := by
  intro columns box_a box_b
  obtain ⟨x, y, standing⟩ := share.standing config
  obtain ⟨sized_a, standing_a⟩ := standing i a at_i
  obtain ⟨sized_b, standing_b⟩ := standing j b at_j
  have same_columns :
      (Grid.ofSizes config.maxColumns (siblings.map (sizeOf nodes config))).columns = columns := by
    have some_item : 0 < (siblings.map (sizeOf nodes config)).length := by
      rw [List.length_map]
      exact Nat.zero_lt_of_lt (List.getElem?_eq_some_iff.mp at_i).1
    show Grid.columnCount _ _ = _
    rw [Grid.columnCount_eq _ some_item, List.length_map]
  -- In one grid, only the lines that the positions fall on count.
  rw [← same_columns]
  simp only [box_a, box_b, standing_a, standing_b]
  exact ⟨Grid.boxAt_center _ _, Grid.boxAt_middle _ _,
    Grid.boxAt_before nonneg.horizontalSpacing sized_a sized_b,
    Grid.boxAt_above nonneg.verticalSpacing sized_a sized_b⟩

/-! ### Groups -/

/-- Where a grid has room in a group, it stands in the middle of the room. -/
theorem memberBoxes_eq {box : Box Rat} {sizes : List (Size Rat)}
    (width_room : (Grid.ofSizes config.maxColumns sizes).width config +
      config.groupPadding.horizontal ≤ box.width)
    (height_room : (Grid.ofSizes config.maxColumns sizes).height config +
      config.groupPadding.vertical ≤ box.height) :
    let grid := Grid.ofSizes config.maxColumns sizes
    let padding := config.groupPadding
    memberBoxes config box sizes =
      Grid.boxes config
        (box.x + padding.left + (box.width - padding.horizontal - grid.width config) / 2)
        (box.y + padding.top + (box.height - padding.vertical - grid.height config) / 2) sizes := by
  intro grid padding
  have room_x : 0 ≤ Scalar.half (box.width - padding.horizontal - grid.width config) := by
    rw [Scalar.half_rat]
    linarith
  have room_y : 0 ≤ Scalar.half (box.height - padding.vertical - grid.height config) := by
    rw [Scalar.half_rat]
    linarith
  rw [memberBoxes, Scalar.max_rat, Scalar.max_rat, Scalar.zero_rat, max_eq_left room_x,
    max_eq_left room_y]
  rfl

/-- What stands in the middle of a room has the centre of the room. -/
theorem center_in_room (corner room extent : Rat) :
    corner + (room - extent) / 2 + extent / 2 = corner + room / 2 := by
  ring

/-- What is as large as the room starts and ends where the room does. -/
theorem fills_room {room extent : Rat} (full : room = extent) (corner : Rat) :
    corner + (room - extent) / 2 = corner ∧
      corner + (room - extent) / 2 + extent = corner + room := by
  subst full
  simp

theorem eq_of_lt_max {needed least : Rat} (larger : least < max needed least) :
    max needed least = needed :=
  max_eq_left ((lt_max_iff.mp larger).resolve_right (lt_irrefl least)).le

/-- The bounding box of the members of a group that has been measured around them stands in the
middle of the room inside of the padding. Where the group is larger than it has to be at least, they
fill this room. -/
theorem memberBoxes_bounds (nonneg : config.Nonneg) {box : Box Rat} {sizes : List (Size Rat)}
    (some_item : sizes ≠ []) (widths_nonneg : ∀ size ∈ sizes, 0 ≤ size.width)
    (heights_nonneg : ∀ size ∈ sizes, 0 ≤ size.height)
    (measured : extent box = sizeAround config sizes) :
    let room := box.shrink config.groupPadding
    ∃ bounds, Box.Bounds bounds (memberBoxes config box sizes) ∧
      bounds.center = room.center ∧ bounds.middle = room.middle ∧
      (config.minContainerWidth < box.width → bounds.x = room.x ∧ bounds.right = room.right) ∧
      (config.minContainerHeight < box.height →
        bounds.y = room.y ∧ bounds.bottom = room.bottom) := by
  intro room
  let grid := Grid.ofSizes config.maxColumns sizes
  let padding := config.groupPadding
  rw [sizeAround, if_neg (by simpa using some_item)] at measured
  have width : box.width =
      max (grid.width config + padding.horizontal) config.minContainerWidth := by
    rw [← Scalar.max_rat]
    exact congrArg Size.width measured
  have height : box.height =
      max (grid.height config + padding.vertical) config.minContainerHeight := by
    rw [← Scalar.max_rat]
    exact congrArg Size.height measured
  -- A group is at least as large as its grid and the padding, so there is room.
  have placed := memberBoxes_eq (width ▸ le_max_left _ _) (height ▸ le_max_left _ _)
  rw [placed]
  refine ⟨_, Grid.boxes_bounds _ _ some_item nonneg.horizontalSpacing nonneg.verticalSpacing
    widths_nonneg heights_nonneg, ?_, ?_, fun larger => ?_, fun larger => ?_⟩
  · exact center_in_room _ _ _
  · exact center_in_room _ _ _
  · have tight : box.width = grid.width config + padding.horizontal :=
      width.trans (eq_of_lt_max (width ▸ larger))
    exact fills_room (sub_eq_iff_eq_add.mpr tight) _
  · have tight : box.height = grid.height config + padding.vertical :=
      height.trans (eq_of_lt_max (height ▸ larger))
    exact fills_room (sub_eq_iff_eq_add.mpr tight) _

/-! ### Main statement -/

/-- Siblings stand in rows and columns: those of one column have their centres one above the other,
those of one row have them side by side, and what stands in different columns or rows is apart by
the spacing. The bounding box of the members of a group is in the middle of the group without its
padding, and on an axis on which the group is larger than the smallest size it fills that room. -/
theorem layout_tight (nodes : List Node) (config : Config Rat) (nonneg : config.Nonneg) :
    (∀ siblings, ShareGrid nodes siblings → ∀ (i j : Nat) (a b : Fin nodes.length),
      siblings[i]? = some a → siblings[j]? = some b →
      let columns := min (max config.maxColumns 1) siblings.length
      let box_a := nodeBox nodes config a
      let box_b := nodeBox nodes config b
      (i % columns = j % columns → box_a.center = box_b.center) ∧
      (i / columns = j / columns → box_a.middle = box_b.middle) ∧
      (i % columns < j % columns → box_a.right + config.horizontalSpacing ≤ box_b.x) ∧
      (i / columns < j / columns → box_a.bottom + config.verticalSpacing ≤ box_b.y)) ∧
    ∀ group, members nodes group ≠ [] →
      let box := nodeBox nodes config group
      let room := box.shrink config.groupPadding
      ∃ bounds, Box.Bounds bounds ((members nodes group).map (nodeBox nodes config)) ∧
        bounds.center = room.center ∧ bounds.middle = room.middle ∧
        (config.minContainerWidth < box.width →
          bounds.x = room.x ∧ bounds.right = room.right) ∧
        (config.minContainerHeight < box.height →
          bounds.y = room.y ∧ bounds.bottom = room.bottom) := by
  refine ⟨fun siblings share i j a b at_i at_j => share.in_lines nonneg at_i at_j,
    fun group some_member => ?_⟩
  intro box room
  obtain ⟨child, member⟩ := List.exists_mem_of_ne_nil _ some_member
  have is_group : isGroup nodes group = true :=
    parent?_isContainer nodes child group (mem_members.mp member)
  have measured : extent box =
      sizeAround config ((members nodes group).map (sizeOf nodes config)) := by
    rw [nodeBox_extent, sizeOf_eq, if_pos is_group]
  rw [members_boxes]
  apply memberBoxes_bounds nonneg (by simpa using some_member) _ _ measured
  · simp only [List.forall_mem_map]
    exact fun i _ => (sizeOf_nonneg nonneg i).1
  · simp only [List.forall_mem_map]
    exact fun i _ => (sizeOf_nonneg nonneg i).2

/-- Three members in two columns, one of them a group that is kept at its smallest size, and two
services outside of all groups. -/
theorem layout_tight_ragged :
    let nodes : List Node :=
      [⟨"web", "Web", .group, none, none⟩, ⟨"page", "Page", .service, none, some "web"⟩,
        ⟨"cache", "Cache", .group, none, some "web"⟩, ⟨"form", "Form", .service, none, some "web"⟩,
        ⟨"disk", "Disk", .service, none, some "cache"⟩, ⟨"clock", "Clock", .service, none, none⟩,
        ⟨"mail", "Mail", .service, none, none⟩]
    let config : Config Rat := { Config.default with maxColumns := 2 }
    config.Nonneg ∧ ShareGrid nodes [1, 2, 3] ∧ ShareGrid nodes [5, 6] ∧
      (nodeBox nodes config 1).center = (nodeBox nodes config 3).center ∧
      (nodeBox nodes config 1).middle = (nodeBox nodes config 2).middle ∧
      (nodeBox nodes config 5).right + config.horizontalSpacing ≤ (nodeBox nodes config 6).x ∧
      members nodes 0 ≠ [] ∧ members nodes 2 ≠ [] ∧
      config.minContainerWidth < (nodeBox nodes config 0).width ∧
      (∃ bounds, Box.Bounds bounds ((members nodes 0).map (nodeBox nodes config)) ∧
        bounds.x = ((nodeBox nodes config 0).shrink config.groupPadding).x ∧
        bounds.right = ((nodeBox nodes config 0).shrink config.groupPadding).right) ∧
      ∃ bounds, Box.Bounds bounds ((members nodes 2).map (nodeBox nodes config)) ∧
        bounds.center = ((nodeBox nodes config 2).shrink config.groupPadding).center := by
  intro nodes config
  have padding : config.groupPadding.Nonneg := by constructor <;> decide +kernel
  have nonneg : config.Nonneg := by constructor <;> first | exact padding | decide +kernel
  have in_web : ShareGrid nodes [1, 2, 3] := .inr ⟨0, by decide +kernel⟩
  have outside : ShareGrid nodes [5, 6] := .inl (by decide +kernel)
  have web_members : members nodes 0 ≠ [] := by decide +kernel
  have cache_members : members nodes 2 ≠ [] := by decide +kernel
  have web_large : config.minContainerWidth < (nodeBox nodes config 0).width := by decide +kernel
  obtain ⟨stands, fits⟩ := layout_tight nodes config nonneg
  obtain ⟨web_bounds, is_web, -, -, fills, -⟩ := fits 0 web_members
  obtain ⟨cache_bounds, is_cache, in_the_middle, -⟩ := fits 2 cache_members
  refine ⟨nonneg, in_web, outside, ?_, ?_, ?_, web_members, cache_members, web_large,
    ⟨web_bounds, is_web, fills web_large⟩, ⟨cache_bounds, is_cache, in_the_middle⟩⟩
  · exact (stands _ in_web 0 2 1 3 rfl rfl).1 (by decide +kernel)
  · exact (stands _ in_web 0 1 1 2 rfl rfl).2.1 (by decide +kernel)
  · exact (stands _ outside 0 1 5 6 rfl rfl).2.2.1 (by decide +kernel)

end Hierarchy

end TextDiagram
