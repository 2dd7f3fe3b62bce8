import TextDiagram.Proofs.Hierarchy.Tightness

/-!
# Grids by index

A grid can be worked out in two loops over the positions of its items: one widens the lines that an
item falls on, the other shows where it stands. Both find the column and the row of a position by
division, and look sizes and lines up under their numbers. Here a loop ends without a result as soon
as it divides by zero or a number is outside of its list. Main statement: where the table of sizes
has all items this never happens, whatever the scalars are, and the loops come to the lines of
`ofSizes` and to the places of `boxes`. No line is without an item, every item is shown once, in
order and in a cell of its own, and over exact numbers it is no larger than its cell.
-/
namespace TextDiagram.Hierarchy

namespace Grid

variable {α σ : Type} [Scalar α]

/-! ### Loops that check numbers -/

/-- The quotient of a division, unless it is by zero. -/
def quotient? (number divisor : Nat) : Option Nat :=
  if divisor = 0 then none else some (number / divisor)

/-- The remainder of a division, unless it is by zero. -/
def remainder? (number divisor : Nat) : Option Nat :=
  if divisor = 0 then none else some (number % divisor)

/-- The lines with one of them, which must be there, made at least as large as an extent. -/
def widen? (lines : List α) (line : Nat) (extent : α) : Option (List α) :=
  lines[line]?.map fun current => lines.set line (Scalar.max current extent)

/-- The lines in front of a number, which may not be beyond the last line. -/
def before? (lines : List α) (line : Nat) : Option (List α) :=
  if line ≤ lines.length then some (lines.take line) else none

/-- Widens the column and the row of an item. -/
def enter? (table : List (Size α)) (grid : Grid α) (position item : Nat) : Option (Grid α) := do
  let size ← table[item]?
  let column ← remainder? position grid.columns
  let widths ← widen? grid.widths column size.width
  let row ← quotient? position grid.columns
  let heights ← widen? grid.heights row size.height
  pure { grid with widths, heights }

/-- Widens the lines of the items, one after the other. -/
def enterAll? (table : List (Size α)) (items : List Nat) (grid : Grid α) : Option (Grid α) :=
  items.zipIdx.foldlM (fun grid item => enter? table grid item.2 item.1) grid

/-- The grid of some items, whose sizes are in a table. -/
def measure? (maxColumns : Nat) (items : List Nat) (table : List (Size α)) : Option (Grid α) := do
  let columns := columnCount maxColumns items.length
  -- Rounded up, since the last row need not be full.
  let rows ← quotient? (items.length + columns - 1) columns
  enterAll? table items
    ⟨columns, List.replicate columns Scalar.zero, List.replicate rows Scalar.zero⟩

/-- An item with its cell and with the corner of its box. -/
structure Standing (α : Type) where
  item : Nat
  column : Nat
  row : Nat
  x : α
  y : α
deriving Repr, DecidableEq

/-- Where an item stands that has some position in a grid. -/
def stand? (grid : Grid α) (config : Config α) (x y : α) (table : List (Size α))
    (position item : Nat) : Option (Standing α) := do
  let column ← remainder? position grid.columns
  let row ← quotient? position grid.columns
  let left ← before? grid.widths column
  let above ← before? grid.heights row
  let size ← table[item]?
  let width ← grid.widths[column]?
  let height ← grid.heights[row]?
  let cellX := x + Scalar.sum left + Scalar.ofNat column * config.horizontalSpacing
  let cellY := y + Scalar.sum above + Scalar.ofNat row * config.verticalSpacing
  pure {
    item
    column
    row
    x := cellX + Scalar.half (width - size.width)
    y := cellY + Scalar.half (height - size.height) }

/-- Shows to a visitor where the items stand, one after the other. The visitor has a state and may
do to it what it likes. -/
def place? (grid : Grid α) (config : Config α) (x y : α) (table : List (Size α)) (items : List Nat)
    (visit : σ → Standing α → σ) (start : σ) : Option σ :=
  items.zipIdx.foldlM
    (fun state item => (grid.stand? config x y table item.2 item.1).map (visit state)) start

/-- Both loops come to their ends: the first with a grid, and the second, whoever visits, after it
has shown these places in order. -/
structure Runs (config : Config α) (x y : α) (items : List Nat) (table : List (Size α))
    (grid : Grid α) (standings : List (Standing α)) : Prop where
  measured : measure? config.maxColumns items table = some grid
  placed (σ : Type) (visit : σ → Standing α → σ) (start : σ) :
    grid.place? config x y table items visit start = some (standings.foldl visit start)

/-! ### Widening lines -/

theorem quotient?_of_pos {number divisor : Nat} (positive : 0 < divisor) :
    quotient? number divisor = some (number / divisor) :=
  if_neg positive.ne'

theorem remainder?_of_pos {number divisor : Nat} (positive : 0 < divisor) :
    remainder? number divisor = some (number % divisor) :=
  if_neg positive.ne'

omit [Scalar α] in
theorem before?_of_le {lines : List α} {line : Nat} (inside : line ≤ lines.length) :
    before? lines line = some (lines.take line) :=
  if_pos inside

theorem itemsAt_concat {β : Type} (condition : Nat → Bool) (items : List β) (item : β) :
    itemsAt condition (items ++ [item]) =
      itemsAt condition items ++ if condition items.length then [item] else [] := by
  rw [itemsAt, itemsAt, List.zipIdx_append, List.filter_append, List.map_append]
  by_cases holds : condition items.length <;> simp [holds]

/-- The extents of lines that are as large as their largest items. -/
def extents (lineOf : Nat → Nat) (extent : Size α → α) (count : Nat) (sizes : List (Size α)) :
    List α :=
  (List.range count).map fun line =>
    Scalar.greatest ((itemsAt (lineOf · == line) sizes).map extent)

theorem extents_nil (lineOf : Nat → Nat) (extent : Size α → α) (count : Nat) :
    extents lineOf extent count [] = List.replicate count Scalar.zero := by
  simp [extents, itemsAt, Scalar.greatest, List.map_const']

/-- One more item only widens the line on which it falls. -/
theorem widen?_extents (lineOf : Nat → Nat) (extent : Size α → α) (sizes : List (Size α))
    (size : Size α) {count : Nat} (inside : lineOf sizes.length < count) :
    widen? (extents lineOf extent count sizes) (lineOf sizes.length) (extent size) =
      some (extents lineOf extent count (sizes ++ [size])) := by
  have bound : lineOf sizes.length < (extents lineOf extent count sizes).length := by
    simpa [extents] using inside
  rw [widen?, List.getElem?_eq_getElem bound, Option.map_some, Option.some.injEq]
  apply List.ext_getElem (by simp [extents])
  intro line _ _
  rw [List.getElem_set]
  by_cases same : lineOf sizes.length = line
  · subst same
    simp [extents, itemsAt_concat, Scalar.greatest]
  · simp [extents, itemsAt_concat, same]

/-! ### Measuring -/

/-- The size that a table has for an item, and nothing at all where it has none. -/
def sizeIn (table : List (Size α)) (item : Nat) : Size α :=
  table.getD item ⟨Scalar.zero, Scalar.zero⟩

def sizesIn (table : List (Size α)) (items : List Nat) : List (Size α) :=
  items.map (sizeIn table)

/-- A grid with these numbers of lines and these items in it. -/
def filled (columns rows : Nat) (sizes : List (Size α)) : Grid α where
  columns
  widths := extents (· % columns) Size.width columns sizes
  heights := extents (· / columns) Size.height rows sizes

theorem ofSizes_eq_filled (maxColumns : Nat) (sizes : List (Size α)) :
    ofSizes maxColumns sizes =
      filled (columnCount maxColumns sizes.length)
        (rowCount (columnCount maxColumns sizes.length) sizes.length) sizes :=
  rfl

section Items

variable {table : List (Size α)} {items : List Nat} {columns rows : Nat}

theorem sizesIn_length (table : List (Size α)) (items : List Nat) :
    (sizesIn table items).length = items.length :=
  List.length_map _

theorem sizesIn_concat (table : List (Size α)) (items : List Nat) (item : Nat) :
    sizesIn table (items ++ [item]) = sizesIn table items ++ [sizeIn table item] :=
  List.map_append

theorem getElem?_of_lt {item : Nat} (bound : item < table.length) :
    table[item]? = some (sizeIn table item) := by
  rw [sizeIn, List.getD_eq_getElem _ _ bound, List.getElem?_eq_getElem bound]

/-- The size of an item is in the table, and among the sizes of all items at its position. -/
theorem found_of_mem (inside : ∀ item ∈ items, item < table.length) {numbered : Nat × Nat}
    (member : numbered ∈ items.zipIdx) :
    table[numbered.1]? = some (sizeIn table numbered.1) ∧
      (sizesIn table items)[numbered.2]? = some (sizeIn table numbered.1) := by
  have found := List.mem_zipIdx_iff_getElem?.mp member
  refine ⟨getElem?_of_lt (inside _ (List.mem_of_getElem? found)), ?_⟩
  rw [sizesIn, List.getElem?_map, found, Option.map_some]

/-- An item enters a grid behind the items that are in it. -/
theorem enter?_filled {sizes : List (Size α)} {item : Nat} {size : Size α}
    (some_column : 0 < columns) (enough : sizes.length / columns < rows)
    (found : table[item]? = some size) :
    enter? table (filled columns rows sizes) sizes.length item =
      some (filled columns rows (sizes ++ [size])) := by
  have widened := widen?_extents (· % columns) Size.width sizes size (Nat.mod_lt _ some_column)
  have heightened := widen?_extents (· / columns) Size.height sizes size enough
  have column : remainder? sizes.length (filled columns rows sizes).columns = _ :=
    remainder?_of_pos some_column
  have row : quotient? sizes.length (filled columns rows sizes).columns = _ :=
    quotient?_of_pos some_column
  simp only [enter?, found, column, row, Option.bind_eq_bind, Option.bind_some]
  simp only [filled, widened, heightened, Option.bind_some]
  rfl

theorem enterAll?_concat (table : List (Size α)) (items : List Nat) (item : Nat) (grid : Grid α) :
    enterAll? table (items ++ [item]) grid =
      (enterAll? table items grid).bind fun grid => enter? table grid items.length item := by
  rw [enterAll?, List.zipIdx_append, List.foldlM_append]
  simp [enterAll?]

/-- The loop fills a grid that has rows enough for the items. -/
theorem enterAll?_filled (some_column : 0 < columns)
    (enough : ∀ position < items.length, position / columns < rows)
    (inside : ∀ item ∈ items, item < table.length) :
    enterAll? table items (filled columns rows []) =
      some (filled columns rows (sizesIn table items)) := by
  -- By induction from the end, since the lines depend on the items in front.
  induction items using List.reverseRecOn with
  | nil => rfl
  | append_singleton items item ih =>
    have entered := ih (fun position before => enough position (by simp; omega))
      fun item member => inside item (List.mem_append_left _ member)
    have room : (sizesIn table items).length / columns < rows := by
      rw [sizesIn_length]
      exact enough _ (by simp)
    have last := enter?_filled some_column room (getElem?_of_lt (inside item (by simp)))
    rw [sizesIn_length] at last
    rw [enterAll?_concat, entered, Option.bind_some, last, sizesIn_concat]

theorem measure?_eq_ofSizes (maxColumns : Nat) (inside : ∀ item ∈ items, item < table.length) :
    measure? maxColumns items table = some (ofSizes maxColumns (sizesIn table items)) := by
  have some_column := columnCount_pos maxColumns items.length
  have entered := enterAll?_filled some_column
    (fun position before => div_lt_rowCount some_column before) inside
  rw [ofSizes_eq_filled, sizesIn_length, ← entered, measure?]
  simp only [quotient?_of_pos some_column, Option.bind_eq_bind, Option.bind_some, filled,
    extents_nil]
  rfl

end Items

/-! ### Placing -/

def Standing.corner (standing : Standing α) : α × α :=
  (standing.x, standing.y)

def Standing.cell (standing : Standing α) : Nat × Nat :=
  (standing.column, standing.row)

/-- Where an item stands by the box that it has in a grid. -/
def standing (grid : Grid α) (config : Config α) (x y : α) (position item : Nat)
    (size : Size α) : Standing α where
  item
  column := position % grid.columns
  row := position / grid.columns
  x := (grid.boxAt config x y position size).x
  y := (grid.boxAt config x y position size).y

section Places

variable {config : Config α} {table : List (Size α)} {items : List Nat}

theorem stand?_eq {grid : Grid α} {position item : Nat} {size : Size α} (x y : α)
    (some_column : 0 < grid.columns) (in_columns : position % grid.columns < grid.widths.length)
    (in_rows : position / grid.columns < grid.heights.length) (found : table[item]? = some size) :
    grid.stand? config x y table position item =
      some (grid.standing config x y position item size) := by
  simp only [stand?, remainder?_of_pos some_column, quotient?_of_pos some_column,
    before?_of_le in_columns.le, before?_of_le in_rows.le, found,
    List.getElem?_eq_getElem in_columns, List.getElem?_eq_getElem in_rows, Option.bind_eq_bind,
    Option.bind_some, standing, boxAt, lineStart, List.getD_eq_getElem _ _ in_columns,
    List.getD_eq_getElem _ _ in_rows]
  rfl

/-- Where the items stand in the grid of their sizes. -/
def standings (config : Config α) (x y : α) (items : List Nat) (table : List (Size α)) :
    List (Standing α) :=
  let grid := ofSizes config.maxColumns (sizesIn table items)
  items.zipIdx.map fun item => grid.standing config x y item.2 item.1 (sizeIn table item.1)

omit [Scalar α] in
/-- A loop that finds all places shows them in order. -/
theorem foldlM_visit {β : Type} {find? : β → Option (Standing α)} {place : β → Standing α}
    {sought : List β} (found : ∀ item ∈ sought, find? item = some (place item))
    (visit : σ → Standing α → σ) (start : σ) :
    sought.foldlM (fun state item => (find? item).map (visit state)) start =
      some ((sought.map place).foldl visit start) := by
  induction sought generalizing start with
  | nil => rfl
  | cons first rest ih =>
    have rest_shown := ih (fun item member => found item (List.mem_cons_of_mem _ member))
    rw [List.foldlM_cons, found first List.mem_cons_self, Option.map_some, Option.bind_eq_bind,
      Option.bind_some, rest_shown]
    rfl

/-- Neither loop divides by zero or looks up what is not there. -/
theorem runs (config : Config α) (x y : α) (inside : ∀ item ∈ items, item < table.length) :
    Runs config x y items table (ofSizes config.maxColumns (sizesIn table items))
      (standings config x y items table) where
  measured := measure?_eq_ofSizes config.maxColumns inside
  placed σ visit start := by
    refine foldlM_visit (fun item member => ?_) visit start
    obtain ⟨found, at_position⟩ := found_of_mem inside member
    exact stand?_eq x y (ofSizes_columns_pos _ _) (column_lt _ _ _) (row_lt _ at_position) found

theorem Runs.unique {x y : α} {grid other : Grid α} {shown other_shown : List (Standing α)}
    (run : Runs config x y items table grid shown)
    (other_run : Runs config x y items table other other_shown) :
    grid = other ∧ shown = other_shown := by
  obtain rfl : grid = other := Option.some.inj (run.measured.symm.trans other_run.measured)
  -- A visitor that keeps all it is shown tells the places apart.
  have same := (run.placed _ (fun seen standing => standing :: seen) []).symm.trans
    (other_run.placed _ _ _)
  simpa using same

theorem standings_item (config : Config α) (x y : α) (items : List Nat)
    (table : List (Size α)) : (standings config x y items table).map Standing.item = items := by
  simp [standings, Function.comp_def, standing, List.zipIdx_map_fst]

theorem standings_corner (config : Config α) (x y : α) (items : List Nat)
    (table : List (Size α)) :
    (standings config x y items table).map Standing.corner =
      (boxes config x y (sizesIn table items)).map fun box => (box.x, box.y) := by
  simp [standings, boxes, sizesIn, List.zipIdx_map, Function.comp_def, Standing.corner, standing]

/-- Column and row of a position tell which position it is. -/
theorem position_injective (columns : Nat) :
    Function.Injective fun position => (position % columns, position / columns) := by
  intro i j same
  obtain ⟨same_column, same_row⟩ := Prod.mk.inj same
  rw [← Nat.div_add_mod i columns, ← Nat.div_add_mod j columns, same_column, same_row]

theorem standings_cell_nodup (config : Config α) (x y : α) (items : List Nat)
    (table : List (Size α)) : ((standings config x y items table).map Standing.cell).Nodup := by
  have cells : (standings config x y items table).map Standing.cell =
      (items.zipIdx.map Prod.snd).map fun position =>
        (position % (ofSizes config.maxColumns (sizesIn table items)).columns,
          position / (ofSizes config.maxColumns (sizesIn table items)).columns) := by
    simp only [standings, List.map_map]
    rfl
  rw [cells, List.zipIdx_map_snd]
  exact List.Nodup.map (position_injective _) List.nodup_range'

end Places

/-! ### Main statement -/

/-- A grid has the lines that a number of items needs: no more columns than items, and no line
without an item on it. -/
structure Fills (grid : Grid α) (items : Nat) : Prop where
  columns_pos : 1 ≤ grid.columns
  columns_le : grid.columns ≤ items
  column_iff (column : Nat) :
    column < grid.widths.length ↔ ∃ position < items, position % grid.columns = column
  row_iff (row : Nat) :
    row < grid.heights.length ↔ ∃ position < items, position / grid.columns = row

theorem ofSizes_fills (maxColumns : Nat) {sizes : List (Size α)} (some_item : sizes ≠ []) :
    (ofSizes maxColumns sizes).Fills sizes.length := by
  have some_column := ofSizes_columns_pos maxColumns sizes
  have few : (ofSizes maxColumns sizes).columns ≤ sizes.length :=
    columnCount_le maxColumns (List.length_pos_iff.mpr some_item)
  constructor
  case columns_pos => exact some_column
  case columns_le => exact few
  case column_iff =>
    intro column
    constructor
    · intro inside
      rw [ofSizes_widths_length] at inside
      exact ⟨column, inside.trans_le few, Nat.mod_eq_of_lt inside⟩
    · rintro ⟨position, -, rfl⟩
      exact column_lt maxColumns sizes position
  case row_iff =>
    intro row
    constructor
    · intro inside
      rw [ofSizes_heights_length] at inside
      -- The first item of the row.
      exact ⟨_, mul_lt_of_lt_rowCount some_column inside, Nat.mul_div_cancel row some_column⟩
    · rintro ⟨position, before, rfl⟩
      exact row_lt maxColumns (List.getElem?_eq_getElem before)

/-- An item is no larger than its cell. -/
def Holds (grid : Grid Rat) (table : List (Size Rat)) (standing : Standing Rat) : Prop :=
  ∃ size width height, table[standing.item]? = some size ∧
    grid.widths[standing.column]? = some width ∧ grid.heights[standing.row]? = some height ∧
    size.width ≤ width ∧ size.height ≤ height

theorem ofSizes_holds {config : Config Rat} {x y : Rat} {items : List Nat}
    {table : List (Size Rat)} (inside : ∀ item ∈ items, item < table.length)
    {standing : Standing Rat} (member : standing ∈ standings config x y items table) :
    (ofSizes config.maxColumns (sizesIn table items)).Holds table standing := by
  obtain ⟨item, numbered, rfl⟩ := List.mem_map.mp member
  obtain ⟨found, at_position⟩ := found_of_mem inside numbered
  have in_columns := column_lt config.maxColumns (sizesIn table items) item.2
  have in_rows := row_lt config.maxColumns at_position
  have width := width_le_column config.maxColumns at_position
  have height := height_le_row config.maxColumns at_position
  rw [List.getD_eq_getElem _ _ in_columns] at width
  rw [List.getD_eq_getElem _ _ in_rows] at height
  exact ⟨_, _, _, found, List.getElem?_eq_getElem in_columns, List.getElem?_eq_getElem in_rows,
    width, height⟩

/-- Where the table of sizes has all items, both loops come to their ends, whatever the scalars and
the greatest number of columns are: to the lines of the layout, no more than the items need, and to
its places, item by item and each in a cell of its own. Over exact numbers no item is larger than
its cell. -/
theorem runs_in_bounds (items : List Nat) (some_item : items ≠ []) :
    (∀ (α : Type) [Scalar α] (config : Config α) (x y : α) (table : List (Size α)),
      (∀ item ∈ items, item < table.length) →
        let sizes := sizesIn table items
        let grid := ofSizes config.maxColumns sizes
        grid.columns = min (max config.maxColumns 1) items.length ∧ grid.Fills items.length ∧
        ∃ standings, Runs config x y items table grid standings ∧
          standings.map Standing.item = items ∧ (standings.map Standing.cell).Nodup ∧
          standings.map Standing.corner =
            (boxes config x y sizes).map fun box => (box.x, box.y)) ∧
    ∀ (config : Config Rat) (x y : Rat) (table : List (Size Rat)),
      (∀ item ∈ items, item < table.length) →
        ∀ grid standings, Runs config x y items table grid standings →
          ∀ standing ∈ standings, grid.Holds table standing := by
  constructor
  · -- No order is needed here, so that the scalars may also be rounded.
    intro α _ config x y table inside sizes grid
    have counted : sizes.length = items.length := sizesIn_length table items
    have some_size : sizes ≠ [] := by simpa [sizes, sizesIn] using some_item
    refine ⟨?_, counted ▸ ofSizes_fills config.maxColumns some_size, _, runs config x y inside,
      standings_item .., standings_cell_nodup .., standings_corner ..⟩
    rw [← counted]
    exact columnCount_eq config.maxColumns (List.length_pos_iff.mpr some_size)
  · intro config x y table inside grid shown run standing member
    obtain ⟨rfl, rfl⟩ := run.unique (runs config x y inside)
    exact ofSizes_holds inside member

/-- Three of four sizes in two columns, so that the last row is not full. -/
theorem runs_in_bounds_ragged :
    let table : List (Size Rat) := [⟨80, 80⟩, ⟨200, 120⟩, ⟨240, 300⟩, ⟨320, 200⟩]
    let items := [1, 3, 0]
    let config : Config Rat := { Config.default with maxColumns := 2 }
    let grid : Grid Rat := ⟨2, [200, 320], [200, 80]⟩
    items ≠ [] ∧ (∀ item ∈ items, item < table.length) ∧ grid.Fills 3 ∧
      ∃ standings, Runs config 0 0 items table grid standings ∧
        standings.map Standing.item = items ∧ (standings.map Standing.cell).Nodup ∧
        standings.map Standing.corner = [(0, 40), (260, 0), (60, 320)] ∧
        ∀ standing ∈ standings, grid.Holds table standing := by
  intro table items config grid
  have some_item : items ≠ [] := by decide
  have inside : ∀ item ∈ items, item < table.length := by decide
  obtain ⟨run_safely, hold⟩ := runs_in_bounds items some_item
  obtain ⟨-, fills, standings, run, in_order, apart, corners⟩ :=
    run_safely Rat config 0 0 table inside
  have same : ofSizes config.maxColumns (sizesIn table items) = grid := by decide +kernel
  rw [same] at fills run
  have placed : (boxes config 0 0 (sizesIn table items)).map (fun box => (box.x, box.y)) =
      [(0, 40), (260, 0), (60, 320)] := by decide +kernel
  exact ⟨some_item, inside, fills, standings, run, in_order, apart, corners.trans placed,
    hold config 0 0 table inside grid standings run⟩

end Grid

/-! ### Siblings -/

/-- The siblings of a layout are numbers of nodes, so that the loops run over the sizes of all nodes
and show the corner of each sibling's box. -/
theorem ShareGrid.runs {nodes : List Node} {siblings : List (Fin nodes.length)}
    (share : ShareGrid nodes siblings) (config : Config Rat) :
    let items := siblings.map Fin.val
    let table := (List.finRange nodes.length).map (sizeOf nodes config)
    ∃ x y grid standings, Grid.Runs config x y items table grid standings ∧
      standings.map Grid.Standing.item = items ∧
      standings.map Grid.Standing.corner = siblings.map fun i =>
        ((nodeBox nodes config i).x, (nodeBox nodes config i).y) := by
  intro items table
  obtain ⟨x, y, placed⟩ := share.boxes config
  have inside : ∀ item ∈ items, item < table.length := by
    simp [items, table]
  have sized : Grid.sizesIn table items = siblings.map (sizeOf nodes config) := by
    simp [Grid.sizesIn, Grid.sizeIn, items, table]
  refine ⟨x, y, _, _, Grid.runs config x y inside, Grid.standings_item .., ?_⟩
  rw [Grid.standings_corner, sized, ← placed, List.map_map]
  rfl

end TextDiagram.Hierarchy
