import Mathlib.Tactic
import TextDiagram.Proofs.Flow.Rows
import TextDiagram.Proofs.Geometry.Exact

/-!
# Spacing

Main statement: over exact numbers no two nodes of a flow overlap. Along a row every node begins a
fixed distance behind the end of the one before it; rows are at least as far from each other as a
node can be tall, and every row keeps its nodes centred.
-/
namespace TextDiagram.Flow

/-! ### Columns -/

section Columns

variable {α : Type} {n : Nat} [Scalar α] {width : Fin n → α} {spacing : α}
  {placement : Placement α n}

/-- Every node comes behind the one before it on its row. -/
def columnRule (width : Fin n → α) (spacing : α) : Rule α n where
  follows last slot := slot.x = last.after width spacing
  opens _ _ := True

theorem placeAll_laid (laid : (columnRule width spacing).Laid placement.slots) {row : Nat}
    (opened : row < placement.cursors.length)
    (allowed : ∀ node,
      (columnRule width spacing).Allows placement.slots ⟨node, row, placement.cursor row⟩)
    (nodes : List (Fin n)) :
    let whole := nodes.foldl
      (fun placement node => placement.place node row (width node) spacing) placement
    (columnRule width spacing).Laid whole.slots := by
  induction nodes generalizing placement with
  | nil => exact laid
  | cons node rest ih =>
    apply ih (laid.snoc (allowed node))
    · rw [Placement.place_cursors_length]
      exact opened
    · intro next
      have last : (onRow (placement.place node row (width node) spacing).slots row).getLast? =
          some ⟨node, row, placement.cursor row⟩ := by
        simp [Placement.place, onRow]
      exact Rule.allows_of_last last (Placement.cursor_place_self placement node _ _ opened)

theorem placeRest_laid (laid : (columnRule width spacing).Laid placement.slots)
    (opened : ∀ slot ∈ placement.slots, slot.row < placement.cursors.length) :
    (columnRule width spacing).Laid (placeRest width spacing placement).slots := by
  unfold placeRest
  split
  · exact laid
  · apply placeAll_laid
    · exact laid
    · simp [Placement.openRow]
    · intro node
      apply Rule.allows_of_unused
      · exact onRow_eq_nil fun slot placed => (opened slot placed).ne
      · trivial

theorem placement_laid (nodes : List Node) (links : List (Link nodes.length))
    (width : Fin nodes.length → α) (spacing : α) :
    (columnRule width spacing).Laid (Flow.placement nodes links width spacing).slots := by
  have ready := walked_ready nodes links width spacing
  rw [placement_eq]
  apply placeRest_laid _ ready.placed_opened
  exact ready.laid.mono (fun _ _ follows => follows.2) fun _ _ _ => trivial

end Columns

/-! ### Rows -/

theorem pairwise_after {n : Nat} {width : Fin n → Rat} {spacing : Rat}
    (widths_nonneg : ∀ node, 0 ≤ width node) (spacing_nonneg : 0 ≤ spacing)
    {slots : List (Slot Rat n)}
    (laid : (columnRule width spacing).Laid slots) (row : Nat) :
    (onRow slots row).Pairwise fun a b => a.after width spacing ≤ b.x := by
  have trans : IsTrans (Slot Rat n) fun a b => a.after width spacing ≤ b.x := by
    constructor
    intro a b c ab bc
    have advance : b.x ≤ b.after width spacing :=
      le_add_of_nonneg_right (add_nonneg (widths_nonneg b.node) spacing_nonneg)
    exact (ab.trans advance).trans bc
  apply List.isChain_iff_pairwise.mp
  exact (laid.isChain row).imp fun _ _ follows => le_of_eq follows.symm

theorem nodeSize_bounds (node : Node) :
    let size : Rat × Rat := nodeSize node
    0 ≤ size.1 ∧ 0 ≤ size.2 ∧ size.2 ≤ 60 := by
  unfold nodeSize
  split <;> norm_num [Scalar.ofNat_rat, Scalar.max_rat]

variable {nodes : List Node} {connections : List Connection} {config : Config Rat}
  {i j : Fin nodes.length}

theorem row_apart (spacing_nonneg : 0 ≤ config.horizontalSpacing) (different : i ≠ j)
    (same_row : rowNumber nodes connections config i = rowNumber nodes connections config j) :
    (nodeBox nodes connections config i).right + config.horizontalSpacing ≤
        (nodeBox nodes connections config j).x ∨
      (nodeBox nodes connections config j).right + config.horizontalSpacing ≤
        (nodeBox nodes connections config i).x := by
  have complete := laidOut_complete nodes connections config
  obtain ⟨a, a_placed, rfl⟩ := complete.exists_slot i
  obtain ⟨b, b_placed, rfl⟩ := complete.exists_slot j
  have rows_same : a.row = b.row := (complete.rowOf_inj a_placed b_placed).mp same_row
  have widths_nonneg : ∀ i, (0 : Rat) ≤ nodeWidth nodes i :=
    fun i => (nodeSize_bounds (nodes.get i)).1
  have laid : (columnRule (nodeWidth nodes) config.horizontalSpacing).Laid
      (laidOut nodes connections config).slots := placement_laid ..
  have in_order := pairwise_after widths_nonneg spacing_nonneg laid a.row
  simp only [Box.right_rat, nodeBox_width, nodeBox_x a_placed, nodeBox_x b_placed, add_assoc]
  exact related_of_pairwise in_order (mem_onRow.mpr ⟨a_placed, rfl⟩)
    (mem_onRow.mpr ⟨b_placed, rows_same.symm⟩) (ne_of_apply_ne Slot.node different)

/-! ### Rows one below the other -/

/-- The height of the tallest node of a row. -/
def tallest (nodes : List Node) (connections : List Connection) (config : Config Rat) (row : Nat) :
    Rat :=
  let placement := laidOut nodes connections config
  rowHeight (rowsAndHeights nodes (usedRows placement) placement) row

theorem nodeBox_height (i : Fin nodes.length) :
    (nodeBox nodes connections config i).height = (nodeSize (nodes.get i)).2 := by
  rw [nodeBox_eq]
  rfl

theorem nodeBox_y (i : Fin nodes.length) :
    (nodeBox nodes connections config i).y =
      rowNumber nodes connections config i * config.verticalSpacing +
        (tallest nodes connections config (rowNumber nodes connections config i) -
          (nodeBox nodes connections config i).height) / 2 := by
  rw [nodeBox_height, nodeBox_eq]
  rfl

theorem height_le_tallest (nodes : List Node) (connections : List Connection) (config : Config Rat)
    (i : Fin nodes.length) :
    (nodeBox nodes connections config i).height ≤
      tallest nodes connections config (rowNumber nodes connections config i) := by
  rw [nodeBox_height]
  apply Scalar.le_greatest
  refine List.mem_map.mpr ⟨(rowNumber nodes connections config i, _), ?_, rfl⟩
  apply List.mem_filter.mpr
  constructor
  · exact List.mem_map.mpr ⟨i, List.mem_finRange i, rfl⟩
  · exact beq_self_eq_true _

theorem tallest_le (nodes : List Node) (connections : List Connection) (config : Config Rat)
    (row : Nat) : tallest nodes connections config row ≤ 60 := by
  apply Scalar.greatest_le (by norm_num)
  intro height member
  obtain ⟨_, among, rfl⟩ := List.mem_map.mp member
  obtain ⟨i, _, rfl⟩ := List.mem_map.mp (List.mem_filter.mp among).1
  exact (nodeSize_bounds (nodes.get i)).2.2

/-- The nodes of a row have their centres on one line. -/
theorem middle_eq (i : Fin nodes.length) :
    (nodeBox nodes connections config i).middle =
      rowNumber nodes connections config i * config.verticalSpacing +
        tallest nodes connections config (rowNumber nodes connections config i) / 2 := by
  rw [Box.middle, nodeBox_y]
  linarith

theorem row_below (vertical : 60 ≤ config.verticalSpacing)
    (above : rowNumber nodes connections config i < rowNumber nodes connections config j) :
    (nodeBox nodes connections config i).bottom ≤ (nodeBox nodes connections config j).y := by
  have i_height := height_le_tallest nodes connections config i
  have j_height := height_le_tallest nodes connections config j
  have i_tallest := tallest_le nodes connections config (rowNumber nodes connections config i)
  have next_row : (rowNumber nodes connections config i + 1 : Rat) * config.verticalSpacing ≤
      rowNumber nodes connections config j * config.verticalSpacing := by
    apply mul_le_mul_of_nonneg_right
    · exact_mod_cast above
    · linarith
  rw [Box.bottom_rat, nodeBox_y, nodeBox_y]
  linarith

/-! ### Main statement -/

/-- No two nodes overlap. Two nodes of a row keep their distance, with their centres on one line. -/
theorem layout_spaced (nodes : List Node) (connections : List Connection) (config : Config Rat)
    (horizontal : 0 ≤ config.horizontalSpacing) (vertical : 60 ≤ config.verticalSpacing)
    (i j : Fin nodes.length) (different : i ≠ j) :
    let box := nodeBox nodes connections config
    let row := rowNumber nodes connections config
    (box i).interior ∩ (box j).interior = ∅ ∧
      (row i = row j →
        ((box i).right + config.horizontalSpacing ≤ (box j).x ∨
          (box j).right + config.horizontalSpacing ≤ (box i).x) ∧
        (box i).middle = (box j).middle) := by
  intro box row
  constructor
  · apply Box.Apart.interior_inter
    rcases Nat.lt_trichotomy (row i) (row j) with above | same_row | below
    · exact .inr (.inr (.inl (row_below vertical above)))
    · rcases row_apart horizontal different same_row with left | right
      · exact .inl ((le_add_of_nonneg_right horizontal).trans left)
      · exact .inr (.inl ((le_add_of_nonneg_right horizontal).trans right))
    · exact .inr (.inr (.inr (row_below vertical below)))
  · intro same_row
    refine ⟨row_apart horizontal different same_row, ?_⟩
    calc (box i).middle
      _ = row i * config.verticalSpacing + tallest nodes connections config (row i) / 2 :=
        middle_eq i
      _ = row j * config.verticalSpacing + tallest nodes connections config (row j) / 2 := by
        rw [same_row]
      _ = (box j).middle := (middle_eq j).symm

/-- A gateway, and the task that goes on on its row. -/
theorem layout_spaced_branches :
    let nodes : List Node :=
      [⟨"begin", "Begin", .start, none, none⟩, ⟨"open", "Open?", .gateway, none, none⟩,
        ⟨"call", "Call", .task, none, none⟩, ⟨"wait", "Wait", .task, none, none⟩]
    let connections : List Connection :=
      [⟨"begin", "open", none, none, false, none⟩, ⟨"open", "call", none, none, false, none⟩,
        ⟨"open", "wait", none, none, false, none⟩]
    let config : Config Rat := .default
    let box := nodeBox nodes connections config
    let row := rowNumber nodes connections config
    0 ≤ config.horizontalSpacing ∧ 60 ≤ config.verticalSpacing ∧ row 1 = row 2 ∧
      (box 1).interior ∩ (box 2).interior = ∅ ∧
      ((box 1).right + config.horizontalSpacing ≤ (box 2).x ∨
        (box 2).right + config.horizontalSpacing ≤ (box 1).x) ∧
      (box 1).middle = (box 2).middle := by
  intro nodes connections config box row
  have horizontal : 0 ≤ config.horizontalSpacing := by decide +kernel
  have vertical : 60 ≤ config.verticalSpacing := by decide +kernel
  have linked : links nodes connections = [⟨0, 1⟩, ⟨1, 2⟩, ⟨1, 3⟩] := by decide +kernel
  have same_row :
      rowNumber nodes connections config 1 = rowNumber nodes connections config 2 := by
    rw [rowNumber, rowNumber, laidOut, placement_eq, linked]
    cbv
  obtain ⟨disjoint, spaced⟩ :=
    layout_spaced nodes connections config horizontal vertical 1 2 (by decide)
  obtain ⟨beside, level⟩ := spaced same_row
  exact ⟨horizontal, vertical, same_row, disjoint, beside, level⟩

end TextDiagram.Flow
