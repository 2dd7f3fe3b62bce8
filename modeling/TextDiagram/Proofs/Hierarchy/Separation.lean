import TextDiagram.Proofs.Hierarchy.Containment

/-!
# Separation

Main statement: over exact numbers two nodes of a hierarchy overlap only where one of them lies in
the other. Two siblings are apart, as they stand in different cells of a grid, side by side as
groups, or one of them in the grid below the groups; and what lies in two siblings is apart with
them.
-/
namespace TextDiagram

/-- No distance between nodes and no smallest size of a group is negative. -/
structure Config.Nonneg (config : Config Rat) : Prop where
  horizontalSpacing : 0 ≤ config.horizontalSpacing
  verticalSpacing : 0 ≤ config.verticalSpacing
  groupPadding : config.groupPadding.Nonneg
  minContainerWidth : 0 ≤ config.minContainerWidth
  minContainerHeight : 0 ≤ config.minContainerHeight
  groupSpacing : 0 ≤ config.groupSpacing
  orphanRowSpacing : 0 ≤ config.orphanRowSpacing

namespace Hierarchy

variable {config : Config Rat} {nodes : List Node}

theorem minContainer_le (config : Config Rat) (sizes : List (Size Rat)) :
    config.minContainerWidth ≤ (sizeAround config sizes).width ∧
      config.minContainerHeight ≤ (sizeAround config sizes).height := by
  unfold sizeAround
  split
  · exact ⟨le_rfl, le_rfl⟩
  · dsimp only
    simp only [Scalar.max_rat]
    exact ⟨le_max_right _ _, le_max_right _ _⟩

theorem sizeOf_nonneg (nonneg : config.Nonneg) (i : Fin nodes.length) :
    0 ≤ (sizeOf nodes config i).width ∧ 0 ≤ (sizeOf nodes config i).height := by
  rw [sizeOf_eq]
  split
  · obtain ⟨width, height⟩ := minContainer_le config ((members nodes i).map (sizeOf nodes config))
    exact ⟨nonneg.minContainerWidth.trans width, nonneg.minContainerHeight.trans height⟩
  · exact ⟨Nat.cast_nonneg (α := Rat) 80, Nat.cast_nonneg (α := Rat) 80⟩

/-! ### The row of groups -/

theorem groupRow_from {x : Rat} {sizes : List (Size Rat)} (spacing_nonneg : 0 ≤ config.groupSpacing)
    (widths_nonneg : ∀ size ∈ sizes, 0 ≤ size.width) :
    ∀ box ∈ groupRow config x sizes, x ≤ box.x := by
  induction sizes generalizing x with
  | nil => simp [groupRow]
  | cons size rest ih =>
    have width_nonneg := widths_nonneg size List.mem_cons_self
    intro box member
    rw [groupRow, List.mem_cons] at member
    rcases member with rfl | later
    · exact le_rfl
    · have rest_nonneg : ∀ other ∈ rest, 0 ≤ other.width :=
        fun other among => widths_nonneg other (List.mem_cons_of_mem size among)
      have behind := ih rest_nonneg box later
      exact (le_add_of_nonneg_right (add_nonneg width_nonneg spacing_nonneg)).trans behind

theorem groupRow_pairwise {x : Rat} {sizes : List (Size Rat)}
    (spacing_nonneg : 0 ≤ config.groupSpacing) (widths_nonneg : ∀ size ∈ sizes, 0 ≤ size.width) :
    (groupRow config x sizes).Pairwise fun a b => a.right + config.groupSpacing ≤ b.x := by
  induction sizes generalizing x with
  | nil => exact .nil
  | cons size rest ih =>
    have rest_nonneg : ∀ other ∈ rest, 0 ≤ other.width :=
      fun other among => widths_nonneg other (List.mem_cons_of_mem size among)
    rw [groupRow, List.pairwise_cons]
    refine ⟨fun box later => ?_, ih rest_nonneg⟩
    have behind := groupRow_from spacing_nonneg rest_nonneg box later
    rw [Box.right_rat, add_assoc]
    exact behind

theorem groupRow_bottom {x : Rat} {sizes : List (Size Rat)} :
    ∀ box ∈ groupRow config x sizes, box.bottom ≤ Scalar.greatest (sizes.map Size.height) := by
  have along (x : Rat) (sizes : List (Size Rat)) :
      ∀ box ∈ groupRow config x sizes, ∃ size ∈ sizes, box.bottom = size.height := by
    induction sizes generalizing x with
    | nil => simp [groupRow]
    | cons size rest ih =>
      intro box member
      rw [groupRow, List.mem_cons] at member
      rcases member with rfl | later
      · exact ⟨size, List.mem_cons_self, zero_add size.height⟩
      · obtain ⟨other, among, bottom⟩ := ih _ box later
        exact ⟨other, List.mem_cons_of_mem size among, bottom⟩
  intro box member
  obtain ⟨size, among, bottom⟩ := along x sizes box member
  rw [bottom]
  exact Scalar.le_greatest (List.mem_map_of_mem among)

/-! ### Roots -/

theorem groups_apart (nonneg : config.Nonneg) {i j : Fin nodes.length} (i_group : i ∈ groups nodes)
    (j_group : j ∈ groups nodes) (different : i ≠ j) :
    (nodeBox nodes config i).right + config.groupSpacing ≤ (nodeBox nodes config j).x ∨
      (nodeBox nodes config j).right + config.groupSpacing ≤ (nodeBox nodes config i).x := by
  have widths_nonneg : ∀ size ∈ (groups nodes).map (sizeOf nodes config), 0 ≤ size.width := by
    simp only [List.forall_mem_map]
    exact fun i _ => (sizeOf_nonneg nonneg i).1
  have in_order := groupRow_pairwise (x := Scalar.zero) nonneg.groupSpacing widths_nonneg
  rw [← groupBoxes, ← groups_boxes, List.pairwise_map] at in_order
  exact related_of_pairwise in_order i_group j_group different

theorem orphan_below (nonneg : config.Nonneg) {i j : Fin nodes.length} (i_group : i ∈ groups nodes)
    (j_orphan : j ∈ orphans nodes) :
    (nodeBox nodes config i).bottom + config.orphanRowSpacing ≤ (nodeBox nodes config j).y := by
  have in_row : nodeBox nodes config i ∈ groupBoxes nodes config := by
    rw [← groups_boxes]
    exact List.mem_map_of_mem i_group
  have in_grid : nodeBox nodes config j ∈ orphanBoxes nodes config := by
    rw [← orphans_boxes]
    exact List.mem_map_of_mem j_orphan
  have above := groupRow_bottom _ in_row
  have below := (Grid.boxes_inside nonneg.horizontalSpacing nonneg.verticalSpacing in_grid).top
  have some_group : (groups nodes).map (sizeOf nodes config) ≠ [] := by
    rw [Ne, List.map_eq_nil_iff]
    exact List.ne_nil_of_mem i_group
  rw [orphanTop, if_neg (by simpa using some_group)] at below
  exact (add_le_add_left above _).trans below

/-! ### Siblings -/

theorem grid_apart (nonneg : config.Nonneg) {siblings : List (Fin nodes.length)} {x y : Rat}
    {sizes : List (Size Rat)}
    (placed : siblings.map (nodeBox nodes config) = Grid.boxes config x y sizes)
    {i j : Fin nodes.length} (i_member : i ∈ siblings) (j_member : j ∈ siblings)
    (different : i ≠ j) :
    (nodeBox nodes config i).Apart (nodeBox nodes config j) := by
  have pairwise := Grid.boxes_pairwise x y sizes nonneg.horizontalSpacing nonneg.verticalSpacing
  rw [← placed, List.pairwise_map] at pairwise
  exact (related_of_pairwise pairwise i_member j_member different).elim id Box.Apart.symm

theorem group_orphan_apart (nonneg : config.Nonneg) {i j : Fin nodes.length}
    (i_group : i ∈ groups nodes) (j_orphan : j ∈ orphans nodes) :
    (nodeBox nodes config i).Apart (nodeBox nodes config j) :=
  .inr (.inr (.inl (le_trans (le_add_of_nonneg_right nonneg.orphanRowSpacing)
    (orphan_below nonneg i_group j_orphan))))

theorem siblings_apart (nonneg : config.Nonneg) {i j : Fin nodes.length} (different : i ≠ j)
    (siblings : parent? nodes i = parent? nodes j) :
    (nodeBox nodes config i).Apart (nodeBox nodes config j) := by
  cases inside : parent? nodes i with
  | some parent =>
    exact grid_apart nonneg (members_boxes nodes config parent) (mem_members.mpr inside)
      (mem_members.mpr (siblings.symm.trans inside)) different
  | none =>
    have also_top : parent? nodes j = none := siblings.symm.trans inside
    cases i_kind : isGroup nodes i with
    | true =>
      have i_group : i ∈ groups nodes := mem_groups.mpr ⟨inside, i_kind⟩
      cases j_kind : isGroup nodes j with
      | true =>
        have j_group : j ∈ groups nodes := mem_groups.mpr ⟨also_top, j_kind⟩
        rcases groups_apart nonneg i_group j_group different with left | right
        · exact .inl (le_trans (le_add_of_nonneg_right nonneg.groupSpacing) left)
        · exact .inr (.inl (le_trans (le_add_of_nonneg_right nonneg.groupSpacing) right))
      | false => exact group_orphan_apart nonneg i_group (mem_orphans.mpr ⟨also_top, j_kind⟩)
    | false =>
      have i_orphan : i ∈ orphans nodes := mem_orphans.mpr ⟨inside, i_kind⟩
      cases j_kind : isGroup nodes j with
      | true => exact (group_orphan_apart nonneg (mem_groups.mpr ⟨also_top, j_kind⟩) i_orphan).symm
      | false =>
        exact grid_apart nonneg (orphans_boxes nodes config) i_orphan
          (mem_orphans.mpr ⟨also_top, j_kind⟩) different

/-! ### Main statement -/

/-- Two nodes of which none lies in the other do not overlap. Top-level groups keep their distance
from left to right, and the nodes outside of all groups keep theirs from the groups above. -/
theorem layout_separates (nodes : List Node) (config : Config Rat) (nonneg : config.Nonneg) :
    (∀ i j, i ≠ j → ¬ Within (parent? nodes) i j → ¬ Within (parent? nodes) j i →
      (nodeBox nodes config i).interior ∩ (nodeBox nodes config j).interior = ∅) ∧
    (∀ i ∈ groups nodes, ∀ j ∈ groups nodes, i ≠ j →
      (nodeBox nodes config i).right + config.groupSpacing ≤ (nodeBox nodes config j).x ∨
        (nodeBox nodes config j).right + config.groupSpacing ≤ (nodeBox nodes config i).x) ∧
    (∀ i ∈ groups nodes, ∀ j ∈ orphans nodes,
      (nodeBox nodes config i).bottom + config.orphanRowSpacing ≤ (nodeBox nodes config j).y) := by
  refine ⟨fun i j different i_apart j_apart => ?_, fun i i_group j j_group different => ?_,
    fun i i_group j j_orphan => ?_⟩
  · have i_not_under : ¬ Under (parent? nodes) i j := by
      rw [under_iff, not_or]
      exact ⟨different, i_apart⟩
    have j_not_under : ¬ Under (parent? nodes) j i := by
      rw [under_iff, not_or]
      exact ⟨different.symm, j_apart⟩
    obtain ⟨a, b, siblings_differ, siblings, under_a, under_b⟩ :=
      (parent?_acyclic nodes).exists_siblings i_not_under j_not_under
    have enclosed {i ancestor : Fin nodes.length} (under : Under (parent? nodes) i ancestor) :=
      nodeBox_in_ancestor nonneg.horizontalSpacing nonneg.verticalSpacing nonneg.groupPadding under
    exact ((siblings_apart nonneg siblings_differ siblings).mono (enclosed under_a)
      (enclosed under_b)).interior_inter
  · exact groups_apart nonneg i_group j_group different
  · exact orphan_below nonneg i_group j_orphan

/-- Services of two groups, and one outside of both. -/
theorem layout_separates_services :
    let nodes : List Node :=
      [⟨"web", "Web", .group, none, none⟩, ⟨"page", "Page", .service, none, some "web"⟩,
        ⟨"data", "Data", .group, none, none⟩, ⟨"table", "Table", .service, none, some "data"⟩,
        ⟨"clock", "Clock", .service, none, none⟩]
    let config : Config Rat := .default
    config.Nonneg ∧ ¬ Within (parent? nodes) 1 3 ∧ ¬ Within (parent? nodes) 3 1 ∧
      0 ∈ groups nodes ∧ 2 ∈ groups nodes ∧ 4 ∈ orphans nodes ∧
      (nodeBox nodes config 1).interior ∩ (nodeBox nodes config 3).interior = ∅ ∧
      ((nodeBox nodes config 0).right + config.groupSpacing ≤ (nodeBox nodes config 2).x ∨
        (nodeBox nodes config 2).right + config.groupSpacing ≤ (nodeBox nodes config 0).x) ∧
      (nodeBox nodes config 2).bottom + config.orphanRowSpacing ≤ (nodeBox nodes config 4).y := by
  intro nodes config
  have padding : config.groupPadding.Nonneg := by constructor <;> decide +kernel
  have nonneg : config.Nonneg := by constructor <;> first | exact padding | decide +kernel
  have not_within (i parent other : Fin nodes.length) (inside : parent? nodes i = some parent)
      (top : parent? nodes parent = none) (different : parent ≠ other) :
      ¬ Within (parent? nodes) i other := by
    rw [within_iff, inside]
    rintro ⟨_, ⟨⟩, under⟩
    rcases under_iff.mp under with same | within
    · exact different same
    · exact not_within_of_root top other within
  have page_apart := not_within 1 0 3 (by decide +kernel) (by decide +kernel) (by decide)
  have table_apart := not_within 3 2 1 (by decide +kernel) (by decide +kernel) (by decide)
  have web : 0 ∈ groups nodes := by decide +kernel
  have data : 2 ∈ groups nodes := by decide +kernel
  have clock : 4 ∈ orphans nodes := by decide +kernel
  obtain ⟨disjoint, beside, below⟩ := layout_separates nodes config nonneg
  refine ⟨nonneg, page_apart, table_apart, web, data, clock, ?_, ?_, ?_⟩
  · exact disjoint 1 3 (by decide) page_apart table_apart
  · exact beside 0 web 2 data (by decide)
  · exact below 2 data 4 clock

end Hierarchy

end TextDiagram
