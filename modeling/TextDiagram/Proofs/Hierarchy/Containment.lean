import TextDiagram.Proofs.Hierarchy.Cells
import TextDiagram.Proofs.Hierarchy.Places
import TextDiagram.Proofs.Plan.Indices

/-!
# Containment

Main statement: over exact numbers every node of a hierarchy lies inside of its group, clear of the
padding, and so inside of all groups around it. A group has been measured around the grid of its
members, so that the grid finds room in it; the room that is left over is only shared out around it.
-/
namespace TextDiagram

namespace Hierarchy

/-! ### Members and their group -/

variable {config : Config Rat}

theorem sizeAround_room (config : Config Rat) {sizes : List (Size Rat)} (some_member : sizes ≠ []) :
    let grid := Grid.ofSizes config.maxColumns sizes
    grid.width config + config.groupPadding.horizontal ≤ (sizeAround config sizes).width ∧
      grid.height config + config.groupPadding.vertical ≤ (sizeAround config sizes).height := by
  intro grid
  rw [sizeAround, if_neg (by simpa using some_member)]
  simp only [Scalar.max_rat]
  exact ⟨le_max_left _ _, le_max_left _ _⟩

/-- A grid with room for it is clear of the padding, wherever in the room it stands. -/
theorem memberBoxes_inside (horizontal_nonneg : 0 ≤ config.horizontalSpacing)
    (vertical_nonneg : 0 ≤ config.verticalSpacing) {box inner : Box Rat} {sizes : List (Size Rat)}
    (width_room : (Grid.ofSizes config.maxColumns sizes).width config +
      config.groupPadding.horizontal ≤ box.width)
    (height_room : (Grid.ofSizes config.maxColumns sizes).height config +
      config.groupPadding.vertical ≤ box.height)
    (member : inner ∈ memberBoxes config box sizes) :
    (box.shrink config.groupPadding).Encloses inner := by
  refine .trans ?_ (Grid.boxes_inside horizontal_nonneg vertical_nonneg member)
  have room_x : 0 ≤ Scalar.half (box.width - config.groupPadding.horizontal -
      (Grid.ofSizes config.maxColumns sizes).width config) := by
    rw [Scalar.half_rat]
    linarith
  have room_y : 0 ≤ Scalar.half (box.height - config.groupPadding.vertical -
      (Grid.ofSizes config.maxColumns sizes).height config) := by
    rw [Scalar.half_rat]
    linarith
  rw [Scalar.max_rat, Scalar.max_rat, Scalar.zero_rat, max_eq_left room_x, max_eq_left room_y]
  rw [Scalar.half_rat] at room_x room_y ⊢
  rw [Scalar.half_rat]
  constructor
  · show box.x + config.groupPadding.left ≤ _
    linarith
  · show box.y + config.groupPadding.top ≤ _
    linarith
  · rw [Box.right_shrink, Box.right_rat, Box.right_rat]
    rw [Padding.horizontal_rat] at width_room room_x ⊢
    linarith
  · rw [Box.bottom_shrink, Box.bottom_rat, Box.bottom_rat]
    rw [Padding.vertical_rat] at height_room room_y ⊢
    linarith

theorem nodeBox_in_parent (horizontal_nonneg : 0 ≤ config.horizontalSpacing)
    (vertical_nonneg : 0 ≤ config.verticalSpacing) {nodes : List Node} {i parent : Fin nodes.length}
    (inside : parent? nodes i = some parent) :
    ((nodeBox nodes config parent).shrink config.groupPadding).Encloses
      (nodeBox nodes config i) := by
  have is_member : i ∈ members nodes parent := mem_members.mpr inside
  have is_group : isGroup nodes parent = true := parent?_isContainer nodes i parent inside
  have some_size : (members nodes parent).map (sizeOf nodes config) ≠ [] := by
    rw [Ne, List.map_eq_nil_iff]
    exact List.ne_nil_of_mem is_member
  obtain ⟨width_room, height_room⟩ := sizeAround_room config some_size
  have measured := sizeOf_eq nodes config parent
  rw [if_pos is_group] at measured
  rw [← measured, ← nodeBox_width] at width_room
  rw [← measured, ← nodeBox_height] at height_room
  apply memberBoxes_inside horizontal_nonneg vertical_nonneg width_room height_room
  rw [← members_boxes]
  exact List.mem_map_of_mem is_member

theorem nodeBox_in_ancestor (horizontal_nonneg : 0 ≤ config.horizontalSpacing)
    (vertical_nonneg : 0 ≤ config.verticalSpacing) (padding_nonneg : config.groupPadding.Nonneg)
    {nodes : List Node} {i ancestor : Fin nodes.length} (under : Under (parent? nodes) i ancestor) :
    (nodeBox nodes config ancestor).Encloses (nodeBox nodes config i) := by
  induction under with
  | refl => exact .refl _
  | @tail parent ancestor _ inside ih =>
    have clear := nodeBox_in_parent horizontal_nonneg vertical_nonneg inside
    exact ((Box.encloses_shrink _ padding_nonneg).trans clear).trans ih

theorem layout_getElem? {α : Type} [Scalar α] (nodes : List Node) (config : Config α)
    (i : Fin nodes.length) :
    (layout nodes config)[i.val]? = some ⟨nodes.get i, nodeBox nodes config i⟩ := by
  simp [layout, nodeBox_eq]

end Hierarchy

/-! ### Plans -/

namespace Plan

/-- Every shape that belongs to another one lies inside of it. -/
def Nested (plan : Plan Rat) : Prop :=
  ∀ shape ∈ plan.shapes, ∀ parent, shape.parent = some parent →
    ∃ holder, plan.shapes[parent]? = some holder ∧ holder.box.Encloses shape.box

/-- The shape planned for a node of a hierarchy. -/
theorem ofGraph_getElem? {α : Type} [Scalar α] (nodes : List Node)
    (connections : List Connection) (config : Config α) (i : Fin nodes.length) :
    ∃ shape, (ofGraph ⟨.architecture, nodes, connections⟩
        (Hierarchy.layout nodes config)).shapes[i.val]? = some shape ∧
      shape.box = Hierarchy.nodeBox nodes config i ∧
      shape.parent = (Hierarchy.parent? nodes i).map Fin.val := by
  have planned := shapesFrom_getElem? 0 (parentIndices ⟨.architecture, nodes, connections⟩)
    (Hierarchy.layout nodes config) i
  rw [Hierarchy.layout_getElem?, Option.map_some] at planned
  have architecture : (⟨.architecture, nodes, connections⟩ : Graph).family = .architecture := rfl
  exact ⟨_, planned, rfl, parentIndices_of_architecture architecture i⟩

theorem ofGraph_nested (graph : Graph) {config : Config Rat}
    (horizontal_nonneg : 0 ≤ config.horizontalSpacing)
    (vertical_nonneg : 0 ≤ config.verticalSpacing) (padding_nonneg : config.groupPadding.Nonneg) :
    (ofGraph graph (graph.layout config)).Nested := by
  intro shape member parent inside
  obtain ⟨family, nodes, connections⟩ := graph
  obtain ⟨i, shape_at⟩ := List.mem_iff_getElem?.mp member
  cases family with
  | flow =>
    have flow : (⟨.flow, nodes, connections⟩ : Graph).family = .flow := rfl
    cases (ofGraph_flow_parent flow config shape member).symm.trans inside
  | architecture =>
    rw [Graph.layout] at shape_at ⊢
    have bound : i < nodes.length := by
      have listed := (List.getElem?_eq_some_iff.mp shape_at).1
      simpa [ofGraph, shapesFrom_length, Hierarchy.layout_length] using listed
    obtain ⟨planned, planned_at, box, planned_parent⟩ :=
      ofGraph_getElem? nodes connections config ⟨i, bound⟩
    cases Option.some.inj (shape_at.symm.trans planned_at)
    rw [planned_parent, Option.map_eq_some_iff] at inside
    obtain ⟨holding, inside, rfl⟩ := inside
    obtain ⟨holder, holder_at, holder_box, _⟩ := ofGraph_getElem? nodes connections config holding
    refine ⟨holder, holder_at, ?_⟩
    rw [box, holder_box]
    exact Hierarchy.nodeBox_in_ancestor horizontal_nonneg vertical_nonneg padding_nonneg
      (.single inside)

end Plan

/-! ### Main statement -/

namespace Hierarchy

/-- Nodes lie inside of their group, clear of its padding. Where no padding is negative, they lie
inside of all groups around them, and so do the shapes that are planned for them. -/
theorem layout_contains (nodes : List Node) (config : Config Rat)
    (horizontal_nonneg : 0 ≤ config.horizontalSpacing)
    (vertical_nonneg : 0 ≤ config.verticalSpacing) :
    (∀ i parent, parent? nodes i = some parent →
      ((nodeBox nodes config parent).shrink config.groupPadding).Encloses
        (nodeBox nodes config i)) ∧
    (config.groupPadding.Nonneg →
      (∀ i ancestor, Within (parent? nodes) i ancestor →
        (nodeBox nodes config ancestor).Encloses (nodeBox nodes config i)) ∧
      ∀ graph : Graph, graph.nodes = nodes →
        (Plan.ofGraph graph (graph.layout config)).Nested) := by
  refine ⟨fun i parent inside => ?_, fun padding_nonneg => ⟨fun i ancestor within => ?_, ?_⟩⟩
  · exact nodeBox_in_parent horizontal_nonneg vertical_nonneg inside
  · exact nodeBox_in_ancestor horizontal_nonneg vertical_nonneg padding_nonneg
      within.to_reflTransGen
  · intro graph _
    exact Plan.ofGraph_nested graph horizontal_nonneg vertical_nonneg padding_nonneg

/-- A service in a group in a group, beside a group that is declared inside of itself. -/
theorem layout_contains_nested :
    let nodes : List Node :=
      [⟨"store", "Store", .group, none, none⟩, ⟨"disk", "Disk", .service, none, some "cache"⟩,
        ⟨"cache", "Cache", .group, none, some "store"⟩, ⟨"loop", "Loop", .group, none, some "loop"⟩]
    let graph : Graph := ⟨.architecture, nodes, []⟩
    let config : Config Rat := .default
    0 ≤ config.horizontalSpacing ∧ 0 ≤ config.verticalSpacing ∧ config.groupPadding.Nonneg ∧
      parent? nodes 1 = some 2 ∧ parent? nodes 2 = some 0 ∧
      ((nodeBox nodes config 2).shrink config.groupPadding).Encloses (nodeBox nodes config 1) ∧
      (nodeBox nodes config 0).Encloses (nodeBox nodes config 1) ∧
      (Plan.ofGraph graph (graph.layout config)).Nested := by
  intro nodes graph config
  have horizontal : 0 ≤ config.horizontalSpacing := by decide +kernel
  have vertical : 0 ≤ config.verticalSpacing := by decide +kernel
  have padding : config.groupPadding.Nonneg := by constructor <;> decide +kernel
  have disk_in_cache : parent? nodes 1 = some 2 := by decide +kernel
  have cache_in_store : parent? nodes 2 = some 0 := by decide +kernel
  obtain ⟨in_parent, rest⟩ := layout_contains nodes config horizontal vertical
  obtain ⟨in_ancestor, planned⟩ := rest padding
  refine ⟨horizontal, vertical, padding, disk_in_cache, cache_in_store, ?_, ?_, ?_⟩
  · exact in_parent 1 2 disk_in_cache
  · exact in_ancestor 1 0 (.tail (.single disk_in_cache) cache_in_store)
  · exact planned graph rfl

end Hierarchy

end TextDiagram
