import Mathlib.Data.List.FinRange
import TextDiagram.Plan

/-!
# Indices of a plan

A plan names its shapes by their place in it. Main statement: in the plan of a graph that has been
laid out as a whole every shape carries its own index, and the indices that parents and connectors
refer to are those of shapes, a parent being a group.
-/
namespace TextDiagram

variable {α : Type}

theorem Graph.layout_nodes [Scalar α] (graph : Graph) (config : Config α) :
    (graph.layout config).map Placed.node = graph.nodes := by
  unfold Graph.layout
  cases graph.family with
  | flow => simp [Flow.layout, Flow.arrange, Function.comp_def, List.map_getElem_finRange]
  | architecture => simp [Hierarchy.layout, Function.comp_def, List.map_getElem_finRange]

theorem Graph.layout_length [Scalar α] (graph : Graph) (config : Config α) :
    (graph.layout config).length = graph.nodes.length := by
  rw [← graph.layout_nodes config, List.length_map]

namespace Hierarchy

/-- The group that a node is laid out in is a group. -/
theorem parent?_isContainer (nodes : List Node) (i parent : Fin nodes.length)
    (inside : parent? nodes i = some parent) :
    (nodes.get parent).kind.isContainer = true := by
  unfold parent? acyclicParent? at inside
  split at inside
  -- On a cycle a node has no parent.
  · cases inside
  · unfold declaredParent? at inside
    simp only [Option.bind_eq_bind, Option.bind_eq_some_iff] at inside
    obtain ⟨id, _, first, _, accepted⟩ := inside
    split at accepted
    next valid => cases accepted; exact valid.2
    next => cases accepted

theorem parents_getElem? (nodes : List Node) (i : Nat) (inside : i < nodes.length) :
    (parents nodes)[i]? = some (parent? nodes ⟨i, inside⟩) := by
  rw [← parentTable_get]
  simp [parents, inside, Vector.get]

end Hierarchy

theorem NodeKind.eq_group_of_isContainer {kind : NodeKind} (container : kind.isContainer = true) :
    kind = .group := by
  cases kind <;> first | rfl | cases container

namespace Plan

/-! ### Parents -/

theorem parentIndices_of_flow {graph : Graph} (flow : graph.family = .flow) (i : Nat) :
    (parentIndices graph)[i]?.join = none := by
  unfold parentIndices
  rw [flow, List.getElem?_map]
  cases graph.nodes[i]? <;> rfl

theorem parentIndices_of_architecture {graph : Graph} (architecture : graph.family = .architecture)
    (i : Fin graph.nodes.length) :
    (parentIndices graph)[i.val]?.join = (Hierarchy.parent? graph.nodes i).map Fin.val := by
  unfold parentIndices
  rw [architecture, List.getElem?_map, Hierarchy.parents_getElem? graph.nodes i i.isLt]
  rfl

/-- Only the nodes of an architecture have effective parents. -/
theorem parentIndices_eq_some_iff (graph : Graph) (i parent : Nat) :
    (parentIndices graph)[i]?.join = some parent ↔
      graph.family = .architecture ∧ ∃ node outer : Fin graph.nodes.length,
        Hierarchy.parent? graph.nodes node = some outer ∧ node.val = i ∧ outer.val = parent := by
  cases family : graph.family with
  | flow => simp [parentIndices_of_flow family]
  | architecture =>
    constructor
    · intro inside
      have listed := (List.getElem?_eq_some_iff.mp (Option.join_eq_some_iff.mp inside)).1
      have bound : i < graph.nodes.length := by
        simpa [parentIndices, family, Hierarchy.parents] using listed
      rw [parentIndices_of_architecture family ⟨i, bound⟩, Option.map_eq_some_iff] at inside
      obtain ⟨outer, effective, at_parent⟩ := inside
      exact ⟨rfl, ⟨i, bound⟩, outer, effective, rfl, at_parent⟩
    · rintro ⟨-, node, outer, effective, rfl, rfl⟩
      rw [parentIndices_of_architecture family, effective]
      rfl

/-- The effective parent of a node is a group of the graph. -/
theorem parentIndices_group (graph : Graph) (i parent : Nat)
    (inside : (parentIndices graph)[i]?.join = some parent) :
    ∃ node, graph.nodes[parent]? = some node ∧ node.kind = .group := by
  obtain ⟨-, node, outer, effective, -, rfl⟩ := (parentIndices_eq_some_iff graph i parent).mp inside
  have container := Hierarchy.parent?_isContainer graph.nodes node outer effective
  exact ⟨graph.nodes.get outer, by simp, NodeKind.eq_group_of_isContainer container⟩

/-! ### Shapes -/

/-- The shape planned at a place, with the index of the place. -/
theorem shapesFrom_getElem? (first : Nat) (parents : List (Option Nat)) (placed : List (Placed α))
    (i : Nat) :
    (shapesFrom first parents placed)[i]? = placed[i]?.map fun placed =>
      { index := first + i
        kind := placed.node.kind
        label := placed.node.label
        icon := placed.node.icon
        box := placed.box
        parent := parents[i]?.join } := by
  induction placed generalizing first parents i with
  | nil => simp [shapesFrom]
  | cons head rest ih =>
    cases i with
    | zero => simp [shapesFrom, List.head?_eq_getElem?]
    | succ i =>
      -- Further back the number and the list of parents have both moved on by one.
      simp only [shapesFrom, List.getElem?_cons_succ, ih, List.getElem?_tail, Nat.add_right_comm,
        Nat.add_assoc]

theorem shapesFrom_length (first : Nat) (parents : List (Option Nat)) (placed : List (Placed α)) :
    (shapesFrom first parents placed).length = placed.length := by
  induction placed generalizing first parents with
  | nil => rfl
  | cons head rest ih => simp [shapesFrom, ih]

/-- No shape of a flow has a parent. -/
theorem ofGraph_flow_parent [Scalar α] {graph : Graph} (flow : graph.family = .flow)
    (config : Config α) :
    ∀ shape ∈ (ofGraph graph (graph.layout config)).shapes, shape.parent = none := by
  intro shape member
  obtain ⟨i, planned⟩ := List.mem_iff_getElem?.mp member
  rw [ofGraph, shapesFrom_getElem?, Option.map_eq_some_iff] at planned
  obtain ⟨_, _, rfl⟩ := planned
  exact parentIndices_of_flow flow i

/-! ### Connectors -/

theorem resolve_lt (graph : Graph) (placed : Nat) (id : String) (index : Nat)
    (resolved : resolve graph placed id = .ok index) : index < placed := by
  unfold resolve at resolved
  split at resolved
  · cases resolved
  · split at resolved
    next bound => cases resolved; exact bound
    next => cases resolved

theorem connector_lt (graph : Graph) (placed : Nat) (connection : Connection)
    (planned : PlannedConnector) (resolved : connector graph placed connection = .ok planned) :
    planned.source < placed ∧ planned.target < placed := by
  unfold connector at resolved
  cases source_at : resolve graph placed connection.source with
  | error error => simp [source_at, bind, Except.bind] at resolved
  | ok source =>
    cases target_at : resolve graph placed connection.target with
    | error error => simp [source_at, target_at, bind, Except.bind] at resolved
    | ok target =>
      simp only [source_at, target_at, bind, Except.bind, Except.ok.injEq] at resolved
      subst resolved
      exact ⟨resolve_lt graph placed _ _ source_at, resolve_lt graph placed _ _ target_at⟩

theorem mem_results {ε β : Type} {items : List (Except ε β)} {value : β} :
    value ∈ results items ↔ .ok value ∈ items := by
  induction items with
  | nil => simp [results]
  | cons first rest ih => cases first <;> simp [results, ih]

/-! ### Plans -/

/-- However many nodes are placed, connectors join shapes of the plan. -/
theorem ofGraph_ends (graph : Graph) (placed : List (Placed α)) :
    ∀ connector ∈ (ofGraph graph placed).connectors,
      connector.source < (ofGraph graph placed).shapes.length ∧
        connector.target < (ofGraph graph placed).shapes.length := by
  intro connector member
  obtain ⟨connection, _, resolved⟩ := List.mem_map.mp (mem_results.mp member)
  simpa only [ofGraph, shapesFrom_length] using connector_lt graph _ connection connector resolved

/-- Every shape of the plan carries its own index; parents are groups of the plan, and connectors
join shapes of the plan. -/
structure Indexed (plan : Plan α) : Prop where
  index : plan.shapes.map PlannedShape.index = List.range plan.shapes.length
  parent : ∀ shape ∈ plan.shapes, ∀ parent, shape.parent = some parent →
    ∃ holder, plan.shapes[parent]? = some holder ∧ holder.kind = .group
  ends : ∀ connector ∈ plan.connectors,
    connector.source < plan.shapes.length ∧ connector.target < plan.shapes.length

namespace Indexed

variable {plan : Plan α} (indexed : plan.Indexed)

include indexed

theorem index_lt : ∀ shape ∈ plan.shapes, shape.index < plan.shapes.length := by
  intro shape member
  have listed : shape.index ∈ plan.shapes.map PlannedShape.index := List.mem_map_of_mem member
  rw [indexed.index] at listed
  exact List.mem_range.mp listed

theorem parent_lt :
    ∀ shape ∈ plan.shapes, ∀ parent, shape.parent = some parent → parent < plan.shapes.length := by
  intro shape member parent inside
  obtain ⟨holder, found, -⟩ := indexed.parent shape member parent inside
  exact (List.getElem?_eq_some_iff.mp found).1

end Indexed

theorem ofGraph_indexed [Scalar α] (graph : Graph) (config : Config α) :
    (ofGraph graph (graph.layout config)).Indexed := by
  have length := shapesFrom_length 0 (parentIndices graph) (graph.layout config)
  constructor
  case index =>
    refine List.ext_getElem (by simp) fun i bound _ => ?_
    have planned := shapesFrom_getElem? 0 (parentIndices graph) (graph.layout config) i
    have placed : i < (graph.layout config).length := by simpa [ofGraph, length] using bound
    rw [List.getElem?_eq_getElem (by simpa [ofGraph] using bound),
      List.getElem?_eq_getElem placed, Option.map_some, Option.some.injEq] at planned
    simp [ofGraph, planned]
  case parent =>
    intro shape member parent inside
    -- The parent is a node of the graph, and the shape at its index is planned for this node.
    obtain ⟨i, planned⟩ := List.mem_iff_getElem?.mp member
    rw [ofGraph, shapesFrom_getElem?, Option.map_eq_some_iff] at planned
    obtain ⟨placed, _, rfl⟩ := planned
    obtain ⟨node, found, group⟩ := parentIndices_group graph i parent inside
    rw [← graph.layout_nodes config, List.getElem?_map, Option.map_eq_some_iff] at found
    obtain ⟨holder, held, rfl⟩ := found
    exact ⟨_, by rw [ofGraph, shapesFrom_getElem?, held, Option.map_some], group⟩
  case ends => exact ofGraph_ends graph _

/-! ### Moving a plan -/

/-- The plan with all boxes moved by an offset. -/
def shift [Scalar α] (dx dy : α) (plan : Plan α) : Plan α :=
  { plan with
    shapes := plan.shapes.map fun shape => { shape with box := shape.box.shift dx dy } }

/-- However a plan is moved, all of its shapes are moved by one offset. -/
theorem moveTo_eq_shift [Scalar α] (plan : Plan α) (x y : α) :
    ∃ dx dy, plan.moveTo x y = plan.shift dx dy := by
  unfold moveTo
  cases found : plan.bounds? with
  | some bounds => exact ⟨x - bounds.x, y - bounds.y, rfl⟩
  -- Only a plan without shapes has no bounds, and any offset will do for it.
  | none =>
    have no_shapes : plan.shapes = [] := by
      cases shapes : plan.shapes with
      | nil => rfl
      | cons first rest => simp [bounds?, shapes, Box.union?] at found
    refine ⟨Scalar.zero, Scalar.zero, ?_⟩
    rw [shift, no_shapes, List.map_nil, ← no_shapes]

theorem shift_indexed [Scalar α] (dx dy : α) {plan : Plan α} (indexed : plan.Indexed) :
    (plan.shift dx dy).Indexed := by
  constructor
  case index => simpa [shift, Function.comp_def] using indexed.index
  case parent =>
    intro shape member parent inside
    obtain ⟨planned, planned_member, rfl⟩ := List.mem_map.mp member
    obtain ⟨holder, found, group⟩ := indexed.parent planned planned_member parent inside
    exact ⟨{ holder with box := holder.box.shift dx dy }, by simp [shift, found], group⟩
  case ends => simpa [shift] using indexed.ends

end Plan

end TextDiagram
