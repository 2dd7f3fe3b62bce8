import TextDiagram.Graph.Reading
import TextDiagram.Proofs.Hierarchy.Parents
import TextDiagram.Proofs.Plan.Indices

/-!
# Plans of a cut layout

What becomes of the indices of a plan when only the first nodes of a layout are planned. Main
statement: connectors join shapes of the plan wherever the layout is cut, as an end that has not
been placed is reported instead. Parents are taken over unchecked: they are shapes of the plan
exactly if the cut parts no node from an effective parent behind it, and for all cuts exactly if
every effective parent stands before its nodes.
-/
namespace TextDiagram

variable {α : Type}

/-- The one node is laid out in the other; only the nodes of an architecture are. -/
structure Graph.LaidOutIn (graph : Graph) (node outer : Fin graph.nodes.length) : Prop where
  architecture : graph.family = .architecture
  effective : Hierarchy.parent? graph.nodes node = some outer

namespace Plan

/-- The connectors join shapes of the plan. -/
def EndsWithin (plan : Plan α) : Prop :=
  ∀ connector ∈ plan.connectors,
    connector.source < plan.shapes.length ∧ connector.target < plan.shapes.length

/-- The parents of shapes are shapes of the plan. -/
def ParentsWithin (plan : Plan α) : Prop :=
  ∀ shape ∈ plan.shapes, ∀ parent, shape.parent = some parent → parent < plan.shapes.length

variable [Scalar α]

theorem ofGraph_take_length (graph : Graph) (config : Config α) (k : Nat) :
    (ofGraph graph ((graph.layout config).take k)).shapes.length = min k graph.nodes.length := by
  rw [ofGraph, shapesFrom_length, List.length_take, graph.layout_length]

/-- The parents in the plan are the effective parents of the nodes before the cut. -/
theorem ofGraph_take_parent_iff (graph : Graph) (config : Config α) (k parent : Nat) :
    (∃ shape ∈ (ofGraph graph ((graph.layout config).take k)).shapes,
        shape.parent = some parent) ↔
      ∃ node outer, graph.LaidOutIn node outer ∧ node.val < k ∧ outer.val = parent := by
  constructor
  · rintro ⟨shape, member, inside⟩
    obtain ⟨i, planned⟩ := List.mem_iff_getElem?.mp member
    have bound := (List.getElem?_eq_some_iff.mp planned).1
    rw [ofGraph_take_length] at bound
    rw [ofGraph, shapesFrom_getElem?, Option.map_eq_some_iff] at planned
    obtain ⟨placed, _, rfl⟩ := planned
    obtain ⟨architecture, node, outer, effective, rfl, at_parent⟩ :=
      (parentIndices_eq_some_iff graph i parent).mp inside
    exact ⟨node, outer, ⟨architecture, effective⟩, by omega, at_parent⟩
  · rintro ⟨node, outer, laid_out, before_cut, rfl⟩
    have inside : (parentIndices graph)[node.val]?.join = some outer.val :=
      (parentIndices_eq_some_iff graph _ _).mpr
        ⟨laid_out.architecture, node, outer, laid_out.effective, rfl, rfl⟩
    have placed : node.val < ((graph.layout config).take k).length := by
      rw [List.length_take, graph.layout_length]
      exact lt_min before_cut node.isLt
    have planned := shapesFrom_getElem? 0 (parentIndices graph) ((graph.layout config).take k) node
    rw [List.getElem?_eq_getElem placed, Option.map_some] at planned
    exact ⟨_, List.mem_of_getElem? planned, inside⟩

theorem ofGraph_take_parentsWithin_iff (graph : Graph) (config : Config α) (k : Nat) :
    (ofGraph graph ((graph.layout config).take k)).ParentsWithin ↔
      ∀ node outer, graph.LaidOutIn node outer → node.val < k → outer.val < k := by
  constructor
  · intro within node outer laid_out before_cut
    obtain ⟨shape, member, inside⟩ := (ofGraph_take_parent_iff graph config k outer).mpr
      ⟨node, outer, laid_out, before_cut, rfl⟩
    have bound := within shape member outer inside
    rw [ofGraph_take_length] at bound
    omega
  · intro before shape member parent inside
    obtain ⟨node, outer, laid_out, before_cut, rfl⟩ :=
      (ofGraph_take_parent_iff graph config k parent).mp ⟨shape, member, inside⟩
    have bound := before node outer laid_out before_cut
    rw [ofGraph_take_length]
    exact lt_min bound outer.isLt

/-- Wherever the layout of a graph is cut, the connectors of the plan join shapes of it. Its parents
are shapes of it exactly if no node before the cut is laid out in one behind it; so they are
whatever the cut exactly if every group is declared before the nodes that are laid out in it. -/
theorem ofGraph_take_within (graph : Graph) (config : Config α) :
    (∀ k, (ofGraph graph ((graph.layout config).take k)).EndsWithin) ∧
    (∀ k, (ofGraph graph ((graph.layout config).take k)).ParentsWithin ↔
      ∀ node outer, graph.LaidOutIn node outer → node.val < k → outer.val < k) ∧
    ((∀ k, (ofGraph graph ((graph.layout config).take k)).ParentsWithin) ↔
      ∀ node outer, graph.LaidOutIn node outer → outer < node) := by
  refine ⟨fun k => ofGraph_ends graph _, ofGraph_take_parentsWithin_iff graph config, ?_⟩
  simp only [ofGraph_take_parentsWithin_iff]
  constructor
  · intro before node outer laid_out
    -- Cut right behind the node: the outer one stands before this cut and is not the node itself.
    have bound := before (node + 1) node outer laid_out (Nat.lt_succ_self node)
    have other := (Hierarchy.parent?_eq_some_iff.mp laid_out.effective).1.other
    exact lt_of_le_of_ne (Nat.lt_succ_iff.mp bound) other
  · intro before k node outer laid_out before_cut
    exact Nat.lt_trans (before node outer laid_out) before_cut

/-- The service stands before its group, and the layout is cut between the two: the only shape of
the plan is said to belong to a second one. -/
theorem ofGraph_take_escapes :
    let text := "architecture-beta\nservice a(server)[A] in g\ngroup g(cloud)[G]"
    let graph : Graph := {
      family := .architecture
      nodes := [⟨"a", "A", .service, some "server", some "g"⟩,
        ⟨"g", "G", .group, some "cloud", none⟩]
      connections := [] }
    let plan := ofGraph graph ((graph.layout (.default : Config Rat)).take 1)
    Graph.read .architecture text = .ok graph ∧ plan.shapes.length = 1 ∧
      (∃ shape ∈ plan.shapes, shape.parent = some 1) ∧ ¬ plan.ParentsWithin := by
  intro text graph plan
  have read : Graph.read .architecture text = .ok graph := by decide +kernel
  have one : plan.shapes.length = 1 := by decide +kernel
  have escapes : ∃ shape ∈ plan.shapes, shape.parent = some 1 := by decide +kernel
  refine ⟨read, one, escapes, fun within => ?_⟩
  obtain ⟨shape, member, inside⟩ := escapes
  have bound := within shape member 1 inside
  omega

end Plan

end TextDiagram
