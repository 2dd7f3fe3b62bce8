import TextDiagram.Proofs.Graph.WellFormed

/-!
# Adding statements to a graph

What the statements do to a graph one by one. Main statements: a statement does not change the
family of the graph, and a well-formed statement keeps a well-formed graph well formed.
-/
namespace TextDiagram

namespace Statement

/-- The connection that a statement draws. -/
def connection? : Statement → Option Connection
  | arrow connection => some connection
  | declare _ => none

/-- The node that a statement declares. -/
def node? : Statement → Option Node
  | arrow _ => none
  | declare node => some node

end Statement

namespace Graph

/-! ### Declaring nodes -/

/-- The graph with one more node. -/
def declare (graph : Graph) (node : Node) : Graph :=
  { graph with nodes := graph.nodes ++ [node] }

@[simp] theorem ids_declare (graph : Graph) (node : Node) :
    (graph.declare node).ids = graph.ids ++ [node.id] := by
  simp [ids, declare]

theorem any_id_iff {graph : Graph} {id : String} :
    graph.nodes.any (·.id == id) = true ↔ id ∈ graph.ids := by
  simp [ids]

theorem mention_of_mem {graph : Graph} {id : String} (declared : id ∈ graph.ids) :
    graph.mention id = graph := by
  rw [mention, if_pos (any_id_iff.mpr declared)]

/-- A node that is only mentioned. -/
def mentioned (id : String) : Node :=
  ⟨id, id, mentionedKind id, none, none⟩

theorem mention_of_not_mem {graph : Graph} {id : String} (new : id ∉ graph.ids) :
    graph.mention id = graph.declare (mentioned id) := by
  rw [mention, if_neg fun found => new (any_id_iff.mp found)]
  rfl

theorem mem_ids_mention (graph : Graph) (id : String) : id ∈ (graph.mention id).ids := by
  by_cases declared : id ∈ graph.ids
  · rwa [mention_of_mem declared]
  · simp [mention_of_not_mem declared, mentioned]

theorem ids_subset_mention (graph : Graph) (id : String) : graph.ids ⊆ (graph.mention id).ids := by
  by_cases declared : id ∈ graph.ids
  · rw [mention_of_mem declared]
    exact List.Subset.refl _
  · rw [mention_of_not_mem declared, ids_declare]
    exact List.subset_append_left _ _

theorem mention_family (graph : Graph) (id : String) :
    (graph.mention id).family = graph.family := by
  unfold mention
  split <;> rfl

theorem mention_connections (graph : Graph) (id : String) :
    (graph.mention id).connections = graph.connections := by
  unfold mention
  split <;> rfl

theorem fits_mentioned (id : String) : (mentioned id).Fits .flow := by
  refine ⟨?_, rfl, rfl⟩
  simp only [mentioned, mentionedKind]
  split
  · decide
  · split <;> decide

theorem refine_of_not_mem {graph : Graph} {node : Node} (new : node.id ∉ graph.ids) :
    graph.refine node = graph.declare node := by
  rw [refine, if_neg fun found => new (any_id_iff.mp found)]
  rfl

theorem declareFirst?_of_not_mem {graph : Graph} {node : Node} (new : node.id ∉ graph.ids) :
    graph.declareFirst? node = some (graph.declare node) := by
  rw [declareFirst?, if_neg fun found => new (any_id_iff.mp found)]
  rfl

theorem declareFirst?_of_mem {graph : Graph} {node : Node} (declared : node.id ∈ graph.ids) :
    graph.declareFirst? node = none := by
  rw [declareFirst?, if_pos (any_id_iff.mpr declared)]

/-! ### Refining a node in place -/

theorem refineFirst_ids (node : Node) (nodes : List Node) :
    (refineFirst node nodes).map Node.id = nodes.map Node.id := by
  induction nodes with
  | nil => rfl
  | cons first rest ih =>
    rw [refineFirst]
    split
    · rfl
    · simp only [List.map_cons, ih]

/-- A node of the refined list is an old one, or an old one with the new kind and label. -/
theorem mem_refineFirst {node held : Node} {nodes : List Node}
    (member : held ∈ refineFirst node nodes) :
    held ∈ nodes ∨
      ∃ first ∈ nodes, held = { first with kind := node.kind, label := node.label } := by
  induction nodes with
  | nil => cases member
  | cons first rest ih =>
    rw [refineFirst] at member
    split at member
    · rcases List.mem_cons.mp member with rfl | behind
      · exact .inr ⟨first, List.mem_cons_self, rfl⟩
      · exact .inl (List.mem_cons_of_mem first behind)
    · rcases List.mem_cons.mp member with rfl | behind
      · exact .inl List.mem_cons_self
      · rcases ih behind with kept | ⟨other, among, refined⟩
        · exact .inl (List.mem_cons_of_mem first kept)
        · exact .inr ⟨other, List.mem_cons_of_mem first among, refined⟩

theorem refine_family (graph : Graph) (node : Node) :
    (graph.refine node).family = graph.family := by
  unfold refine
  split <;> rfl

theorem refine_connections (graph : Graph) (node : Node) :
    (graph.refine node).connections = graph.connections := by
  unfold refine
  split <;> rfl

/-! ### Statements keep graphs well formed -/

theorem wellFormed_empty (family : Family) : (empty family).WellFormed where
  distinct := List.nodup_nil
  nodes := by simp [empty]
  connections := by simp [empty]
  declared := by simp [empty]

namespace WellFormed

variable {graph : Graph}

theorem declare (well : graph.WellFormed) {node : Node} (node_well : node.WellFormed graph.family)
    (new : node.id ∉ graph.ids) : (graph.declare node).WellFormed where
  distinct := by
    rw [ids_declare]
    refine List.nodup_append.mpr ⟨well.distinct, by simp, ?_⟩
    intro id old other last same
    exact new (List.mem_singleton.mp last ▸ same ▸ old)
  nodes := by
    intro other member
    rcases List.mem_append.mp member with old | last
    · exact well.nodes other old
    · obtain rfl := List.mem_singleton.mp last
      exact node_well
  connections := well.connections
  declared flow connection member := by
    have ends := well.declared flow connection member
    simp [ends]

theorem mention (well : graph.WellFormed) (flow : graph.family = .flow) {id : String}
    (named : isName id.toList = true) : (graph.mention id).WellFormed := by
  by_cases declared : id ∈ graph.ids
  · rwa [mention_of_mem declared]
  · rw [mention_of_not_mem declared]
    refine well.declare ⟨named, ?_, ?_⟩ declared
    · simpa [mentioned] using isLabel_of_isName named (by decide)
    · exact flow ▸ fits_mentioned id

theorem connect (well : graph.WellFormed) {connection : Connection}
    (connection_well : connection.WellFormed graph.family)
    (declared : graph.family = .flow →
      connection.source ∈ graph.ids ∧ connection.target ∈ graph.ids) :
    (graph.connect connection).WellFormed where
  distinct := well.distinct
  nodes := well.nodes
  connections := by
    intro other member
    rcases List.mem_append.mp member with old | last
    · exact well.connections other old
    · obtain rfl := List.mem_singleton.mp last
      exact connection_well
  declared flow other member := by
    rcases List.mem_append.mp member with old | last
    · exact well.declared flow other old
    · obtain rfl := List.mem_singleton.mp last
      exact declared flow

theorem refine (well : graph.WellFormed) (flow : graph.family = .flow) {node : Node}
    (node_well : node.WellFormed .flow) : (graph.refine node).WellFormed := by
  by_cases declared : node.id ∈ graph.ids
  · rw [Graph.refine, if_pos (any_id_iff.mpr declared)]
    have same_ids : Graph.ids { graph with nodes := refineFirst node graph.nodes } = graph.ids :=
      refineFirst_ids node graph.nodes
    exact {
      distinct := same_ids ▸ well.distinct
      nodes := by
        intro held member
        rcases mem_refineFirst member with old | ⟨first, among, rfl⟩
        · exact well.nodes held old
        -- The id, and what flow nodes do not have, stay those of the node that is refined.
        · have first_well := well.nodes first among
          have first_fits := first_well.fits
          rw [flow] at first_fits
          refine ⟨first_well.id_named, node_well.label, ?_⟩
          exact flow ▸ ⟨node_well.fits.1, first_fits.2⟩
      connections := well.connections
      declared := same_ids.symm ▸ well.declared }
  · rw [refine_of_not_mem declared]
    exact well.declare (flow ▸ node_well) declared

end WellFormed

/-! ### What a statement adds -/

/-- What adding a statement to a graph can make of it. An architecture node is only added under a
new id. -/
inductive Adds (graph : Graph) : Statement → Graph → Prop where
  | flowArrow {connection : Connection} (flow : graph.family = .flow) :
      Adds graph (.arrow connection)
        (((graph.mention connection.source).mention connection.target).connect connection)
  | architectureArrow {connection : Connection} (architecture : graph.family = .architecture) :
      Adds graph (.arrow connection) (graph.connect connection)
  | flowNode {node : Node} (flow : graph.family = .flow) :
      Adds graph (.declare node) (graph.refine node)
  | architectureNode {node : Node} (architecture : graph.family = .architecture)
      (new : node.id ∉ graph.ids) : Adds graph (.declare node) (graph.declare node)

theorem add?_iff {graph added : Graph} {statement : Statement} :
    graph.add? statement = some added ↔ graph.Adds statement added := by
  constructor
  · intro adds
    cases statement with
    | arrow connection =>
      cases family : graph.family with
      | flow =>
        simp only [add?, family, Option.some.injEq] at adds
        exact adds ▸ .flowArrow family
      | architecture =>
        simp only [add?, family, Option.some.injEq] at adds
        exact adds ▸ .architectureArrow family
    | declare node =>
      cases family : graph.family with
      | flow =>
        simp only [add?, family, Option.some.injEq] at adds
        exact adds ▸ .flowNode family
      | architecture =>
        simp only [add?, family] at adds
        by_cases declared : node.id ∈ graph.ids
        · rw [declareFirst?_of_mem declared] at adds
          cases adds
        · rw [declareFirst?_of_not_mem declared] at adds
          cases adds
          exact .architectureNode family declared
  · rintro (flow | architecture | flow | ⟨architecture, new⟩)
    · simp only [add?, flow]
    · simp only [add?, architecture]
    · simp only [add?, flow]
    · simp only [add?, architecture, declareFirst?_of_not_mem new]

namespace Adds

variable {graph added : Graph} {statement : Statement}

theorem family (adds : graph.Adds statement added) : added.family = graph.family := by
  cases adds with
  | flowArrow => exact (mention_family ..).trans (mention_family ..)
  | architectureArrow => rfl
  | flowNode => exact refine_family ..
  | architectureNode => rfl

theorem connections (adds : graph.Adds statement added) :
    added.connections = graph.connections ++ statement.connection?.toList := by
  cases adds with
  | flowArrow =>
    simp only [connect, mention_connections]
    rfl
  | architectureArrow => rfl
  | flowNode => simp [refine_connections, Statement.connection?]
  | architectureNode => simp [Graph.declare, Statement.connection?]

/-- A well-formed statement keeps a well-formed graph well formed. -/
theorem wellFormed (adds : graph.Adds statement added) (well : graph.WellFormed)
    (statement_well : statement.WellFormed graph.family) : added.WellFormed := by
  cases adds with
  | @flowArrow connection flow =>
    have half_family : (graph.mention connection.source).family = .flow :=
      (mention_family ..).trans flow
    -- The target is mentioned in a graph that has the source already, and the two may be the same.
    have half_well := well.mention flow statement_well.source_named
    have both_well := half_well.mention half_family statement_well.target_named
    have source_declared := ids_subset_mention (graph.mention connection.source) connection.target
      (mem_ids_mention graph connection.source)
    refine both_well.connect ?_ fun _ => ⟨source_declared, mem_ids_mention _ _⟩
    rw [mention_family, mention_family]
    exact statement_well
  | architectureArrow architecture => exact well.connect statement_well (by simp [architecture])
  | flowNode flow => exact well.refine flow (flow ▸ statement_well)
  | architectureNode _ new => exact well.declare statement_well new

end Adds

end Graph

end TextDiagram
