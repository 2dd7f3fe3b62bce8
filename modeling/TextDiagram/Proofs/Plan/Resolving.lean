import TextDiagram.Proofs.Graph.Reading
import TextDiagram.Proofs.Hierarchy.Containment
import TextDiagram.Proofs.Hierarchy.Placements

/-!
# Resolving connections

What a plan makes of the references of a graph. Main statement: in the plan of a text that is read
and laid out as a whole, the connectors are the connections whose ends are both declared, joined at
the nodes with these ids, and each of the others is reported with the end that is missing, of which
a flow has none; and every shape belongs to the one that its node was placed under.
-/
namespace TextDiagram

variable {α : Type}

/-! ### Ends -/

/-- Both ends are ids of nodes. -/
def Connection.Declared (graph : Graph) (connection : Connection) : Prop :=
  connection.source ∈ graph.ids ∧ connection.target ∈ graph.ids

instance (graph : Graph) (connection : Connection) : Decidable (connection.Declared graph) :=
  inferInstanceAs (Decidable (_ ∧ _))

/-- The end that a connection is reported for: the source if that is no id of a node, and otherwise
the target. -/
def Connection.missingEnd (graph : Graph) (connection : Connection) : String :=
  if connection.source ∈ graph.ids then connection.target else connection.source

/-- The connector joins the nodes with the ids of the ends, and is otherwise like the connection. -/
structure PlannedConnector.Joins (graph : Graph) (connection : Connection)
    (planned : PlannedConnector) : Prop where
  source : ∀ i, graph.ids[i]? = some connection.source ↔ i = planned.source
  target : ∀ i, graph.ids[i]? = some connection.target ↔ i = planned.target
  sourceSide : planned.sourceSide = connection.sourceSide
  targetSide : planned.targetSide = connection.targetSide
  bidirectional : planned.bidirectional = connection.bidirectional
  label : planned.label = connection.label

namespace Graph

variable {graph : Graph} {id : String}

theorem nodeIndex?_ids (graph : Graph) (id : String) :
    graph.nodeIndex? id = graph.ids.findIdx? (· == id) := by
  rw [nodeIndex?, ids, List.findIdx?_map]
  rfl

theorem nodeIndex?_eq_none (absent : id ∉ graph.ids) : graph.nodeIndex? id = none := by
  rw [nodeIndex?_ids, List.findIdx?_eq_none_iff]
  exact fun other member => beq_false_of_ne fun same => absent (same ▸ member)

/-- Where no two nodes share an id, the first node with an id is the only one. -/
theorem nodeIndex?_eq_some (distinct : graph.ids.Nodup) (declared : id ∈ graph.ids) :
    ∃ index < graph.nodes.length, graph.nodeIndex? id = some index ∧
      ∀ i, graph.ids[i]? = some id ↔ i = index := by
  obtain ⟨index, bound, rfl⟩ := List.getElem_of_mem declared
  refine ⟨index, by simpa [ids] using bound, ?_, fun i => ?_⟩
  · rw [nodeIndex?_ids, List.findIdx?_eq_some_iff_getElem]
    refine ⟨bound, beq_self_eq_true _, fun earlier before same => ?_⟩
    have here : earlier = index := distinct.getElem_inj_iff.mp (eq_of_beq same)
    omega
  · rw [← List.getElem?_eq_getElem bound, eq_comm, List.getElem?_inj bound distinct, eq_comm]

end Graph

namespace Plan

theorem resolve_undeclared {graph : Graph} {id : String} (placed : Nat) (absent : id ∉ graph.ids) :
    resolve graph placed id = .error (.unknownNode id) := by
  rw [resolve, Graph.nodeIndex?_eq_none absent]

theorem resolve_declared {graph : Graph} {id : String} (distinct : graph.ids.Nodup)
    (declared : id ∈ graph.ids) :
    ∃ index, resolve graph graph.nodes.length id = .ok index ∧
      ∀ i, graph.ids[i]? = some id ↔ i = index := by
  obtain ⟨index, bound, found, only⟩ := Graph.nodeIndex?_eq_some distinct declared
  refine ⟨index, ?_, only⟩
  rw [resolve, found]
  exact if_pos bound

/-! ### Connections -/

section

variable {graph : Graph} (distinct : graph.ids.Nodup) {connection : Connection}

include distinct

theorem connector_declared (declared : connection.Declared graph) :
    ∃ planned, connector graph graph.nodes.length connection = .ok planned ∧
      planned.Joins graph connection := by
  obtain ⟨source, source_at, only_source⟩ := resolve_declared distinct declared.1
  obtain ⟨target, target_at, only_target⟩ := resolve_declared distinct declared.2
  refine ⟨⟨source, target, connection.sourceSide, connection.targetSide, connection.bidirectional,
    connection.label⟩, ?_, only_source, only_target, rfl, rfl, rfl, rfl⟩
  simp only [connector, source_at, target_at, bind, Except.bind]

theorem connector_undeclared (undeclared : ¬ connection.Declared graph) :
    connector graph graph.nodes.length connection =
      .error (.unknownNode (connection.missingEnd graph)) := by
  by_cases source : connection.source ∈ graph.ids
  · have target : connection.target ∉ graph.ids := fun target => undeclared ⟨source, target⟩
    obtain ⟨index, source_at, _⟩ := resolve_declared distinct source
    simp only [connector, source_at, resolve_undeclared _ target, Connection.missingEnd,
      if_pos source, bind, Except.bind]
  · simp only [connector, resolve_undeclared _ source, Connection.missingEnd, if_neg source, bind,
      Except.bind]

end

/-! ### Results and errors -/

section

variable {β γ ε : Type} {make : β → Except ε γ} {good : β → Prop} [DecidablePred good]

/-- The items that are good make the results in order, and the others the errors. -/
theorem results_and_errors {related : β → γ → Prop} {wrong : β → ε}
    (makes : ∀ item, good item → ∃ value, make item = .ok value ∧ related item value)
    (fails : ∀ item, ¬ good item → make item = .error (wrong item)) (items : List β) :
    List.Forall₂ related (items.filter good) (results (items.map make)) ∧
      errors (items.map make) = (items.filter (¬ good ·)).map wrong := by
  induction items with
  | nil => exact ⟨.nil, rfl⟩
  | cons item rest ih =>
    by_cases is_good : good item
    · obtain ⟨value, made, holds⟩ := makes item is_good
      simp only [List.map_cons, made, results, errors, List.filter_cons, is_good]
      exact ⟨.cons holds ih.1, ih.2⟩
    · simp only [List.map_cons, fails item is_good, results, errors, List.filter_cons, is_good]
      exact ⟨ih.1, congrArg (wrong item :: ·) ih.2⟩

end

/-! ### Plans of texts -/

variable [Scalar α]

theorem ofGraph_connections {graph : Graph} (distinct : graph.ids.Nodup) (config : Config α) :
    List.Forall₂ (fun connection planned => planned.Joins graph connection)
        (graph.connections.filter (·.Declared graph))
        (ofGraph graph (graph.layout config)).connectors ∧
      (ofGraph graph (graph.layout config)).dropped =
        (graph.connections.filter (¬ ·.Declared graph)).map fun connection =>
          .unknownNode (connection.missingEnd graph) := by
  simp only [ofGraph, graph.layout_length]
  exact results_and_errors (fun _ => connector_declared distinct)
    (fun _ => connector_undeclared distinct) graph.connections

/-- A shape of an architecture has the box and the parent that its node has been placed with. -/
theorem ofGraph_placements {graph : Graph} (architecture : graph.family = .architecture)
    (config : Config α) (i : Fin graph.nodes.length) (outer : Option (Fin graph.nodes.length))
    (box : Box α) :
    (outer, ⟨i, box⟩) ∈ Hierarchy.placements graph.nodes config ↔
      ∃ shape, (ofGraph graph (graph.layout config)).shapes[i.val]? = some shape ∧
        shape.parent = outer.map Fin.val ∧ shape.box = box := by
  obtain ⟨family, nodes, connections⟩ := graph
  cases architecture
  obtain ⟨planned, planned_at, planned_box, planned_parent⟩ :=
    ofGraph_getElem? nodes connections config i
  rw [Hierarchy.mem_placements_iff, Graph.layout]
  constructor
  · rintro ⟨rfl, rfl⟩
    exact ⟨planned, planned_at, planned_parent, planned_box⟩
  · rintro ⟨shape, shape_at, parent, rfl⟩
    cases Option.some.inj (shape_at.symm.trans planned_at)
    exact ⟨Option.map_injective Fin.val_injective (parent.symm.trans planned_parent), planned_box⟩

/-- In the plan of a text that is laid out as a whole, the connectors are the connections with two
declared ends, in order, each between the nodes with these ids; the others are dropped, in order,
each for its source or else for its target, and in a flow there are none. The shapes of a flow have
no parents; in an architecture the parent of a shape is the node under which its node was placed,
in the box of the shape, by the pass that gives the layout its boxes. -/
theorem ofGraph_resolves {family : Family} {text : String} {graph : Graph}
    (read : Graph.read family text = .ok graph) (config : Config α) :
    let plan := ofGraph graph (graph.layout config)
    List.Forall₂ (fun connection planned => planned.Joins graph connection)
        (graph.connections.filter (·.Declared graph)) plan.connectors ∧
    plan.dropped = (graph.connections.filter (¬ ·.Declared graph)).map (fun connection =>
      .unknownNode (connection.missingEnd graph)) ∧
    plan.shapes.length = graph.nodes.length ∧
    (family = .flow → plan.dropped = [] ∧ ∀ shape ∈ plan.shapes, shape.parent = none) ∧
    (family = .architecture →
      (Hierarchy.placements graph.nodes config).map Prod.snd =
        Hierarchy.boxed graph.nodes config ∧
      ∀ (i : Fin graph.nodes.length) (outer : Option (Fin graph.nodes.length)) (box : Box α),
        (outer, ⟨i, box⟩) ∈ Hierarchy.placements graph.nodes config ↔
          ∃ shape, plan.shapes[i.val]? = some shape ∧
            shape.parent = outer.map Fin.val ∧ shape.box = box) := by
  intro plan
  obtain ⟨statements, opened, same⟩ := Graph.exists_body_of_read read
  have of_family : graph.family = family := by
    rw [same]
    exact Reading.ofStatements_family family statements
  have well : graph.WellFormed := by
    rw [same]
    exact Reading.ofStatements_wellFormed family (Family.one_line_of_mem_body opened)
  have connections := ofGraph_connections well.distinct config
  have as_many : plan.shapes.length = graph.nodes.length :=
    (shapesFrom_length ..).trans (graph.layout_length config)
  refine ⟨connections.1, connections.2, as_many, fun flow => ⟨?_, ?_⟩,
    fun architecture => ⟨?_, ?_⟩⟩
  · -- The grammar of flows declares whatever it mentions.
    have none_undeclared : graph.connections.filter (¬ ·.Declared graph) = [] := by
      rw [List.filter_eq_nil_iff]
      intro connection among
      have declared : connection.Declared graph :=
        well.declared (of_family.trans flow) connection among
      simpa using declared
    rw [connections.2, none_undeclared, List.map_nil]
  · exact ofGraph_flow_parent (of_family.trans flow) config
  · exact Hierarchy.placements_boxed graph.nodes config
  · exact ofGraph_placements (of_family.trans architecture) config

/-- One connection with two declared ends, two with one missing, a service in a group, and one that
is declared in a service. -/
theorem ofGraph_resolves_typos :
    let text := "architecture-beta\ngroup g(cloud)[G]\nservice a(server)[A] in g\n" ++
      "service b(disk)[B] in a\na --> ghost\na:E --> W:b\nphantom <--> b"
    let joined : Connection := ⟨"a", "b", some .east, some .west, false, none⟩
    let graph : Graph := {
      family := .architecture
      nodes := [⟨"g", "G", .group, some "cloud", none⟩,
        ⟨"a", "A", .service, some "server", some "g"⟩, ⟨"b", "B", .service, some "disk", some "a"⟩]
      connections := [⟨"a", "ghost", none, none, false, none⟩, joined,
        ⟨"phantom", "b", none, none, true, none⟩] }
    let plan := ofGraph graph (graph.layout (.default : Config Rat))
    Graph.read .architecture text = .ok graph ∧
      List.Forall₂ (fun connection planned => planned.Joins graph connection)
        [joined] plan.connectors ∧
      plan.dropped = [.unknownNode "ghost", .unknownNode "phantom"] ∧
      (∃ shape, plan.shapes[1]? = some shape ∧ shape.parent = some 0) ∧
      ∃ shape, plan.shapes[2]? = some shape ∧ shape.parent = none := by
  intro text joined graph plan
  have read : Graph.read .architecture text = .ok graph := by decide +kernel
  have declared : graph.connections.filter (·.Declared graph) = [joined] := by decide +kernel
  have in_group : some 0 = Hierarchy.parent? graph.nodes 1 := by decide +kernel
  have in_none : none = Hierarchy.parent? graph.nodes 2 := by decide +kernel
  obtain ⟨connectors, dropped, -, -, placements⟩ := ofGraph_resolves read (.default : Config Rat)
  obtain ⟨-, shapes⟩ := placements rfl
  rw [declared] at connectors
  refine ⟨read, connectors, dropped.trans (by decide +kernel), ?_, ?_⟩
  · obtain ⟨shape, shape_at, parent, -⟩ :=
      (shapes 1 (some 0) _).mp (Hierarchy.mem_placements_iff.mpr ⟨in_group, rfl⟩)
    exact ⟨shape, shape_at, parent⟩
  · obtain ⟨shape, shape_at, parent, -⟩ :=
      (shapes 2 none _).mp (Hierarchy.mem_placements_iff.mpr ⟨in_none, rfl⟩)
    exact ⟨shape, shape_at, parent⟩

end Plan

end TextDiagram
