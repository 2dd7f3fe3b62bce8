import Mathlib.Data.List.Nodup
import Mathlib.Data.Option.Basic
import Mathlib.Logic.Function.Basic
import TextDiagram.Proofs.Document.Keyed
import TextDiagram.Proofs.Graph.Skipping

/-!
# Order and refinement of declarations

Which nodes and connections a text declares, in terms of its statements alone. Main statement: the
connections stand in the order of their arrows. The nodes of a flow stand in the order in which
their ids are first mentioned, however often they are refined later, and each is what the last
statement that declares it says. The nodes of an architecture are the first declarations of their
ids.
-/
namespace TextDiagram

open Text

/-! ### What statements declare -/

/-- The ids that a statement mentions: those of the ends of an arrow, the source first, or that of a
node. -/
def Statement.mentions : Statement → List String
  | arrow connection => [connection.source, connection.target]
  | declare node => [node.id]

namespace Graph

/-- The node of an id in a flow: the last one that the statements declare, or the one that is only
mentioned. -/
def lastNode (statements : List Statement) (id : String) : Node :=
  ((statements.filterMap Statement.node?).reverse.find? (·.id == id)).getD (mentioned id)

/-- The nodes of a flow, in the order in which the statements first mention their ids. -/
def lastNodes (statements : List Statement) : List Node :=
  (statements.flatMap Statement.mentions).eraseDups.map (lastNode statements)

/-- The first declaration of each id. -/
def firstNodes (declared : List Node) : List Node :=
  (declared.map Node.id).eraseDups.filterMap fun id => declared.find? (·.id == id)

/-! ### The nodes of a flow -/

/-- The nodes of a graph are those of some ids, in the order of their first mention. -/
structure Lists (graph : Graph) (ids : List String) (node : String → Node) : Prop where
  nodes : graph.nodes = ids.eraseDups.map node
  named : ∀ id, (node id).id = id
  fits : ∀ id, (node id).Fits .flow

theorem map_update_of_notMem {ids : List String} (node : String → Node) {changed : Node}
    (new : changed.id ∉ ids) :
    ids.map (Function.update node changed.id changed) = ids.map node := by
  refine List.map_congr_left fun id among => Function.update_of_ne ?_ changed node
  rintro rfl
  exact new among

/-- Refining a list of nodes changes the node of the refined id alone. -/
theorem refineFirst_map {ids : List String} {node : String → Node} {refined : Node}
    (distinct : ids.Nodup) (named : ∀ id, (node id).id = id) (fits : ∀ id, (node id).Fits .flow)
    (refined_fits : refined.Fits .flow) :
    refineFirst refined (ids.map node) =
      ids.map (Function.update node refined.id refined) := by
  induction ids with
  | nil => rfl
  | cons id rest ih =>
    obtain ⟨new, rest_distinct⟩ := List.nodup_cons.mp distinct
    rw [List.map_cons, refineFirst, List.map_cons, named id]
    split
    -- The ids are distinct, so the nodes behind the refined one stay as they are.
    next same =>
      subst same
      obtain ⟨-, icon, parent⟩ := fits refined.id
      obtain ⟨-, refined_icon, refined_parent⟩ := refined_fits
      rw [Function.update_self, map_update_of_notMem node new, icon.trans refined_icon.symm,
        parent.trans refined_parent.symm]
    next other => rw [ih rest_distinct, Function.update_of_ne other]

namespace Lists

variable {graph : Graph} {ids : List String} {node : String → Node}

theorem ids_eq (lists : graph.Lists ids node) : graph.ids = ids.eraseDups := by
  simp [Graph.ids, lists.nodes, Function.comp_def, lists.named]

theorem mem_ids_iff (lists : graph.Lists ids node) {id : String} : id ∈ graph.ids ↔ id ∈ ids := by
  rw [lists.ids_eq, List.mem_eraseDups]

theorem mention (lists : graph.Lists ids node) (id : String)
    (only_mentioned : id ∉ ids → node id = mentioned id) :
    (graph.mention id).Lists (ids ++ [id]) node where
  nodes := by
    by_cases old : id ∈ ids
    · rw [mention_of_mem (lists.mem_ids_iff.mpr old), eraseDups_append_of_mem old, lists.nodes]
    · rw [mention_of_not_mem fun held => old (lists.mem_ids_iff.mp held),
        eraseDups_append_of_notMem old, declare, lists.nodes, List.map_append, List.map_singleton,
        only_mentioned old]
  named := lists.named
  fits := lists.fits

theorem refine (lists : graph.Lists ids node) {refined : Node} (fits : refined.Fits .flow) :
    (graph.refine refined).Lists (ids ++ [refined.id])
      (Function.update node refined.id refined) where
  nodes := by
    by_cases old : refined.id ∈ ids
    · have held := lists.mem_ids_iff.mpr old
      rw [Graph.refine, if_pos (any_id_iff.mpr held), eraseDups_append_of_mem old]
      dsimp only
      rw [lists.nodes, refineFirst_map (eraseDups_nodup ids) lists.named lists.fits fits]
    · have others := map_update_of_notMem node fun held => old (List.mem_eraseDups.mp held)
      rw [refine_of_not_mem fun held => old (lists.mem_ids_iff.mp held), declare,
        eraseDups_append_of_notMem old, List.map_append, others, lists.nodes, List.map_singleton,
        Function.update_self]
  named id := by
    by_cases same : id = refined.id
    · rw [same, Function.update_self]
    · rw [Function.update_of_ne same, lists.named]
  fits id := by
    by_cases same : id = refined.id
    · rw [same, Function.update_self]
      exact fits
    · rw [Function.update_of_ne same]
      exact lists.fits id

theorem connect (lists : graph.Lists ids node) (connection : Connection) :
    (graph.connect connection).Lists ids node :=
  ⟨lists.nodes, lists.named, lists.fits⟩

end Lists

theorem lastNode_append_arrow (statements : List Statement) (connection : Connection) :
    lastNode (statements ++ [.arrow connection]) = lastNode statements := by
  funext id
  simp [lastNode, List.filterMap_cons, Statement.node?]

/-- A declaration takes the place of all before it that have its id. -/
theorem lastNode_append_declare (statements : List Statement) (node : Node) :
    lastNode (statements ++ [.declare node]) =
      Function.update (lastNode statements) node.id node := by
  funext id
  have declared : (statements ++ [Statement.declare node]).filterMap Statement.node? =
      statements.filterMap Statement.node? ++ [node] := by
    simp [Statement.node?]
  rw [lastNode, declared, List.reverse_concat, List.find?_cons]
  by_cases same : id = node.id
  · subst same
    rw [Function.update_self, beq_self_eq_true]
    rfl
  · rw [beq_false_of_ne (Ne.symm same), Function.update_of_ne same]
    rfl

/-- An id that no statement mentions is not declared by one either. -/
theorem lastNode_of_notMem {statements : List Statement} {id : String}
    (unmentioned : id ∉ statements.flatMap Statement.mentions) :
    lastNode statements id = mentioned id := by
  have undeclared : (statements.filterMap Statement.node?).reverse.find? (·.id == id) = none := by
    refine List.find?_eq_none.mpr fun node declared same => unmentioned ?_
    obtain ⟨statement, among, declares⟩ := List.mem_filterMap.mp (List.mem_reverse.mp declared)
    refine List.mem_flatMap.mpr ⟨statement, among, ?_⟩
    cases statement with
    | arrow connection => cases declares
    | declare other =>
      cases declares
      exact List.mem_singleton.mpr (beq_iff_eq.mp same).symm
  rw [lastNode, undeclared, Option.getD_none]

/-- What a statement does to the nodes of a flow. -/
theorem Adds.lists {graph added : Graph} {statements : List Statement} {statement : Statement}
    (adds : graph.Adds statement added) (flow : graph.family = .flow)
    (fits : ∀ node ∈ statement.node?, node.Fits .flow)
    (lists : graph.Lists (statements.flatMap Statement.mentions) (lastNode statements)) :
    added.Lists ((statements ++ [statement]).flatMap Statement.mentions)
      (lastNode (statements ++ [statement])) := by
  rw [List.flatMap_append, List.flatMap_singleton]
  cases adds with
  | @flowArrow connection =>
    rw [lastNode_append_arrow]
    -- The target is mentioned behind the source, and the two may be the same.
    have source := lists.mention connection.source lastNode_of_notMem
    have both := source.mention connection.target fun new =>
      lastNode_of_notMem fun old => new (List.mem_append_left _ old)
    rw [List.append_assoc] at both
    exact both.connect connection
  | architectureArrow architecture => simp [architecture] at flow
  | @flowNode node =>
    rw [lastNode_append_declare]
    exact lists.refine (fits node rfl)
  | architectureNode architecture => simp [architecture] at flow

/-- The statements of a flow, added to an empty one, declare their ids in the order in which they
mention them. -/
theorem lists_of_foldlM {statements : List Statement} {final : Graph}
    (fits : ∀ statement ∈ statements, ∀ node ∈ statement.node?, node.Fits .flow)
    (builds : statements.foldlM add? (empty .flow) = some final) :
    final.family = .flow ∧
      final.Lists (statements.flatMap Statement.mentions) (lastNode statements) := by
  -- From the end, for it is the last declaration that stands.
  induction statements using List.reverseRecOn generalizing final with
  | nil =>
    cases builds
    exact ⟨rfl, rfl, fun _ => rfl, fits_mentioned⟩
  | append_singleton before statement ih =>
    obtain ⟨graph, builds_before, builds_last⟩ : ∃ graph,
        before.foldlM add? (empty .flow) = some graph ∧ graph.add? statement = some final := by
      simpa [List.foldlM_append, Option.bind_eq_some_iff] using builds
    obtain ⟨flow, lists⟩ := ih
      (fun other among => fits other (List.mem_append_left _ among)) builds_before
    have adds := add?_iff.mp builds_last
    exact ⟨adds.family.trans flow, adds.lists flow (fits statement (by simp)) lists⟩

/-! ### The connections -/

theorem connections_of_foldlM {statements : List Statement} {graph final : Graph}
    (builds : statements.foldlM add? graph = some final) :
    final.connections = graph.connections ++ statements.filterMap Statement.connection? := by
  induction statements generalizing graph with
  | nil =>
    cases builds
    simp
  | cons statement rest ih =>
    obtain ⟨next, adds, builds_rest⟩ := Option.bind_eq_some_iff.mp builds
    rw [ih builds_rest, (add?_iff.mp adds).connections]
    cases statement <;> simp [Statement.connection?, List.filterMap_cons]

/-! ### The nodes of an architecture -/

theorem nodes_of_foldlM {statements : List Statement} {graph final : Graph}
    (architecture : graph.family = .architecture)
    (builds : statements.foldlM add? graph = some final) :
    final.nodes = graph.nodes ++ statements.filterMap Statement.node? := by
  induction statements generalizing graph with
  | nil =>
    cases builds
    simp
  | cons statement rest ih =>
    obtain ⟨next, adds, builds_rest⟩ := Option.bind_eq_some_iff.mp builds
    have next_adds := add?_iff.mp adds
    rw [ih (next_adds.family.trans architecture) builds_rest]
    cases next_adds with
    | flowArrow flow => simp [flow] at architecture
    | architectureArrow => simp [connect, Statement.node?, List.filterMap_cons]
    | flowNode flow => simp [flow] at architecture
    | architectureNode => simp [declare, Statement.node?]

section

variable {declared : List Node} {node : Node}

/-- Later nodes do not change what is first declared under an id. -/
theorem find?_append_of_mem {id : String} (old : id ∈ declared.map Node.id) (node : Node) :
    (declared ++ [node]).find? (·.id == id) = declared.find? (·.id == id) := by
  obtain ⟨first, among, same⟩ := List.mem_map.mp old
  cases found : declared.find? (·.id == id) with
  | none => simpa [same] using List.find?_eq_none.mp found first among
  | some held => rw [List.find?_append, found, Option.some_or]

theorem firstNodes_append_of_mem (old : node.id ∈ declared.map Node.id) :
    firstNodes (declared ++ [node]) = firstNodes declared := by
  rw [firstNodes, List.map_append, List.map_singleton, eraseDups_append_of_mem old]
  exact List.filterMap_congr fun id among => find?_append_of_mem (List.mem_eraseDups.mp among) node

theorem firstNodes_append_of_notMem (new : node.id ∉ declared.map Node.id) :
    firstNodes (declared ++ [node]) = firstNodes declared ++ [node] := by
  have undeclared : declared.find? (·.id == node.id) = none :=
    List.find?_eq_none.mpr fun other among same =>
      new (List.mem_map.mpr ⟨other, among, beq_iff_eq.mp same⟩)
  have last : [node.id].filterMap (fun id => (declared ++ [node]).find? (·.id == id)) = [node] := by
    simp [List.find?_append, undeclared]
  have old_kept : ∀ id ∈ (declared.map Node.id).eraseDups,
      (declared ++ [node]).find? (·.id == id) = declared.find? (·.id == id) :=
    fun id among => find?_append_of_mem (List.mem_eraseDups.mp among) node
  rw [firstNodes, List.map_append, List.map_singleton, eraseDups_append_of_notMem new,
    List.filterMap_append, List.filterMap_congr old_kept, last, firstNodes]

theorem mem_ids_firstNodes {id : String} :
    id ∈ (firstNodes declared).map Node.id ↔ id ∈ declared.map Node.id := by
  induction declared using List.reverseRecOn with
  | nil => rfl
  | append_singleton before node ih =>
    by_cases old : node.id ∈ before.map Node.id
    · rw [firstNodes_append_of_mem old, ih]
      simp_all
    · simp only [firstNodes_append_of_notMem old, List.map_append, List.mem_append, ih]

end

end Graph

/-! ### The statements of a text -/

theorem Statement.fits_of_read? {text : List Char} {statement : Statement}
    (read : read? .flow text = some statement) : ∀ node ∈ statement.node?, node.Fits .flow := by
  have form := Grammar.read?_iff.mp read
  cases statement with
  | arrow connection => simp [node?]
  | declare node =>
    rintro other ⟨⟩
    exact Grammar.FlowNode.fits form

/-- An architecture node is what is read from its text, since that is no arrow. -/
theorem Statement.architectureNode?_eq (text : List Char) :
    architectureNode? text = (read? .architecture text).bind node? := by
  cases declares : architectureNode? text with
  | none =>
    simp only [read?, ofArchitecture?, declares]
    cases architectureArrow? text <;> rfl
  | some node =>
    have form : Grammar.Form .architecture (.declare node) text :=
      Grammar.architectureNode?_iff.mp declares
    rw [Grammar.read?_iff.mpr form]
    rfl

namespace Reading.Sorts

variable {graph final : Graph} {lines accepted skipped : List Line}

/-- What is accepted are statements, which are added to the graph one after the other. -/
theorem exists_statements (sorts : Sorts graph lines final accepted skipped) :
    ∃ statements : List Statement,
      accepted.map (Statement.read? graph.family ·.text) = statements.map some ∧
      statements.foldlM Graph.add? graph = some final := by
  induction sorts with
  | done => exact ⟨[], rfl, rfl⟩
  | accept reads _ ih =>
    obtain ⟨statement, parses, adds⟩ := Option.bind_eq_some_iff.mp reads
    obtain ⟨statements, read, builds⟩ := ih
    rw [(Graph.add?_iff.mp adds).family] at read
    refine ⟨statement :: statements, by rw [List.map_cons, parses, read, List.map_cons], ?_⟩
    rw [List.foldlM_cons, adds]
    exact builds
  | skip _ _ ih => exact ih

/-- The nodes of an architecture are the first that are declared under each id, also among those
that are skipped. -/
theorem nodes_eq_firstNodes (sorts : Sorts graph lines final accepted skipped)
    (architecture : graph.family = .architecture) {before : List Node}
    (nodes : graph.nodes = Graph.firstNodes before) :
    final.nodes = Graph.firstNodes
      (before ++ lines.filterMap (Statement.architectureNode? ·.text)) := by
  have mem_ids_iff {graph : Graph} {before : List Node}
      (nodes : graph.nodes = Graph.firstNodes before) {id : String} :
      id ∈ graph.ids ↔ id ∈ before.map Node.id := by
    rw [Graph.ids, nodes, Graph.mem_ids_firstNodes]
  -- What has been read has declared `before`, which also grows where a line is skipped.
  induction sorts generalizing before with
  | done => simpa using nodes
  | @accept graph added final line rest accepted skipped reads _ ih =>
    obtain ⟨statement, parses, adds⟩ := Option.bind_eq_some_iff.mp reads
    have becomes := Graph.add?_iff.mp adds
    rw [architecture] at parses
    rw [List.filterMap_cons, Statement.architectureNode?_eq, parses, Option.bind_some]
    have added_architecture := becomes.family.trans architecture
    cases becomes with
    | flowArrow flow => simp [flow] at architecture
    | architectureArrow => exact ih added_architecture nodes
    | flowNode flow => simp [flow] at architecture
    | @architectureNode node _ new =>
      have first := Graph.firstNodes_append_of_notMem fun old => new ((mem_ids_iff nodes).mpr old)
      have added_nodes : (graph.declare node).nodes = Graph.firstNodes (before ++ [node]) := by
        rw [Graph.declare, nodes, first]
      rw [ih added_architecture added_nodes]
      simp [Statement.node?]
  | @skip graph final line rest accepted skipped refuses _ ih =>
    cases parses : Statement.read? .architecture line.text with
    | none =>
      rw [List.filterMap_cons, Statement.architectureNode?_eq, parses, Option.bind_none]
      exact ih architecture nodes
    | some statement =>
      rw [List.filterMap_cons, Statement.architectureNode?_eq, parses, Option.bind_some]
      rw [Graph.readStatement?, architecture, parses, Option.bind_some] at refuses
      cases statement with
      | arrow connection => simp [Graph.add?, architecture] at refuses
      -- A node is only refused under an id that has been declared.
      | declare node =>
        by_cases old : node.id ∈ before.map Node.id
        · rw [ih architecture (nodes.trans (Graph.firstNodes_append_of_mem old).symm)]
          simp [Statement.node?]
        · rw [Graph.add?_declare fun held => old ((mem_ids_iff nodes).mp held)] at refuses
          cases refuses

end Reading.Sorts

/-- What a text declares, in terms of the statements that are accepted. The connections are the
arrows in order. The nodes of a flow are those of the ids that are mentioned, in the order of their
first mention, each as it is last declared. The nodes of an architecture are those that are
accepted, and the first of each id. -/
theorem Graph.declared_of_read {family : Family} {text : String} {reading : Reading}
    (read : Graph.readWithDiagnostics family text = .ok reading) :
    let lines := family.statementsBehind text.toList
    let accepted := lines.filter (·.diagnostic ∉ reading.skipped)
    ∃ statements : List Statement,
      accepted.map (Statement.read? family ·.text) = statements.map some ∧
      reading.graph.connections = statements.filterMap Statement.connection? ∧
      (family = .flow → reading.graph.nodes = Graph.lastNodes statements) ∧
      (family = .architecture →
        reading.graph.nodes = statements.filterMap Statement.node? ∧
        reading.graph.nodes =
          Graph.firstNodes (lines.filterMap (Statement.architectureNode? ·.text))) := by
  intro lines
  obtain ⟨accepted, skipped, sorts, skipped_eq⟩ := Reading.exists_sorts_of_read read
  obtain ⟨statements, parsed, builds⟩ := sorts.exists_statements
  dsimp only
  rw [skipped_eq, sorts.unreported_eq]
  refine ⟨statements, parsed, Graph.connections_of_foldlM builds, ?_, ?_⟩
  · rintro rfl
    have fits : ∀ statement ∈ statements, ∀ node ∈ statement.node?, node.Fits .flow := by
      intro statement among
      have listed : some statement ∈ accepted.map (Statement.read? .flow ·.text) :=
        parsed ▸ List.mem_map_of_mem among
      obtain ⟨line, -, parses⟩ := List.mem_map.mp listed
      exact Statement.fits_of_read? parses
    exact (Graph.lists_of_foldlM fits builds).2.nodes
  · rintro rfl
    have started : (empty .architecture).nodes = firstNodes [] := rfl
    have first_nodes := sorts.nodes_eq_firstNodes rfl started
    rw [List.nil_append] at first_nodes
    exact ⟨Graph.nodes_of_foldlM rfl builds, first_nodes⟩

/-- A flow whose second node is first mentioned, then declared twice, with an arrow and a line that
is no statement in between. -/
theorem Graph.declared_of_read_refined :
    let text := "bpmn\na --> b; task b[First]\nno statement\nb -->|x| end; gateway b[Second]"
    let back : Connection := ⟨"b", "end", none, none, false, some "x"⟩
    let forth : Connection := ⟨"a", "b", none, none, false, none⟩
    let reading : Reading := {
      graph := {
        family := .flow
        nodes := [⟨"a", "a", .task, none, none⟩, ⟨"b", "Second", .gateway, none, none⟩,
          ⟨"end", "end", .finish, none, none⟩]
        connections := [forth, back] }
      skipped := [⟨3, "no statement"⟩] }
    let statements : List Statement := [.arrow forth, .declare ⟨"b", "First", .task, none, none⟩,
      .arrow back, .declare ⟨"b", "Second", .gateway, none, none⟩]
    Graph.readWithDiagnostics .flow text = .ok reading ∧
      reading.graph.connections = statements.filterMap Statement.connection? ∧
      reading.graph.nodes = Graph.lastNodes statements := by
  intro text back forth reading statements
  have read : Graph.readWithDiagnostics .flow text = .ok reading := by decide +kernel
  obtain ⟨accepted, parsed, connections, nodes, -⟩ := Graph.declared_of_read read
  have known : ((Family.flow.statementsBehind text.toList).filter
      (·.diagnostic ∉ reading.skipped)).map (Statement.read? .flow ·.text) =
        statements.map some := by decide +kernel
  obtain rfl : accepted = statements :=
    List.map_injective_iff.mpr (Option.some_injective _) (parsed.symm.trans known)
  exact ⟨read, connections, nodes rfl⟩

end TextDiagram
