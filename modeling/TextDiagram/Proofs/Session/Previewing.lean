import TextDiagram.Proofs.Command.Container
import TextDiagram.Proofs.Graph.Reading
import TextDiagram.Proofs.Session.Actions

/-!
# Previews and imports

A preview reads and lays out a text and touches nothing; an import does so again and writes what it
finds. Main statement: the two agree. They refuse the same texts for the same reason. What is
written is node by node and connector by connector what the preview shows, all moved by one offset,
with a container around it.
-/
namespace TextDiagram

variable {α : Type}

open Memory

/-! ### What is shown -/

namespace Preview

/-- The index of the effective parent of a node. -/
def parent? (preview : Preview α) (i : Nat) : Option Nat :=
  (Plan.parentIndices ⟨preview.family, preview.nodes.map Placed.node, []⟩)[i]?.join

variable [Scalar α] {name source : String} {base : Config α} {overrides : Option (Overrides α)}

theorem ofText_error {error : FormatError}
    (refused : ofText name source base overrides = .error error) :
    Family.resolve name = .error error ∨
      ∃ family, Family.resolve name = .ok family ∧
        Plan.ofText family source (base.override? overrides) = .error error := by
  unfold ofText at refused
  cases resolved : Family.resolve name with
  | error other =>
    simp only [resolved, bind, Except.bind, Except.error.injEq] at refused
    exact .inl (congrArg _ refused)
  | ok family =>
    cases read : Graph.readWithDiagnostics family source with
    | error other =>
      simp only [resolved, read, bind, Except.bind, Except.error.injEq] at refused
      refine .inr ⟨family, rfl, ?_⟩
      simp [Plan.ofText, Graph.read, read, Except.map, refused]
    | ok reading => simp [resolved, read, bind, Except.bind] at refused

/-- A preview shows the plan of its text. -/
theorem ofText_ok {preview : Preview α} (shown : ofText name source base overrides = .ok preview) :
    ∃ graph plan, Family.resolve name = .ok preview.family ∧
      Plan.ofText preview.family source (base.override? overrides) = .ok plan ∧
      graph.family = preview.family ∧ graph.nodes = preview.nodes.map Placed.node ∧
      plan = Plan.ofGraph graph preview.nodes ∧ plan.connectors = preview.connectors := by
  unfold ofText at shown
  cases resolved : Family.resolve name with
  | error error => simp [resolved, bind, Except.bind] at shown
  | ok family =>
    cases read : Graph.readWithDiagnostics family source with
    | error error => simp [resolved, read, bind, Except.bind] at shown
    | ok reading =>
      simp only [resolved, read, bind, Except.bind, Except.ok.injEq] at shown
      subst shown
      -- The graph is of the family that the text was read for, so both lay it out alike.
      obtain ⟨statements, _, rfl⟩ : ∃ statements, family.body source.toList = .ok statements ∧
          Reading.ofStatements family statements = reading := by
        unfold Graph.readWithDiagnostics at read
        cases body : family.body source.toList with
        | error error => simp [body, Except.map] at read
        | ok statements => exact ⟨statements, rfl, by simpa [body, Except.map] using read⟩
      refine ⟨_, _, rfl, ?_, Reading.ofStatements_family family statements,
        (Graph.layout_nodes _ _).symm, rfl, rfl⟩
      simp [Plan.ofText, Graph.read, read, Except.map]

end Preview

/-! ### What is written -/

/-- The shape draws a placed node, moved by an offset and inside of a parent. -/
structure Shape.Draws [Scalar α] (shape : Shape α) (placed : Placed α) (dx dy : α)
    (parent : Option ShapeId) : Prop where
  kind : shape.kind = placed.node.kind.keyword
  label : shape.props.field? "label" = some (.text placed.node.label)
  icon : shape.props.field? "icon" = placed.node.icon.map .text
  box : shape.box = ⟨placed.box.x + dx, placed.box.y + dy, placed.box.width, placed.box.height⟩
  parent : shape.parent = parent

/-- The connector draws a planned one between shapes that have been given these ids. -/
structure Connector.Draws (connector : Connector) (planned : PlannedConnector)
    (ids : List ShapeId) : Prop where
  source : ids[planned.source]? = some connector.source
  target : ids[planned.target]? = some connector.target
  sourceSide : connector.sourceSide = planned.sourceSide
  targetSide : connector.targetSide = planned.targetSide
  bidirectional : connector.bidirectional = planned.bidirectional
  label : connector.label = planned.label

/-- The addition draws what a preview shows: one shape for every node and one connector for every
connector, in order, and a container that lists them. -/
structure Addition.Draws [Scalar α] (addition : Addition α) (preview : Preview α) (dx dy : α) :
    Prop where
  shapes_length : addition.shapes.length = preview.nodes.length
  shapes : ∀ i placed, preview.nodes[i]? = some placed →
    ∃ shape : Shape α, addition.shapes[i]? = some shape ∧
      shape.Draws placed dx dy ((preview.parent? i).bind ((addition.shapes.map Shape.id)[·]?))
  parents : ∀ i parent, preview.parent? i = some parent → parent < preview.nodes.length
  connectors : List.Forall₂ (fun planned connector =>
    Connector.Draws connector planned (addition.shapes.map Shape.id))
    preview.connectors addition.connectors
  container_kind : addition.container.kind = Container.kind
  container_members : Container.members? addition.container =
    some ⟨addition.shapes.map Shape.id, addition.connectorIds⟩

theorem PlannedShape.props_label (planned : PlannedShape α) :
    planned.props.field? "label" = some (.text planned.label) := by
  rw [props, Json.field?_ofFields]
  cases planned.icon <;> rfl

theorem PlannedShape.props_icon (planned : PlannedShape α) :
    planned.props.field? "icon" = planned.icon.map .text := by
  rw [props, Json.field?_ofFields]
  cases planned.icon <;> rfl

theorem Connector.draws_all {ids : List ShapeId} (planned : List PlannedConnector)
    (connectorIds : List ConnectorId) (length : connectorIds.length = planned.length)
    (ends : ∀ connector ∈ planned, connector.source < ids.length ∧ connector.target < ids.length) :
    List.Forall₂ (fun planned connector => Connector.Draws connector planned ids) planned
      ((planned.filterMap (PlannedConnector.draft? ids)).zipWith ConnectorDraft.withId
        connectorIds) := by
  induction planned generalizing connectorIds with
  | nil => exact .nil
  | cons first rest ih =>
    cases connectorIds with
    | nil => cases length
    | cons id connectorIds =>
      obtain ⟨source, target⟩ := ends first List.mem_cons_self
      have drafted : first.draft? ids = some ⟨ids[first.source], ids[first.target],
          first.sourceSide, first.targetSide, first.bidirectional, first.label⟩ := by
        simp [PlannedConnector.draft?, source, target]
      rw [List.filterMap_cons_some drafted, List.zipWith_cons_cons]
      refine .cons ⟨?_, ?_, rfl, rfl, rfl, rfl⟩ (ih connectorIds (Nat.succ.inj length)
        fun connector member => ends connector (List.mem_cons_of_mem _ member))
      · exact List.getElem?_eq_getElem source
      · exact List.getElem?_eq_getElem target

/-- An import adds what a preview shows if both come from one graph. -/
theorem Import.addition_draws [Scalar α] (content : Import α) {preview : Preview α} {graph : Graph}
    (family : graph.family = preview.family) (nodes : graph.nodes = preview.nodes.map Placed.node)
    (connectors : (Plan.ofGraph graph preview.nodes).connectors = preview.connectors)
    (indexed : (Plan.ofGraph graph preview.nodes).Indexed) {shapeIds : List ShapeId}
    {connectorIds : List ConnectorId} (containerId : ShapeId)
    (shapes_length : shapeIds.length = (Plan.ofGraph graph preview.nodes).shapes.length)
    (connectors_length :
      connectorIds.length = (Plan.ofGraph graph preview.nodes).connectors.length) :
    ∃ dx dy, (content.addition (Plan.ofGraph graph preview.nodes) shapeIds connectorIds
      containerId).Draws preview dx dy := by
  let plan := Plan.ofGraph graph preview.nodes
  let addition := content.addition plan shapeIds connectorIds containerId
  obtain ⟨dx, dy, placed_eq⟩ := content.place_eq_shift plan
  have ids : addition.shapes.map Shape.id = shapeIds :=
    content.addition_shapes_ids containerId shapes_length
  have connector_ids : addition.connectorIds = connectorIds :=
    content.addition_connectorIds containerId indexed shapes_length connectors_length
  have plan_length : plan.shapes.length = preview.nodes.length := Plan.shapesFrom_length _ _ _
  have parents (i : Nat) : (Plan.parentIndices graph)[i]?.join = preview.parent? i := by
    -- Parents are found by the nodes alone, whatever the connections are.
    have same : Plan.parentIndices graph =
        Plan.parentIndices ⟨preview.family, preview.nodes.map Placed.node, []⟩ := by
      rw [Plan.parentIndices, family, nodes]
      rfl
    rw [same, Preview.parent?]
  have planned (i : Nat) : plan.shapes[i]? = preview.nodes[i]?.map fun placed =>
      { index := i
        kind := placed.node.kind
        label := placed.node.label
        icon := placed.node.icon
        box := placed.box
        parent := preview.parent? i } := by
    have shape := Plan.shapesFrom_getElem? 0 (Plan.parentIndices graph) preview.nodes i
    simp only [Nat.zero_add, parents] at shape
    exact shape
  refine ⟨dx, dy, ?_, ?_, ?_, ?_, rfl, ?_⟩
  · rw [← List.length_map Shape.id, ids, shapes_length, plan_length]
  · intro i placed shown
    have in_plan : i < shapeIds.length := by
      rw [shapes_length, plan_length]
      exact (List.getElem?_eq_some_iff.mp shown).1
    have planned_at := planned i
    rw [shown, Option.map_some] at planned_at
    -- The plan names the node by its index; drawing it moves its box and nothing else.
    let moved : PlannedShape α :=
      { index := i
        kind := placed.node.kind
        label := placed.node.label
        icon := placed.node.icon
        box := placed.box.shift dx dy
        parent := preview.parent? i }
    have placed_at : (content.place plan).shapes[i]? = some moved := by
      rw [placed_eq, Plan.shift, List.getElem?_map, planned_at, Option.map_some]
    refine ⟨moved.shape shapeIds shapeIds[i], ?_, rfl, moved.props_label, moved.props_icon, rfl, ?_⟩
    · change ((content.place plan).shapes.zipWith (PlannedShape.shape shapeIds) shapeIds)[i]? = _
      rw [List.getElem?_zipWith, placed_at, List.getElem?_eq_getElem in_plan]
    · rw [ids]
      rfl
  · intro i parent inside
    rw [← parents] at inside
    obtain ⟨node, found, -⟩ := Plan.parentIndices_group graph i parent inside
    rw [nodes] at found
    simpa using (List.getElem?_eq_some_iff.mp found).1
  · rw [ids, ← connectors]
    exact Connector.draws_all _ _ connectors_length fun connector member => by
      rw [shapes_length]
      exact indexed.ends connector member
  · rw [ids, connector_ids]
    exact Container.members?_draft content.family content.source ⟨shapeIds, connectorIds⟩ _ _

/-! ### Both at once -/

namespace Session

variable [Scalar α]

/-- A text that a preview refuses is refused by an import for the same reason, whatever the store:
it is not called, and no command is pushed. -/
theorem importText_refused {σ : Type} (store : DocumentStore α σ) (session : Session α σ)
    (id : DocumentId) (name source : String) (origin : Option (Origin α))
    (overrides : Option (Overrides α)) {error : FormatError}
    (refused : Preview.ofText name source session.layout overrides = .error error) :
    ∃ after, session.importText store id ⟨name, source, origin, overrides, none⟩ =
      (.error (.format error), after) ∧ after.store = session.store ∧
      ∀ other, after.commands other = session.commands other := by
  rcases Preview.ofText_error refused with unresolved | ⟨family, resolved, unplanned⟩
  -- The name means no family, and no command is made.
  · refine ⟨session, ?_, rfl, fun _ => rfl⟩
    simp only [importText, unresolved]
  -- The command reads the text before it calls the store.
  · let command : CreateCommand α := .new ⟨id, family, source, origin.getD .zero,
      session.layout.override? overrides⟩
    have ran : ((Command.create command).execute store).run session.store =
        ((.error (.format error), .create command), session.store) :=
      Command.lift_run (command.execute_refused store session.store rfl unplanned)
    refine ⟨session.setHistory id (session.commands id) session.store, ?_, rfl, fun other => ?_⟩
    · simp only [importText, resolved, importCommand]
      rw [run_refused id ran]
      rfl
    -- The document has a history from now on, with the commands that it had before.
    · by_cases same : other = id
      · rw [same, setHistory_commands]
      · exact setHistory_commands_of_ne session _ _ same

/-- What a preview shows is what an import into memory writes. -/
theorem importText_draws (supply : Supply) (batches : Bool) (session : Session α (Memory α))
    (id : DocumentId) (name source : String) (origin : Option (Origin α))
    (overrides : Option (Overrides α)) {preview : Preview α}
    (shown : Preview.ofText name source session.layout overrides = .ok preview) :
    ∃ created after, session.importText (Memory.store supply batches) id
        ⟨name, source, origin, overrides, none⟩ = (.ok created, after) ∧
      (supply.Fresh id session.store after.store → ∃ addition : Addition α, ∃ dx dy,
        addition.Draws preview dx dy ∧ created = addition.created ∧
        after.store.documentOrEmpty id = addition.addTo (session.store.documentOrEmpty id)) := by
  obtain ⟨graph, plan, resolved, planned, family, nodes, rfl, connectors⟩ := Preview.ofText_ok shown
  let content : Import α :=
    ⟨id, preview.family, source, origin.getD .zero, session.layout.override? overrides⟩
  let command : CreateCommand α := .new content
  have indexed := Plan.ofText_indexed planned
  obtain ⟨after, executed, became⟩ :=
    command.execute_does supply batches session.store rfl planned
  let addition := session.store.nextAddition supply content (Plan.ofGraph graph preview.nodes)
  have ran : ((Command.create command).execute (Memory.store supply batches)).run session.store =
      ((.ok (), .create { command with created := some addition.created }), after) :=
    Command.lift_run executed
  refine ⟨addition.created, session.setHistory id ((session.commands id).push session.undoDepth
    (.create { command with created := some addition.created })) after, ?_, fun fresh => ?_⟩
  · simp only [importText, resolved, importCommand]
    rw [run_done id ran]
    rfl
  · obtain ⟨dx, dy, draws⟩ := content.addition_draws family nodes connectors indexed
      (supply.shape (session.store.shapesDrawn + (Plan.ofGraph graph preview.nodes).shapes.length))
      (idsFrom_length supply.shape session.store.shapesDrawn _)
      (idsFrom_length supply.connector session.store.connectorsDrawn _)
    -- The ids are new to the document, so that what is written step by step is appended to it.
    obtain ⟨-, added⟩ := became.written_eq_addTo indexed fresh (List.Subset.refl _)
      (List.Subset.refl _)
    exact ⟨addition, dx, dy, draws, rfl, added⟩

/-- What a preview shows is what an import writes. A text that the preview refuses is refused by
the import for the same reason, and then nothing happens, whatever the store is. A text that the
preview shows is imported, and provided that the ids drawn are fresh, the document is what it was
with all that the preview shows behind it. -/
theorem importText_eq_preview (name source : String) (origin : Option (Origin α))
    (overrides : Option (Overrides α)) (id : DocumentId) :
    (∀ {σ : Type} (store : DocumentStore α σ) (session : Session α σ) (error : FormatError),
      Preview.ofText name source session.layout overrides = .error error →
      ∃ after, session.importText store id ⟨name, source, origin, overrides, none⟩ =
        (.error (.format error), after) ∧ after.store = session.store ∧
        ∀ other, after.commands other = session.commands other) ∧
    ∀ (supply : Supply) (batches : Bool) (session : Session α (Memory α)) (preview : Preview α),
      Preview.ofText name source session.layout overrides = .ok preview →
      ∃ created after, session.importText (Memory.store supply batches) id
          ⟨name, source, origin, overrides, none⟩ = (.ok created, after) ∧
        (supply.Fresh id session.store after.store → ∃ addition : Addition α, ∃ dx dy,
          addition.Draws preview dx dy ∧ created = addition.created ∧
          after.store.documentOrEmpty id =
            addition.addTo (session.store.documentOrEmpty id)) :=
  ⟨fun store session _ refused =>
      session.importText_refused store id name source origin overrides refused,
    fun supply batches session _ shown =>
      session.importText_draws supply batches id name source origin overrides shown⟩

/-- A text without a header is refused, and one with a header is drawn. -/
theorem importText_eq_preview_of_flow :
    let id : DocumentId := ⟨.numbered 2 0⟩
    let session : Session Rat (Memory Rat) := .start .default 8 .empty
    let importing (source : String) := session.importText (Memory.store .numbered false) id
      ⟨"flow", source, none, none, none⟩
    (∃ after, importing "a --> b" = (.error (.format (.missingHeader .flow "a --> b")), after) ∧
      after.store = session.store ∧ ∀ other, after.commands other = session.commands other) ∧
    ∃ preview, Preview.ofText "flow" "bpmn\nstart --> a" session.layout none = .ok preview ∧
      ∃ created after, importing "bpmn\nstart --> a" = (.ok created, after) ∧
        ∃ addition : Addition Rat, ∃ dx dy,
          addition.Draws preview dx dy ∧ created = addition.created ∧
          after.store.documentOrEmpty id =
            addition.addTo (session.store.documentOrEmpty id) := by
  intro id session importing
  have agree (source : String) : _ := importText_eq_preview (α := Rat) "flow" source none none id
  have refused : Preview.ofText (α := Rat) "flow" "a --> b" .default none =
      .error (.missingHeader .flow "a --> b") := by
    have resolved : Family.resolve "flow" = .ok .flow := by decide +kernel
    have read : Graph.readWithDiagnostics .flow "a --> b" =
      .error (.missingHeader .flow "a --> b") := by decide +kernel
    simp [Preview.ofText, resolved, read, bind, Except.bind]
  refine ⟨(agree "a --> b").1 (Memory.store .numbered false) session _ refused, ?_⟩
  have valid :
      (Preview.ofText (α := Rat) "flow" "bpmn\nstart --> a" .default none).isOk = true := by
    decide +kernel
  cases shown : Preview.ofText (α := Rat) "flow" "bpmn\nstart --> a" .default none with
  | error error => simp [shown, Except.isOk, Except.toBool] at valid
  | ok preview =>
    obtain ⟨created, after, imported, drawn⟩ :=
      (agree "bpmn\nstart --> a").2 .numbered false session preview shown
    refine ⟨preview, shown, created, after, imported, drawn ?_⟩
    have after_eq : after.store = (importing "bpmn\nstart --> a").2.store :=
      congrArg (·.2.store) imported.symm
    rw [after_eq]
    decide +kernel

end Session

end TextDiagram
