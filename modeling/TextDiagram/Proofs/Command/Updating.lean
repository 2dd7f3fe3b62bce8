import TextDiagram.Proofs.Command.Reversal

/-!
# What an update replaces

Main statement: on a store in memory an update takes out the container that it is given and the
entries that the container lists, and nothing else; behind what is left it puts the entries that a
create of the same text at the place of the container puts behind the whole document. Where there is
no container with lists that can be read, it does what a create at the corner of the plane does.
-/
namespace TextDiagram

variable {α : Type}

open Memory

/-! ### Containers that can be read -/

namespace Container

/-- The shape is a container, and its properties list these members. -/
structure Lists (shape : Shape α) (members : Members) : Prop where
  kind : shape.kind = Container.kind
  shapes : (shape.props.field? "shapeIds").bind (Json.decode? (.list ShapeId.decoder)) =
    some members.shapes
  connectors : (shape.props.field? "connectorIds").bind
    (Json.decode? (.list ConnectorId.decoder)) = some members.connectors

theorem members?_eq_some_iff {shape : Shape α} {members : Members} :
    members? shape = some members ↔ Lists shape members := by
  simp only [members?, Option.ite_none_right_eq_some, Option.bind_eq_bind,
    Option.bind_eq_some_iff, Option.some.injEq]
  constructor
  · rintro ⟨kind, shape_list, shapes_found, shapes, shapes_read, connector_list, connectors_found,
      connectors, connectors_read, rfl⟩
    exact ⟨kind, Option.bind_eq_some_iff.mpr ⟨shape_list, shapes_found, shapes_read⟩,
      Option.bind_eq_some_iff.mpr ⟨connector_list, connectors_found, connectors_read⟩⟩
  · rintro ⟨kind, shapes, connectors⟩
    obtain ⟨shape_list, shapes_found, shapes_read⟩ := Option.bind_eq_some_iff.mp shapes
    obtain ⟨connector_list, connectors_found, connectors_read⟩ :=
      Option.bind_eq_some_iff.mp connectors
    exact ⟨kind, shape_list, shapes_found, members.shapes, shapes_read, connector_list,
      connectors_found, members.connectors, connectors_read, rfl⟩

end Container

namespace Document

variable {document : Document α} {preview : ShapeId} {container : Shape α} {members : Members}

theorem container?_eq_some_iff :
    document.container? preview = some (container, members) ↔
      document.shape? preview = some container ∧ Container.Lists container members := by
  simp [container?, Option.bind_eq_some_iff, Container.members?_eq_some_iff]

theorem without_shapes (present : document.container? preview = some (container, members)) :
    (document.without preview).shapes =
      document.shapes.filter fun shape => shape.id ≠ container.id ∧ shape.id ∉ members.shapes := by
  simp only [without, entries, present, besides, eraseShapes, eraseConnectors, List.mem_cons,
    not_or]

theorem without_connectors (present : document.container? preview = some (container, members)) :
    (document.without preview).connectors =
      document.connectors.filter (·.id ∉ members.connectors) := by
  simp only [without, entries, present, besides, eraseShapes, eraseConnectors]

end Document

/-! ### What a create appends -/

section Creates

variable [Scalar α]

/-- A create of this content succeeds, and puts these entries behind those of the document. -/
def CreateCommand.Appends (store : DocumentStore α (Memory α)) (memory : Memory α)
    (content : Import α) (shapes : List (Shape α)) (connectors : List Connector) : Prop :=
  let ended := ((CreateCommand.new content).execute store).run memory
  let before := memory.documentOrEmpty content.document
  let after := ended.2.documentOrEmpty content.document
  ended.1.1 = .ok () ∧ after.shapes = before.shapes ++ shapes ∧
    after.connectors = before.connectors ++ connectors

/-- Ids that are fresh for some run that draws as many are fresh for the create. -/
theorem CreateCommand.appends_nextAddition {supply : Supply} (batches : Bool)
    {memory after : Memory α} (content : Import α) {plan : Plan α}
    (planned : Plan.ofText content.family content.source content.config = .ok plan)
    (shapes_drawn : after.shapesDrawn = memory.shapesDrawn + (plan.shapes.length + 1))
    (connectors_drawn : after.connectorsDrawn = memory.connectorsDrawn + plan.connectors.length)
    (fresh : supply.Fresh content.document memory after) :
    let addition := memory.nextAddition supply content plan
    CreateCommand.Appends (store supply batches) memory content
      (addition.shapes ++ [addition.container]) addition.connectors := by
  intro addition
  obtain ⟨created, executed, became⟩ :=
    CreateCommand.execute_does supply batches memory (.new content) rfl planned
  have fresh_created : supply.Fresh content.document memory created :=
    fresh.part (Nat.le_refl _) (Nat.le_of_eq (became.shapesDrawn.trans shapes_drawn.symm))
      (Nat.le_refl _) (Nat.le_of_eq (became.connectorsDrawn.trans connectors_drawn.symm))
      (List.Subset.refl _) (List.Subset.refl _)
  obtain ⟨_, added⟩ := became.written_eq_addTo (Plan.ofText_indexed planned) fresh_created
    (List.Subset.refl _) (List.Subset.refl _)
  simp only [Appends, executed]
  exact ⟨trivial, congrArg Document.shapes added, congrArg Document.connectors added⟩

end Creates

/-! ### Main statement -/

namespace UpdateCommand

variable [Scalar α]

/-- An update puts behind what it leaves of the document the entries that a create of its content
puts behind the whole document. -/
theorem execute_appends (supply : Supply) (batches : Bool) (memory : Memory α)
    (command : UpdateCommand α) (pending : command.created = none)
    (valid : (Plan.ofText command.family command.source command.config).isOk = true)
    (fresh : supply.Fresh command.document memory
      ((command.execute (store supply batches)).run memory).2) :
    let ended := (command.execute (store supply batches)).run memory
    let before := memory.documentOrEmpty command.document
    let after := ended.2.documentOrEmpty command.document
    ended.1.1 = .ok () ∧
      (∀ other, other ≠ command.document →
        ended.2.document? other = memory.document? other) ∧
      ∃ shapes connectors,
        CreateCommand.Appends (store supply batches) memory
          (command.content (before.replaced? command.preview)) shapes connectors ∧
        after.shapes = (before.without command.preview).shapes ++ shapes ∧
        after.connectors = (before.without command.preview).connectors ++ connectors := by
  intro ended before after
  obtain ⟨plan, planned⟩ := Plan.exists_ofText valid
  obtain ⟨last, executed, became⟩ :=
    command.execute_does supply batches memory pending planned
  have fresh_last : supply.Fresh command.document memory last := by
    rw [executed] at fresh
    exact fresh
  -- A create on the store as it was before would draw the very ids that the update has drawn.
  have appends := CreateCommand.appends_nextAddition batches
    (command.content (before.replaced? command.preview)) planned became.shapesDrawn
    became.connectorsDrawn fresh_last
  obtain ⟨_, added⟩ := became.written_eq_addTo (Plan.ofText_indexed planned) fresh_last
    (before.without_shapeIds_subset _) (before.without_connectorIds_subset _)
  simp only [after, ended, executed]
  exact ⟨trivial, became.others, _, _, appends, congrArg Document.shapes added,
    congrArg Document.connectors added⟩

/-- An update of a text that is accepted succeeds and changes no other document. Where it finds a
container whose lists can be read, it leaves the entries besides the container and what this lists,
in order, and puts behind them what a create at the place of the container appends. Otherwise it
leaves all entries, and puts behind them what a create at the corner of the plane appends. -/
theorem execute_replaces (supply : Supply) (batches : Bool) (memory : Memory α)
    (id : DocumentId) (preview : ShapeId) (family : Family) (source : String) (config : Config α)
    (valid : (Plan.ofText family source config).isOk = true)
    (fresh : supply.Fresh id memory (((UpdateCommand.new id preview family source config).execute
      (store supply batches)).run memory).2) :
    let ended := ((UpdateCommand.new id preview family source config).execute
      (store supply batches)).run memory
    let before := memory.documentOrEmpty id
    let after := ended.2.documentOrEmpty id
    let content (origin : Origin α) : Import α := ⟨id, family, source, origin, config⟩
    ended.1.1 = .ok () ∧
      (∀ other, other ≠ id → ended.2.document? other = memory.document? other) ∧
      (∀ container members, before.shape? preview = some container →
        Container.Lists container members → ∃ shapes connectors,
          CreateCommand.Appends (store supply batches) memory
            (content ⟨container.box.x, container.box.y⟩) shapes connectors ∧
          after.shapes = before.shapes.filter (fun shape =>
            shape.id ≠ container.id ∧ shape.id ∉ members.shapes) ++ shapes ∧
          after.connectors =
            before.connectors.filter (·.id ∉ members.connectors) ++ connectors) ∧
      ((∀ container members, before.shape? preview = some container →
          ¬ Container.Lists container members) → ∃ shapes connectors,
        CreateCommand.Appends (store supply batches) memory (content .zero) shapes connectors ∧
          after.shapes = before.shapes ++ shapes ∧
          after.connectors = before.connectors ++ connectors) := by
  intro ended before after content
  let command := UpdateCommand.new id preview family source config
  obtain ⟨succeeds, others, shapes, connectors, appends, after_shapes, after_connectors⟩ :=
    command.execute_appends supply batches memory rfl valid fresh
  refine ⟨succeeds, others, ?_, ?_⟩
  · intro container members found lists
    have present : before.container? preview = some (container, members) :=
      Document.container?_eq_some_iff.mpr ⟨found, lists⟩
    have same_content : command.content (before.replaced? preview) =
        content ⟨container.box.x, container.box.y⟩ := by
      rw [Document.replaced?, present]
      rfl
    exact ⟨shapes, connectors, same_content ▸ appends,
      Document.without_shapes present ▸ after_shapes,
      Document.without_connectors present ▸ after_connectors⟩
  · intro unlisted
    have absent : before.container? preview = none := by
      refine Option.eq_none_iff_forall_ne_some.mpr fun listing present => ?_
      obtain ⟨found, lists⟩ := Document.container?_eq_some_iff.mp present
      exact unlisted listing.1 listing.2 found lists
    have same_content : command.content (before.replaced? preview) = content .zero := by
      rw [Document.replaced?, absent]
      rfl
    have untouched : before.without preview = before := Document.without_of_none absent
    exact ⟨shapes, connectors, same_content ▸ appends, untouched ▸ after_shapes,
      untouched ▸ after_connectors⟩

/-- A flow chart has been imported beside a shape that does not belong to it, and its preview is
replaced. -/
theorem execute_replaces_of_preview :
    let supply := Supply.numbered
    let id : DocumentId := ⟨.numbered 2 0⟩
    let memory : Memory Rat :=
      (((store supply true).addShape id ⟨"note", ⟨0, 0, 80, 80⟩, none, .null⟩).run.run .empty).2
    let drawn : CreateCommand Rat := .new ⟨id, .flow, "bpmn\nstart --> a", ⟨10, 20⟩, .default⟩
    let memory := ((drawn.execute (store supply true)).run memory).2
    let ended := ((UpdateCommand.new id (supply.shape 3) .flow "bpmn\ntask b" .default).execute
      (store supply true)).run memory
    let before := memory.documentOrEmpty id
    let after := ended.2.documentOrEmpty id
    ended.1.1 = .ok () ∧ ∃ container members shapes connectors,
      before.shape? (supply.shape 3) = some container ∧ Container.Lists container members ∧
      CreateCommand.Appends (store supply true) memory
        ⟨id, .flow, "bpmn\ntask b", ⟨container.box.x, container.box.y⟩, .default⟩ shapes
        connectors ∧
      after.shapes = before.shapes.filter (fun shape =>
        shape.id ≠ container.id ∧ shape.id ∉ members.shapes) ++ shapes ∧
      after.connectors = before.connectors.filter (·.id ∉ members.connectors) ++ connectors := by
  intro supply id memory drawn memory
  obtain ⟨succeeds, _, replaces, _⟩ := execute_replaces supply true memory id (supply.shape 3)
    .flow "bpmn\ntask b" .default (by decide +kernel) (by decide +kernel)
  refine ⟨succeeds, ?_⟩
  have present : ((memory.documentOrEmpty id).container? (supply.shape 3)).isSome = true := by
    decide +kernel
  obtain ⟨⟨container, members⟩, is_there⟩ := Option.isSome_iff_exists.mp present
  obtain ⟨found, lists⟩ := Document.container?_eq_some_iff.mp is_there
  obtain ⟨shapes, connectors, appends, after_shapes, after_connectors⟩ :=
    replaces container members found lists
  exact ⟨container, members, shapes, connectors, found, lists, appends, after_shapes,
    after_connectors⟩

end UpdateCommand

end TextDiagram
