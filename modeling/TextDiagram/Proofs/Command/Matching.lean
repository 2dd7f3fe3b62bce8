import TextDiagram.Proofs.Command.Change
import TextDiagram.Proofs.Store.Matching

/-!
# The same command on two stores

A command looks at a store only through calls on its own document, and treats ids as names: it hands
on what it has been given, and asks whether two are equal. Main statement: on stores whose calls on
the document match, a command and the same command with other ids end alike, and so do histories.
-/
namespace TextDiagram

variable {α σ τ β γ δ ι κ : Type} {link : Link σ τ} {names : Renaming} {document : DocumentId}

/-! ### Creating entries -/

theorem requireNewest_calls (move : ι → κ) (count : Nat) (ids : List ι) :
    link.Calls (List.map move) (requireNewest count ids) (requireNewest count (ids.map move)) :=
  Link.Runs.pure (newest_map move count ids)

section

variable {ids : Document α → List ι} {draft : δ → δ} {move : ι → ι}
  (renamed : ∀ document : Document α, ids (document.rename names) = (ids document).map move)

include renamed

theorem createTogether_calls {add : List δ → StoreCall σ (Document α)}
    {add' : List δ → StoreCall τ (Document α)}
    (adds : ∀ drafts, link.Calls (Document.rename names) (add drafts) (add' (drafts.map draft)))
    (drafts : List δ) :
    link.Calls (List.map move) (createTogether ids add drafts)
      (createTogether ids add' (drafts.map draft)) := by
  unfold createTogether
  rw [List.isEmpty_map, List.length_map]
  split
  · exact .pure rfl
  · refine (adds drafts).bind fun answer => ?_
    rw [renamed]
    exact requireNewest_calls move _ _

theorem createEach_calls {add : δ → StoreCall σ (Document α)} {add' : δ → StoreCall τ (Document α)}
    (adds : ∀ item, link.Calls (Document.rename names) (add item) (add' (draft item)))
    (drafts : List δ) :
    link.Calls (List.map move) (createEach ids add drafts)
      (createEach ids add' (drafts.map draft)) := by
  induction drafts with
  | nil => exact .pure rfl
  | cons item rest ih =>
    refine (adds item).bind fun answer => ?_
    rw [renamed]
    refine (requireNewest_calls move _ _).bind fun first => ?_
    refine ih.bind fun others => .pure ?_
    exact List.map_append.symm

theorem create_calls {add : List δ → StoreCall σ (Document α)}
    {add' : List δ → StoreCall τ (Document α)} {each : δ → StoreCall σ (Document α)}
    {each' : δ → StoreCall τ (Document α)}
    (adds : ∀ drafts, link.Calls (Document.rename names) (add drafts) (add' (drafts.map draft)))
    (adds_each : ∀ item, link.Calls (Document.rename names) (each item) (each' (draft item)))
    (batches : Bool) (drafts : List δ) :
    link.Calls (List.map move)
      (if batches then createTogether ids add drafts else createEach ids each drafts)
      (if batches then createTogether ids add' (drafts.map draft)
        else createEach ids each' (drafts.map draft)) := by
  split
  · exact createTogether_calls renamed adds drafts
  · exact createEach_calls renamed adds_each drafts

end

/-- Calls that delete entries match when they are made only if there are any. -/
theorem listed_calls {call : StoreCall σ β} {other : StoreCall τ γ} {change : β → γ}
    (move : ι → κ) (keys : List ι) (deletes : link.Calls change call other) :
    link.Calls id (if keys.isEmpty then pure () else do let _ ← call; pure ())
      (if (keys.map move).isEmpty then pure () else do let _ ← other; pure ()) := by
  rw [List.isEmpty_map]
  split
  · exact .pure rfl
  · exact deletes.bind fun _ => .pure rfl

namespace DocumentStore.Matches

variable {store : DocumentStore α σ} {other : DocumentStore α τ}
  (matched : store.Matches link names document other)

include matched

theorem createShapes (drafts : List (ShapeDraft α)) :
    link.Calls (List.map names.shape) (TextDiagram.createShapes store document drafts)
      (TextDiagram.createShapes other document (drafts.map (ShapeDraft.rename names))) := by
  unfold TextDiagram.createShapes
  rw [← matched.batches]
  exact create_calls (Document.rename_shapeIds names) matched.addShapes matched.addShape _ drafts

theorem createConnectors (drafts : List ConnectorDraft) :
    link.Calls (List.map names.connector) (TextDiagram.createConnectors store document drafts)
      (TextDiagram.createConnectors other document (drafts.map (ConnectorDraft.rename names))) := by
  unfold TextDiagram.createConnectors
  rw [← matched.batches]
  exact create_calls (Document.rename_connectorIds names) matched.addConnectors
    matched.addConnector _ drafts

/-- The children and parents of links are looked up by position. -/
theorem linkParents (ids : List ShapeId) (planned : List (PlannedShape α)) :
    link.Calls id (TextDiagram.linkParents store document ids planned)
      (TextDiagram.linkParents other document (ids.map names.shape) planned) := by
  have parents (shape : PlannedShape α) :
      shape.parent.bind ((ids.map names.shape)[·]?) =
        (shape.parent.bind (ids[·]?)).map names.shape := by
    cases shape.parent <;> simp
  induction planned with
  | nil => exact .pure rfl
  | cons shape rest ih =>
    unfold TextDiagram.linkParents
    rw [parents shape, List.getElem?_map]
    cases ids[shape.index]? with
    | none => exact ih
    | some child =>
      cases shape.parent.bind (ids[·]?) with
      | none => exact ih
      | some parent =>
        refine (matched.updateShape child ⟨some parent⟩).bind fun _ => ?_
        exact ih

/-- Shapes that are drawn for nodes name no ids, so both runs create the same ones. -/
theorem createPlanned (planned : List (PlannedShape α)) :
    link.Calls (List.map names.shape)
      (TextDiagram.createShapes store document (planned.map PlannedShape.draft))
      (TextDiagram.createShapes other document (planned.map PlannedShape.draft)) := by
  have same_drafts : (planned.map PlannedShape.draft).map (ShapeDraft.rename names) =
      planned.map PlannedShape.draft := by
    simp [Function.comp_def, PlannedShape.rename_draft]
  have created := matched.createShapes (planned.map PlannedShape.draft)
  rwa [same_drafts] at created

theorem addContainer (box : Box α) (family : Family) (source : String) (members : Members) :
    link.Calls (Document.rename names)
      (store.addShape document (Container.draft box family source members))
      (other.addShape document (Container.draft box family source (members.rename names))) := by
  rw [← Container.rename_draft]
  exact matched.addShape _

theorem createContent [Scalar α] (content : Import α) (about : content.document = document)
    (plan : Plan α) :
    link.Calls (Created.rename names) (TextDiagram.createContent store content plan)
      (TextDiagram.createContent other content plan) := by
  subst about
  have drafts (planned : List PlannedConnector) (ids : List ShapeId) :
      planned.filterMap (PlannedConnector.draft? (ids.map names.shape)) =
        (planned.filterMap (PlannedConnector.draft? ids)).map (ConnectorDraft.rename names) := by
    simp [List.map_filterMap, PlannedConnector.rename_draft?]
  unfold TextDiagram.createContent
  refine (matched.createPlanned _).bind fun shapes => ?_
  refine (matched.linkParents shapes _).bind fun _ => ?_
  rw [drafts]
  refine (matched.createConnectors _).bind fun connectors => ?_
  refine (matched.addContainer _ _ _ ⟨shapes, connectors⟩).bind fun answer => ?_
  rw [Document.rename_shapeIds]
  refine (requireNewest_calls names.shape 1 answer.shapeIds).bind fun newest => .pure ?_
  simp [Created.rename]

theorem deleteListedConnectors (ids : List ConnectorId) :
    link.Calls id (TextDiagram.deleteConnectors store document ids)
      (TextDiagram.deleteConnectors other document (ids.map names.connector)) :=
  listed_calls names.connector ids (matched.deleteConnectors ids)

theorem deleteListedShapes (ids : List ShapeId) :
    link.Calls id (TextDiagram.deleteShapes store document ids)
      (TextDiagram.deleteShapes other document (ids.map names.shape)) :=
  listed_calls names.shape ids (matched.deleteShapes ids)

theorem removeContent (created : Created) :
    link.Calls id (TextDiagram.removeContent store document created)
      (TextDiagram.removeContent other document (created.rename names)) := by
  have listed : link.Calls id
      (do TextDiagram.deleteConnectors store document created.connectors
          TextDiagram.deleteShapes store document created.shapes)
      (do TextDiagram.deleteConnectors other document (created.rename names).connectors
          TextDiagram.deleteShapes other document (created.rename names).shapes) :=
    (matched.deleteListedConnectors created.connectors).bind
      fun _ => matched.deleteListedShapes created.shapes
  unfold TextDiagram.removeContent
  cases held : created.container with
  | none =>
    simp only [Created.rename, held]
    exact listed
  | some container =>
    simp only [Created.rename, held]
    exact (matched.deleteShape container).bind fun _ => listed

theorem take (preview : ShapeId) :
    link.Calls (Option.map (Replaced.rename names)) (Replaced.take store document preview)
      (Replaced.take other document (names.shape preview)) := by
  refine (matched.shape? preview).bind fun found => ?_
  have members : (found.map (Shape.rename names)).bind
      (fun shape => (Container.members? shape).map fun members => (shape, members)) =
      (found.bind fun shape => (Container.members? shape).map fun members => (shape, members)).map
        (Prod.map (Shape.rename names) (Members.rename names)) := by
    cases found with
    | none => rfl
    | some shape => simp [Container.rename_members?, Function.comp_def]
  rw [members]
  cases found.bind fun shape => (Container.members? shape).map fun members => (shape, members) with
  | none => exact .pure rfl
  | some listed =>
    obtain ⟨container, members⟩ := listed
    refine matched.document?.bind fun held => ?_
    refine (matched.deleteListedConnectors members.connectors).bind fun _ => ?_
    refine (matched.deleteListedShapes members.shapes).bind fun _ => ?_
    refine (matched.deleteShape container.id).bind fun _ => .pure ?_
    exact congrArg some (Replaced.rename_ofDocument names container members held).symm

theorem putBack (replaced : Replaced α) :
    link.Calls id (replaced.putBack store document)
      ((replaced.rename names).putBack other document) := by
  refine (matched.restoreShapes replaced.shapes).bind fun _ => ?_
  refine (matched.restoreConnectors replaced.connectors).bind fun _ => ?_
  exact (matched.restoreShapes [replaced.container]).bind fun _ => .pure rfl

/-! ### Commands -/

theorem executeCreate [Scalar α] (command : CreateCommand α)
    (about : command.content.document = document) :
    link.Runs (Prod.map id (CreateCommand.rename names)) (command.execute store)
      ((command.rename names).execute other) := by
  obtain ⟨content, _ | created⟩ := command
  case some => exact .pure rfl
  case none =>
    simp only [CreateCommand.execute, CreateCommand.rename, Option.map_none]
    cases Plan.ofText content.family content.source content.config with
    | error error => exact .pure rfl
    | ok plan =>
      refine Link.Runs.bind (matched.createContent content about plan) fun result => ?_
      cases result <;> exact .pure rfl

theorem undoCreate (command : CreateCommand α) (about : command.content.document = document) :
    link.Runs (Prod.map id (CreateCommand.rename names)) (command.undo store)
      ((command.rename names).undo other) := by
  subst about
  obtain ⟨content, _ | created⟩ := command
  case none => exact .pure rfl
  case some =>
    refine Link.Runs.bind (matched.removeContent created) fun result => ?_
    cases result <;> exact .pure rfl

theorem executeUpdate [Scalar α] (command : UpdateCommand α)
    (about : command.document = document) :
    link.Runs (Prod.map id (UpdateCommand.rename names)) (command.execute store)
      ((command.rename names).execute other) := by
  subst about
  obtain ⟨document, preview, family, source, config, _ | created, before⟩ := command
  case some => exact .pure rfl
  case none =>
    simp only [UpdateCommand.execute, UpdateCommand.rename, Option.map_none]
    cases Plan.ofText family source config with
    | error error => exact .pure rfl
    | ok plan =>
      refine Link.Runs.bind (matched.take preview) fun result => ?_
      cases result with
      | error error => exact .pure rfl
      | ok replaced =>
        let command : UpdateCommand α :=
          ⟨document, preview, family, source, config, none, replaced⟩
        have writes : link.Calls (Created.rename names)
            (TextDiagram.createContent store (command.content replaced) plan)
            (TextDiagram.createContent other
              ((command.rename names).content (replaced.map (Replaced.rename names))) plan) := by
          rw [UpdateCommand.rename_content]
          exact matched.createContent _ rfl plan
        refine Link.Runs.bind writes fun result => ?_
        cases result <;> exact .pure rfl

theorem undoUpdate (command : UpdateCommand α) (about : command.document = document) :
    link.Runs (Prod.map id (UpdateCommand.rename names)) (command.undo store)
      ((command.rename names).undo other) := by
  subst about
  obtain ⟨document, preview, family, source, config, _ | created, replaced⟩ := command
  case none => exact .pure rfl
  case some =>
    refine Link.Runs.bind (matched.removeContent created) fun result => ?_
    cases result with
    | error error => exact .pure rfl
    | ok _ =>
      cases replaced with
      | none => exact .pure rfl
      | some replaced =>
        refine Link.Runs.bind (matched.putBack replaced) fun result => ?_
        cases result <;> exact .pure rfl

theorem writeRestore (command : RestoreCommand α) (about : command.document = document) :
    link.Calls id (command.write store) ((command.rename names).write other) := by
  subst about
  obtain ⟨document, shapes, connectors, restored⟩ := command
  -- Without shapes only the connectors are written, and with shapes they are written last.
  have without_shapes : link.Calls id
      ((RestoreCommand.mk document [] connectors restored).write store)
      (((RestoreCommand.mk document [] connectors restored).rename names).write other) := by
    cases connectors with
    | nil => exact .pure rfl
    | cons first rest =>
      exact (matched.restoreConnectors (first :: rest)).bind fun _ => .pure rfl
  cases shapes with
  | nil => exact without_shapes
  | cons first rest => exact (matched.restoreShapes (first :: rest)).bind fun _ => without_shapes

theorem eraseRestore (command : RestoreCommand α) (about : command.document = document) :
    link.Calls id (command.erase store) ((command.rename names).erase other) := by
  subst about
  have shapes := matched.deleteListedShapes (command.shapes.map Shape.id)
  have connectors := matched.deleteListedConnectors (command.connectors.map Connector.id)
  rw [List.map_map] at shapes connectors
  unfold RestoreCommand.erase
  simp only [RestoreCommand.rename, List.map_map]
  exact connectors.bind fun _ => shapes

theorem executeRestore (command : RestoreCommand α) (about : command.document = document) :
    link.Runs (Prod.map id (RestoreCommand.rename names)) (command.execute store)
      ((command.rename names).execute other) := by
  refine Link.Runs.bind (matched.writeRestore command about) fun result => ?_
  cases result <;> exact .pure rfl

theorem undoRestore (command : RestoreCommand α) (about : command.document = document) :
    link.Runs (Prod.map id (RestoreCommand.rename names)) (command.undo store)
      ((command.rename names).undo other) := by
  have erases := matched.eraseRestore command about
  obtain ⟨document, shapes, connectors, _ | _⟩ := command
  case false => exact .pure rfl
  case true =>
    refine Link.Runs.bind erases fun result => ?_
    cases result <;> exact .pure rfl

theorem execute [Scalar α] (command : Command α) (about : command.document = document) :
    link.Runs (Prod.map id (Command.rename names)) (command.execute store)
      ((command.rename names).execute other) := by
  cases command with
  | create command => exact (matched.executeCreate command about).bind fun _ => .pure rfl
  | update command => exact (matched.executeUpdate command about).bind fun _ => .pure rfl
  | restore command => exact (matched.executeRestore command about).bind fun _ => .pure rfl

theorem undo (command : Command α) (about : command.document = document) :
    link.Runs (Prod.map id (Command.rename names)) (command.undo store)
      ((command.rename names).undo other) := by
  cases command with
  | create command => exact (matched.undoCreate command about).bind fun _ => .pure rfl
  | update command => exact (matched.undoUpdate command about).bind fun _ => .pure rfl
  | restore command => exact (matched.undoRestore command about).bind fun _ => .pure rfl

/-! ### Histories -/

theorem run [Scalar α] (depth : Nat) (history : History α) (command : Command α)
    (about : command.document = document) :
    link.Runs (Prod.map (Except.map (Option.map (Created.rename names)))
        (List.map (Command.rename names)))
      (history.run store depth command)
      (History.run other depth (history.map (Command.rename names)) (command.rename names)) := by
  refine (matched.execute command about).bind fun ended => ?_
  obtain ⟨_ | _, executed⟩ := ended
  · exact .pure rfl
  · refine .pure (Prod.ext ?_ ?_)
    · exact congrArg Except.ok (executed.rename_created? names)
    · exact (History.map_push names history depth executed).symm

theorem undoLatest (history : History α)
    (about : ∀ command ∈ history, command.document = document) :
    link.Runs (Prod.map id (List.map (Command.rename names))) (history.undoLatest store)
      (History.undoLatest other (history.map (Command.rename names))) := by
  cases history with
  | nil => exact .pure rfl
  | cons latest earlier =>
    refine (matched.undo latest (about latest List.mem_cons_self)).bind fun ended => ?_
    obtain ⟨_ | _, undone⟩ := ended
    · exact .pure rfl
    · refine .pure (Prod.ext ?_ rfl)
      exact congrArg (Except.ok ∘ some) (undone.rename_description names)

end DocumentStore.Matches

end TextDiagram
