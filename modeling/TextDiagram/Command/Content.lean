import TextDiagram.Command.Container
import TextDiagram.Store.Basic

/-!
# Writing and removing content

An import is written in four steps: its shapes, the links from shapes to their parents, its
connectors and its container. The ids of new entries are the last ones of the answer to the call
that created them. An error ends the writing at once; what has been written by then stays.
-/
namespace TextDiagram

variable {α σ : Type}

/-- What is to be written, and where. -/
structure Import (α : Type) where
  document : DocumentId
  family : Family
  source : String
  origin : Origin α
  config : Config α
deriving Repr

/-- Reads and lays out a text, and plans what is to be written of it. -/
def Plan.ofText [Scalar α] (family : Family) (source : String) (config : Config α) :
    Except FormatError (Plan α) :=
  (Graph.read family source).map fun graph => Plan.ofGraph graph (graph.layout config)

/-- The last `count` ids of an answer, or the error that it has fewer. -/
def newest {ι : Type} (count : Nat) (ids : List ι) : Except StoreError (List ι) :=
  if ids.length < count then
    .error (.missingIds count ids.length)
  else
    .ok (ids.drop (ids.length - count))

/-- The last `count` ids of an answer, as a call that touches nothing. -/
def requireNewest {ι : Type} (count : Nat) (ids : List ι) : StoreCall σ (List ι) :=
  ExceptT.mk (pure (newest count ids))

/-- Creates entries in one call and gives their ids. Nothing is called for no entries. -/
def createTogether {δ ι : Type} (ids : Document α → List ι)
    (add : List δ → StoreCall σ (Document α)) (drafts : List δ) : StoreCall σ (List ι) :=
  if drafts.isEmpty then
    pure []
  else do
    let document ← add drafts
    requireNewest drafts.length (ids document)

/-- Creates entries one by one and gives their ids. -/
def createEach {δ ι : Type} (ids : Document α → List ι) (add : δ → StoreCall σ (Document α)) :
    List δ → StoreCall σ (List ι)
  | [] => pure []
  | draft :: rest => do
    let document ← add draft
    let first ← requireNewest 1 (ids document)
    let others ← createEach ids add rest
    pure (first ++ others)

def createShapes (store : DocumentStore α σ) (document : DocumentId)
    (drafts : List (ShapeDraft α)) : StoreCall σ (List ShapeId) :=
  if store.batches then
    createTogether Document.shapeIds (store.addShapes document) drafts
  else
    createEach Document.shapeIds (store.addShape document) drafts

def createConnectors (store : DocumentStore α σ) (document : DocumentId)
    (drafts : List ConnectorDraft) : StoreCall σ (List ConnectorId) :=
  if store.batches then
    createTogether Document.connectorIds (store.addConnectors document) drafts
  else
    createEach Document.connectorIds (store.addConnector document) drafts

/-- Links the created shapes to their parents, in order. -/
def linkParents (store : DocumentStore α σ) (document : DocumentId) (ids : List ShapeId) :
    List (PlannedShape α) → StoreCall σ Unit
  | [] => pure ()
  | shape :: rest => do
    match ids[shape.index]?, shape.parent.bind (ids[·]?) with
    | some child, some parent =>
      let _ ← store.updateShape document child ⟨some parent⟩
      linkParents store document ids rest
    | _, _ => linkParents store document ids rest

/-- A planned connector between created shapes. -/
def PlannedConnector.draft? (ids : List ShapeId) (connector : PlannedConnector) :
    Option ConnectorDraft := do
  let source ← ids[connector.source]?
  let target ← ids[connector.target]?
  some {
    source
    target
    sourceSide := connector.sourceSide
    targetSide := connector.targetSide
    bidirectional := connector.bidirectional
    label := connector.label }

/-- Writes a plan: shapes, parent links, connectors, and the container around them. The container
stands at the origin of the import, and the content inside of it by the padding. -/
def createContent [Scalar α] (store : DocumentStore α σ) (content : Import α) (plan : Plan α) :
    StoreCall σ Created := do
  let padding := content.config.containerPadding
  let left := content.origin.x + padding
  let top := content.origin.y + padding
  let plan := plan.moveTo left top
  let shapes ← createShapes store content.document (plan.shapes.map PlannedShape.draft)
  linkParents store content.document shapes plan.shapes
  let connectors ← createConnectors store content.document
    (plan.connectors.filterMap (PlannedConnector.draft? shapes))
  let bounds := plan.bounds?.getD ⟨left, top, Scalar.zero, Scalar.zero⟩
  let container :=
    Container.draft (bounds.inflate padding) content.family content.source ⟨shapes, connectors⟩
  let answer ← store.addShape content.document container
  let newestIds ← requireNewest 1 answer.shapeIds
  pure ⟨newestIds.head?, shapes, connectors⟩

/-- Deletes connectors, if there are any to delete. -/
def deleteConnectors (store : DocumentStore α σ) (document : DocumentId)
    (ids : List ConnectorId) : StoreCall σ Unit :=
  if ids.isEmpty then
    pure ()
  else do
    let _ ← store.deleteConnectors document ids
    pure ()

/-- Deletes shapes, if there are any to delete. -/
def deleteShapes (store : DocumentStore α σ) (document : DocumentId) (ids : List ShapeId) :
    StoreCall σ Unit :=
  if ids.isEmpty then
    pure ()
  else do
    let _ ← store.deleteShapes document ids
    pure ()

/-- Deletes what an import has created: the container, then the connectors, then the shapes. -/
def removeContent (store : DocumentStore α σ) (document : DocumentId) (created : Created) :
    StoreCall σ Unit := do
  match created.container with
  | none => pure ()
  | some container =>
    let _ ← store.deleteShape document container
  deleteConnectors store document created.connectors
  deleteShapes store document created.shapes

end TextDiagram
