import TextDiagram.Store.Basic

/-!
# A store in memory

Documents in a list, each created by the first call that adds to it or restores into it. New ids
are drawn in order from a supply that the store is given. No call fails.
-/
namespace TextDiagram

variable {α : Type}

/-- The ids that a store gives out, by the number of those given out before. -/
structure Supply where
  shape : Nat → ShapeId
  connector : Nat → ConnectorId

namespace Supply

/-- Random-version UUIDs that carry their number, shapes and connectors in different series. -/
def numbered : Supply where
  shape number := ⟨.numbered 0 number⟩
  connector number := ⟨.numbered 1 number⟩

end Supply

/-- The documents of a store in memory, and how many ids it has drawn. -/
structure Memory (α : Type) where
  documents : List (Document α)
  shapesDrawn : Nat
  connectorsDrawn : Nat
deriving Repr

namespace Memory

def empty : Memory α :=
  ⟨[], 0, 0⟩

def document? (memory : Memory α) (id : DocumentId) : Option (Document α) :=
  memory.documents.find? (·.id = id)

/-- The document with an id; empty if there is none. -/
def documentOrEmpty (memory : Memory α) (id : DocumentId) : Document α :=
  (memory.document? id).getD (.empty id)

/-- Keeps a document in place of the one with the same id. -/
def keep (memory : Memory α) (document : Document α) : Memory α :=
  { memory with documents := upsert Document.id document memory.documents }

/-- Changes a document and answers with it. A document that does not exist is created. -/
def write (id : DocumentId) (change : Document α → Document α) :
    StoreCall (Memory α) (Document α) := do
  let memory ← get
  let document := change (memory.documentOrEmpty id)
  set (memory.keep document)
  pure document

/-- Changes a document and answers with it, if there is a document and something to change. -/
def change? (id : DocumentId) (change : Document α → Option (Document α)) :
    StoreCall (Memory α) (Option (Document α)) := do
  let memory ← get
  match (memory.document? id).bind change with
  | none => pure none
  | some document =>
    set (memory.keep document)
    pure (some document)

/-- Drafts with the ids that a supply gives out from a number on. -/
def withIds {δ ι β : Type} (give : δ → ι → β) (supply : Nat → ι) (first : Nat) : List δ → List β
  | [] => []
  | draft :: rest => give draft (supply first) :: withIds give supply (first + 1) rest

def addShapes (supply : Supply) (id : DocumentId) (drafts : List (ShapeDraft α)) :
    StoreCall (Memory α) (Document α) := do
  let memory ← get
  let shapes := withIds ShapeDraft.withId supply.shape memory.shapesDrawn drafts
  set { memory with shapesDrawn := memory.shapesDrawn + drafts.length }
  write id (·.addShapes shapes)

def addConnectors (supply : Supply) (id : DocumentId) (drafts : List ConnectorDraft) :
    StoreCall (Memory α) (Document α) := do
  let memory ← get
  let connectors :=
    withIds ConnectorDraft.withId supply.connector memory.connectorsDrawn drafts
  set { memory with connectorsDrawn := memory.connectorsDrawn + drafts.length }
  write id (·.addConnectors connectors)

/-- Deletes shapes; none if the document has none of them. -/
def deleteShapes (id : DocumentId) (ids : List ShapeId) :
    StoreCall (Memory α) (Option (Document α)) :=
  change? id fun document =>
    if document.shapes.any (·.id ∈ ids) then some (document.eraseShapes ids) else none

/-- Deletes connectors; none if the document has none of them. -/
def deleteConnectors (id : DocumentId) (ids : List ConnectorId) :
    StoreCall (Memory α) (Option (Document α)) :=
  change? id fun document =>
    if document.connectors.any (·.id ∈ ids) then some (document.eraseConnectors ids) else none

/-- The operations of the store. It may hide that it creates many entries in one call. -/
def store (supply : Supply) (batches : Bool) : DocumentStore α (Memory α) where
  document? id := do
    let memory ← get
    pure (memory.document? id)
  addShape id draft := addShapes supply id [draft]
  updateShape id shape patch := change? id (·.patchShape? shape patch)
  deleteShape id shape := deleteShapes id [shape]
  shape? id shape := do
    let memory ← get
    pure ((memory.document? id).bind (·.shape? shape))
  restoreShapes id shapes := write id (·.restoreShapes shapes)
  addConnector id draft := addConnectors supply id [draft]
  deleteConnector id connector := deleteConnectors id [connector]
  restoreConnectors id connectors := write id (·.restoreConnectors connectors)
  batches := batches
  addShapes := addShapes supply
  deleteShapes := deleteShapes
  addConnectors := addConnectors supply
  deleteConnectors := deleteConnectors

end Memory

end TextDiagram
