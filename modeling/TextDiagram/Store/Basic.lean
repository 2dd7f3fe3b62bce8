import TextDiagram.Document.Basic
import TextDiagram.Report

/-!
# Stores of documents

Imports write to a store: a record of operations on documents, each of which may fail and may
change the state behind the store even when it fails. Every change answers with the whole changed
document, and new entries come last in it. Changes and deletions answer with nothing when there
was nothing to change.
-/
namespace TextDiagram

/-- Why a store did not do what it was asked for. -/
inductive StoreError where
  | documentNotFound (document : DocumentId)
  /-- The store could not be reached. -/
  | request (detail : String)
  /-- The store refused, with an HTTP status. -/
  | response (status : Nat) (body : String)
  /-- The answer of the store could not be read. -/
  | parse (detail : String)
  /-- The answer has fewer entries than were created. -/
  | missingIds (expected found : Nat)
  /-- There is no client to reach the store with. -/
  | clientBuild (detail : String)
deriving Repr, DecidableEq

namespace StoreError

def code : StoreError → String
  | documentNotFound _ => "E_DIAGRAM_NOT_FOUND"
  | request _ => "E_STORE_REQUEST"
  | response _ _ => "E_STORE_RESPONSE"
  | parse _ => "E_STORE_PARSE"
  | missingIds _ _ => "E_STORE_MISSING_IDS"
  | clientBuild _ => "E_HTTP_CLIENT_BUILD"

def message : StoreError → String
  | documentNotFound document => "diagram not found: " ++ document.uuid.toText
  | request detail => "store request failed: " ++ detail
  | response status _ => "store response error: status " ++ toString status
  | parse detail => "store response parse failed: " ++ detail
  | missingIds expected found =>
    "store returned " ++ toString found ++ " entries, expected at least " ++ toString expected ++
      " new ones"
  | clientBuild detail => "HTTP client build failed: " ++ detail

/-- Whether the same call may succeed when it is made again: when the store was out of reach, asked
for less traffic, or failed on its side. -/
def retryable : StoreError → Bool
  | request _ => true
  | response status _ => status == 429 || (500 ≤ status && status ≤ 599)
  | _ => false

def report (error : StoreError) : Report :=
  ⟨error.code, error.message, error.retryable⟩

end StoreError

/-- A call to a store whose state is of type `σ`. The state is kept when the call fails. -/
abbrev StoreCall (σ β : Type) := ExceptT StoreError (StateM σ) β

/-- The operations that every store has. -/
structure BasicStore (α σ : Type) where
  document? : DocumentId → StoreCall σ (Option (Document α))
  addShape : DocumentId → ShapeDraft α → StoreCall σ (Document α)
  updateShape : DocumentId → ShapeId → ShapePatch → StoreCall σ (Option (Document α))
  deleteShape : DocumentId → ShapeId → StoreCall σ (Option (Document α))
  shape? : DocumentId → ShapeId → StoreCall σ (Option (Shape α))
  /-- Inserts shapes with ids of their own, in place of those with the same ids. -/
  restoreShapes : DocumentId → List (Shape α) → StoreCall σ (Document α)
  addConnector : DocumentId → ConnectorDraft → StoreCall σ (Document α)
  deleteConnector : DocumentId → ConnectorId → StoreCall σ (Option (Document α))
  /-- Inserts connectors with ids of their own, in place of those with the same ids. -/
  restoreConnectors : DocumentId → List Connector → StoreCall σ (Document α)

/-- A store that also works on many entries at once. -/
structure DocumentStore (α σ : Type) extends BasicStore α σ where
  /-- Whether creating many entries is a single call to the store. -/
  batches : Bool
  /-- Creates shapes; their ids are the last ones of the answer, in order. -/
  addShapes : DocumentId → List (ShapeDraft α) → StoreCall σ (Document α)
  deleteShapes : DocumentId → List ShapeId → StoreCall σ (Option (Document α))
  /-- Creates connectors; their ids are the last ones of the answer, in order. -/
  addConnectors : DocumentId → List ConnectorDraft → StoreCall σ (Document α)
  deleteConnectors : DocumentId → List ConnectorId → StoreCall σ (Option (Document α))

/-! ## Many entries, one by one -/

namespace BasicStore

variable {α σ β : Type}

/-- The last answer to the calls for a list of items, made one by one. -/
def lastAnswer (call : β → StoreCall σ (Document α)) (last : Option (Document α)) :
    List β → StoreCall σ (Option (Document α))
  | [] => pure last
  | item :: rest => do
    let document ← call item
    lastAnswer call (some document) rest

/-- The last document answered to the calls for a list of items, made one by one. -/
def lastChange (call : β → StoreCall σ (Option (Document α))) (last : Option (Document α)) :
    List β → StoreCall σ (Option (Document α))
  | [] => pure last
  | item :: rest => do
    let document? ← call item
    lastChange call (document?.or last) rest

/-- Creates entries one by one. Without any the document itself is the answer, empty if it does not
exist. -/
def addEach (store : BasicStore α σ) (document : DocumentId)
    (add : DocumentId → β → StoreCall σ (Document α)) (items : List β) :
    StoreCall σ (Document α) := do
  match ← lastAnswer (add document) none items with
  | some answer => pure answer
  | none =>
    let held ← store.document? document
    pure (held.getD (.empty document))

/-- The store that works on many entries by working on each of them in turn. -/
def oneByOne (store : BasicStore α σ) : DocumentStore α σ where
  toBasicStore := store
  batches := false
  addShapes document drafts := store.addEach document store.addShape drafts
  deleteShapes document ids := lastChange (store.deleteShape document) none ids
  addConnectors document drafts := store.addEach document store.addConnector drafts
  deleteConnectors document ids := lastChange (store.deleteConnector document) none ids

end BasicStore

end TextDiagram
