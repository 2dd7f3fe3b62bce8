import TextDiagram.Store.Basic

/-!
# Observed stores

A store put under observation logs every call made to it and can be told to let certain calls fail
or answer falsely. What an import leaves behind when its store fails half-way is said in terms of
such schedules.
-/
namespace TextDiagram

inductive Operation where
  | document
  | addShape
  | addShapes
  | updateShape
  | deleteShape
  | deleteShapes
  | shape
  | restoreShapes
  | addConnector
  | addConnectors
  | deleteConnector
  | deleteConnectors
  | restoreConnectors
deriving Repr, DecidableEq

/-- A call made to a store; for an operation on many entries, how many there were. -/
structure Call where
  operation : Operation
  items : Option Nat
deriving Repr, DecidableEq

/-- What happens to a call instead of what should. -/
inductive Effect where
  /-- Nothing is done, and the call fails. -/
  | fail (error : StoreError)
  /-- Nothing is done, and the call fails for want of the document. -/
  | loseDocument
  /-- The call is done, but answers with a document without entries. It befalls calls that
  create. -/
  | hollow
  /-- Nothing is done, and nothing is answered. It befalls calls that may find nothing. -/
  | nothing
deriving Repr, DecidableEq

/-- The call that something is to befall: the `occurrence`-th one of an operation, counted from
one. -/
structure Disturbance where
  operation : Operation
  occurrence : Nat
  effect : Effect
deriving Repr, DecidableEq

/-- The state of an observed store: the calls so far, what is to befall them, and the state of the
store behind. -/
structure Observed (σ : Type) where
  calls : List Call
  disturbances : List Disturbance
  inner : σ

namespace Observed

variable {α σ β : Type}

/-- Logs a call and gives what befalls it. -/
def log (call : Call) : StoreCall (Observed σ) (Option Effect) := do
  let observed ← get
  let calls := observed.calls ++ [call]
  let occurrence := (calls.filter (·.operation = call.operation)).length
  set { observed with calls }
  let due := observed.disturbances.find? fun disturbance =>
    disturbance.operation = call.operation ∧ disturbance.occurrence = occurrence
  pure (due.map Disturbance.effect)

/-- Passes a call on to the store behind. -/
def pass (action : StoreCall σ β) : StoreCall (Observed σ) β := do
  let observed ← get
  let (result, inner) := action.run observed.inner
  set { observed with inner }
  match result with
  | .ok value => pure value
  | .error error => throw error

/-- A logged call that creates or restores entries. -/
def creating (document : DocumentId) (call : Call) (action : StoreCall σ (Document α)) :
    StoreCall (Observed σ) (Document α) := do
  match ← log call with
  | some (.fail error) => throw error
  | some .loseDocument => throw (.documentNotFound document)
  | some .hollow =>
    let _ ← pass action
    pure (.empty document)
  | some .nothing | none => pass action

/-- A logged call that may find nothing. -/
def finding (document : DocumentId) (call : Call) (action : StoreCall σ (Option β)) :
    StoreCall (Observed σ) (Option β) := do
  match ← log call with
  | some (.fail error) => throw error
  | some .loseDocument => throw (.documentNotFound document)
  | some .nothing => pure none
  | some .hollow | none => pass action

end Observed

/-- The store under observation. -/
def DocumentStore.observed {α σ : Type} (store : DocumentStore α σ) :
    DocumentStore α (Observed σ) where
  document? id := Observed.finding id ⟨.document, none⟩ (store.document? id)
  addShape id draft := Observed.creating id ⟨.addShape, none⟩ (store.addShape id draft)
  updateShape id shape patch :=
    Observed.finding id ⟨.updateShape, none⟩ (store.updateShape id shape patch)
  deleteShape id shape := Observed.finding id ⟨.deleteShape, none⟩ (store.deleteShape id shape)
  shape? id shape := Observed.finding id ⟨.shape, none⟩ (store.shape? id shape)
  restoreShapes id shapes :=
    Observed.creating id ⟨.restoreShapes, shapes.length⟩ (store.restoreShapes id shapes)
  addConnector id draft :=
    Observed.creating id ⟨.addConnector, none⟩ (store.addConnector id draft)
  deleteConnector id connector :=
    Observed.finding id ⟨.deleteConnector, none⟩ (store.deleteConnector id connector)
  restoreConnectors id connectors :=
    Observed.creating id ⟨.restoreConnectors, connectors.length⟩
      (store.restoreConnectors id connectors)
  batches := store.batches
  addShapes id drafts :=
    Observed.creating id ⟨.addShapes, drafts.length⟩ (store.addShapes id drafts)
  deleteShapes id ids :=
    Observed.finding id ⟨.deleteShapes, ids.length⟩ (store.deleteShapes id ids)
  addConnectors id drafts :=
    Observed.creating id ⟨.addConnectors, drafts.length⟩ (store.addConnectors id drafts)
  deleteConnectors id ids :=
    Observed.finding id ⟨.deleteConnectors, ids.length⟩ (store.deleteConnectors id ids)

end TextDiagram
