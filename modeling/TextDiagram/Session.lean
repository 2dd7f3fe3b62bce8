import TextDiagram.Command.History

/-!
# Sessions

A session holds a store, the settings that layouts start from, and a history for every document
that a command has been run on. All changes of a document go through its history. A preview shows
what an import would write and touches nothing.
-/
namespace TextDiagram

variable {α σ : Type}

/-! ## Previews -/

/-- What a text looks like once it is laid out. -/
structure Preview (α : Type) where
  family : Family
  nodes : List (Placed α)
  connectors : List PlannedConnector
  diagnostics : List Diagnostic
  /-- How many connections were dropped because an end was unknown. -/
  droppedConnections : Nat
deriving Repr

namespace Preview

/-- Lays out a text of the family that a name means. -/
def ofText [Scalar α] (name source : String) (base : Config α)
    (overrides : Option (Overrides α)) : Except FormatError (Preview α) := do
  let family ← Family.resolve name
  let reading ← Graph.readWithDiagnostics family source
  let nodes := reading.graph.layout (base.override? overrides)
  let plan := Plan.ofGraph reading.graph nodes
  .ok {
    family
    nodes
    connectors := plan.connectors
    diagnostics := reading.skipped
    droppedConnections := plan.dropped.length }

/-- The preview with the centre of its layout at the corner of the plane. -/
def centered [Scalar α] (preview : Preview α) : Preview α :=
  { preview with nodes := Placed.centered preview.nodes }

end Preview

/-! ## Sessions -/

structure ImportRequest (α : Type) where
  familyName : String
  source : String
  origin : Option (Origin α)
  overrides : Option (Overrides α)
  /-- The container of an earlier import that is to be replaced. -/
  preview : Option ShapeId
deriving Repr

/-- The state of a session; `store` is the state behind its store. -/
structure Session (α σ : Type) where
  layout : Config α
  undoDepth : Nat
  histories : List (DocumentId × History α)
  store : σ

namespace Session

def start (layout : Config α) (undoDepth : Nat) (store : σ) : Session α σ :=
  ⟨layout, max undoDepth 1, [], store⟩

/-- The history of a document, if it has been given one. -/
def history? (session : Session α σ) (document : DocumentId) : Option (History α) :=
  session.histories.lookup document

/-- Gives a document a new history and the store a new state. -/
def setHistory (session : Session α σ) (document : DocumentId) (history : History α)
    (store : σ) : Session α σ :=
  { session with histories := upsert Prod.fst (document, history) session.histories, store }

/-- Runs a command on a document. The document has a history from then on, even when the command
fails. -/
def run [Scalar α] (store : DocumentStore α σ) (session : Session α σ) (document : DocumentId)
    (command : Command α) : Except CommandError (Option Created) × Session α σ :=
  let history := (session.history? document).getD []
  let ((result, history), state) :=
    (history.run store session.undoDepth command).run session.store
  (result, session.setHistory document history state)

/-- The command that an import request asks for. -/
def importCommand [Scalar α] (session : Session α σ) (document : DocumentId)
    (request : ImportRequest α) (family : Family) : Command α :=
  let config := session.layout.override? request.overrides
  match request.preview with
  | some preview => .update (.new document preview family request.source config)
  | none =>
    let origin := request.origin.getD .zero
    .create (.new ⟨document, family, request.source, origin, config⟩)

/-- Imports a text into a document: as new content, or in the place of an earlier import. -/
def importText [Scalar α] (store : DocumentStore α σ) (session : Session α σ)
    (document : DocumentId) (request : ImportRequest α) :
    Except CommandError Created × Session α σ :=
  match Family.resolve request.familyName with
  | .error error => (.error (.format error), session)
  | .ok family =>
    let (result, session) :=
      session.run store document (session.importCommand document request family)
    (result.map (·.getD .nothing), session)

/-- Puts entries back into a document under their ids. -/
def restore [Scalar α] (store : DocumentStore α σ) (session : Session α σ)
    (document : DocumentId) (shapes : List (Shape α)) (connectors : List Connector) :
    Except CommandError Unit × Session α σ :=
  let (result, session) :=
    session.run store document (.restore (.new document shapes connectors))
  (result.map fun _ => (), session)

/-- Undoes the latest command of a document. Gives its description, and none when there is nothing
to undo. -/
def undo (store : DocumentStore α σ) (session : Session α σ) (document : DocumentId) :
    Except CommandError (Option String) × Session α σ :=
  match session.history? document with
  | none => (.ok none, session)
  | some history =>
    let ((result, history), state) := (history.undoLatest store).run session.store
    (result, session.setHistory document history state)

end Session

end TextDiagram
