import TextDiagram.Geometry
import TextDiagram.Json.Basic
import TextDiagram.Document.Uuid

/-!
# Documents

A document holds shapes and connectors in the order of their creation. Creation appends; a deleted
entry leaves the others in place, and nothing that refers to it is deleted with it; restoring puts
an entry back under the id that it had, in place of an entry with the same id if there is one.
-/
namespace TextDiagram

variable {α : Type}

structure DocumentId where
  uuid : Uuid
deriving Repr, DecidableEq

structure ShapeId where
  uuid : Uuid
deriving Repr, DecidableEq

structure ConnectorId where
  uuid : Uuid
deriving Repr, DecidableEq

/-- A shape without an id, as it is handed in for creation. -/
structure ShapeDraft (α : Type) where
  kind : String
  box : Box α
  parent : Option ShapeId
  props : Json
deriving Repr

structure Shape (α : Type) where
  id : ShapeId
  kind : String
  box : Box α
  parent : Option ShapeId
  /-- Further properties, which the document keeps without looking into them. -/
  props : Json
deriving Repr

/-- A change of a shape. What is not set stays. -/
structure ShapePatch where
  parent : Option ShapeId
deriving Repr, DecidableEq

/-- A connector without an id, as it is handed in for creation. -/
structure ConnectorDraft where
  source : ShapeId
  target : ShapeId
  sourceSide : Option Side
  targetSide : Option Side
  bidirectional : Bool
  label : Option String
deriving Repr, DecidableEq

structure Connector where
  id : ConnectorId
  source : ShapeId
  target : ShapeId
  sourceSide : Option Side
  targetSide : Option Side
  bidirectional : Bool
  label : Option String
deriving Repr, DecidableEq

def ShapeDraft.withId (draft : ShapeDraft α) (id : ShapeId) : Shape α :=
  ⟨id, draft.kind, draft.box, draft.parent, draft.props⟩

def ConnectorDraft.withId (draft : ConnectorDraft) (id : ConnectorId) : Connector :=
  ⟨id, draft.source, draft.target, draft.sourceSide, draft.targetSide, draft.bidirectional,
    draft.label⟩

def Shape.patch (shape : Shape α) (patch : ShapePatch) : Shape α :=
  { shape with parent := patch.parent.or shape.parent }

/-- A document: its shapes and connectors in the order of their creation. -/
structure Document (α : Type) where
  id : DocumentId
  shapes : List (Shape α)
  connectors : List Connector
deriving Repr

/-- Puts an item in place of the first one with the same key, or behind all others. -/
def upsert {β κ : Type} [DecidableEq κ] (key : β → κ) (item : β) : List β → List β
  | [] => [item]
  | first :: rest =>
    if key first = key item then item :: rest else first :: upsert key item rest

/-- Changes the first item with a key; none if there is no such item. -/
def modifyFirst? {β κ : Type} [DecidableEq κ] (key : β → κ) (wanted : κ) (change : β → β) :
    List β → Option (List β)
  | [] => none
  | first :: rest =>
    if key first = wanted then
      some (change first :: rest)
    else
      (modifyFirst? key wanted change rest).map (first :: ·)

namespace Document

def empty (id : DocumentId) : Document α :=
  ⟨id, [], []⟩

def shape? (document : Document α) (id : ShapeId) : Option (Shape α) :=
  document.shapes.find? (·.id = id)

def shapeIds (document : Document α) : List ShapeId :=
  document.shapes.map Shape.id

def connectorIds (document : Document α) : List ConnectorId :=
  document.connectors.map Connector.id

def addShapes (document : Document α) (shapes : List (Shape α)) : Document α :=
  { document with shapes := document.shapes ++ shapes }

def addConnectors (document : Document α) (connectors : List Connector) : Document α :=
  { document with connectors := document.connectors ++ connectors }

/-- Changes a shape; none if the document does not have it. -/
def patchShape? (document : Document α) (id : ShapeId) (patch : ShapePatch) :
    Option (Document α) :=
  (modifyFirst? Shape.id id (·.patch patch) document.shapes).map fun shapes =>
    { document with shapes }

def eraseShapes (document : Document α) (ids : List ShapeId) : Document α :=
  { document with shapes := document.shapes.filter (·.id ∉ ids) }

def eraseConnectors (document : Document α) (ids : List ConnectorId) : Document α :=
  { document with connectors := document.connectors.filter (·.id ∉ ids) }

/-- Puts shapes back under their ids, one after the other. -/
def restoreShapes (document : Document α) (shapes : List (Shape α)) : Document α :=
  { document with
    shapes := shapes.foldl (fun held shape => upsert Shape.id shape held) document.shapes }

/-- Puts connectors back under their ids, one after the other. -/
def restoreConnectors (document : Document α) (connectors : List Connector) : Document α :=
  { document with
    connectors :=
      connectors.foldl (fun held connector => upsert Connector.id connector held)
        document.connectors }

end Document

end TextDiagram
