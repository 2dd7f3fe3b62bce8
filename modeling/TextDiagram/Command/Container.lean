import TextDiagram.Plan
import TextDiagram.Wire.Ident

/-!
# Containers

Every import draws a container around what it creates. The properties of the container list the
shapes and connectors of the import, so the import can be found again and replaced as a whole.
-/
namespace TextDiagram

variable {α : Type}

/-- What one import has created. -/
structure Created where
  container : Option ShapeId
  shapes : List ShapeId
  connectors : List ConnectorId
deriving Repr, DecidableEq

namespace Created

def nothing : Created :=
  ⟨none, [], []⟩

end Created

/-- The shapes and connectors that a container lists. -/
structure Members where
  shapes : List ShapeId
  connectors : List ConnectorId
deriving Repr, DecidableEq

/-- Where the top left corner of a container stands. -/
structure Origin (α : Type) where
  x : α
  y : α
deriving Repr, DecidableEq

namespace Origin

def zero [Scalar α] : Origin α :=
  ⟨Scalar.zero, Scalar.zero⟩

end Origin

namespace Container

/-- The kind of shape that a container is. -/
def kind : String :=
  "diagram_container"

def props (family : Family) (source : String) (members : Members) : Json :=
  .ofFields
    [("shapeIds", .ofList ShapeId.toJson members.shapes),
      ("connectorIds", .ofList ConnectorId.toJson members.connectors),
      ("diagramType", .text family.name),
      ("source", .text source)]

def draft (box : Box α) (family : Family) (source : String) (members : Members) :
    ShapeDraft α where
  kind := kind
  box := box
  parent := none
  props := props family source members

/-- The members that a container lists. None for another shape, and for a container whose lists
cannot be read. -/
def members? (shape : Shape α) : Option Members := do
  if shape.kind = kind then
    let shapes ← Json.decode? (.list ShapeId.decoder) (← shape.props.field? "shapeIds")
    let connectors ← Json.decode? (.list ConnectorId.decoder) (← shape.props.field? "connectorIds")
    some ⟨shapes, connectors⟩
  else
    none

end Container

namespace PlannedShape

def props (shape : PlannedShape α) : Json :=
  .ofFields (("label", .text shape.label) :: match shape.icon with
    | none => []
    | some icon => [("icon", .text icon)])

/-- The shape of a node, ready for creation. -/
def draft (shape : PlannedShape α) : ShapeDraft α where
  kind := shape.kind.keyword
  box := shape.box
  parent := none
  props := shape.props

end PlannedShape

end TextDiagram
