import TextDiagram.Wire.Decode
import TextDiagram.Wire.Encode
import TextDiagram.Wire.Ident

/-!
# Documents in JSON

Shapes, connectors and documents as a document store sends and receives them. What an entry may
leave out takes a default when it is read. A draft is written without what it leaves out; an entry
is written with all of its fields.
-/
namespace TextDiagram

open Json (Decoder Record)

/-- A field that is written only when it has a value. -/
def optionalField {β : Type} (name : String) (encode : β → Json) :
    Option β → List (String × Json)
  | none => []
  | some value => [(name, encode value)]

namespace ShapeDraft

def toJson (draft : ShapeDraft Float) : Json :=
  .ofFields ([("kind", .text draft.kind), ("props", draft.props)] ++ draft.box.jsonFields ++
    optionalField "parent_id" ShapeId.toJson draft.parent)

/-- A draft from its fields in the order in which they are written. -/
def ofFields (kind : String) (x y width height : Float) (parent : Option ShapeId) (props : Json) :
    ShapeDraft Float :=
  ⟨kind, ⟨x, y, width, height⟩, parent, props⟩

def record : Record (ShapeDraft Float) :=
  Record.of ofFields
    |>.and (.required "kind" .string)
    |>.and (.required "x" .float)
    |>.and (.required "y" .float)
    |>.and (.required "width" .float)
    |>.and (.required "height" .float)
    |>.and (.withDefault "parent_id" ShapeId.decoder.optional none)
    |>.and (.withDefault "props" .any .null)

end ShapeDraft

namespace Shape

def toJson (shape : Shape Float) : Json :=
  .ofFields ([("id", shape.id.toJson), ("kind", .text shape.kind),
    ("parent_id", .ofOption ShapeId.toJson shape.parent), ("props", shape.props)] ++
    shape.box.jsonFields)

/-- A shape from its fields in the order in which they are written. -/
def ofFields (id : ShapeId) (kind : String) (x y width height : Float) (parent : Option ShapeId)
    (props : Json) : Shape Float :=
  ⟨id, kind, ⟨x, y, width, height⟩, parent, props⟩

def record : Record (Shape Float) :=
  Record.of ofFields
    |>.and (.required "id" ShapeId.decoder)
    |>.and (.required "kind" .string)
    |>.and (.required "x" .float)
    |>.and (.required "y" .float)
    |>.and (.required "width" .float)
    |>.and (.required "height" .float)
    |>.and (.withDefault "parent_id" ShapeId.decoder.optional none)
    |>.and (.withDefault "props" .any .null)

end Shape

namespace ShapePatch

def toJson (patch : ShapePatch) : Json :=
  .ofFields (optionalField "parent_id" ShapeId.toJson patch.parent)

def record : Record ShapePatch :=
  Record.of ShapePatch.mk
    |>.and (.withDefault "parent_id" ShapeId.decoder.optional none)

end ShapePatch

namespace ConnectorDraft

def toJson (draft : ConnectorDraft) : Json :=
  .ofFields ([("from_shape", draft.source.toJson), ("to_shape", draft.target.toJson),
    ("bidirectional", .bool draft.bidirectional)] ++
    optionalField "source_dir" Side.toJson draft.sourceSide ++
    optionalField "target_dir" Side.toJson draft.targetSide ++
    optionalField "label" .text draft.label)

def record : Record ConnectorDraft :=
  Record.of ConnectorDraft.mk
    |>.and (.required "from_shape" ShapeId.decoder)
    |>.and (.required "to_shape" ShapeId.decoder)
    |>.and (.withDefault "source_dir" Side.decoder.optional none)
    |>.and (.withDefault "target_dir" Side.decoder.optional none)
    |>.and (.withDefault "bidirectional" .bool false)
    |>.and (.withDefault "label" Decoder.string.optional none)

end ConnectorDraft

namespace Connector

def toJson (connector : Connector) : Json :=
  .ofFields
    [("id", connector.id.toJson), ("from_shape", connector.source.toJson),
      ("to_shape", connector.target.toJson),
      ("source_dir", .ofOption Side.toJson connector.sourceSide),
      ("target_dir", .ofOption Side.toJson connector.targetSide),
      ("bidirectional", .bool connector.bidirectional),
      ("label", .ofText? connector.label)]

def record : Record Connector :=
  Record.of Connector.mk
    |>.and (.required "id" ConnectorId.decoder)
    |>.and (.required "from_shape" ShapeId.decoder)
    |>.and (.required "to_shape" ShapeId.decoder)
    |>.and (.withDefault "source_dir" Side.decoder.optional none)
    |>.and (.withDefault "target_dir" Side.decoder.optional none)
    |>.and (.withDefault "bidirectional" .bool false)
    |>.and (.withDefault "label" Decoder.string.optional none)

end Connector

namespace Document

def record : Record (Document Float) :=
  Record.of Document.mk
    |>.and (.required "id" DocumentId.decoder)
    |>.and (.withDefault "shapes" (.list Shape.record.decoder) [])
    |>.and (.withDefault "connectors" (.list Connector.record.decoder) [])

end Document

end TextDiagram
