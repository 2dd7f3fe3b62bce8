import TextDiagram.Command.Container
import TextDiagram.Proofs.Document.Uuid
import TextDiagram.Proofs.Json.Fields

/-!
# Reading back what a container lists

Main statement: the members that a container has been drawn with are the members that are read off
its properties.
-/
namespace TextDiagram

variable {α : Type}

theorem Uuid.decode_toJson (uuid : Uuid) : decoder uuid.toJson.toOutline = .ok uuid := by
  simp [decoder, toJson, Json.toOutline, Json.Decoder.refine, Json.Decoder.string, bind,
    Except.bind, parse?_toText]

/-- Ids are read by reading what they are made of. -/
theorem ShapeId.decode_toJson (id : ShapeId) : decoder id.toJson.toOutline = .ok id :=
  congrArg (Except.map mk) id.uuid.decode_toJson

theorem ConnectorId.decode_toJson (id : ConnectorId) : decoder id.toJson.toOutline = .ok id :=
  congrArg (Except.map mk) id.uuid.decode_toJson

namespace Json

/-- A list is read back when each of its values is. -/
theorem decode?_ofList {β : Type} {encode : β → Json} {decoder : Decoder β}
    (read_back : ∀ value, decoder (encode value).toOutline = .ok value) (values : List β) :
    decode? (.list decoder) (ofList encode values) = some values := by
  have items : (outlineItems (values.map encode)).mapM decoder = .ok values := by
    induction values with
    | nil => rfl
    | cons value rest ih =>
      simp only [List.map_cons, outlineItems, List.mapM_cons, read_back, ih]
      rfl
  simp [decode?, ofList, toOutline, Decoder.list, requireShallow, items, requireClosed, bind,
    Except.bind, Except.toOption]

end Json

namespace Container

variable (family : Family) (source : String) (members : Members)

theorem props_shapeIds :
    (props family source members).field? "shapeIds" =
      some (.ofList ShapeId.toJson members.shapes) := by
  rw [props, Json.field?_ofFields]
  rfl

theorem props_connectorIds :
    (props family source members).field? "connectorIds" =
      some (.ofList ConnectorId.toJson members.connectors) := by
  rw [props, Json.field?_ofFields]
  rfl

/-- The members that a container was drawn around are those that it lists. -/
theorem members?_draft (box : Box α) (id : ShapeId) :
    members? ((draft box family source members).withId id) = some members := by
  have shapes := Json.decode?_ofList ShapeId.decode_toJson members.shapes
  have connectors := Json.decode?_ofList ConnectorId.decode_toJson members.connectors
  simp [members?, draft, ShapeDraft.withId, props_shapeIds, props_connectorIds, shapes, connectors]

end Container

end TextDiagram
