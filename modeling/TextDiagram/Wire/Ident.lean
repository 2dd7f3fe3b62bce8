import TextDiagram.Document.Basic
import TextDiagram.Json.Decoder

/-!
# Identifiers in JSON

Identifiers are strings in JSON. They are written in the one form of a UUID and read from any.
-/
namespace TextDiagram

open Json (Decoder)

namespace Uuid

def toJson (uuid : Uuid) : Json :=
  .text uuid.toText

def decoder : Decoder Uuid :=
  .refine .string parse?

end Uuid

namespace DocumentId

def decoder : Decoder DocumentId := fun outline =>
  (Uuid.decoder outline).map DocumentId.mk

end DocumentId

namespace ShapeId

def toJson (id : ShapeId) : Json :=
  id.uuid.toJson

def decoder : Decoder ShapeId := fun outline =>
  (Uuid.decoder outline).map ShapeId.mk

end ShapeId

namespace ConnectorId

def toJson (id : ConnectorId) : Json :=
  id.uuid.toJson

def decoder : Decoder ConnectorId := fun outline =>
  (Uuid.decoder outline).map ConnectorId.mk

end ConnectorId

end TextDiagram
