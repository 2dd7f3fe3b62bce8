import TextDiagram.Json.Basic
import TextDiagram.Graph.Reading
import TextDiagram.Plan

/-!
# Graphs, layouts and plans in JSON

The JSON forms in which graphs, placed nodes and planned connectors are given out. An absent
value is written as null.
-/
namespace TextDiagram

namespace Json

def ofText? (value : Option String) : Json :=
  ofOption text value

end Json

namespace Family

def toJson (family : Family) : Json :=
  .text family.name

end Family

namespace Side

def toJson (side : Side) : Json :=
  .text (String.singleton side.letter)

end Side

namespace Node

def jsonFields (node : Node) : List (String × Json) :=
  [("id", .text node.id), ("label", .text node.label), ("kind", .text node.kind.keyword),
    ("icon", .ofText? node.icon), ("parent", .ofText? node.parent)]

def toJson (node : Node) : Json :=
  .ofFields node.jsonFields

end Node

namespace Connection

def toJson (connection : Connection) : Json :=
  .ofFields
    [("source", .text connection.source), ("target", .text connection.target),
      ("source_dir", .ofOption Side.toJson connection.sourceSide),
      ("target_dir", .ofOption Side.toJson connection.targetSide),
      ("bidirectional", .bool connection.bidirectional),
      ("label", .ofText? connection.label)]

end Connection

namespace Diagnostic

def toJson (diagnostic : Diagnostic) : Json :=
  .ofFields [("line", .ofNat diagnostic.line), ("text", .text diagnostic.text)]

end Diagnostic

namespace Box

def jsonFields (box : Box Float) : List (String × Json) :=
  [("x", .float box.x), ("y", .float box.y), ("width", .float box.width),
    ("height", .float box.height)]

def toJson (box : Box Float) : Json :=
  .ofFields box.jsonFields

end Box

namespace Placed

def toJson (placed : Placed Float) : Json :=
  .ofFields (placed.node.jsonFields ++ placed.box.jsonFields)

end Placed

namespace PlannedConnector

def toJson (connector : PlannedConnector) : Json :=
  .ofFields
    [("from_shape_index", .ofNat connector.source), ("to_shape_index", .ofNat connector.target),
      ("source_dir", .ofOption Side.toJson connector.sourceSide),
      ("target_dir", .ofOption Side.toJson connector.targetSide),
      ("bidirectional", .bool connector.bidirectional),
      ("label", .ofText? connector.label)]

end PlannedConnector

end TextDiagram
