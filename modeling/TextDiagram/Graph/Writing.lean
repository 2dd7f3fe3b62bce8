import TextDiagram.Graph.Reading

/-!
# Writing a diagram text

The text of a graph is the header of its family, then a line for each node, then a line for each
connection, each in the form that the grammar reads back.
-/
namespace TextDiagram

def joinLines : List (List Char) → List Char
  | [] => []
  | [line] => line
  | line :: rest => line ++ '\n' :: joinLines rest

namespace Node

def line (family : Family) (node : Node) : List Char :=
  let opening := node.kind.keyword.toList ++ ' ' :: node.id.toList
  let label := '[' :: node.label.toList ++ [']']
  match family with
  | .flow => opening ++ label
  | .architecture =>
    let icon := '(' :: (node.icon.getD "").toList ++ [')']
    let parent := match node.parent with
      | none => []
      | some parent => " in ".toList ++ parent.toList
    opening ++ icon ++ label ++ parent

end Node

namespace Connection

def line (family : Family) (connection : Connection) : List Char :=
  match family with
  | .flow =>
    let label := match connection.label with
      | none => []
      | some label => '|' :: label.toList ++ ['|']
    connection.source.toList ++ " -->".toList ++ label ++ ' ' :: connection.target.toList
  | .architecture =>
    let source := match connection.sourceSide with
      | none => connection.source.toList
      | some side => connection.source.toList ++ [':', side.letter]
    let target := match connection.targetSide with
      | none => connection.target.toList
      | some side => side.letter :: ':' :: connection.target.toList
    let arrow := if connection.bidirectional then " <--> " else " --> "
    source ++ arrow.toList ++ target

end Connection

namespace Graph

def lines (graph : Graph) : List (List Char) :=
  graph.family.header.toList ::
    (graph.nodes.map (Node.line graph.family) ++
      graph.connections.map (Connection.line graph.family))

def toText (graph : Graph) : String :=
  String.ofList (joinLines graph.lines)

end Graph

end TextDiagram
