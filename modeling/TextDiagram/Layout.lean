import TextDiagram.Layout.Flow
import TextDiagram.Layout.Hierarchy

/-!
# The layout of a graph

Each family has a layout of its own. The result has one box for every node, in the order of the
nodes.
-/
namespace TextDiagram

variable {α : Type} [Scalar α]

def Graph.layout (graph : Graph) (config : Config α) : List (Placed α) :=
  match graph.family with
  | .flow => Flow.layout graph.nodes graph.connections config
  | .architecture => Hierarchy.layout graph.nodes config

end TextDiagram
