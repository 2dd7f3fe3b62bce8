import TextDiagram.Layout

/-!
# Plans

A plan says what an import is going to write: one shape for every placed node and one connector
for every connection between placed nodes. Shapes are named by their index, since a document gives
out ids only when it is written. A connection with an end that cannot be resolved is dropped and
reported; it never fails the whole plan.
-/
namespace TextDiagram

variable {α : Type}

structure PlannedShape (α : Type) where
  index : Nat
  kind : NodeKind
  label : String
  icon : Option String
  box : Box α
  /-- The index of the shape that this one belongs to. -/
  parent : Option Nat
deriving Repr, DecidableEq

/-- A connector to create between the shapes with two indices. -/
structure PlannedConnector where
  source : Nat
  target : Nat
  sourceSide : Option Side
  targetSide : Option Side
  bidirectional : Bool
  label : Option String
deriving Repr, DecidableEq

/-- Why a connection was dropped. -/
inductive ReferenceError where
  | unknownNode (id : String)
  /-- The node with the index has not been placed. -/
  | notPlaced (index : Nat)
deriving Repr, DecidableEq

namespace ReferenceError

def code : ReferenceError → String
  | unknownNode _ => "E_REFERENCE_NODE"
  | notPlaced _ => "E_REFERENCE_INDEX"

def message : ReferenceError → String
  | unknownNode id => "connection references unknown node `" ++ id ++ "`"
  | notPlaced index =>
    "connection references shape index " ++ toString index ++ ", which was never laid out"

end ReferenceError

/-- What an import is going to write. -/
structure Plan (α : Type) where
  shapes : List (PlannedShape α)
  connectors : List PlannedConnector
  /-- Why connections were dropped, in the order of the connections. -/
  dropped : List ReferenceError
deriving Repr, DecidableEq

namespace Plan

/-- The index of the effective parent of every node. Only architecture nodes have parents. -/
def parentIndices (graph : Graph) : List (Option Nat) :=
  match graph.family with
  | .flow => graph.nodes.map fun _ => none
  | .architecture => (Hierarchy.parents graph.nodes).map fun parent => parent.map Fin.val

/-- The shapes of placed nodes, numbered from `first` on, with these parents. -/
def shapesFrom (first : Nat) (parents : List (Option Nat)) :
    List (Placed α) → List (PlannedShape α)
  | [] => []
  | ⟨node, box⟩ :: rest =>
    { index := first
      kind := node.kind
      label := node.label
      icon := node.icon
      box
      parent := parents.head?.join } ::
    shapesFrom (first + 1) parents.tail rest

/-- The index of the node with an id, if it is among the first `placed` ones. -/
def resolve (graph : Graph) (placed : Nat) (id : String) : Except ReferenceError Nat :=
  match graph.nodeIndex? id with
  | none => .error (.unknownNode id)
  | some index => if index < placed then .ok index else .error (.notPlaced index)

/-- The connector of a connection. The source is resolved before the target. -/
def connector (graph : Graph) (placed : Nat) (connection : Connection) :
    Except ReferenceError PlannedConnector := do
  let source ← resolve graph placed connection.source
  let target ← resolve graph placed connection.target
  .ok {
    source
    target
    sourceSide := connection.sourceSide
    targetSide := connection.targetSide
    bidirectional := connection.bidirectional
    label := connection.label }

def results {ε β : Type} : List (Except ε β) → List β
  | [] => []
  | .ok value :: rest => value :: results rest
  | .error _ :: rest => results rest

def errors {ε β : Type} : List (Except ε β) → List ε
  | [] => []
  | .ok _ :: rest => errors rest
  | .error error :: rest => error :: errors rest

/-- The plan of a graph whose first nodes have been placed. -/
def ofGraph (graph : Graph) (placed : List (Placed α)) : Plan α :=
  let connectors := graph.connections.map (connector graph placed.length)
  { shapes := shapesFrom 0 (parentIndices graph) placed
    connectors := results connectors
    dropped := errors connectors }

variable [Scalar α]

def bounds? (plan : Plan α) : Option (Box α) :=
  Box.union? (plan.shapes.map PlannedShape.box)

/-- The plan moved so that its bounding box starts at `(x, y)`. -/
def moveTo (plan : Plan α) (x y : α) : Plan α :=
  match plan.bounds? with
  | none => plan
  | some bounds =>
    let move (shape : PlannedShape α) : PlannedShape α :=
      { shape with box := shape.box.shift (x - bounds.x) (y - bounds.y) }
    { plan with shapes := plan.shapes.map move }

end Plan

end TextDiagram
