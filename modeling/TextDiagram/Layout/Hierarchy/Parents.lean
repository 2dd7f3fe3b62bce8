import TextDiagram.Graph.Basic

/-!
# Effective parents

A declared parent counts only when it is the id of a group other than the node itself and does not
lead back to the node. What is left is a forest, whatever the nodes declare: a cycle is broken at
all of its members, which become top-level nodes.
-/
namespace TextDiagram.Hierarchy

/-- The first index whose node has this id. -/
def firstIndex? (nodes : List Node) (id : String) : Option (Fin nodes.length) :=
  nodes.findFinIdx? (·.id == id)

/-- The group that a node declares as its parent, if there is one apart from the node itself. -/
def declaredParent? (nodes : List Node) (i : Fin nodes.length) : Option (Fin nodes.length) := do
  let id ← (nodes.get i).parent
  let parent ← firstIndex? nodes id
  if parent ≠ i ∧ (nodes.get parent).kind.isContainer then some parent else none

variable {n : Nat}

/-- Whether following parents from `current` comes to `target` within a number of steps. -/
def leadsTo (parent? : Fin n → Option (Fin n)) (target : Fin n) : Nat → Fin n → Bool
  | 0, _ => false
  | steps + 1, current =>
    match parent? current with
    | none => false
    | some parent => parent = target || leadsTo parent? target steps parent

/-- Whether following parents from a node comes back to it. A way back takes at most as many steps
as there are nodes. -/
def onCycle (parent? : Fin n → Option (Fin n)) (i : Fin n) : Bool :=
  leadsTo parent? i n i

/-- The declared parent of a node, unless it leads back to the node. -/
def acyclicParent? (parent? : Fin n → Option (Fin n)) (i : Fin n) : Option (Fin n) :=
  if onCycle parent? i then none else parent? i

/-- The parent that every node is laid out in. -/
def parentTable (nodes : List Node) : Vector (Option (Fin nodes.length)) nodes.length :=
  let declared := Vector.ofFn (declaredParent? nodes)
  Vector.ofFn (acyclicParent? declared.get)

/-- The parent that a node is laid out in. -/
def parent? (nodes : List Node) (i : Fin nodes.length) : Option (Fin nodes.length) :=
  acyclicParent? (declaredParent? nodes) i

theorem parentTable_get (nodes : List Node) (i : Fin nodes.length) :
    (parentTable nodes).get i = parent? nodes i := by
  have declared : (Vector.ofFn (declaredParent? nodes)).get = declaredParent? nodes := by
    funext j
    exact Vector.getElem_ofFn j.isLt
  show (Vector.ofFn (acyclicParent? (Vector.ofFn (declaredParent? nodes)).get)).get i = _
  rw [declared]
  exact Vector.getElem_ofFn i.isLt

/-- The effective parent of every node, in order. -/
def parents (nodes : List Node) : List (Option (Fin nodes.length)) :=
  (parentTable nodes).toList

/-- The nodes laid out in a node, in order. -/
def children (parent? : Fin n → Option (Fin n)) (i : Fin n) : List (Fin n) :=
  (List.finRange n).filter fun child => parent? child = some i

/-- The nodes outside of all groups, in order. -/
def roots (parent? : Fin n → Option (Fin n)) : List (Fin n) :=
  (List.finRange n).filter fun i => parent? i = none

end TextDiagram.Hierarchy
