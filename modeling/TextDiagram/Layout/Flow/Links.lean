import TextDiagram.Graph.Basic

/-!
# The links of a flow

The arrows of a flow as links between node indices. A connection with an unknown end draws no
link, and a connection that repeats the ends of an earlier one draws no further link. Where
several nodes have the same id, arrows lead to the last of them.
-/
namespace TextDiagram.Flow

/-- A link from one of `n` nodes to another. -/
structure Link (n : Nat) where
  source : Fin n
  target : Fin n
deriving Repr, DecidableEq

/-- The items of a list without the repetitions of earlier ones. -/
def distinct {β : Type} [DecidableEq β] : List β → List β
  | [] => []
  | first :: rest => first :: (distinct rest).filter (· ≠ first)

/-- The last index whose node has this id. -/
def lastIndex? (nodes : List Node) (id : String) : Option (Fin nodes.length) :=
  (nodes.reverse.findFinIdx? (·.id == id)).map fun i => (i.cast List.length_reverse).rev

/-- The link that a connection draws. -/
def link? (nodes : List Node) (connection : Connection) : Option (Link nodes.length) := do
  let source ← lastIndex? nodes connection.source
  let target ← lastIndex? nodes connection.target
  some ⟨source, target⟩

/-- The links of a flow in the order of their first connections. -/
def links (nodes : List Node) (connections : List Connection) : List (Link nodes.length) :=
  distinct (connections.filterMap (link? nodes))

variable {n : Nat}

/-- The nodes that links lead to from a node, in order. -/
def successors (links : List (Link n)) (node : Fin n) : List (Fin n) :=
  links.filterMap fun link => if link.source = node then some link.target else none

/-- Whether a link leads to the node. -/
def hasPredecessor (links : List (Link n)) (node : Fin n) : Bool :=
  links.any (·.target == node)

/-! ## Reachable nodes -/

/-- The nodes outside of a list. -/
def outside (seen : List (Fin n)) : List (Fin n) :=
  (List.finRange n).filter fun node => !seen.contains node

theorem mem_outside {seen : List (Fin n)} {node : Fin n} : node ∈ outside seen ↔ node ∉ seen := by
  simp [outside]

theorem outside_cons_length_lt {seen : List (Fin n)} {node : Fin n} (fresh : node ∉ seen) :
    (outside (node :: seen)).length < (outside seen).length := by
  have narrower : outside (node :: seen) = (outside seen).filter (· ≠ node) := by
    simp only [outside, List.filter_filter]
    apply List.filter_congr
    intro other _
    simp
  have present : node ∈ outside seen := mem_outside.mpr fresh
  rw [narrower]
  exact List.length_filter_lt_length_iff_exists.mpr ⟨node, present, by simp⟩

/-- Visits the nodes of a worklist and all that is reachable from them; gives the nodes seen. A node
that has been seen does not go on the worklist; one that is on it and has been seen since then is
dropped. -/
def visit (next : Fin n → List (Fin n)) (seen : List (Fin n)) : List (Fin n) → List (Fin n)
  | [] => seen
  | node :: waiting =>
    if seen.contains node then
      visit next seen waiting
    else
      let found := (next node).filter fun target => !(node :: seen).contains target
      visit next (node :: seen) (found ++ waiting)
termination_by waiting => ((outside seen).length, waiting.length)
decreasing_by
  · exact Prod.Lex.right _ (Nat.lt_succ_self _)
  · next unseen => exact Prod.Lex.left _ _ (outside_cons_length_lt (by simpa using unseen))

/-- How many nodes are reachable from a node, itself included. -/
def reach (next : Fin n → List (Fin n)) (node : Fin n) : Nat :=
  (visit next [] [node]).length

/-- The nodes a flow starts at: those without a predecessor, or the first node if all have one.
Nodes of the kind `start` come first. -/
def startNodes (nodes : List Node) (links : List (Link nodes.length)) : List (Fin nodes.length) :=
  let free := (List.finRange nodes.length).filter fun i => !hasPredecessor links i
  let starts := if free.isEmpty then (List.finRange nodes.length).take 1 else free
  starts.filter (fun i => (nodes.get i).kind = .start) ++
    starts.filter fun i => (nodes.get i).kind ≠ .start

end TextDiagram.Flow
