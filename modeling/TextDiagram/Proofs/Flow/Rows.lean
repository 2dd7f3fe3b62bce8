import Mathlib.Data.List.FinRange
import TextDiagram.Proofs.Flow.Numbering

/-!
# The rows of a flow

Main statement: how the rows of a flow are made up. A row that the walks fill goes along connections
from node to node; its first node is a start at the left edge, or comes behind a node further up
that has a connection to it. The starts open their rows from the top to the bottom, and the nodes
that no connections lead to from a start share the last row.
-/
namespace TextDiagram.Flow

variable {α : Type} [Scalar α]

/-! ### Nodes and connections -/

/-- A connection leads from one node to the other. -/
def Joined (nodes : List Node) (connections : List Connection) (source target : Fin nodes.length) :
    Prop :=
  ∃ connection ∈ connections, connection.source = (nodes.get source).id ∧
    connection.target = (nodes.get target).id

theorem joined_of_linked {nodes : List Node} {connections : List Connection}
    {source target : Fin nodes.length}
    (linked : target ∈ successors (links nodes connections) source) :
    Joined nodes connections source target := by
  obtain ⟨connection, member, source_named, target_named⟩ := linked_iff.mp linked
  exact ⟨connection, member, source_named.1.symm, target_named.1.symm⟩

/-! ### Layouts -/

section Layouts

variable (nodes : List Node) (connections : List Connection) (config : Config α)

def nodeWidth (i : Fin nodes.length) : α :=
  (nodeSize (nodes.get i)).1

/-- The placement that the layout arranges. -/
def laidOut : Placement α nodes.length :=
  placement nodes (links nodes connections) (nodeWidth nodes) config.horizontalSpacing

/-- The nodes in the order in which they are placed. -/
def order : List (Fin nodes.length) :=
  (laidOut nodes connections config).placed

/-- The row of a node, counted from the top. -/
def rowNumber (i : Fin nodes.length) : Nat :=
  rowOf (usedRows (laidOut nodes connections config)) (laidOut nodes connections config) i

/-- The nodes of a row in the order in which they are placed. -/
def rowNodes (row : Nat) : List (Fin nodes.length) :=
  (order nodes connections config).filter (rowNumber nodes connections config · = row)

/-- Links lead from one of the starts to the node. -/
def IsReached (i : Fin nodes.length) : Prop :=
  Reached (successors (links nodes connections)) (startNodes nodes (links nodes connections)) i

theorem layout_length : (layout nodes connections config).length = nodes.length := by
  simp [layout, arrange]

/-- The box that the layout has for a node. -/
def nodeBox (i : Fin nodes.length) : Box α :=
  ((layout nodes connections config).get (i.cast (layout_length nodes connections config).symm)).box

/-- A connection leads from one node to the other, which has its place right behind the first. -/
def Behind (source target : Fin nodes.length) : Prop :=
  Joined nodes connections source target ∧
    (nodeBox nodes connections config target).x =
      (nodeBox nodes connections config source).x +
        ((nodeBox nodes connections config source).width + config.horizontalSpacing)

theorem nodeBox_eq (i : Fin nodes.length) :
    let placement := laidOut nodes connections config
    let used := usedRows placement
    nodeBox nodes connections config i =
      boxOf config (rowsAndHeights nodes used placement) (columnOf placement i)
        (rowNumber nodes connections config i) (nodeSize (nodes.get i)) := by
  simp only [nodeBox, layout, arrange, List.get_eq_getElem, List.getElem_map, List.getElem_finRange]
  rfl

theorem laidOut_complete : Complete (laidOut nodes connections config) :=
  placement_complete ..

variable {nodes connections config}

theorem nodeBox_x {slot : Slot α nodes.length}
    (placed : slot ∈ (laidOut nodes connections config).slots) :
    (nodeBox nodes connections config slot.node).x = slot.x := by
  rw [nodeBox_eq]
  exact (laidOut_complete nodes connections config).columnOf_eq placed

theorem nodeBox_width (i : Fin nodes.length) :
    (nodeBox nodes connections config i).width = nodeWidth nodes i := by
  rw [nodeBox_eq]
  rfl

theorem rowNodes_eq {slot : Slot α nodes.length}
    (placed : slot ∈ (laidOut nodes connections config).slots) :
    rowNodes nodes connections config (rowNumber nodes connections config slot.node) =
      (onRow (laidOut nodes connections config).slots slot.row).map Slot.node :=
  (laidOut_complete nodes connections config).placed_filter_rowOf placed

end Layouts

/-! ### Rows filled by walks -/

section Walks

variable (nodes : List Node) (connections : List Connection) (config : Config α)

/-- What the walks of the layout place. -/
def laidByWalks : Placement α nodes.length :=
  walked nodes (links nodes connections) (nodeWidth nodes) config.horizontalSpacing

theorem laidByWalks_ready :
    Ready (successors (links nodes connections)) (nodeWidth nodes) config.horizontalSpacing
      (startNodes nodes (links nodes connections)) (laidByWalks nodes connections config) [] :=
  walked_ready ..

theorem laidOut_slots :
    ∃ rest, (laidOut nodes connections config).slots =
        (laidByWalks nodes connections config).slots ++ rest ∧
      ∀ slot ∈ rest, slot.row = (laidByWalks nodes connections config).cursors.length :=
  placement_slots ..

theorem isReached_iff (i : Fin nodes.length) :
    IsReached nodes connections i ↔
      ∃ slot ∈ (laidByWalks nodes connections config).slots, slot.node = i := by
  have placed : i ∈ (laidByWalks nodes connections config).placed ↔ IsReached nodes connections i :=
    mem_walkAll_placed
  rw [← placed]
  exact List.mem_map

variable {nodes connections config} {slot : Slot α nodes.length}

theorem laidOut_of_walked (placed : slot ∈ (laidByWalks nodes connections config).slots) :
    slot ∈ (laidOut nodes connections config).slots := by
  obtain ⟨rest, split, _⟩ := laidOut_slots nodes connections config
  rw [split]
  exact List.mem_append_left rest placed

theorem rowNodes_of_walked (placed : slot ∈ (laidByWalks nodes connections config).slots) :
    rowNodes nodes connections config (rowNumber nodes connections config slot.node) =
      (onRow (laidByWalks nodes connections config).slots slot.row).map Slot.node := by
  obtain ⟨rest, split, rows⟩ := laidOut_slots nodes connections config
  -- The nodes that come after the walks are on another row.
  have none_more : onRow rest slot.row = [] := by
    apply onRow_eq_nil
    intro other member
    rw [rows other member]
    exact ((laidByWalks_ready nodes connections config).placed_opened slot placed).ne'
  rw [rowNodes_eq (laidOut_of_walked placed), split, onRow_append, none_more, List.append_nil]

theorem behind_of_link {gate : Slot α nodes.length}
    (gate_placed : gate ∈ (laidByWalks nodes connections config).slots)
    (placed : slot ∈ (laidByWalks nodes connections config).slots)
    (linked : slot.node ∈ successors (links nodes connections) gate.node)
    (column : slot.x = gate.after (nodeWidth nodes) config.horizontalSpacing) :
    Behind nodes connections config gate.node slot.node := by
  refine ⟨joined_of_linked linked, ?_⟩
  rw [nodeBox_x (laidOut_of_walked placed), nodeBox_x (laidOut_of_walked gate_placed),
    nodeBox_width]
  exact column

theorem rowNodes_chain {i : Fin nodes.length} (reached : IsReached nodes connections i) :
    (rowNodes nodes connections config (rowNumber nodes connections config i)).IsChain
      (Behind nodes connections config) := by
  obtain ⟨slot, placed, rfl⟩ := (isReached_iff nodes connections config i).mp reached
  rw [rowNodes_of_walked placed, List.isChain_map]
  apply ((laidByWalks_ready nodes connections config).laid.isChain slot.row).imp_of_mem_imp
  intro gate next gate_placed next_placed follows
  exact behind_of_link (mem_onRow.mp gate_placed).1 (mem_onRow.mp next_placed).1 follows.1 follows.2

theorem rowNodes_head {i first : Fin nodes.length} (reached : IsReached nodes connections i)
    (is_first : (rowNodes nodes connections config
      (rowNumber nodes connections config i)).head? = some first) :
    (first ∈ startNodes nodes (links nodes connections) ∧
        (nodeBox nodes connections config first).x = Scalar.zero) ∨
      ∃ gate, rowNumber nodes connections config gate < rowNumber nodes connections config first ∧
        Behind nodes connections config gate first := by
  obtain ⟨slot, placed, rfl⟩ := (isReached_iff nodes connections config i).mp reached
  rw [rowNodes_of_walked placed, List.head?_map, Option.map_eq_some_iff] at is_first
  obtain ⟨head, is_head, rfl⟩ := is_first
  have head_placed := (mem_onRow.mp (List.mem_of_head? is_head)).1
  obtain ⟨earlier, later, split, opens⟩ :=
    (laidByWalks_ready nodes connections config).laid.opened is_head
  rcases opens with ⟨start, column⟩ | ⟨gate, before, above, linked, column⟩
  · left
    rw [nodeBox_x (laidOut_of_walked head_placed)]
    exact ⟨start, column⟩
  · right
    have gate_placed : gate ∈ (laidByWalks nodes connections config).slots := by
      rw [split]
      exact List.mem_append_left _ before
    refine ⟨gate.node, ?_, behind_of_link gate_placed head_placed linked column⟩
    exact ((laidOut_complete nodes connections config).rowOf_lt (laidOut_of_walked gate_placed)
      (laidOut_of_walked head_placed)).mpr above

/-- A row holds either nodes that the walks come to, or the others. -/
theorem row_of_reached (placed : slot ∈ (laidOut nodes connections config).slots)
    (reached : IsReached nodes connections slot.node) :
    slot.row < (laidByWalks nodes connections config).cursors.length := by
  obtain ⟨other, walked, same⟩ := (isReached_iff nodes connections config slot.node).mp reached
  rw [eq_of_key_eq Slot.node (laidOut_complete nodes connections config).nodup placed
    (laidOut_of_walked walked) same.symm]
  exact (laidByWalks_ready nodes connections config).placed_opened other walked

theorem row_of_not_reached (placed : slot ∈ (laidOut nodes connections config).slots)
    (not_reached : ¬ IsReached nodes connections slot.node) :
    slot.row = (laidByWalks nodes connections config).cursors.length := by
  obtain ⟨rest, split, rows⟩ := laidOut_slots nodes connections config
  rw [split] at placed
  rcases List.mem_append.mp placed with walked | new
  · have reached := (isReached_iff nodes connections config slot.node).mpr ⟨slot, walked, rfl⟩
    exact absurd reached not_reached
  · exact rows slot new

theorem rowNumber_of_not_reached {i j : Fin nodes.length}
    (i_not_reached : ¬ IsReached nodes connections i)
    (j_not_reached : ¬ IsReached nodes connections j) :
    rowNumber nodes connections config i = rowNumber nodes connections config j := by
  have complete := laidOut_complete nodes connections config
  obtain ⟨a, a_placed, rfl⟩ := complete.exists_slot i
  obtain ⟨b, b_placed, rfl⟩ := complete.exists_slot j
  apply (complete.rowOf_inj a_placed b_placed).mpr
  rw [row_of_not_reached a_placed i_not_reached, row_of_not_reached b_placed j_not_reached]

theorem rowNumber_lt_of_reached {i j : Fin nodes.length} (reached : IsReached nodes connections i)
    (not_reached : ¬ IsReached nodes connections j) :
    rowNumber nodes connections config i < rowNumber nodes connections config j := by
  have complete := laidOut_complete nodes connections config
  obtain ⟨a, a_placed, rfl⟩ := complete.exists_slot i
  obtain ⟨b, b_placed, rfl⟩ := complete.exists_slot j
  apply (complete.rowOf_lt a_placed b_placed).mpr
  rw [row_of_not_reached b_placed not_reached]
  exact row_of_reached a_placed reached

theorem start_downward {front back : List (Fin nodes.length)} {start : Fin nodes.length}
    (split : startNodes nodes (links nodes connections) = front ++ start :: back) :
    let row := rowNumber nodes connections config
    (nodeBox nodes connections config start).x = Scalar.zero ∧
      ∃ earlier later, order nodes connections config = earlier ++ start :: later ∧
        front ⊆ earlier ∧ (∀ i ∈ earlier, row i < row start) ∧ ∀ i ∈ later, row start ≤ row i := by
  obtain ⟨earlier, row, later, slots, before, above, below⟩ :=
    start_opens nodes (links nodes connections) (nodeWidth nodes) config.horizontalSpacing split
  change (laidOut nodes connections config).slots = _ at slots
  have complete := laidOut_complete nodes connections config
  let first : Slot α nodes.length := ⟨start, row, Scalar.zero⟩
  have first_placed : first ∈ (laidOut nodes connections config).slots := by simp [slots, first]
  refine ⟨nodeBox_x first_placed, earlier.map Slot.node, later.map Slot.node, ?_, before, ?_, ?_⟩
  · rw [order, Placement.placed, slots, List.map_append, List.map_cons]
  · simp only [List.forall_mem_map]
    intro slot member
    have placed : slot ∈ (laidOut nodes connections config).slots := by simp [slots, member]
    exact (complete.rowOf_lt placed first_placed).mpr (above slot member)
  · simp only [List.forall_mem_map]
    intro slot member
    have placed : slot ∈ (laidOut nodes connections config).slots := by simp [slots, member]
    have not_above : ¬ slot.row < row := Nat.not_lt.mpr (below slot member)
    exact Nat.not_lt.mp (mt (complete.rowOf_lt placed first_placed).mp not_above)

end Walks

/-! ### Main statement -/

section Main

variable (nodes : List Node) (connections : List Connection) (config : Config α)

/-- What the rows of a flow are made of. -/
structure WellRowed : Prop where
  /-- Rows are numbered without a gap. -/
  numbers : ∃ count, ∀ number,
    (∃ i, rowNumber nodes connections config i = number) ↔ number < count
  /-- Every node has its place in the order. -/
  placed : (order nodes connections config).Perm (List.finRange nodes.length)
  /-- Connections lead along a row that the walks fill. -/
  chain : ∀ i, IsReached nodes connections i →
    (rowNodes nodes connections config (rowNumber nodes connections config i)).IsChain
      (Behind nodes connections config)
  /-- Such a row begins with a start, or behind a node of a row above. -/
  head : ∀ i first, IsReached nodes connections i →
    (rowNodes nodes connections config (rowNumber nodes connections config i)).head? = some first →
      (first ∈ startNodes nodes (links nodes connections) ∧
          (nodeBox nodes connections config first).x = Scalar.zero) ∨
        ∃ gate, rowNumber nodes connections config gate < rowNumber nodes connections config first ∧
          Behind nodes connections config gate first
  /-- The other nodes come on one row. -/
  rest_together : ∀ i j, ¬ IsReached nodes connections i → ¬ IsReached nodes connections j →
    rowNumber nodes connections config i = rowNumber nodes connections config j
  /-- Their row is below the rows that the walks fill. -/
  rest_below : ∀ i j, IsReached nodes connections i → ¬ IsReached nodes connections j →
    rowNumber nodes connections config i < rowNumber nodes connections config j
  /-- A start is placed after the starts before it, at the left edge of a row below all rows that
  have been used by then. -/
  starts : ∀ front start back, startNodes nodes (links nodes connections) = front ++ start :: back →
    let row := rowNumber nodes connections config
    (nodeBox nodes connections config start).x = Scalar.zero ∧
      ∃ earlier later, order nodes connections config = earlier ++ start :: later ∧
        front ⊆ earlier ∧ (∀ i ∈ earlier, row i < row start) ∧ ∀ i ∈ later, row start ≤ row i

/-- The rows of every flow are made up like this: walks along connections, opened by starts or
behind nodes further up, and the one row of all that the walks do not come to. -/
theorem layout_wellRowed : WellRowed nodes connections config := by
  have complete := laidOut_complete nodes connections config
  constructor
  case numbers => exact ⟨_, complete.exists_rowOf⟩
  case placed =>
    exact (List.perm_ext_iff_of_nodup complete.nodup (List.nodup_finRange _)).mpr fun node =>
      ⟨fun _ => List.mem_finRange node, fun _ => complete.all node⟩
  case chain =>
    intro i reached
    exact rowNodes_chain reached
  case head =>
    intro i first reached is_first
    exact rowNodes_head reached is_first
  case rest_together =>
    intro i j i_not_reached j_not_reached
    exact rowNumber_of_not_reached i_not_reached j_not_reached
  case rest_below =>
    intro i j reached not_reached
    exact rowNumber_lt_of_reached reached not_reached
  case starts =>
    intro front start back split
    exact start_downward split

/-- A gateway with two ways on, of which one leads back, and two nodes that only lead to each
other. -/
example :
    let task (id : String) : Node := ⟨id, id, .task, none, none⟩
    let arrow (source target : String) : Connection := ⟨source, target, none, none, false, none⟩
    let nodes : List Node :=
      [⟨"begin", "", .start, none, none⟩, ⟨"open", "", .gateway, none, none⟩, task "call",
        task "wait", task "ping", task "pong"]
    let connections : List Connection :=
      [arrow "begin" "open", arrow "open" "call", arrow "open" "wait", arrow "wait" "open",
        arrow "ping" "pong", arrow "pong" "ping"]
    (List.range 3).map (rowNodes nodes connections (.default : Config Rat)) =
      [[0, 1, 3], [2], [4, 5]] := by
  cbv

end Main

end TextDiagram.Flow
