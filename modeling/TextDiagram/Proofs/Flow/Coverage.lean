import TextDiagram.Proofs.Flow.Spacing

/-!
# Covering a flow

Main statement: laying out a flow comes to an end, and every node is placed once. The walks, seen as
a recursion in which branches open behind branches, end in one way whatever they start from. They
come to the nodes that connections lead to from a start, and the other nodes fill one row below, in
order and from the left edge on.
-/
namespace TextDiagram.Flow

variable {α : Type} {n : Nat} [Scalar α]

/-! ### The recursion of walks -/

section Recursion

/-- Walking branches, one after the other. A branch is passed over when its node has been placed.
Otherwise the node is placed, and the branches behind it are walked to their ends before the next
branch has its turn. -/
inductive Walks (next : Fin n → List (Fin n)) (width : Fin n → α) (spacing : α) :
    Placement α n → List (Fin n × Nat) → Placement α n → Prop where
  | nothing (placement : Placement α n) : Walks next width spacing placement [] placement
  | skip {placement after : Placement α n} {node : Fin n} {row : Nat}
      {rest : List (Fin n × Nat)} (placed : node ∈ placement.placed)
      (others : Walks next width spacing placement rest after) :
      Walks next width spacing placement ((node, row) :: rest) after
  | place {placement between after : Placement α n} {node : Fin n} {row : Nat}
      {rest : List (Fin n × Nat)} (unplaced : node ∉ placement.placed)
      (behind :
        let moved := branch next (placement.place node row (width node) spacing) row node
        Walks next width spacing moved.1 moved.2 between)
      (others : Walks next width spacing between rest after) :
      Walks next width spacing placement ((node, row) :: rest) after

variable {next : Fin n → List (Fin n)} {width : Fin n → α} {spacing : α}
  {placement after : Placement α n} {node : Fin n} {row : Nat} {rest : List (Fin n × Nat)}

theorem walk_nil : walk next width spacing placement [] = placement := by
  rw [walk.eq_def]

theorem walk_skip (placed : node ∈ placement.placed) :
    walk next width spacing placement ((node, row) :: rest) =
      walk next width spacing placement rest := by
  rw [walk.eq_def]
  simp [placed]

theorem walk_place (unplaced : node ∉ placement.placed) :
    let moved := branch next (placement.place node row (width node) spacing) row node
    walk next width spacing placement ((node, row) :: rest) =
      walk next width spacing moved.1 (moved.2 ++ rest) := by
  rw [walk.eq_def]
  simp [unplaced]

/-- What waits behind branches is walked when these have come to their ends. -/
theorem walk_append (branches others : List (Fin n × Nat)) :
    walk next width spacing placement (branches ++ others) =
      walk next width spacing (walk next width spacing placement branches) others := by
  fun_induction walk next width spacing placement branches with
  | case1 => rfl
  | case2 placement node row rest placed ih =>
    rw [List.cons_append, walk_skip (by simpa using placed), ih]
  | case3 placement node row rest unplaced moved ih =>
    rw [List.cons_append, walk_place (by simpa using unplaced), ← List.append_assoc, ih]

theorem Walks.of_append {branches others : List (Fin n × Nat)}
    (walks : Walks next width spacing placement (branches ++ others) after) :
    ∃ between, Walks next width spacing placement branches between ∧
      Walks next width spacing between others after := by
  induction branches generalizing placement with
  | nil => exact ⟨placement, .nothing placement, walks⟩
  | cons first rest ih =>
    cases walks with
    | skip placed walks =>
      obtain ⟨between, first_walks, then_walks⟩ := ih walks
      exact ⟨between, .skip placed first_walks, then_walks⟩
    | place unplaced behind walks =>
      obtain ⟨between, first_walks, then_walks⟩ := ih walks
      exact ⟨between, .place unplaced behind first_walks, then_walks⟩

/-- The recursion ends, with what the walk gives and with nothing else. -/
theorem walks_iff {branches : List (Fin n × Nat)} :
    Walks next width spacing placement branches after ↔
      after = walk next width spacing placement branches := by
  constructor
  · intro walks
    induction walks with
    | nothing => rw [walk_nil]
    | skip placed _ ih => rw [walk_skip placed, ih]
    | place unplaced _ _ ih_behind ih_others =>
      rw [walk_place unplaced, walk_append, ← ih_behind, ih_others]
  · rintro rfl
    fun_induction walk next width spacing placement branches with
    | case1 placement => exact .nothing placement
    | case2 placement node row rest placed ih => exact .skip (by simpa using placed) ih
    | case3 placement node row rest unplaced moved ih =>
      obtain ⟨between, behind, others⟩ := ih.of_append
      exact .place (by simpa using unplaced) behind others

end Recursion

/-! ### Starts -/

/-- No connection leads to the node; or there is no such node, and it is the first one. -/
def IsStart (nodes : List Node) (connections : List Connection) (i : Fin nodes.length) : Prop :=
  (∀ j, ¬ Leads nodes connections j i) ∨ (∀ k, ∃ j, Leads nodes connections j k) ∧ i.val = 0

theorem mem_startNodes {nodes : List Node} {connections : List Connection}
    {i : Fin nodes.length} :
    i ∈ startNodes nodes (links nodes connections) ↔ IsStart nodes connections i := by
  have free_iff (k : Fin nodes.length) :
      hasPredecessor (links nodes connections) k = false ↔ ∀ j, ¬ Leads nodes connections j k := by
    simp only [← Bool.not_eq_true, hasPredecessor_iff, linked_iff, not_exists]
  have none_free_iff : ((List.finRange nodes.length).filter
      fun k => !hasPredecessor (links nodes connections) k).isEmpty = true ↔
        ∀ k, ∃ j, Leads nodes connections j k := by
    simp [hasPredecessor_iff, linked_iff]
  rw [(startNodes_perm nodes (links nodes connections)).mem_iff, IsStart]
  split
  next none_free =>
    have leads := none_free_iff.mp none_free
    have first_iff : i ∈ (List.finRange nodes.length).take 1 ↔ i.val = 0 := by
      simp [List.mem_take_iff_getElem, Fin.ext_iff, eq_comm]
    rw [first_iff]
    constructor
    · exact fun first => .inr ⟨leads, first⟩
    · rintro (free | ⟨_, first⟩)
      · obtain ⟨j, leads_here⟩ := leads i
        exact absurd leads_here (free j)
      · exact first
  next some_free =>
    have not_all : ¬ ∀ k, ∃ j, Leads nodes connections j k := mt none_free_iff.mpr some_free
    simp [free_iff, not_all]

/-! ### The rest -/

section Rest

variable {width : Fin n → α} {spacing : α} {placement : Placement α n}

theorem placeRest_cursors_length :
    (placeRest width spacing placement).cursors.length =
      placement.cursors.length + if outside placement.placed = [] then 0 else 1 := by
  unfold placeRest
  split
  next none_left => simp [none_left]
  next some_left =>
    rw [(placeAll_slots ..).1, if_neg some_left]
    simp [Placement.openRow]

/-- The first one of the rest is placed at the left edge. -/
theorem placeRest_first {first : Fin n} (is_first : (outside placement.placed).head? = some first) :
    ⟨first, placement.cursors.length, Scalar.zero⟩ ∈
      (placeRest width spacing placement).slots := by
  obtain ⟨others, rest⟩ := List.head?_eq_some_iff.mp is_first
  let opened := placement.openRow Scalar.zero
  let row := placement.cursors.length
  obtain ⟨_, more, split, _, _⟩ := placeAll_slots width spacing
    (opened.place first row (width first) spacing) row others
  simp only [placeRest, rest, List.foldl_cons]
  rw [split]
  simp [Placement.place, opened, row, Placement.openRow, Placement.cursor]

end Rest

section Remaining

variable (nodes : List Node) (connections : List Connection) (config : Config α)

/-- The nodes that the walks leave, in their order. -/
def remaining : List (Fin nodes.length) :=
  outside (laidByWalks nodes connections config).placed

theorem laidOut_eq :
    laidOut nodes connections config =
      placeRest (nodeWidth nodes) config.horizontalSpacing
        (laidByWalks nodes connections config) :=
  placement_eq ..

variable {nodes connections config} {i first : Fin nodes.length}

theorem mem_remaining :
    i ∈ remaining nodes connections config ↔ ¬ IsReached nodes connections i := by
  rw [remaining, mem_outside, isReached_iff nodes connections config, Placement.placed,
    List.mem_map]

theorem rowNodes_remaining (left : i ∈ remaining nodes connections config) :
    rowNodes nodes connections config (rowNumber nodes connections config i) =
      remaining nodes connections config := by
  obtain ⟨slot, placed, rfl⟩ := (laidOut_complete nodes connections config).exists_slot i
  have last_row := row_of_not_reached placed (mem_remaining.mp left)
  obtain ⟨_, rest, split, rest_nodes, rows⟩ := placeRest_slots (nodeWidth nodes)
    config.horizontalSpacing (laidByWalks nodes connections config)
  rw [← laidOut_eq] at split
  -- The row holds nothing that the walks have placed, and all that is placed behind.
  have none_walked : onRow (laidByWalks nodes connections config).slots slot.row = [] := by
    apply onRow_eq_nil
    intro other walked
    rw [last_row]
    exact ((laidByWalks_ready nodes connections config).placed_opened other walked).ne
  have all_rest : onRow rest slot.row = rest := by
    apply List.filter_eq_self.mpr
    intro other member
    rw [last_row]
    exact decide_eq_true (rows other member).1
  rw [rowNodes_eq placed, split, onRow_append, none_walked, all_rest, List.nil_append, rest_nodes,
    remaining]

theorem remaining_first (is_first : (remaining nodes connections config).head? = some first) :
    (nodeBox nodes connections config first).x = Scalar.zero := by
  let row := (laidByWalks nodes connections config).cursors.length
  have placed : ⟨first, row, Scalar.zero⟩ ∈ (laidOut nodes connections config).slots := by
    rw [laidOut_eq]
    exact placeRest_first is_first
  exact nodeBox_x placed

/-- On every row each node comes behind the one before it. -/
theorem rowNodes_columns (i : Fin nodes.length) :
    (rowNodes nodes connections config (rowNumber nodes connections config i)).IsChain
      fun before behind => (nodeBox nodes connections config behind).x =
        (nodeBox nodes connections config before).x +
          ((nodeBox nodes connections config before).width + config.horizontalSpacing) := by
  obtain ⟨slot, placed, rfl⟩ := (laidOut_complete nodes connections config).exists_slot i
  have laid : (columnRule (nodeWidth nodes) config.horizontalSpacing).Laid
      (laidOut nodes connections config).slots := placement_laid ..
  rw [rowNodes_eq placed, List.isChain_map]
  apply (laid.isChain slot.row).imp_of_mem_imp
  intro before behind before_placed behind_placed follows
  rw [nodeBox_x (mem_onRow.mp before_placed).1, nodeBox_x (mem_onRow.mp behind_placed).1,
    nodeBox_width]
  exact follows

end Remaining

/-! ### Main statement -/

section Main

variable (nodes : List Node) (connections : List Connection) (config : Config α)

/-- What becomes of the nodes of a flow. -/
structure Covered : Prop where
  /-- Walking branches ends, in one way. -/
  ends : ∀ placement branches after,
    Walks (successors (links nodes connections)) (nodeWidth nodes) config.horizontalSpacing
        placement branches after ↔
      after = walk (successors (links nodes connections)) (nodeWidth nodes)
        config.horizontalSpacing placement branches
  /-- No node is placed twice. -/
  once : (order nodes connections config).Nodup
  /-- The walks place what connections lead to from a start. -/
  walked : ∀ i, i ∈ (laidByWalks nodes connections config).placed ↔
    ∃ start, IsStart nodes connections start ∧
      Relation.ReflTransGen (Leads nodes connections) start i
  /-- The other nodes are placed after them. -/
  rest : order nodes connections config =
    (laidByWalks nodes connections config).placed ++ remaining nodes connections config
  rest_iff : ∀ i, i ∈ remaining nodes connections config ↔
    i ∉ (laidByWalks nodes connections config).placed
  /-- The other nodes are in the order of their declaration. -/
  rest_ordered : (remaining nodes connections config).Pairwise (· < ·)
  /-- They have one row to themselves. -/
  rest_row : ∀ i ∈ remaining nodes connections config,
    rowNodes nodes connections config (rowNumber nodes connections config i) =
      remaining nodes connections config
  /-- The row begins at the left edge. -/
  rest_first : ∀ first, (remaining nodes connections config).head? = some first →
    (nodeBox nodes connections config first).x = Scalar.zero
  rest_columns : (remaining nodes connections config).IsChain fun before behind =>
    (nodeBox nodes connections config behind).x =
      (nodeBox nodes connections config before).x +
        ((nodeBox nodes connections config before).width + config.horizontalSpacing)
  /-- It is below all other rows. -/
  rest_below : ∀ i ∈ remaining nodes connections config,
    ∀ j ∈ (laidByWalks nodes connections config).placed,
      rowNumber nodes connections config j < rowNumber nodes connections config i
  /-- It is only opened when there are such nodes. -/
  rest_opened : (laidOut nodes connections config).cursors.length =
    (laidByWalks nodes connections config).cursors.length +
      if remaining nodes connections config = [] then 0 else 1

/-- Laying out a flow ends, and places every node once: on the walks that come to it, or else on the
one row below them. -/
theorem layout_covered : Covered nodes connections config := by
  have reached_iff (i : Fin nodes.length) : i ∈ (laidByWalks nodes connections config).placed ↔
      IsReached nodes connections i := by
    rw [isReached_iff nodes connections config, Placement.placed, List.mem_map]
  constructor
  case ends => exact fun _ _ _ => walks_iff
  case once => exact (laidOut_complete nodes connections config).nodup
  case walked =>
    intro i
    simp only [reached_iff, IsReached, Reached, mem_startNodes, linked_iff]
  case rest =>
    obtain ⟨_, rest, split, rest_nodes, _⟩ := placeRest_slots (nodeWidth nodes)
      config.horizontalSpacing (laidByWalks nodes connections config)
    rw [order, laidOut_eq, Placement.placed, split, List.map_append, rest_nodes]
    rfl
  case rest_iff => exact fun i => mem_outside
  case rest_ordered => exact (List.pairwise_lt_finRange _).filter _
  case rest_row => exact fun i left => rowNodes_remaining left
  case rest_first => exact fun first is_first => remaining_first is_first
  case rest_columns =>
    cases left : remaining nodes connections config with
    | nil => exact .nil
    | cons first others =>
      have member : first ∈ remaining nodes connections config := by simp [left]
      rw [← left, ← rowNodes_remaining member]
      exact rowNodes_columns first
  case rest_below =>
    intro i left j walked
    exact rowNumber_lt_of_reached ((reached_iff j).mp walked) (mem_remaining.mp left)
  case rest_opened =>
    rw [laidOut_eq]
    exact placeRest_cursors_length

end Main

end TextDiagram.Flow
