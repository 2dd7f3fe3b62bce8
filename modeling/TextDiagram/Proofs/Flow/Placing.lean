import TextDiagram.Proofs.Flow.Connections
import TextDiagram.Proofs.Flow.Reaching

/-!
# Whole placements

What walking from all starts, and placing the rest, makes of a flow. Main statements: every node is
placed once, on a row that is open; the nodes that the walks do not come to share one further row;
and every start opens a row below all rows opened before it.
-/
namespace TextDiagram.Flow

variable {α : Type} {n : Nat}

/-! ### Starts -/

section Starts

variable {nodes : List Node} {links : List (Link nodes.length)}

theorem startNodes_perm (nodes : List Node) (links : List (Link nodes.length)) :
    let free := (List.finRange nodes.length).filter fun i => !hasPredecessor links i
    (startNodes nodes links).Perm
      (if free.isEmpty then (List.finRange nodes.length).take 1 else free) := by
  simpa [startNodes] using List.filter_append_perm (fun i => decide ((nodes.get i).kind = .start)) _

theorem startNodes_nodup : (startNodes nodes links).Nodup := by
  rw [(startNodes_perm nodes links).nodup_iff]
  split
  · exact (List.nodup_finRange _).sublist (List.take_sublist 1 _)
  · exact (List.nodup_finRange _).filter _

/-- Links lead to a start only where it is the only one. -/
theorem startNodes_free {start : Fin nodes.length} (among : start ∈ startNodes nodes links) :
    hasPredecessor links start = false ∨ (startNodes nodes links).length ≤ 1 := by
  have perm := startNodes_perm nodes links
  dsimp only at perm
  split at perm
  · right
    rw [perm.length_eq, List.length_take]
    exact Nat.min_le_left _ _
  · left
    simpa using (List.mem_filter.mp (perm.mem_iff.mp among)).2

variable [Scalar α] {width : Fin nodes.length → α} {spacing : α}

/-- The walks from the starts before it do not come to a start. -/
theorem start_unplaced {front back : List (Fin nodes.length)} {start : Fin nodes.length}
    (split : startNodes nodes links = front ++ start :: back) :
    start ∉ (front.foldl (walkFrom (successors links) width spacing) .empty).placed := by
  have nodup : (front ++ start :: back).Nodup := split ▸ startNodes_nodup
  rw [mem_walkAll_placed]
  rintro ⟨earlier, among, path⟩
  -- A walk would have to come to the start by a link, and then there is no start before it.
  rcases path.cases_tail with same | ⟨_, _, linked⟩
  · exact (List.nodup_append.mp nodup).2.2 earlier among start List.mem_cons_self same.symm
  · have member : start ∈ startNodes nodes links := by simp [split]
    rcases startNodes_free member with free | single
    · rw [hasPredecessor_iff.mpr ⟨_, linked⟩] at free
      cases free
    · have first := List.length_pos_of_mem among
      simp only [split, List.length_append, List.length_cons] at single
      omega

end Starts

/-! ### The rest -/

section Rest

variable [Scalar α] {width : Fin n → α} {spacing : α}

theorem placeAll_slots (width : Fin n → α) (spacing : α) (placement : Placement α n) (row : Nat)
    (nodes : List (Fin n)) :
    let whole := nodes.foldl
      (fun placement node => placement.place node row (width node) spacing) placement
    whole.cursors.length = placement.cursors.length ∧
      ∃ more, whole.slots = placement.slots ++ more ∧ more.map Slot.node = nodes ∧
        ∀ slot ∈ more, slot.row = row := by
  induction nodes generalizing placement with
  | nil => exact ⟨rfl, [], by simp⟩
  | cons node rest ih =>
    obtain ⟨cursors, more, split, nodes, rows⟩ := ih (placement.place node row (width node) spacing)
    refine ⟨cursors.trans (Placement.place_cursors_length ..),
      ⟨node, row, placement.cursor row⟩ :: more, ?_, ?_, ?_⟩
    · rw [List.foldl_cons, split]
      simp [Placement.place]
    · rw [List.map_cons, nodes]
    · simpa using rows

theorem placeRest_slots (width : Fin n → α) (spacing : α) (placement : Placement α n) :
    let whole := placeRest width spacing placement
    placement.cursors.length ≤ whole.cursors.length ∧
      ∃ more, whole.slots = placement.slots ++ more ∧
        more.map Slot.node = outside placement.placed ∧
        ∀ slot ∈ more, slot.row = placement.cursors.length ∧ slot.row < whole.cursors.length := by
  unfold placeRest
  split
  next none_left => exact ⟨Nat.le_refl _, [], by simp [none_left]⟩
  next =>
    obtain ⟨cursors, more, split, nodes, rows⟩ :=
      placeAll_slots width spacing (placement.openRow Scalar.zero) placement.cursors.length
        (outside placement.placed)
    have opened : (placement.openRow (Scalar.zero : α)).cursors.length =
        placement.cursors.length + 1 := by
      simp [Placement.openRow]
    dsimp only
    rw [cursors, opened]
    refine ⟨Nat.le_succ _, more, split, nodes, fun slot member => ?_⟩
    rw [rows slot member]
    exact ⟨rfl, Nat.lt_succ_self _⟩

theorem Extends.placeRest {slots : List (Slot α n)} {first : Nat} {placement : Placement α n}
    (extended : Extends slots first placement []) :
    Extends slots first (placeRest width spacing placement) [] := by
  obtain ⟨cursors, added, split_rest, _, rows⟩ := placeRest_slots width spacing placement
  obtain ⟨more, split, below⟩ := extended.slots
  constructor
  case opened => exact extended.opened.trans cursors
  case slots =>
    refine ⟨more ++ added, by rw [split_rest, split, List.append_assoc], ?_⟩
    intro slot member
    rcases List.mem_append.mp member with before | new
    · exact below slot before
    · rw [(rows slot new).1]
      exact extended.opened
  case branches => simp

/-- Every node has been placed once, on a row that is open. -/
structure Complete (placement : Placement α n) : Prop where
  nodup : placement.placed.Nodup
  all : ∀ node, node ∈ placement.placed
  opened : ∀ slot ∈ placement.slots, slot.row < placement.cursors.length

theorem placeRest_complete {placement : Placement α n} (nodup : placement.placed.Nodup)
    (opened : ∀ slot ∈ placement.slots, slot.row < placement.cursors.length) :
    Complete (placeRest width spacing placement) := by
  obtain ⟨cursors, more, split, nodes, rows⟩ := placeRest_slots width spacing placement
  have placed : (placeRest width spacing placement).placed =
      placement.placed ++ outside placement.placed := by
    rw [Placement.placed, split, List.map_append, nodes]
    rfl
  constructor
  case nodup =>
    rw [placed]
    exact nodup.append ((List.nodup_finRange n).filter _) fun node before rest =>
      mem_outside.mp rest before
  case all =>
    intro node
    rw [placed, List.mem_append, mem_outside]
    exact Classical.em _
  case opened =>
    intro slot member
    rw [split] at member
    rcases List.mem_append.mp member with before | new
    · exact (opened slot before).trans_le cursors
    · exact (rows slot new).2

end Rest

/-! ### Placements of flows -/

section Flows

variable [Scalar α] (nodes : List Node) (links : List (Link nodes.length))
  (width : Fin nodes.length → α) (spacing : α)

/-- What the walks from all starts place. -/
def walked : Placement α nodes.length :=
  (startNodes nodes links).foldl (walkFrom (successors links) width spacing) .empty

theorem placement_eq :
    placement nodes links width spacing =
      placeRest width spacing (walked nodes links width spacing) := by
  have table : (Vector.ofFn (successors links)).get = successors links := by
    funext node
    exact Vector.getElem_ofFn _
  simp only [placement, walked, table]

theorem walked_ready :
    Ready (successors links) width spacing (startNodes nodes links)
      (walked nodes links width spacing) [] :=
  Ready.walkAll ..

theorem placement_complete : Complete (placement nodes links width spacing) := by
  rw [placement_eq]
  apply placeRest_complete
  · exact walkAll_placed_nodup _ .nil
  · exact (walked_ready nodes links width spacing).placed_opened

/-- Every start opens a row, after the starts before it and below all rows used by then. -/
theorem start_opens {front back : List (Fin nodes.length)} {start : Fin nodes.length}
    (split : startNodes nodes links = front ++ start :: back) :
    ∃ earlier row later,
      (placement nodes links width spacing).slots = earlier ++ ⟨start, row, Scalar.zero⟩ :: later ∧
        front ⊆ earlier.map Slot.node ∧ (∀ slot ∈ earlier, slot.row < row) ∧
        ∀ slot ∈ later, row ≤ slot.row := by
  let next := successors links
  let before : Placement α nodes.length := front.foldl (walkFrom next width spacing) .empty
  have whole : placement nodes links width spacing = placeRest width spacing
      (back.foldl (walkFrom next width spacing) (walkFrom next width spacing before start)) := by
    rw [placement_eq, walked, split, List.foldl_append, List.foldl_cons]
  have ready : Ready next width spacing front before [] := Ready.walkAll ..
  have unplaced : start ∉ before.placed := start_unplaced split
  have extended : Extends (before.slots ++ [⟨start, before.cursors.length, Scalar.zero⟩])
      before.cursors.length (placement nodes links width spacing) [] := by
    rw [whole]
    exact ((walkFrom_unplaced unplaced).walkAll back).placeRest
  obtain ⟨later, slots, below⟩ := extended.slots
  refine ⟨before.slots, before.cursors.length, later, ?_, starts_placed front,
    ready.placed_opened, below⟩
  rw [slots, List.append_assoc, List.singleton_append]

/-- Behind what the walks have placed come the nodes that they do not come to, on a row below. -/
theorem placement_slots :
    ∃ rest, (placement nodes links width spacing).slots =
        (walked nodes links width spacing).slots ++ rest ∧
      ∀ slot ∈ rest, slot.row = (walked nodes links width spacing).cursors.length := by
  rw [placement_eq]
  obtain ⟨_, rest, split, _, rows⟩ :=
    placeRest_slots width spacing (walked nodes links width spacing)
  exact ⟨rest, split, fun slot member => (rows slot member).1⟩

end Flows

end TextDiagram.Flow
