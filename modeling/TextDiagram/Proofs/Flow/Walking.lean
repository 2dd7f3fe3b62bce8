import TextDiagram.Proofs.Flow.Laying

/-!
# Along the links

A walk goes along links: a node comes on a row behind a node that links to it, or opens a row, as a
start or in the column behind a node further up that links to it. Main statements: so it is for all
nodes that the walks of a flow place; a walk only uses rows of its own; and every start node opens
one.
-/
namespace TextDiagram.Flow

variable {α : Type} {n : Nat} [Scalar α]

/-- Where a node goes that comes behind another one. -/
def Slot.after (slot : Slot α n) (width : Fin n → α) (spacing : α) : α :=
  slot.x + (width slot.node + spacing)

/-- The rule of walks from these starts. -/
def linkRule (next : Fin n → List (Fin n)) (width : Fin n → α) (spacing : α)
    (starts : List (Fin n)) : Rule α n where
  follows last slot := slot.node ∈ next last.node ∧ slot.x = last.after width spacing
  opens slots slot :=
    (slot.node ∈ starts ∧ slot.x = Scalar.zero) ∨
      ∃ gate ∈ slots, gate.row < slot.row ∧ slot.node ∈ next gate.node ∧
        slot.x = gate.after width spacing

variable {next : Fin n → List (Fin n)} {width : Fin n → α} {spacing : α} {starts : List (Fin n)}

theorem linkRule_allows_append {slots : List (Slot α n)} {slot new : Slot α n}
    (allowed : (linkRule next width spacing starts).Allows slots slot)
    (other : new.row ≠ slot.row) :
    (linkRule next width spacing starts).Allows (slots ++ [new]) slot := by
  constructor
  case follows =>
    rw [onRow_append_of_ne slots other]
    exact allowed.follows
  case opens =>
    rw [onRow_append_of_ne slots other]
    intro unused
    rcases allowed.opens unused with start | ⟨gate, placed, above, link, column⟩
    · exact .inl start
    · exact .inr ⟨gate, List.mem_append_left _ placed, above, link, column⟩

/-! ### What a walk has to go on with -/

/-- The placement keeps the rule, and each branch can be walked from its row on. -/
structure Ready (next : Fin n → List (Fin n)) (width : Fin n → α) (spacing : α)
    (starts : List (Fin n)) (placement : Placement α n) (branches : List (Fin n × Nat)) : Prop where
  laid : (linkRule next width spacing starts).Laid placement.slots
  placed_opened : ∀ slot ∈ placement.slots, slot.row < placement.cursors.length
  opened : ∀ node row, (node, row) ∈ branches → row < placement.cursors.length
  allowed : ∀ node row, (node, row) ∈ branches →
    (linkRule next width spacing starts).Allows placement.slots ⟨node, row, placement.cursor row⟩
  rows_distinct : (branches.map Prod.snd).Nodup

namespace Ready

variable {placement : Placement α n} {branches rest : List (Fin n × Nat)} {node : Fin n} {row : Nat}

theorem empty : Ready next width spacing starts (.empty : Placement α n) [] where
  laid := .nil
  placed_opened := by simp [Placement.empty]
  opened := by simp
  allowed := by simp
  rows_distinct := .nil

theorem skip (ready : Ready next width spacing starts placement ((node, row) :: rest)) :
    Ready next width spacing starts placement rest where
  laid := ready.laid
  placed_opened := ready.placed_opened
  opened := fun other row member => ready.opened other row (List.mem_cons_of_mem _ member)
  allowed := fun other row member => ready.allowed other row (List.mem_cons_of_mem _ member)
  rows_distinct := (List.nodup_cons.mp ready.rows_distinct).2

theorem openRows (ready : Ready next width spacing starts placement branches) (columns : List α) :
    Ready next width spacing starts (placement.openRows columns) branches where
  laid := ready.laid
  placed_opened := by
    intro slot placed
    have before := ready.placed_opened slot placed
    simp only [Placement.openRows, List.length_append]
    omega
  opened := by
    intro node row member
    have before := ready.opened node row member
    simp only [Placement.openRows, List.length_append]
    omega
  allowed := by
    intro node row member
    rw [Placement.cursor_openRows_of_lt placement columns (ready.opened node row member)]
    exact ready.allowed node row member
  rows_distinct := ready.rows_distinct

theorem place (ready : Ready next width spacing starts placement ((node, row) :: rest)) :
    Ready next width spacing starts (placement.place node row (width node) spacing) rest where
  laid := ready.laid.snoc (ready.allowed node row List.mem_cons_self)
  placed_opened := by
    intro slot placed
    rw [Placement.place_cursors_length]
    simp only [Placement.place, List.mem_append, List.mem_singleton] at placed
    rcases placed with before | rfl
    · exact ready.placed_opened slot before
    · exact ready.opened node row List.mem_cons_self
  opened := by
    intro other row member
    rw [Placement.place_cursors_length]
    exact ready.opened other row (List.mem_cons_of_mem _ member)
  allowed := by
    intro other other_row member
    -- Each branch has a row of its own, so the place of the others stays as it was.
    have different : row ≠ other_row := by
      rintro rfl
      exact (List.nodup_cons.mp ready.rows_distinct).1 (List.mem_map.mpr ⟨_, member, rfl⟩)
    have allowed := ready.allowed other other_row (List.mem_cons_of_mem _ member)
    rw [Placement.cursor_place_of_ne placement node (width node) spacing different]
    exact linkRule_allows_append allowed different
  rows_distinct := (List.nodup_cons.mp ready.rows_distinct).2

theorem row_lt (ready : Ready next width spacing starts placement branches)
    (member : row ∈ branches.map Prod.snd) : row < placement.cursors.length := by
  obtain ⟨⟨node, row⟩, among, rfl⟩ := List.mem_map.mp member
  exact ready.opened node row among

theorem append (ready : Ready next width spacing starts placement branches)
    (more : Ready next width spacing starts placement rest)
    (apart : (branches.map Prod.snd).Disjoint (rest.map Prod.snd)) :
    Ready next width spacing starts placement (branches ++ rest) where
  laid := ready.laid
  placed_opened := ready.placed_opened
  opened := by
    intro node row member
    exact (List.mem_append.mp member).elim (ready.opened node row) (more.opened node row)
  allowed := by
    intro node row member
    exact (List.mem_append.mp member).elim (ready.allowed node row) (more.allowed node row)
  rows_distinct := by
    rw [List.map_append, List.nodup_append']
    exact ⟨ready.rows_distinct, more.rows_distinct, apart⟩

/-- A successor of a node is ready on the row that the node ends. -/
theorem follow (ready : Ready next width spacing starts placement rest) {slot : Slot α n}
    (last : (onRow placement.slots slot.row).getLast? = some slot)
    (column : placement.cursor slot.row = slot.after width spacing) {target : Fin n}
    (linked : target ∈ next slot.node) :
    Ready next width spacing starts placement [(target, slot.row)] where
  laid := ready.laid
  placed_opened := ready.placed_opened
  opened := by
    intro node row member
    cases List.mem_singleton.mp member
    exact ready.placed_opened slot (mem_onRow.mp (List.mem_of_getLast? last)).1
  allowed := by
    intro node row member
    cases List.mem_singleton.mp member
    exact Rule.allows_of_last last ⟨linked, column⟩
  rows_distinct := List.nodup_singleton _

/-- Nodes are ready on new rows that they may open. -/
theorem fresh (ready : Ready next width spacing starts placement rest) {column : α}
    {targets : List (Fin n)}
    (opens : ∀ target ∈ targets, ∀ row, placement.cursors.length ≤ row →
      (linkRule next width spacing starts).opens placement.slots ⟨target, row, column⟩) :
    Ready next width spacing starts (placement.openRows (List.replicate targets.length column))
      (targets.zipIdx placement.cursors.length) where
  laid := ready.laid
  placed_opened := (ready.openRows _).placed_opened
  opened := by
    intro target row member
    have inside := (List.mem_zipIdx member).2.1
    simpa [Placement.openRows] using inside
  allowed := by
    intro target row member
    have among : target ∈ targets := List.fst_mem_of_mem_zipIdx member
    obtain ⟨new, inside, _⟩ := List.mem_zipIdx member
    have unused : onRow placement.slots row = [] := by
      apply onRow_eq_nil
      intro slot placed
      exact Nat.ne_of_lt (Nat.lt_of_lt_of_le (ready.placed_opened slot placed) new)
    obtain ⟨k, rfl⟩ := Nat.exists_eq_add_of_le new
    rw [Placement.cursor_openRows_new placement _ (by omega)]
    exact Rule.allows_of_unused unused (opens target among _ new)
  rows_distinct := by
    rw [List.zipIdx_map_snd]
    exact List.nodup_range'

theorem fork (ready : Ready next width spacing starts placement rest) {slot : Slot α n}
    (placed : slot ∈ placement.slots) {targets : List (Fin n)}
    (linked : ∀ target ∈ targets, target ∈ next slot.node) :
    Ready next width spacing starts
      (placement.openRows (List.replicate targets.length (slot.after width spacing)))
      (targets.zipIdx placement.cursors.length) := by
  apply ready.fresh
  intro target among row new
  have above := Nat.lt_of_lt_of_le (ready.placed_opened slot placed) new
  exact .inr ⟨slot, placed, above, linked target among, rfl⟩

/-- Behind a node just placed its successors are ready, the first one on its row and the others on
new rows in the same column. -/
theorem branch (ready : Ready next width spacing starts placement rest) (slot : Slot α n)
    (last : (onRow placement.slots slot.row).getLast? = some slot)
    (column : placement.cursor slot.row = slot.after width spacing)
    (free : slot.row ∉ rest.map Prod.snd) :
    let moved := Flow.branch next placement slot.row slot.node
    Ready next width spacing starts moved.1 (moved.2 ++ rest) := by
  intro moved
  have placed : slot ∈ placement.slots := (mem_onRow.mp (List.mem_of_getLast? last)).1
  rcases branch_cases next placement slot.row slot.node with
    ⟨_, ends⟩ | ⟨first, others, perm, forks⟩
  · simp only [moved, ends, List.nil_append]
    exact ready
  · have linked (target : Fin n) (member : target ∈ first :: others) : target ∈ next slot.node :=
      (List.mem_filter.mp (perm.mem_iff.mp member)).1
    have others_ready := ready.fork placed fun target member =>
      linked target (List.mem_cons_of_mem first member)
    have first_ready := (ready.follow last column (linked first List.mem_cons_self)).openRows
      (List.replicate others.length (slot.after width spacing))
    have rest_ready := ready.openRows (List.replicate others.length (slot.after width spacing))
    have slot_opened := ready.placed_opened slot placed
    have others_new {row : Nat}
        (among : row ∈ (others.zipIdx placement.cursors.length).map Prod.snd) :
        placement.cursors.length ≤ row := by
      rw [List.zipIdx_map_snd] at among
      exact (List.mem_range'_1.mp among).1
    have waiting := others_ready.append rest_ready fun row among_others among_rest =>
      Nat.not_lt.mpr (others_new among_others) (ready.row_lt among_rest)
    have together := first_ready.append waiting (by
      intro row here elsewhere
      cases List.mem_singleton.mp here
      rw [List.map_append, List.mem_append] at elsewhere
      rcases elsewhere with among_others | among_rest
      · exact Nat.not_lt.mpr (others_new among_others) slot_opened
      · exact free among_rest)
    simp only [moved, forks, column]
    exact together

theorem step (ready : Ready next width spacing starts placement ((node, row) :: rest)) :
    let moved := Flow.branch next (placement.place node row (width node) spacing) row node
    Ready next width spacing starts moved.1 (moved.2 ++ rest) := by
  apply ready.place.branch ⟨node, row, placement.cursor row⟩
  · simp [Placement.place, onRow]
  · exact Placement.cursor_place_self placement node _ _ (ready.opened node row List.mem_cons_self)
  · exact (List.nodup_cons.mp ready.rows_distinct).1

theorem start (ready : Ready next width spacing starts placement []) (among : node ∈ starts) :
    Ready next width spacing starts (placement.openRow Scalar.zero)
      [(node, placement.cursors.length)] := by
  have opens : ∀ target ∈ [node], ∀ row, placement.cursors.length ≤ row →
      (linkRule next width spacing starts).opens placement.slots ⟨target, row, Scalar.zero⟩ := by
    intro target member row _
    cases List.mem_singleton.mp member
    exact .inl ⟨among, rfl⟩
  exact ready.fresh opens

theorem invariant :
    Invariant next width spacing starts (Ready next width spacing starts) where
  start := fun _ _ among ready => ready.start among
  skip := fun _ _ _ _ _ ready => ready.skip
  step := fun _ _ _ _ _ ready => ready.step

theorem walkAll (next : Fin n → List (Fin n)) (width : Fin n → α) (spacing : α)
    (starts : List (Fin n)) :
    Ready next width spacing starts (starts.foldl (walkFrom next width spacing) .empty) [] :=
  invariant.walkAll (List.Subset.refl starts) empty

end Ready

end TextDiagram.Flow
