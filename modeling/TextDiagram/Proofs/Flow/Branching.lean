import TextDiagram.Proofs.Flow.Coverage

/-!
# Branching

How the walks of a flow go on behind a node with several ways on. Main statement: of the successors
still to be placed, the one that reaches most nodes comes next on the row; when one of the others
has its turn, an earlier branch has come to it, or it opens a row of its own in the same column,
below the node, below all rows that were open before the node was placed, and below the rows that
earlier branches have opened.
-/
namespace TextDiagram.Flow

variable {α : Type} {n : Nat}

/-! ### Ranks -/

section Ranks

variable {β : Type}

theorem atLeast_trans (a b c : β × Nat) (ab : decide (b.2 ≤ a.2) = true)
    (bc : decide (c.2 ≤ b.2) = true) : decide (c.2 ≤ a.2) = true := by
  simp only [decide_eq_true_eq] at ab bc ⊢
  exact bc.trans ab

theorem atLeast_total (a b : β × Nat) : (decide (b.2 ≤ a.2) || decide (a.2 ≤ b.2)) = true := by
  simpa using Nat.le_total b.2 a.2

/-- Sorting does not touch the order of items with one number. -/
theorem mergeSort_filter (items : List (β × Nat)) (count : Nat) :
    (items.mergeSort fun a b => b.2 ≤ a.2).filter (·.2 = count) =
      items.filter (·.2 = count) := by
  have alike : (items.filter (·.2 = count)).Pairwise fun a b => decide (b.2 ≤ a.2) = true := by
    apply List.pairwise_of_forall_mem_list
    intro a a_member b b_member
    have a_count := (List.mem_filter.mp a_member).2
    have b_count := (List.mem_filter.mp b_member).2
    simp only [decide_eq_true_eq] at a_count b_count ⊢
    exact (b_count.trans a_count.symm).le
  -- A list in order stays a sublist when more is sorted with it; here it has its full length.
  have kept := (List.sublist_mergeSort atLeast_trans atLeast_total alike
    List.filter_sublist).filter fun item => decide (item.2 = count)
  simp only [List.filter_filter, Bool.and_self] at kept
  have same_length := ((List.mergeSort_perm items fun a b => decide (b.2 ≤ a.2)).filter
    fun item => decide (item.2 = count)).length_eq
  exact (kept.eq_of_length same_length.symm).symm

/-- Nodes in the order of how many nodes they reach, the greatest number first. Where numbers are
equal the order is the given one. -/
structure Ranked (next : Fin n → List (Fin n)) (given ranking : List (Fin n)) : Prop where
  perm : ranking.Perm given
  descending : ranking.Pairwise fun before behind => reach next behind ≤ reach next before
  ties : ∀ count, ranking.filter (reach next · = count) = given.filter (reach next · = count)

theorem ranked_eq_sort (next : Fin n → List (Fin n)) (given : List (Fin n)) :
    ranked next given =
      ((given.map fun node => (node, reach next node)).mergeSort fun a b => b.2 ≤ a.2).map
        Prod.fst := by
  unfold ranked
  split
  · simp
  · rfl

theorem ranked_ranked (next : Fin n → List (Fin n)) (given : List (Fin n)) :
    Ranked next given (ranked next given) := by
  let counted := given.map fun node => (node, reach next node)
  let sorted := counted.mergeSort fun a b => b.2 ≤ a.2
  have number {item : Fin n × Nat} (member : item ∈ sorted) : reach next item.1 = item.2 := by
    obtain ⟨node, _, rfl⟩ := List.mem_map.mp ((List.mergeSort_perm ..).mem_iff.mp member)
    rfl
  rw [ranked_eq_sort]
  constructor
  case perm => exact ranked_eq_sort next given ▸ ranked_perm next given
  case descending =>
    rw [List.pairwise_map]
    have descending : sorted.Pairwise fun a b => decide (b.2 ≤ a.2) = true :=
      List.pairwise_mergeSort atLeast_trans atLeast_total counted
    refine descending.imp_of_mem fun before behind at_least => ?_
    rw [number before, number behind]
    exact of_decide_eq_true at_least
  case ties =>
    intro count
    calc (sorted.map Prod.fst).filter (reach next · = count)
      _ = (sorted.filter (·.2 = count)).map Prod.fst := by
        rw [List.filter_map]
        congr 1
        refine List.filter_congr fun item member => ?_
        rw [Function.comp_apply, number member]
      _ = (counted.filter (·.2 = count)).map Prod.fst := by rw [mergeSort_filter]
      _ = given.filter (reach next · = count) := by
        simp [counted, List.filter_map, Function.comp_def]

end Ranks

/-! ### Moments of the walks -/

variable [Scalar α]

/-- What comes of placing a node on a row: the placement with the rows that the node opens, and the
branches behind it. -/
def moved (next : Fin n → List (Fin n)) (width : Fin n → α) (spacing : α)
    (placement : Placement α n) (node : Fin n) (row : Nat) :
    Placement α n × List (Fin n × Nat) :=
  branch next (placement.place node row (width node) spacing) row node

/-- A moment while the walks go on from these starts: what has been placed, the branches still to
be walked and the starts behind them. -/
inductive Moment (next : Fin n → List (Fin n)) (width : Fin n → α) (spacing : α)
    (starts : List (Fin n)) : Placement α n → List (Fin n × Nat) → List (Fin n) → Prop where
  | begin : Moment next width spacing starts .empty [] starts
  | pass {placement : Placement α n} {start : Fin n} {later : List (Fin n)}
      (before : Moment next width spacing starts placement [] (start :: later))
      (placed : start ∈ placement.placed) : Moment next width spacing starts placement [] later
  | start {placement : Placement α n} {start : Fin n} {later : List (Fin n)}
      (before : Moment next width spacing starts placement [] (start :: later))
      (unplaced : start ∉ placement.placed) :
      Moment next width spacing starts (placement.openRow Scalar.zero)
        [(start, placement.cursors.length)] later
  | skip {placement : Placement α n} {node : Fin n} {row : Nat} {rest : List (Fin n × Nat)}
      {later : List (Fin n)}
      (before : Moment next width spacing starts placement ((node, row) :: rest) later)
      (placed : node ∈ placement.placed) : Moment next width spacing starts placement rest later
  | step {placement : Placement α n} {node : Fin n} {row : Nat} {rest : List (Fin n × Nat)}
      {later : List (Fin n)}
      (before : Moment next width spacing starts placement ((node, row) :: rest) later)
      (unplaced : node ∉ placement.placed) :
      Moment next width spacing starts (moved next width spacing placement node row).1
        ((moved next width spacing placement node row).2 ++ rest) later

variable {next : Fin n → List (Fin n)} {width : Fin n → α} {spacing : α}
  {starts later : List (Fin n)} {placement : Placement α n} {node : Fin n} {row : Nat}
  {rest branches : List (Fin n × Nat)}

namespace Moment

/-- From every moment the walks go on to the same end. -/
theorem walkAll_eq (moment : Moment next width spacing starts placement branches later) :
    starts.foldl (walkFrom next width spacing) .empty =
      later.foldl (walkFrom next width spacing) (walk next width spacing placement branches) := by
  induction moment with
  | begin => rw [walk_nil]
  | pass _ placed ih =>
    rw [ih, walk_nil, List.foldl_cons, walkFrom, if_pos (by simpa using placed)]
  | start _ unplaced ih =>
    rw [ih, walk_nil, List.foldl_cons, walkFrom, if_neg (by simpa using unplaced)]
  | skip _ placed ih => rw [ih, walk_skip placed]
  | step _ unplaced ih =>
    rw [ih, walk_place unplaced]
    rfl

theorem holds {holds : Placement α n → List (Fin n × Nat) → Prop}
    (moment : Moment next width spacing starts placement branches later)
    (invariant : Invariant next width spacing starts holds) (initially : holds .empty []) :
    holds placement branches := by
  have kept : holds placement branches ∧ later ⊆ starts := by
    induction moment with
    | begin => exact ⟨initially, List.Subset.refl starts⟩
    | pass _ _ ih => exact ⟨ih.1, (List.cons_subset.mp ih.2).2⟩
    | start _ _ ih =>
      obtain ⟨among, rest_among⟩ := List.cons_subset.mp ih.2
      exact ⟨invariant.start _ _ among ih.1, rest_among⟩
    | skip _ placed ih => exact ⟨invariant.skip _ _ _ _ placed ih.1, ih.2⟩
    | step _ unplaced ih => exact ⟨invariant.step _ _ _ _ unplaced ih.1, ih.2⟩
  exact kept.1

theorem ready (moment : Moment next width spacing starts placement branches later) :
    Ready next width spacing starts placement branches :=
  moment.holds Ready.invariant .empty

/-- The moment when the first branches have been walked to their ends. -/
theorem walk (moment : Moment next width spacing starts placement (branches ++ rest) later) :
    Moment next width spacing starts (Flow.walk next width spacing placement branches) rest
      later := by
  fun_induction Flow.walk next width spacing placement branches with
  | case1 => exact moment
  | case2 placement node row _ placed ih => exact ih (moment.skip (by simpa using placed))
  | case3 placement node row _ unplaced moved ih =>
    apply ih
    rw [List.append_assoc]
    exact moment.step (by simpa using unplaced)

/-- A node has its place as soon as it has its turn, and the walks go on behind it. -/
theorem slots (moment : Moment next width spacing starts placement ((node, row) :: rest) later)
    (unplaced : node ∉ placement.placed) :
    ∃ more, (starts.foldl (walkFrom next width spacing) .empty).slots =
      placement.slots ++ ⟨node, row, placement.cursor row⟩ :: more := by
  let slot : Slot α n := ⟨node, row, placement.cursor row⟩
  -- Walks never take a slot back, so what has been placed stays in front of what comes.
  have extended : Extends (placement.slots ++ [slot]) 0
      (placement.place node row (width node) spacing) rest :=
    ⟨Nat.zero_le _, ⟨[], by simp [Placement.place, slot]⟩, fun _ _ _ => Nat.zero_le _⟩
  have invariant : Invariant next width spacing starts (Extends (placement.slots ++ [slot]) 0) :=
    Extends.invariant starts
  have ended : Extends (placement.slots ++ [slot]) 0
      (later.foldl (walkFrom next width spacing) (Flow.walk next width spacing
        (moved next width spacing placement node row).1
        ((moved next width spacing placement node row).2 ++ rest))) [] :=
    (invariant.walk (extended.branch node (Nat.zero_le row))).walkAll later
  obtain ⟨more, split, _⟩ := ended.slots
  refine ⟨more, ?_⟩
  rw [moment.walkAll_eq, walk_place unplaced, ← moved, split, List.append_assoc]
  rfl

end Moment

/-- The walks come to the node at a moment when it is still to be placed. -/
def HasTurn (next : Fin n → List (Fin n)) (width : Fin n → α) (spacing : α)
    (starts : List (Fin n)) (node : Fin n) : Prop :=
  ∃ placement row rest later,
    Moment next width spacing starts placement ((node, row) :: rest) later ∧
      node ∉ placement.placed

theorem Moment.walk_placed
    (moment : Moment next width spacing starts placement (branches ++ rest) later) {other : Fin n}
    (placed : other ∈ (Flow.walk next width spacing placement branches).placed) :
    other ∈ placement.placed ∨ HasTurn next width spacing starts other := by
  fun_induction Flow.walk next width spacing placement branches with
  | case1 => exact .inl placed
  | case2 placement node row _ node_placed ih =>
    exact ih (moment.skip (by simpa using node_placed)) placed
  | case3 placement node row waiting unplaced opened ih =>
    have unplaced : node ∉ placement.placed := by simpa using unplaced
    have next_moment :
        Moment next width spacing starts opened.1 (opened.2 ++ waiting ++ rest) later := by
      rw [List.append_assoc]
      exact moment.step unplaced
    rcases ih next_moment placed with before | turn
    · rw [branch_place_placed, List.mem_append, List.mem_singleton] at before
      rcases before with before | rfl
      · exact .inl before
      · exact .inr ⟨placement, row, _, _, moment, unplaced⟩
    · exact .inr turn

theorem Moment.walkAll_placed (moment : Moment next width spacing starts placement [] later)
    {other : Fin n}
    (placed : other ∈ (later.foldl (walkFrom next width spacing) placement).placed) :
    other ∈ placement.placed ∨ HasTurn next width spacing starts other := by
  induction later generalizing placement with
  | nil => exact .inl placed
  | cons start later ih =>
    rw [List.foldl_cons, walkFrom] at placed
    by_cases start_placed : start ∈ placement.placed
    · rw [if_pos (by simpa using start_placed)] at placed
      exact ih (moment.pass start_placed) placed
    · rw [if_neg (by simpa using start_placed)] at placed
      have started : Moment next width spacing starts (placement.openRow Scalar.zero)
          ([(start, placement.cursors.length)] ++ []) later := moment.start start_placed
      rcases ih started.walk placed with before | turn
      · exact started.walk_placed before
      · exact .inr turn

theorem hasTurn_of_placed
    (placed : node ∈ (starts.foldl (walkFrom next width spacing) .empty).placed) :
    HasTurn next width spacing starts node :=
  (Moment.begin.walkAll_placed placed).resolve_left (by simp [Placement.placed, Placement.empty])

/-! ### Rows still to be used -/

/-- The row has been opened at this column, and so far nothing has been placed on it. -/
structure Untouched (row : Nat) (column : α) (placement : Placement α n)
    (branches : List (Fin n × Nat)) : Prop where
  opened : row < placement.cursors.length
  column : placement.cursor row = column
  unused : onRow placement.slots row = []
  free : row ∉ branches.map Prod.snd

namespace Untouched

variable {column : α}

theorem openRows (untouched : Untouched row column placement branches) (columns : List α) :
    Untouched row column (placement.openRows columns) branches where
  opened := by
    have before := untouched.opened
    simp only [Placement.openRows, List.length_append]
    omega
  column := by
    rw [Placement.cursor_openRows_of_lt placement columns untouched.opened]
    exact untouched.column
  unused := untouched.unused
  free := untouched.free

theorem with_branches (untouched : Untouched row column placement rest)
    (free : row ∉ branches.map Prod.snd) : Untouched row column placement branches :=
  { untouched with free }

theorem skip {branch : Fin n × Nat}
    (untouched : Untouched row column placement (branch :: rest)) :
    Untouched row column placement rest :=
  untouched.with_branches fun used => untouched.free (List.mem_cons_of_mem _ used)

theorem place {other : Nat} (untouched : Untouched row column placement ((node, other) :: rest))
    (width spacing : α) : Untouched row column (placement.place node other width spacing) rest := by
  have different : other ≠ row := by
    rintro rfl
    exact untouched.free List.mem_cons_self
  constructor
  case opened =>
    rw [Placement.place_cursors_length]
    exact untouched.opened
  case column =>
    rw [Placement.cursor_place_of_ne placement node width spacing different]
    exact untouched.column
  case unused =>
    rw [Placement.place, onRow_append_of_ne _ different]
    exact untouched.unused
  case free => exact untouched.skip.free

theorem branch (untouched : Untouched row column placement rest) (node : Fin n) {other : Nat}
    (different : other ≠ row) :
    let moved := Flow.branch next placement other node
    Untouched row column moved.1 (moved.2 ++ rest) := by
  intro moved
  rcases branch_cases next placement other node with ⟨_, ends⟩ | ⟨first, others, _, forks⟩
  · simp only [moved, ends, List.nil_append]
    exact untouched
  · simp only [moved, forks]
    refine (untouched.openRows _).with_branches ?_
    have opened := untouched.opened
    simp only [List.cons_append, List.map_cons, List.map_append, List.zipIdx_map_snd,
      List.mem_cons, List.mem_append, List.mem_range'_1]
    -- The row of the node itself, a row opened just now, or one that was waited for before.
    rintro (here | new | waiting)
    · exact different here.symm
    · omega
    · exact untouched.free waiting

theorem invariant (starts : List (Fin n)) :
    Invariant next width spacing starts (Untouched row column) where
  start := by
    intro placement start _ untouched
    apply (untouched.openRows [Scalar.zero]).with_branches
    simpa using untouched.opened.ne
  skip := fun _ _ _ _ _ untouched => untouched.skip
  step := by
    intro placement node other rest _ untouched
    refine (untouched.place (width node) spacing).branch node ?_
    rintro rfl
    exact untouched.free List.mem_cons_self

end Untouched

/-! ### Turns of the branches -/

/-- The successors of a node that are still to be placed when the node has been. -/
def waiting (next : Fin n → List (Fin n)) (placement : Placement α n) (node : Fin n) :
    List (Fin n) :=
  (next node).filter fun target => target ∉ placement.placed ++ [node]

/-- The placement when the branch of this rank behind a node has its turn: the branches before it
have been walked to their ends. -/
def turn (next : Fin n → List (Fin n)) (width : Fin n → α) (spacing : α)
    (placement : Placement α n) (node : Fin n) (row rank : Nat) : Placement α n :=
  let moved := moved next width spacing placement node row
  walk next width spacing moved.1 (moved.2.take rank)

theorem moved_eq (width : Fin n → α) (spacing : α) (row : Nat)
    {first : Fin n} {others : List (Fin n)}
    (ranking : ranked next (waiting next placement node) = first :: others) :
    let placed := placement.place node row (width node) spacing
    moved next width spacing placement node row =
      (placed.openRows (List.replicate others.length (placed.cursor row)),
        (first, row) :: others.zipIdx placement.cursors.length) := by
  intro placed
  have same : (next node).filter (fun target => !placed.placed.contains target) =
      waiting next placement node := by
    simp only [placed, Placement.place_placed, waiting, List.contains_eq_mem, decide_not]
  simp only [moved, branch, openBranches_eq, placed, same, ranking,
    Placement.place_cursors_length]

theorem moved_placed (width : Fin n → α) (spacing : α) (row : Nat) :
    (moved next width spacing placement node row).1.placed = placement.placed ++ [node] :=
  branch_place_placed ..

namespace Moment

/-- The moment when a branch behind a node has its turn. -/
theorem turn (moment : Moment next width spacing starts placement ((node, row) :: rest) later)
    (unplaced : node ∉ placement.placed) (rank : Nat) :
    Moment next width spacing starts (Flow.turn next width spacing placement node row rank)
      ((moved next width spacing placement node row).2.drop rank ++ rest) later := by
  have after := moment.step unplaced
  rw [← List.take_append_drop rank (moved next width spacing placement node row).2,
    List.append_assoc] at after
  exact after.walk

variable {first target : Fin n} {others : List (Fin n)}

/-- The first branch goes on on the row of the node, right behind it. -/
theorem first_slots
    (moment : Moment next width spacing starts placement ((node, row) :: rest) later)
    (unplaced : node ∉ placement.placed)
    (ranking : ranked next (waiting next placement node) = first :: others) :
    ∃ earlier more, (starts.foldl (walkFrom next width spacing) .empty).slots =
      earlier ++ ⟨first, row, placement.cursor row + (width node + spacing)⟩ :: more := by
  have opened : row < placement.cursors.length :=
    moment.ready.opened node row List.mem_cons_self
  have first_waiting : first ∈ waiting next placement node :=
    (ranked_perm next _).mem_iff.mp (ranking ▸ List.mem_cons_self)
  have still : first ∉ placement.placed ++ [node] := by
    simpa using (List.mem_filter.mp first_waiting).2
  have after := moment.step unplaced
  have forks := moved_eq width spacing row ranking
  rw [forks] at after
  have column : ((placement.place node row (width node) spacing).openRows
      (List.replicate others.length ((placement.place node row (width node) spacing).cursor
        row))).cursor row = placement.cursor row + (width node + spacing) := by
    rw [Placement.cursor_openRows_of_lt _ _ (by rwa [Placement.place_cursors_length]),
      Placement.cursor_place_self placement node _ _ opened]
  obtain ⟨more, split⟩ := after.slots (by
    rw [← moved_placed width spacing row, forks] at still
    exact still)
  rw [column] at split
  exact ⟨_, more, split⟩

/-- The row of another branch waits at the column of the first until the branch has its turn. -/
theorem untouched_turn
    (moment : Moment next width spacing starts placement ((node, row) :: rest) later)
    (ranking : ranked next (waiting next placement node) = first :: others) {k : Nat}
    (inside : k < others.length) :
    Untouched (placement.cursors.length + k) (placement.cursor row + (width node + spacing))
      (Flow.turn next width spacing placement node row (k + 1)) [] := by
  let placed := placement.place node row (width node) spacing
  have opened : row < placement.cursors.length :=
    moment.ready.opened node row List.mem_cons_self
  have placed_length : placed.cursors.length = placement.cursors.length :=
    Placement.place_cursors_length ..
  have forks := moved_eq width spacing row ranking
  have before : Untouched (placement.cursors.length + k)
      (placement.cursor row + (width node + spacing))
      (placed.openRows (List.replicate others.length (placed.cursor row)))
      (((first, row) :: others.zipIdx placement.cursors.length).take (k + 1)) := by
    constructor
    case opened =>
      simp only [Placement.openRows, List.length_append, List.length_replicate, placed_length]
      omega
    case column =>
      rw [← placed_length, Placement.cursor_openRows_new _ _ inside,
        Placement.cursor_place_self placement node _ _ opened]
    case unused =>
      apply onRow_eq_nil
      intro slot member
      have above := moment.ready.place.placed_opened slot member
      rw [placed_length] at above
      omega
    case free =>
      -- The branches before are on the row of the node and on the new rows above this one.
      intro among
      rw [List.take_succ_cons, List.map_cons, List.mem_cons, List.map_take,
        List.zipIdx_map_snd] at among
      rcases among with here | earlier
      · omega
      · obtain ⟨index, bound, same⟩ := List.mem_take_iff_getElem.mp earlier
        simp at same
        omega
  have invariant : Invariant next width spacing starts (Untouched (placement.cursors.length + k)
      (placement.cursor row + (width node + spacing))) :=
    Untouched.invariant starts
  rw [Flow.turn, forks]
  exact invariant.walk before

/-- Another branch opens its row, when no branch before it has come to its node. -/
theorem other_slots
    (moment : Moment next width spacing starts placement ((node, row) :: rest) later)
    (unplaced : node ∉ placement.placed)
    (ranking : ranked next (waiting next placement node) = first :: others) {k : Nat}
    (target_at : others[k]? = some target)
    (still : target ∉ (Flow.turn next width spacing placement node row (k + 1)).placed) :
    ∃ earlier more, (starts.foldl (walkFrom next width spacing) .empty).slots =
      earlier ++ ⟨target, placement.cursors.length + k,
        placement.cursor row + (width node + spacing)⟩ :: more ∧
      onRow earlier (placement.cursors.length + k) = [] := by
  obtain ⟨inside, is_target⟩ := List.getElem?_eq_some_iff.mp target_at
  have untouched := moment.untouched_turn ranking inside
  have now := moment.turn unplaced (k + 1)
  have forks := moved_eq width spacing row ranking
  have branch_inside : k < (others.zipIdx placement.cursors.length).length := by simpa using inside
  rw [forks, List.drop_succ_cons, List.drop_eq_getElem_cons branch_inside, List.cons_append,
    List.getElem_zipIdx, is_target] at now
  obtain ⟨more, split⟩ := now.slots still
  rw [untouched.column] at split
  exact ⟨_, more, split, untouched.unused⟩

end Moment

/-- What has been placed by a turn, but not when the node was, has been placed by one of the
branches before. -/
theorem placed_between {target : Fin n} {rank : Nat}
    (fresh : target ∉ (turn next width spacing placement node row 0).placed)
    (placed : target ∈ (turn next width spacing placement node row rank).placed) :
    ∃ earlier < rank, target ∉ (turn next width spacing placement node row earlier).placed ∧
      target ∈ (turn next width spacing placement node row (earlier + 1)).placed := by
  induction rank with
  | zero => exact absurd placed fresh
  | succ rank ih =>
    by_cases before : target ∈ (turn next width spacing placement node row rank).placed
    · obtain ⟨earlier, bound, crossing⟩ := ih before
      exact ⟨earlier, by omega, crossing⟩
    · exact ⟨rank, by omega, before, placed⟩

/-! ### Main statement -/

section Main

variable (nodes : List Node) (connections : List Connection) (config : Config α)

/-- A moment of the walks of the layout. -/
def LayoutMoment (before : Placement α nodes.length) (branches : List (Fin nodes.length × Nat))
    (later : List (Fin nodes.length)) : Prop :=
  Moment (successors (links nodes connections)) (nodeWidth nodes) config.horizontalSpacing
    (startNodes nodes (links nodes connections)) before branches later

variable (before : Placement α nodes.length) (gate : Fin nodes.length) (row : Nat)

/-- The nodes that the branches behind a node begin with, in the order of their turns. -/
def targets : List (Fin nodes.length) :=
  let next := successors (links nodes connections)
  ranked next (waiting next before gate)

/-- What has been placed when the branch of this rank has its turn. -/
def placedAtTurn (rank : Nat) : List (Fin nodes.length) :=
  (turn (successors (links nodes connections)) (nodeWidth nodes) config.horizontalSpacing before
    gate row rank).placed

/-- A branch opens a row: its node is the first one on the row, in the column behind the gate. The
row is below the gate, below all rows that were open before the gate was placed, and below the rows
that branches before it have opened. -/
structure OpensRow (rank : Nat) (target : Fin nodes.length) : Prop where
  still : target ∉ placedAtTurn nodes connections config before gate row rank
  first : (rowNodes nodes connections config
    (rowNumber nodes connections config target)).head? = some target
  behind : Behind nodes connections config gate target
  below_gate : rowNumber nodes connections config gate < rowNumber nodes connections config target
  below_open : ∀ slot ∈ (laidOut nodes connections config).slots,
    slot.row < before.cursors.length →
      rowNumber nodes connections config slot.node < rowNumber nodes connections config target
  below_branches : ∀ earlier other, 0 < earlier → earlier < rank →
    (targets nodes connections before gate)[earlier]? = some other →
    other ∉ placedAtTurn nodes connections config before gate row earlier →
      rowNumber nodes connections config other < rowNumber nodes connections config target

/-- What becomes of the branches behind a node. -/
structure Branched : Prop where
  /-- Branches have their turns in the order of how many nodes they reach. -/
  ranking : Ranked (successors (links nodes connections))
    (waiting (successors (links nodes connections)) before gate)
    (targets nodes connections before gate)
  /-- The first branch goes on on the row of the gate. -/
  first : ∀ target, (targets nodes connections before gate)[0]? = some target →
    rowNumber nodes connections config target = rowNumber nodes connections config gate ∧
      Behind nodes connections config gate target
  /-- At its turn another branch opens a row, unless a branch before it has come to its node. -/
  others : ∀ rank target, 0 < rank →
    (targets nodes connections before gate)[rank]? = some target →
      (∃ earlier < rank,
          target ∉ placedAtTurn nodes connections config before gate row earlier ∧
          target ∈ placedAtTurn nodes connections config before gate row (earlier + 1)) ∨
        OpensRow nodes connections config before gate row rank target

variable {nodes connections config before gate row} {rest : List (Fin nodes.length × Nat)}
  {later : List (Fin nodes.length)}

theorem gate_slot
    (moment : LayoutMoment nodes connections config before ((gate, row) :: rest) later)
    (unplaced : gate ∉ before.placed) :
    ⟨gate, row, before.cursor row⟩ ∈ (laidByWalks nodes connections config).slots := by
  obtain ⟨more, split⟩ := moment.slots unplaced
  exact split ▸ List.mem_append_right _ List.mem_cons_self

theorem behind_of_target {slot : Slot α nodes.length}
    (moment : LayoutMoment nodes connections config before ((gate, row) :: rest) later)
    (unplaced : gate ∉ before.placed)
    (placed : slot ∈ (laidByWalks nodes connections config).slots)
    (among : slot.node ∈ targets nodes connections before gate)
    (column : slot.x = before.cursor row + (nodeWidth nodes gate + config.horizontalSpacing)) :
    Behind nodes connections config gate slot.node := by
  have is_waiting := (ranked_perm _ _).mem_iff.mp among
  exact behind_of_link (gate_slot moment unplaced) placed (List.mem_filter.mp is_waiting).1 column

theorem first_behind {first : Fin nodes.length}
    (moment : LayoutMoment nodes connections config before ((gate, row) :: rest) later)
    (unplaced : gate ∉ before.placed)
    (is_first : (targets nodes connections before gate)[0]? = some first) :
    rowNumber nodes connections config first = rowNumber nodes connections config gate ∧
      Behind nodes connections config gate first := by
  have among : first ∈ targets nodes connections before gate := List.mem_of_getElem? is_first
  cases ranking : targets nodes connections before gate with
  | nil => simp [ranking] at is_first
  | cons head others =>
    rw [ranking, List.getElem?_cons_zero, Option.some.injEq] at is_first
    subst is_first
    obtain ⟨earlier, more, split⟩ := moment.first_slots unplaced ranking
    let slot : Slot α nodes.length :=
      ⟨head, row, before.cursor row + (nodeWidth nodes gate + config.horizontalSpacing)⟩
    have placed : slot ∈ (laidByWalks nodes connections config).slots :=
      split ▸ List.mem_append_right _ List.mem_cons_self
    refine ⟨?_, behind_of_target moment unplaced placed among rfl⟩
    exact ((laidOut_complete nodes connections config).rowOf_inj (laidOut_of_walked placed)
      (laidOut_of_walked (gate_slot moment unplaced))).mpr rfl

/-- The slot of a branch that opens its row. -/
theorem exists_opening {k : Nat} {target : Fin nodes.length}
    (moment : LayoutMoment nodes connections config before ((gate, row) :: rest) later)
    (unplaced : gate ∉ before.placed)
    (target_at : (targets nodes connections before gate)[k + 1]? = some target)
    (still : target ∉ placedAtTurn nodes connections config before gate row (k + 1)) :
    ∃ slot ∈ (laidByWalks nodes connections config).slots,
      slot.node = target ∧ slot.row = before.cursors.length + k ∧
      slot.x = before.cursor row + (nodeWidth nodes gate + config.horizontalSpacing) ∧
      (onRow (laidByWalks nodes connections config).slots slot.row).head? = some slot := by
  cases ranking : targets nodes connections before gate with
  | nil => simp [ranking] at target_at
  | cons first others =>
    rw [ranking, List.getElem?_cons_succ] at target_at
    obtain ⟨earlier, more, split, unused⟩ := moment.other_slots unplaced ranking target_at still
    change (laidByWalks nodes connections config).slots = _ at split
    refine ⟨_, split ▸ List.mem_append_right _ List.mem_cons_self, rfl, rfl, rfl, ?_⟩
    rw [split, onRow_append, unused, List.nil_append]
    simp [onRow]

theorem opensRow_of_still {k : Nat} {target : Fin nodes.length}
    (moment : LayoutMoment nodes connections config before ((gate, row) :: rest) later)
    (unplaced : gate ∉ before.placed)
    (target_at : (targets nodes connections before gate)[k + 1]? = some target)
    (still : target ∉ placedAtTurn nodes connections config before gate row (k + 1)) :
    OpensRow nodes connections config before gate row (k + 1) target := by
  have complete := laidOut_complete nodes connections config
  have row_open : row < before.cursors.length := moment.ready.opened gate row List.mem_cons_self
  obtain ⟨slot, placed, rfl, slot_row, column, is_first⟩ :=
    exists_opening moment unplaced target_at still
  -- The rows of the layout stand in the order in which the walks have opened them.
  have lower {other : Slot α nodes.length}
      (other_placed : other ∈ (laidOut nodes connections config).slots)
      (above : other.row < before.cursors.length + k) :
      rowNumber nodes connections config other.node <
        rowNumber nodes connections config slot.node :=
    (complete.rowOf_lt other_placed (laidOut_of_walked placed)).mpr (slot_row ▸ above)
  constructor
  case still => exact still
  case first =>
    rw [rowNodes_of_walked placed, List.head?_map, is_first]
    rfl
  case behind =>
    exact behind_of_target moment unplaced placed (List.mem_of_getElem? target_at) column
  case below_gate =>
    exact lower (laidOut_of_walked (gate_slot moment unplaced)) (Nat.lt_add_right k row_open)
  case below_open =>
    exact fun other other_placed above => lower other_placed (Nat.lt_add_right k above)
  case below_branches =>
    intro earlier other not_first bound other_at other_still
    obtain ⟨j, rfl⟩ := Nat.exists_eq_succ_of_ne_zero not_first.ne'
    obtain ⟨other_slot, other_placed, rfl, other_row, _⟩ :=
      exists_opening moment unplaced other_at other_still
    exact lower (laidOut_of_walked other_placed) (by omega)

/-- Every node that the walks place has its turn at a moment when it is still to be placed. At
whatever moment that is, the first of its branches goes on on its row; each other branch at its turn
opens a row below, in the same column, unless an earlier one has come to its node. -/
theorem layout_branches (nodes : List Node) (connections : List Connection) (config : Config α) :
    (∀ gate ∈ (laidByWalks nodes connections config).placed, ∃ before row rest later,
      LayoutMoment nodes connections config before ((gate, row) :: rest) later ∧
        gate ∉ before.placed) ∧
    ∀ before gate row rest later,
      LayoutMoment nodes connections config before ((gate, row) :: rest) later →
        gate ∉ before.placed → Branched nodes connections config before gate row := by
  constructor
  · exact fun gate placed => hasTurn_of_placed placed
  intro before gate row rest later moment unplaced
  constructor
  case ranking => exact ranked_ranked ..
  case first => exact fun target is_first => first_behind moment unplaced is_first
  case others =>
    intro rank target not_first target_at
    obtain ⟨k, rfl⟩ := Nat.exists_eq_succ_of_ne_zero not_first.ne'
    by_cases placed : target ∈ placedAtTurn nodes connections config before gate row (k + 1)
    · left
      have is_waiting := (ranked_perm _ _).mem_iff.mp (List.mem_of_getElem? target_at)
      refine placed_between ?_ placed
      rw [turn, List.take_zero, walk_nil, moved_placed]
      simpa using (List.mem_filter.mp is_waiting).2
    · exact .inr (opensRow_of_still moment unplaced target_at placed)

/-- Three ways on behind a gateway: the first branch comes to the node of the second, and the third
opens a row. -/
theorem layout_branches_of_gateway :
    let task (id : String) : Node := ⟨id, id, .task, none, none⟩
    let arrow (source target : String) : Connection := ⟨source, target, none, none, false, none⟩
    let nodes : List Node :=
      [⟨"begin", "", .start, none, none⟩, ⟨"open", "", .gateway, none, none⟩, task "call",
        task "close", task "wait"]
    let connections : List Connection :=
      [arrow "begin" "open", arrow "open" "close", arrow "open" "wait", arrow "open" "call",
        arrow "call" "close"]
    let config : Config Rat := .default
    let before : Placement Rat nodes.length := ⟨[100], [⟨0, 0, 0⟩]⟩
    LayoutMoment nodes connections config before [(1, 0)] [] ∧ 1 ∉ before.placed ∧
      targets nodes connections before 1 = [2, 3, 4] ∧
      rowNumber nodes connections config 2 = rowNumber nodes connections config 1 ∧
      3 ∈ placedAtTurn nodes connections config before 1 0 1 ∧
      OpensRow nodes connections config before 1 0 2 4 := by
  intro task arrow nodes connections config before
  have linked : links nodes connections = [⟨0, 1⟩, ⟨1, 3⟩, ⟨1, 4⟩, ⟨1, 2⟩, ⟨2, 3⟩] := by
    decide +kernel
  have starts : startNodes nodes (links nodes connections) = [0] := by decide +kernel
  have at_first : LayoutMoment nodes connections config .empty [] [0] := by
    rw [← starts]
    exact .begin
  have behind_start :
      moved (successors (links nodes connections)) (nodeWidth nodes) config.horizontalSpacing
        (Placement.empty.openRow Scalar.zero) 0 0 = (before, [(1, 0)]) := by
    rw [linked]
    cbv
  have moment : LayoutMoment nodes connections config before [(1, 0)] [] := by
    have started : LayoutMoment nodes connections config (Placement.empty.openRow Scalar.zero)
        [(0, 0)] [] :=
      at_first.start (by simp [Placement.placed, Placement.empty])
    have after := started.step (by simp [Placement.placed, Placement.empty, Placement.openRow])
    rw [behind_start] at after
    exact after
  have unplaced : 1 ∉ before.placed := by decide +kernel
  have branched :=
    (layout_branches nodes connections config).2 before 1 0 [] [] moment unplaced
  have order : targets nodes connections before 1 = [2, 3, 4] := by
    rw [targets, linked]
    cbv
  have first_turn : placedAtTurn nodes connections config before 1 0 1 = [0, 1, 2, 3] := by
    rw [placedAtTurn, linked]
    cbv
  have second_turn : placedAtTurn nodes connections config before 1 0 2 = [0, 1, 2, 3] := by
    rw [placedAtTurn, linked]
    cbv
  refine ⟨moment, unplaced, order, (branched.first 2 (by rw [order]; rfl)).1, ?_, ?_⟩
  · rw [first_turn]
    decide
  · refine (branched.others 2 4 (by decide) (by rw [order]; rfl)).resolve_left ?_
    rintro ⟨earlier, bound, _, taken⟩
    interval_cases earlier
    · exact absurd (first_turn ▸ taken) (by decide)
    · exact absurd (second_turn ▸ taken) (by decide)

end Main

end TextDiagram.Flow
