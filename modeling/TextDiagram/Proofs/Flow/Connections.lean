import TextDiagram.Layout.Flow.Links

/-!
# Connections between nodes

A connection names its ends by their ids, and each id stands for the last node that has it. Main
statement: a link leads from one node to another exactly where a connection does, so that a node has
a predecessor exactly when a connection leads to it.
-/
namespace TextDiagram.Flow

/-! ### Ends of connections -/

/-- The id stands for the node: it is the last one with this id. -/
def StandsFor (nodes : List Node) (id : String) (i : Fin nodes.length) : Prop :=
  (nodes.get i).id = id ∧ ∀ j, i < j → (nodes.get j).id ≠ id

theorem lastIndex?_eq_some_iff {nodes : List Node} {id : String} {i : Fin nodes.length} :
    lastIndex? nodes id = some i ↔ StandsFor nodes id i := by
  -- The search goes through the reversed list, where places are counted from the end.
  let mirror (i : Fin nodes.length) : Fin nodes.reverse.length :=
    i.rev.cast List.length_reverse.symm
  have same (i : Fin nodes.length) : nodes.reverse[mirror i] = nodes.get i := by
    simp only [mirror, Fin.getElem_fin, List.getElem_reverse, Fin.val_cast, Fin.val_rev,
      List.get_eq_getElem]
    congr 1
    omega
  have mirrored (k : Fin nodes.reverse.length) (i : Fin nodes.length) :
      (k.cast List.length_reverse).rev = i ↔ k = mirror i := by
    simp only [mirror, Fin.ext_iff, Fin.val_rev, Fin.val_cast]
    have inside : k.val < nodes.length := Nat.lt_of_lt_of_eq k.isLt List.length_reverse
    omega
  simp only [lastIndex?, Option.map_eq_some_iff, mirrored, exists_eq_right,
    List.findFinIdx?_eq_some_iff, beq_iff_eq, StandsFor, same]
  refine and_congr_right fun _ => ?_
  constructor
  · intro none_before j behind
    rw [← same j]
    apply none_before
    simp only [mirror, Fin.lt_def, Fin.val_cast, Fin.val_rev]
    omega
  · intro none_behind j before
    obtain ⟨i', rfl⟩ : ∃ i', j = mirror i' := ⟨_, (mirrored j _).mp rfl⟩
    rw [same]
    apply none_behind
    simp only [mirror, Fin.lt_def, Fin.val_cast, Fin.val_rev] at before
    omega

/-- A connection leads from one node to the other. -/
def Leads (nodes : List Node) (connections : List Connection) (source target : Fin nodes.length) :
    Prop :=
  ∃ connection ∈ connections, StandsFor nodes connection.source source ∧
    StandsFor nodes connection.target target

/-! ### Links -/

theorem mem_distinct {β : Type} [DecidableEq β] {items : List β} {item : β} :
    item ∈ distinct items ↔ item ∈ items := by
  induction items with
  | nil => rfl
  | cons first rest ih =>
    by_cases same : item = first
    · simp [distinct, same]
    · simp [distinct, same, ih]

theorem mem_successors {n : Nat} {links : List (Link n)} {source target : Fin n} :
    target ∈ successors links source ↔ ⟨source, target⟩ ∈ links := by
  simp only [successors, List.mem_filterMap, Option.ite_none_right_eq_some, Option.some.injEq]
  constructor
  · rintro ⟨link, member, rfl, rfl⟩
    exact member
  · intro member
    exact ⟨_, member, rfl, rfl⟩

theorem hasPredecessor_iff {n : Nat} {links : List (Link n)} {target : Fin n} :
    hasPredecessor links target = true ↔ ∃ source, target ∈ successors links source := by
  simp only [hasPredecessor, List.any_eq_true, beq_iff_eq, mem_successors]
  constructor
  · rintro ⟨link, member, rfl⟩
    exact ⟨link.source, member⟩
  · rintro ⟨source, member⟩
    exact ⟨_, member, rfl⟩

/-- Links lead where connections do. -/
theorem linked_iff {nodes : List Node} {connections : List Connection}
    {source target : Fin nodes.length} :
    target ∈ successors (links nodes connections) source ↔
      Leads nodes connections source target := by
  simp only [mem_successors, links, mem_distinct, List.mem_filterMap, link?, Option.bind_eq_bind,
    Option.bind_eq_some_iff, Option.some.injEq, Link.mk.injEq, lastIndex?_eq_some_iff, Leads]
  constructor
  · rintro ⟨connection, member, _, source_named, _, target_named, rfl, rfl⟩
    exact ⟨connection, member, source_named, target_named⟩
  · rintro ⟨connection, member, source_named, target_named⟩
    exact ⟨connection, member, _, source_named, _, target_named, rfl, rfl⟩

end TextDiagram.Flow
