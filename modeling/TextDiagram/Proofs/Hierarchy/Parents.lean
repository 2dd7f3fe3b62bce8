import TextDiagram.Proofs.Hierarchy.Places
import TextDiagram.Proofs.Plan.Indices

/-!
# Parents and the passes along them

Whatever groups the nodes declare as their parents, laying them out comes to an end. Main statement:
a declared parent is dropped exactly when it leads back to the node; from every node the parents
left lead to a root; and the two passes over the forest, run without a bound on their depth, give
every node its size once and its box once.
-/
namespace TextDiagram.Hierarchy

open Forest

variable {nodes : List Node}

/-! ### Declared parents -/

/-- The node names the other one, a group, as its parent, and no earlier node has this id. -/
structure Declares (nodes : List Node) (i parent : Fin nodes.length) : Prop where
  named : (nodes.get i).parent = some (nodes.get parent).id
  first : ∀ earlier < parent, (nodes.get earlier).id ≠ (nodes.get parent).id
  other : parent ≠ i
  group : isGroup nodes parent = true

theorem firstIndex?_eq_some_iff {id : String} {i : Fin nodes.length} :
    firstIndex? nodes id = some i ↔
      (nodes.get i).id = id ∧ ∀ earlier < i, (nodes.get earlier).id ≠ id := by
  simp [firstIndex?, List.findFinIdx?_eq_some_iff]

theorem declaredParent?_eq_some_iff {i parent : Fin nodes.length} :
    declaredParent? nodes i = some parent ↔ Declares nodes i parent := by
  simp only [declaredParent?, Option.bind_eq_bind, Option.bind_eq_some_iff,
    firstIndex?_eq_some_iff, Option.ite_none_right_eq_some, Option.some.injEq]
  constructor
  · rintro ⟨_, named, _, ⟨rfl, first⟩, ⟨other, group⟩, rfl⟩
    exact ⟨named, first, other, group⟩
  · rintro ⟨named, first, other, group⟩
    exact ⟨_, named, parent, ⟨rfl, first⟩, ⟨other, group⟩, rfl⟩

theorem parents_eq (nodes : List Node) :
    parents nodes = (List.finRange nodes.length).map (parent? nodes) := by
  apply List.ext_getElem (by simp [parents])
  intro i bound _
  have inside : i < nodes.length := by simpa [parents] using bound
  have found := parents_getElem? nodes i inside
  rw [List.getElem?_eq_getElem bound, Option.some.injEq] at found
  simpa using found

theorem parent?_eq_some_iff {i parent : Fin nodes.length} :
    parent? nodes i = some parent ↔
      Declares nodes i parent ∧ ¬ Relation.TransGen (Declares nodes) i i := by
  have declares : IsParent (declaredParent? nodes) = Declares nodes := by
    funext child parent
    exact propext declaredParent?_eq_some_iff
  rw [parent?, acyclicParent?, Option.ite_none_left_eq_some, onCycle_iff, Within, declares,
    declaredParent?_eq_some_iff, and_comm]

-- Two groups that lie in one another, and a node in one of them.
example :
    let group (id parent : String) : Node := ⟨id, id, .group, none, some parent⟩
    parents [group "inner" "outer", group "outer" "inner",
      ⟨"node", "node", .service, none, some "inner"⟩] = [none, none, some 0] := by
  decide +kernel

/-! ### The way to a root -/

/-- Each step comes to a node with a larger load. -/
theorem Acyclic.ascend_to_root {n : Nat} {up? : Fin n → Option (Fin n)} (acyclic : Acyclic up?)
    (i : Fin n) :
    ∃ steps root, ascend up? steps i = some root ∧ up? root = none ∧
      steps + load up? i ≤ load up? root := by
  induction i using acyclic.induction with
  | root i top => exact ⟨0, i, rfl, top, by omega⟩
  | child i parent found ih =>
    obtain ⟨steps, root, reached, top, bound⟩ := ih
    have heavier := load_lt_of_parent acyclic found
    exact ⟨steps + 1, root, by rw [ascend, found, Option.bind_some, reached], top, by omega⟩

theorem Acyclic.ascend_lt {n : Nat} {up? : Fin n → Option (Fin n)} (acyclic : Acyclic up?)
    (i : Fin n) : ∃ steps < n, ∃ root ∈ roots up?, ascend up? steps i = some root := by
  obtain ⟨steps, root, reached, top, bound⟩ := acyclic.ascend_to_root i
  have light := load_lt acyclic root
  exact ⟨steps, by omega, root, mem_roots.mpr top, reached⟩

/-! ### The tree below the roots -/

/-- Nodes that stand in a list once each are all nodes in some order. -/
theorem perm_finRange {n : Nat} {listed : List (Fin n)} (distinct : listed.Nodup)
    (all : ∀ i, i ∈ listed) : listed.Perm (List.finRange n) :=
  (List.perm_ext_iff_of_nodup distinct (List.nodup_finRange n)).mpr fun i =>
    iff_of_true (all i) (List.mem_finRange i)

theorem roots_values_perm {tree : Forest (Fin nodes.length)}
    (unfolds : Unfolds (members nodes) (roots (parent? nodes)) tree) :
    tree.values.Perm (List.finRange nodes.length) := by
  have acyclic := parent?_acyclic nodes
  refine perm_finRange ?_ fun i => ?_
  · exact acyclic.values_nodup unfolds (roots_nodup _) none fun i member => mem_roots.mp member
  · obtain ⟨root, under, top⟩ := acyclic.exists_root i
    exact (mem_values unfolds i).mpr ⟨root, mem_roots.mpr top, under⟩

/-! ### The pass for sizes -/

variable {α : Type} [Scalar α] {config : Config α}

/-- The size that a node has been given last; before that it is empty. -/
def sizeIn {n : Nat} (sized : List (Sized α n)) (i : Fin n) : Size α :=
  match sized.find? (·.index = i) with
  | none => ⟨Scalar.zero, Scalar.zero⟩
  | some found => found.size

/-- A run of the pass for sizes over some siblings, as deep as there are members: the sizes given
before it and after it, the last one first. -/
inductive Measures (nodes : List Node) (config : Config α) :
    List (Fin nodes.length) → (before after : List (Sized α nodes.length)) → Prop where
  | nil {before} : Measures nodes config [] before before
  | leaf {i rest before after} : isGroup nodes i = false →
      Measures nodes config rest (⟨i, leafSize⟩ :: before) after →
        Measures nodes config (i :: rest) before after
  | group {i rest before inner after} : isGroup nodes i = true →
      Measures nodes config (members nodes i) before inner →
      Measures nodes config rest
        (⟨i, sizeAround config ((members nodes i).map (sizeIn inner))⟩ :: inner) after →
        Measures nodes config (i :: rest) before after

theorem Measures.unique {siblings : List (Fin nodes.length)}
    {before after other : List (Sized α nodes.length)}
    (measures : Measures nodes config siblings before after)
    (also : Measures nodes config siblings before other) : after = other := by
  induction measures generalizing other with
  | nil =>
    cases also
    rfl
  | leaf no_group _ ih =>
    cases also with
    | leaf _ rest => exact ih rest
    | group is_group _ _ => simp [no_group] at is_group
  | group is_group _ _ members_unique rest_unique =>
    cases also with
    | leaf no_group _ => simp [no_group] at is_group
    | group _ inner rest =>
      cases members_unique inner
      exact rest_unique rest

/-- Every size given is the one of its node. -/
def RightSizes (nodes : List Node) (config : Config α)
    (sized : List (Sized α nodes.length)) : Prop :=
  ∀ item ∈ sized, item.size = sizeOf nodes config item.index

theorem RightSizes.cons {sized : List (Sized α nodes.length)} {i : Fin nodes.length}
    {size : Size α} (right : RightSizes nodes config sized)
    (same : size = sizeOf nodes config i) : RightSizes nodes config (⟨i, size⟩ :: sized) :=
  List.forall_mem_cons.mpr ⟨same, right⟩

theorem RightSizes.sizeIn_eq {sized : List (Sized α nodes.length)} {i : Fin nodes.length}
    (right : RightSizes nodes config sized) (given : i ∈ sized.map Sized.index) :
    sizeIn sized i = sizeOf nodes config i := by
  obtain ⟨item, member, rfl⟩ := List.mem_map.mp given
  unfold sizeIn
  cases found : sized.find? (·.index = item.index) with
  | none => simpa using List.find?_eq_none.mp found item member
  | some other =>
    have same : other.index = item.index := by simpa using List.find?_some found
    rw [← same]
    exact right other (List.mem_of_find?_eq_some found)

theorem members_eq_nil {i : Fin nodes.length} (no_group : isGroup nodes i = false) :
    members nodes i = [] := by
  refine List.eq_nil_iff_forall_not_mem.mpr fun child member => ?_
  have holds : isGroup nodes i = true := parent?_isContainer nodes child i (mem_members.mp member)
  simp [no_group] at holds

open scoped List in
/-- The pass ends, and gives each node of the forest its size once. -/
theorem measures_of_unfolds (config : Config α) {siblings : List (Fin nodes.length)}
    {forest : Forest (Fin nodes.length)} (unfolds : Unfolds (members nodes) siblings forest)
    {before : List (Sized α nodes.length)} (right : RightSizes nodes config before) :
    ∃ after, Measures nodes config siblings before after ∧ RightSizes nodes config after ∧
      (after.map Sized.index).Perm (forest.values ++ before.map Sized.index) := by
  induction unfolds generalizing before with
  | nil => exact ⟨before, .nil, right, by simp [values]⟩
  | @cons i rest held later held_unfolds later_unfolds in_held in_later =>
    cases group : isGroup nodes i with
    | false =>
      have size : leafSize = sizeOf nodes config i := by simp [sizeOf, group]
      obtain ⟨after, measures, after_right, indices⟩ := in_later (right.cons size)
      -- What is no group holds nothing.
      have nothing : held = .nil := by
        rw [members_eq_nil group] at held_unfolds
        exact held_unfolds.unique .nil
      refine ⟨after, .leaf group measures, after_right, indices.trans ?_⟩
      rw [nothing]
      exact List.perm_middle
    | true =>
      obtain ⟨inner, inner_measures, inner_right, inner_indices⟩ := in_held right
      -- By now all members have their sizes, so the group is measured around the right ones.
      have all_given : ∀ child ∈ members nodes i, child ∈ inner.map Sized.index := by
        intro child member
        rw [inner_indices.mem_iff, List.mem_append, mem_values held_unfolds]
        exact .inl ⟨child, member, .refl⟩
      have sizes : (members nodes i).map (sizeIn inner) =
          (members nodes i).map (sizeOf nodes config) :=
        List.map_congr_left fun child member => inner_right.sizeIn_eq (all_given child member)
      have size : sizeAround config ((members nodes i).map (sizeIn inner)) =
          sizeOf nodes config i := by
        rw [sizeOf_eq, group, if_pos rfl, sizes]
      obtain ⟨after, measures, after_right, indices⟩ := in_later (inner_right.cons size)
      refine ⟨after, .group group inner_measures measures, after_right, indices.trans ?_⟩
      calc later.values ++ i :: inner.map Sized.index
        _ ~ i :: (later.values ++ inner.map Sized.index) := List.perm_middle
        _ ~ i :: (later.values ++ (held.values ++ before.map Sized.index)) :=
          (inner_indices.append_left _).cons i
        _ ~ i :: (held.values ++ (later.values ++ before.map Sized.index)) :=
          (List.perm_append_comm_assoc ..).cons i
        _ = (i :: (held.values ++ later.values)) ++ before.map Sized.index := by simp

/-! ### The pass for places -/

/-- A run of the pass for places over siblings that have been given their boxes, as deep as there
are members: the boxes given in it. -/
inductive Places (nodes : List Node) (config : Config α) (size : Fin nodes.length → Size α) :
    List (Fin nodes.length × Box α) → List (Boxed α nodes.length) → Prop where
  | nil : Places nodes config size [] []
  | cons {i box rest inner later} :
      Places nodes config size
        ((members nodes i).zip (memberBoxes config box ((members nodes i).map size))) inner →
      Places nodes config size rest later →
        Places nodes config size ((i, box) :: rest) (⟨i, box⟩ :: (inner ++ later))

theorem Places.unique {size : Fin nodes.length → Size α}
    {siblings : List (Fin nodes.length × Box α)} {boxes other : List (Boxed α nodes.length)}
    (run : Places nodes config size siblings boxes)
    (also : Places nodes config size siblings other) : boxes = other := by
  induction run generalizing other with
  | nil =>
    cases also
    rfl
  | cons _ _ inner_unique later_unique =>
    cases also with
    | cons inner later => rw [inner_unique inner, later_unique later]

theorem Places.append {size : Fin nodes.length → Size α}
    {siblings more : List (Fin nodes.length × Box α)} {boxes others : List (Boxed α nodes.length)}
    (first : Places nodes config size siblings boxes)
    (second : Places nodes config size more others) :
    Places nodes config size (siblings ++ more) (boxes ++ others) := by
  induction first with
  | nil => exact second
  | cons inner _ _ ih =>
    rw [List.cons_append, List.cons_append, List.append_assoc]
    exact .cons inner ih

theorem place_places {siblings : List (Fin nodes.length)} {forest : Forest (Fin nodes.length)}
    (unfolds : Unfolds (members nodes) siblings forest) (boxes : List (Box α))
    (enough : boxes.length = siblings.length) :
    Places nodes config (sizeOf nodes config) (siblings.zip boxes)
      (place config boxes (measure config (isGroup nodes) forest)) := by
  induction unfolds generalizing boxes with
  | nil => cases boxes <;> exact .nil
  | @cons i rest held later held_unfolds _ in_held in_later =>
    cases boxes with
    | nil => cases enough
    | cons box boxes =>
      have inner_sizes : (measure config (isGroup nodes) held).tops.map Sized.size =
          (members nodes i).map (sizeOf nodes config) := by
        rw [measure_tops config held_unfolds, List.map_map]
        rfl
      rw [measure, place, List.zip_cons_cons]
      refine .cons ?_ (in_later boxes (Nat.succ.inj enough))
      rw [inner_sizes]
      exact in_held _ (by simp [memberBoxes, Grid.boxes])

/-- The nodes outside of all groups with the boxes they are given when nodes have these sizes: the
groups side by side and the others in a grid below. -/
def topBoxes (nodes : List Node) (config : Config α) (size : Fin nodes.length → Size α) :
    List (Fin nodes.length × Box α) :=
  let groupSizes := (groups nodes).map size
  let orphanSizes := (orphans nodes).map size
  (groups nodes).zip (groupRow config Scalar.zero groupSizes) ++
    (orphans nodes).zip
      (Grid.boxes config Scalar.zero (orphanTop config groupSizes) orphanSizes)

theorem boxed_places (nodes : List Node) (config : Config α) :
    Places nodes config (sizeOf nodes config) (topBoxes nodes config (sizeOf nodes config))
      (boxed nodes config) := by
  rw [boxed_eq]
  exact (place_places (whole_unfolds nodes _) _ (groupBoxes_length nodes config)).append
    (place_places (whole_unfolds nodes _) _ (orphanBoxes_length nodes config))

/-! ### Main statement -/

/-- The parent of a node is the first group with the declared id, unless it is the node itself or
leads back to it. The parents make a forest: following them comes to a root in fewer steps than
there are nodes, and the tree below the roots holds every node once. So the two recursions over it
end; the first gives every node its size once, the second its box once, and these boxes are the
layout. -/
theorem parents_forest (nodes : List Node) (config : Config α) :
    parents nodes = (List.finRange nodes.length).map (parent? nodes) ∧
    (∀ i parent, parent? nodes i = some parent ↔
      Declares nodes i parent ∧ ¬ Relation.TransGen (Declares nodes) i i) ∧
    (∀ i, ∃ steps < nodes.length, ∃ root ∈ roots (parent? nodes),
      ascend (parent? nodes) steps i = some root) ∧
    (∃ tree, (∀ other, Unfolds (members nodes) (roots (parent? nodes)) other ↔ other = tree) ∧
      tree.values.Perm (List.finRange nodes.length)) ∧
    ∃ sized, (∀ other, Measures nodes config (roots (parent? nodes)) [] other ↔ other = sized) ∧
      (sized.map Sized.index).Perm (List.finRange nodes.length) ∧
      ∃ boxes, (∀ other, Places nodes config (sizeIn sized)
          (topBoxes nodes config (sizeIn sized)) other ↔ other = boxes) ∧
        (boxes.map Boxed.index).Perm (List.finRange nodes.length) ∧
        layout nodes config =
          (List.finRange nodes.length).map fun i => ⟨nodes.get i, boxOf boxes i⟩ := by
  have unfolds := whole_unfolds nodes (roots (parent? nodes))
  have all_values := roots_values_perm unfolds
  have nothing_given : RightSizes nodes config [] := fun _ member => nomatch member
  obtain ⟨sized, measures, right, indices⟩ := measures_of_unfolds config unfolds nothing_given
  have all_sized : (sized.map Sized.index).Perm (List.finRange nodes.length) := by
    rw [List.map_nil, List.append_nil] at indices
    exact indices.trans all_values
  have sizes : sizeIn sized = sizeOf nodes config := by
    funext i
    exact right.sizeIn_eq (all_sized.mem_iff.mpr (List.mem_finRange i))
  refine ⟨parents_eq nodes, fun _ _ => parent?_eq_some_iff,
    (parent?_acyclic nodes).ascend_lt, ⟨_, ?_, all_values⟩, sized, ?_, all_sized,
    boxed nodes config, ?_, ?_, rfl⟩
  · exact fun other => ⟨fun also => also.unique unfolds, fun same => same ▸ unfolds⟩
  · exact fun other => ⟨fun also => also.unique measures, fun same => same ▸ measures⟩
  · rw [sizes]
    have run := boxed_places nodes config
    exact fun other => ⟨fun also => also.unique run, fun same => same ▸ run⟩
  · exact perm_finRange (boxed_index_nodup nodes config) (mem_boxed_index nodes config)

end TextDiagram.Hierarchy
