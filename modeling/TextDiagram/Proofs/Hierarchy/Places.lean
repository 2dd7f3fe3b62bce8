import TextDiagram.Layout.Hierarchy
import TextDiagram.Proofs.Document.Keyed
import TextDiagram.Proofs.Hierarchy.Unfolding

/-!
# Sizes and places

What the two passes over the forest give each node, said node by node. Main statements: the size of
a group is that around its children, the boxes of its children are those of its members, and the
boxes of the roots are those of the row of groups and of the grid below it.
-/
namespace TextDiagram.Hierarchy

open Forest

variable {α : Type} [Scalar α]

theorem layout_length (nodes : List Node) (config : Config α) :
    (layout nodes config).length = nodes.length := by
  simp [layout]

/-- The box that the layout has for a node. -/
def nodeBox (nodes : List Node) (config : Config α) (i : Fin nodes.length) : Box α :=
  ((layout nodes config).get (i.cast (layout_length nodes config).symm)).box

def isGroup (nodes : List Node) (i : Fin nodes.length) : Bool :=
  (nodes.get i).kind.isContainer

/-- The nodes laid out in a node. -/
def members (nodes : List Node) (i : Fin nodes.length) : List (Fin nodes.length) :=
  children (parent? nodes) i

/-- The groups outside of all groups. -/
def groups (nodes : List Node) : List (Fin nodes.length) :=
  (roots (parent? nodes)).filter (isGroup nodes)

/-- The other nodes outside of all groups. -/
def orphans (nodes : List Node) : List (Fin nodes.length) :=
  (roots (parent? nodes)).filter fun i => !isGroup nodes i

/-- The size of a node, around all that lies in it. -/
def sizeOf (nodes : List Node) (config : Config α) (i : Fin nodes.length) : Size α :=
  if isGroup nodes i then
    sizeAround config
      ((measured nodes config (parent? nodes) (members nodes i)).tops.map Sized.size)
  else
    leafSize

variable {nodes : List Node} {config : Config α}

theorem mem_members {i child : Fin nodes.length} :
    child ∈ members nodes i ↔ parent? nodes child = some i :=
  mem_children

theorem mem_groups {i : Fin nodes.length} :
    i ∈ groups nodes ↔ parent? nodes i = none ∧ isGroup nodes i = true := by
  simp [groups, mem_roots]

theorem mem_orphans {i : Fin nodes.length} :
    i ∈ orphans nodes ↔ parent? nodes i = none ∧ isGroup nodes i = false := by
  simp [orphans, mem_roots]

/-! ### Sizes -/

section Forests

variable {siblings : List (Fin nodes.length)} {forest : Forest (Fin nodes.length)}

theorem measure_tops (config : Config α)
    (unfolds : Unfolds (children (parent? nodes)) siblings forest) :
    (measure config (isGroup nodes) forest).tops =
      siblings.map fun i => ⟨i, sizeOf nodes config i⟩ := by
  induction unfolds with
  | nil => rfl
  | @cons value rest held after held_unfolds _ _ ih =>
    -- What the sibling holds is grown anew for its size, but comes out the same.
    have same : held = grow (children (parent? nodes)) nodes.length (members nodes value) :=
      held_unfolds.unique ((parent?_acyclic nodes).grow_unfolds _)
    rw [measure, tops, ih, List.map_cons, sizeOf, measured, ← same]
    rfl

/-! ### Places -/

theorem place_index (unfolds : Unfolds (children (parent? nodes)) siblings forest)
    (boxes : List (Box α)) (enough : boxes.length = siblings.length) :
    (place config boxes (measure config (isGroup nodes) forest)).map Boxed.index =
      forest.values := by
  induction unfolds generalizing boxes with
  | nil => cases boxes <;> rfl
  | @cons value rest held after held_unfolds _ in_held in_after =>
    cases boxes with
    | nil => cases enough
    | cons box boxes =>
      rw [measure, place, List.map_cons, List.map_append, in_after boxes (Nat.succ.inj enough),
        in_held, values]
      simp [memberBoxes, Grid.boxes, measure_tops config held_unfolds]

theorem mem_place_of_mem_zip (unfolds : Unfolds (children (parent? nodes)) siblings forest)
    {boxes : List (Box α)} {i : Fin nodes.length} {box : Box α}
    (paired : (i, box) ∈ siblings.zip boxes) :
    ⟨i, box⟩ ∈ place config boxes (measure config (isGroup nodes) forest) := by
  induction unfolds generalizing boxes with
  | nil => cases paired
  | cons _ _ _ ih =>
    cases boxes with
    | nil => cases paired
    | cons first boxes =>
      rw [List.zip_cons_cons, List.mem_cons] at paired
      rw [measure, place, List.mem_cons, List.mem_append]
      rcases paired with here | later
      · cases here
        exact .inl rfl
      · exact .inr (.inr (ih later))

/-- Whatever box a group has been given, its members have been given theirs in it. -/
theorem mem_place_of_member (unfolds : Unfolds (children (parent? nodes)) siblings forest)
    {boxes : List (Box α)} {parent child : Fin nodes.length} {outer inner : Box α}
    (placed : ⟨parent, outer⟩ ∈ place config boxes (measure config (isGroup nodes) forest))
    (paired : (child, inner) ∈ (members nodes parent).zip
      (memberBoxes config outer ((members nodes parent).map (sizeOf nodes config)))) :
    ⟨child, inner⟩ ∈ place config boxes (measure config (isGroup nodes) forest) := by
  induction unfolds generalizing boxes with
  | nil => cases boxes <;> cases placed
  | cons held_unfolds _ in_held in_after =>
    cases boxes with
    | nil => cases placed
    | cons first boxes =>
      have sizes := measure_tops config held_unfolds
      rw [measure, place, List.mem_cons, List.mem_append] at placed ⊢
      rcases placed with here | in_first | in_rest
      · cases here
        refine .inr (.inl (mem_place_of_mem_zip held_unfolds ?_))
        rw [sizes, List.map_map]
        exact paired
      · exact .inr (.inl (in_held in_first))
      · exact .inr (.inr (in_after in_rest))

end Forests

/-! ### The layout as a whole -/

/-- All that is under some siblings. -/
def whole (nodes : List Node) (siblings : List (Fin nodes.length)) : Forest (Fin nodes.length) :=
  grow (children (parent? nodes)) nodes.length siblings

theorem whole_unfolds (nodes : List Node) (siblings : List (Fin nodes.length)) :
    Unfolds (children (parent? nodes)) siblings (whole nodes siblings) :=
  (parent?_acyclic nodes).grow_unfolds siblings

theorem measured_tops (config : Config α) (siblings : List (Fin nodes.length)) :
    (measured nodes config (parent? nodes) siblings).tops =
      siblings.map fun i => ⟨i, sizeOf nodes config i⟩ :=
  measure_tops config (whole_unfolds nodes siblings)

theorem sizeOf_eq (nodes : List Node) (config : Config α) (i : Fin nodes.length) :
    sizeOf nodes config i =
      if isGroup nodes i then sizeAround config ((members nodes i).map (sizeOf nodes config))
      else leafSize := by
  rw [sizeOf, measured_tops, List.map_map]
  rfl

/-- The boxes of the groups outside of all groups. -/
def groupBoxes (nodes : List Node) (config : Config α) : List (Box α) :=
  groupRow config Scalar.zero ((groups nodes).map (sizeOf nodes config))

/-- The boxes of the other nodes outside of all groups. -/
def orphanBoxes (nodes : List Node) (config : Config α) : List (Box α) :=
  Grid.boxes config Scalar.zero (orphanTop config ((groups nodes).map (sizeOf nodes config)))
    ((orphans nodes).map (sizeOf nodes config))

theorem groupRow_length (config : Config α) (x : α) (sizes : List (Size α)) :
    (groupRow config x sizes).length = sizes.length := by
  induction sizes generalizing x with
  | nil => rfl
  | cons size rest ih => simp [groupRow, ih]

theorem groupBoxes_length (nodes : List Node) (config : Config α) :
    (groupBoxes nodes config).length = (groups nodes).length := by
  simp [groupBoxes, groupRow_length]

theorem orphanBoxes_length (nodes : List Node) (config : Config α) :
    (orphanBoxes nodes config).length = (orphans nodes).length := by
  simp [orphanBoxes, Grid.boxes]

theorem boxed_eq (nodes : List Node) (config : Config α) :
    boxed nodes config =
      place config (groupBoxes nodes config)
          (measure config (isGroup nodes) (whole nodes (groups nodes))) ++
        place config (orphanBoxes nodes config)
          (measure config (isGroup nodes) (whole nodes (orphans nodes))) := by
  have table : (parentTable nodes).get = parent? nodes := funext (parentTable_get nodes)
  have sizes (siblings : List (Fin nodes.length)) :
      (measured nodes config (parent? nodes) siblings).tops.map Sized.size =
        siblings.map (sizeOf nodes config) := by
    rw [measured_tops, List.map_map]
    rfl
  simp only [boxed, table, List.partition_eq_filter_filter]
  rw [groupBoxes, orphanBoxes, ← sizes, ← sizes]
  rfl

theorem boxed_index (nodes : List Node) (config : Config α) :
    (boxed nodes config).map Boxed.index =
      (whole nodes (groups nodes)).values ++ (whole nodes (orphans nodes)).values := by
  rw [boxed_eq, List.map_append,
    place_index (whole_unfolds nodes _) _ (groupBoxes_length nodes config),
    place_index (whole_unfolds nodes _) _ (orphanBoxes_length nodes config)]

theorem mem_boxed_index (nodes : List Node) (config : Config α) (i : Fin nodes.length) :
    i ∈ (boxed nodes config).map Boxed.index := by
  obtain ⟨root, under, top⟩ := (parent?_acyclic nodes).exists_root i
  rw [boxed_index, List.mem_append, mem_values (whole_unfolds nodes _),
    mem_values (whole_unfolds nodes _)]
  cases group : isGroup nodes root with
  | true => exact .inl ⟨root, mem_groups.mpr ⟨top, group⟩, under⟩
  | false => exact .inr ⟨root, mem_orphans.mpr ⟨top, group⟩, under⟩

theorem boxed_index_nodup (nodes : List Node) (config : Config α) :
    ((boxed nodes config).map Boxed.index).Nodup := by
  have acyclic := parent?_acyclic nodes
  have roots_distinct := roots_nodup (parent? nodes)
  rw [boxed_index, List.nodup_append']
  refine ⟨?_, ?_, fun i in_group in_orphan => ?_⟩
  · exact acyclic.values_nodup (whole_unfolds nodes _) (roots_distinct.filter _) none
      fun i member => (mem_groups.mp member).1
  · exact acyclic.values_nodup (whole_unfolds nodes _) (roots_distinct.filter _) none
      fun i member => (mem_orphans.mp member).1
  · obtain ⟨group, is_group, under_group⟩ := (mem_values (whole_unfolds nodes _) i).mp in_group
    obtain ⟨orphan, is_orphan, under_orphan⟩ := (mem_values (whole_unfolds nodes _) i).mp in_orphan
    rw [mem_groups] at is_group
    rw [mem_orphans] at is_orphan
    have same := acyclic.sibling_unique under_group under_orphan (is_group.1.trans is_orphan.1.symm)
    rw [same, is_orphan.2] at is_group
    cases is_group.2

theorem nodeBox_eq (nodes : List Node) (config : Config α) (i : Fin nodes.length) :
    nodeBox nodes config i = boxOf (boxed nodes config) i := by
  simp only [nodeBox, layout, List.get_eq_getElem, List.getElem_map, List.getElem_finRange]
  rfl

theorem nodeBox_eq_of_mem {i : Fin nodes.length} {box : Box α}
    (member : ⟨i, box⟩ ∈ boxed nodes config) : nodeBox nodes config i = box := by
  have found := find?_key_of_mem Boxed.index (boxed_index_nodup nodes config) member
  rw [nodeBox_eq, boxOf, found]

theorem mem_boxed (nodes : List Node) (config : Config α) (i : Fin nodes.length) :
    ⟨i, nodeBox nodes config i⟩ ∈ boxed nodes config := by
  obtain ⟨⟨_, box⟩, member, rfl⟩ := List.mem_map.mp (mem_boxed_index nodes config i)
  rwa [nodeBox_eq_of_mem member]

theorem map_eq_of_zip {β γ : Type} {f : β → γ} {keys : List β} {values : List γ}
    (lengths : keys.length = values.length)
    (paired : ∀ key value, (key, value) ∈ keys.zip values → f key = value) :
    keys.map f = values := by
  refine List.ext_getElem (by simpa using lengths) fun i key_bound value_bound => ?_
  rw [List.getElem_map]
  apply paired
  rw [List.mem_iff_getElem]
  exact ⟨i, by simpa using ⟨by simpa using key_bound, value_bound⟩, List.getElem_zip⟩

/-! ### The boxes of siblings -/

/-- Siblings have the boxes that they are placed in. -/
theorem boxes_of_placed {nodes : List Node} {config : Config α} {siblings : List (Fin nodes.length)}
    {boxes : List (Box α)} (lengths : siblings.length = boxes.length)
    (placed : ∀ i box, (i, box) ∈ siblings.zip boxes → ⟨i, box⟩ ∈ boxed nodes config) :
    siblings.map (nodeBox nodes config) = boxes :=
  map_eq_of_zip lengths fun i box paired => nodeBox_eq_of_mem (placed i box paired)

theorem groups_boxes (nodes : List Node) (config : Config α) :
    (groups nodes).map (nodeBox nodes config) = groupBoxes nodes config := by
  refine boxes_of_placed (groupBoxes_length nodes config).symm fun i box paired => ?_
  rw [boxed_eq, List.mem_append]
  exact .inl (mem_place_of_mem_zip (whole_unfolds nodes _) paired)

theorem orphans_boxes (nodes : List Node) (config : Config α) :
    (orphans nodes).map (nodeBox nodes config) = orphanBoxes nodes config := by
  refine boxes_of_placed (orphanBoxes_length nodes config).symm fun i box paired => ?_
  rw [boxed_eq, List.mem_append]
  exact .inr (mem_place_of_mem_zip (whole_unfolds nodes _) paired)

theorem members_boxes (nodes : List Node) (config : Config α) (i : Fin nodes.length) :
    (members nodes i).map (nodeBox nodes config) =
      memberBoxes config (nodeBox nodes config i)
        ((members nodes i).map (sizeOf nodes config)) := by
  refine boxes_of_placed (by simp [memberBoxes, Grid.boxes]) fun child box paired => ?_
  have placed := mem_boxed nodes config i
  rw [boxed_eq, List.mem_append] at placed ⊢
  rcases placed with in_group | in_orphan
  · exact .inl (mem_place_of_member (whole_unfolds nodes _) in_group paired)
  · exact .inr (mem_place_of_member (whole_unfolds nodes _) in_orphan paired)

/-! ### The extent of boxes -/

def extent (box : Box α) : Size α :=
  ⟨box.width, box.height⟩

theorem groupRow_extent (config : Config α) (x : α) (sizes : List (Size α)) :
    (groupRow config x sizes).map extent = sizes := by
  induction sizes generalizing x with
  | nil => rfl
  | cons size rest ih =>
    rw [groupRow, List.map_cons, ih]
    rfl

theorem boxes_extent (config : Config α) (x y : α) (sizes : List (Size α)) :
    (Grid.boxes config x y sizes).map extent = sizes := by
  have same : (fun item : Size α × Nat =>
      extent ((Grid.ofSizes config.maxColumns sizes).boxAt config x y item.2 item.1)) = Prod.fst :=
    rfl
  simp only [Grid.boxes, List.map_map, Function.comp_def, same, List.zipIdx_map_fst]

/-- A box is as large as its node has been measured. -/
theorem nodeBox_extent (nodes : List Node) (config : Config α) (i : Fin nodes.length) :
    extent (nodeBox nodes config i) = sizeOf nodes config i := by
  have agree (siblings : List (Fin nodes.length)) (boxes : List (Box α)) (member : i ∈ siblings)
      (placed : siblings.map (nodeBox nodes config) = boxes)
      (extents : boxes.map extent = siblings.map (sizeOf nodes config)) :
      extent (nodeBox nodes config i) = sizeOf nodes config i := by
    rw [← placed, List.map_map, List.map_inj_left] at extents
    exact extents i member
  cases inside : parent? nodes i with
  | some parent =>
    exact agree _ _ (mem_members.mpr inside) (members_boxes nodes config parent) (boxes_extent ..)
  | none =>
    cases group : isGroup nodes i with
    | true =>
      have is_group := mem_groups.mpr ⟨inside, group⟩
      exact agree _ _ is_group (groups_boxes nodes config) (groupRow_extent ..)
    | false =>
      have is_orphan := mem_orphans.mpr ⟨inside, group⟩
      exact agree _ _ is_orphan (orphans_boxes nodes config) (boxes_extent ..)

theorem nodeBox_width (nodes : List Node) (config : Config α) (i : Fin nodes.length) :
    (nodeBox nodes config i).width = (sizeOf nodes config i).width :=
  congrArg Size.width (nodeBox_extent nodes config i)

theorem nodeBox_height (nodes : List Node) (config : Config α) (i : Fin nodes.length) :
    (nodeBox nodes config i).height = (sizeOf nodes config i).height :=
  congrArg Size.height (nodeBox_extent nodes config i)

end TextDiagram.Hierarchy
