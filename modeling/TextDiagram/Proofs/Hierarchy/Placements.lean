import TextDiagram.Proofs.Hierarchy.Places

/-!
# Under which node a node is placed

The pass for places comes from a group to the boxes of its members, but does not say in its result
where it came from. Here the same pass also says this. Main statement: each node is placed under its
effective parent, in the box that the layout has for it.
-/
namespace TextDiagram.Hierarchy

open Forest

variable {α : Type} [Scalar α]

/-- The pass for places with, for every box, the node that it comes from. The outermost siblings are
placed under `outer`. -/
def placeUnder {n : Nat} (config : Config α) :
    Option (Fin n) → List (Box α) → Forest (Sized α n) → List (Option (Fin n) × Boxed α n)
  | outer, box :: boxes, .cons sized inside rest =>
    let members := memberBoxes config box (inside.tops.map Sized.size)
    (outer, ⟨sized.index, box⟩) ::
      (placeUnder config (some sized.index) members inside ++ placeUnder config outer boxes rest)
  | _, _, .nil => []
  | _, [], .cons .. => []

/-- Apart from what is said of where it comes from, it is the pass itself. -/
theorem placeUnder_boxed {n : Nat} (config : Config α) (outer : Option (Fin n))
    (boxes : List (Box α)) (forest : Forest (Sized α n)) :
    (placeUnder config outer boxes forest).map Prod.snd = place config boxes forest := by
  induction forest generalizing outer boxes with
  | nil => cases boxes <;> rfl
  | cons sized inside rest in_inside in_rest =>
    cases boxes with
    | nil => rfl
    | cons box boxes =>
      rw [placeUnder, place, List.map_cons, List.map_append, in_inside, in_rest]

variable {nodes : List Node} {config : Config α}

/-- Whatever is placed under the parent of all siblings, or further inside, is placed under its own
parent. -/
theorem placeUnder_parent {siblings : List (Fin nodes.length)}
    {forest : Forest (Fin nodes.length)}
    (unfolds : Unfolds (children (parent? nodes)) siblings forest)
    {outer : Option (Fin nodes.length)} (alike : ∀ i ∈ siblings, parent? nodes i = outer)
    (boxes : List (Box α)) :
    ∀ placed ∈ placeUnder config outer boxes (measure config (isGroup nodes) forest),
      placed.1 = parent? nodes placed.2.index := by
  induction unfolds generalizing outer boxes with
  | nil => cases boxes <;> simp [measure, placeUnder]
  | @cons i rest held later _ _ in_held in_later =>
    cases boxes with
    | nil => simp [measure, placeUnder]
    | cons box boxes =>
      intro placed member
      rw [measure, placeUnder, List.mem_cons, List.mem_append] at member
      rcases member with rfl | inside | behind
      · exact (alike i List.mem_cons_self).symm
      · exact in_held (fun _ => mem_children.mp) _ placed inside
      · exact in_later (fun other among => alike other (List.mem_cons_of_mem i among)) _ placed
          behind

/-- The boxes of all nodes, each with the node that it is placed under. -/
def placements (nodes : List Node) (config : Config α) :
    List (Option (Fin nodes.length) × Boxed α nodes.length) :=
  placeUnder config none (groupBoxes nodes config)
      (measure config (isGroup nodes) (whole nodes (groups nodes))) ++
    placeUnder config none (orphanBoxes nodes config)
      (measure config (isGroup nodes) (whole nodes (orphans nodes)))

theorem placements_boxed (nodes : List Node) (config : Config α) :
    (placements nodes config).map Prod.snd = boxed nodes config := by
  rw [placements, List.map_append, placeUnder_boxed, placeUnder_boxed, boxed_eq]

theorem mem_placements_iff {outer : Option (Fin nodes.length)} {i : Fin nodes.length}
    {box : Box α} :
    (outer, ⟨i, box⟩) ∈ placements nodes config ↔
      outer = parent? nodes i ∧ box = nodeBox nodes config i := by
  have under_parent : ∀ placed ∈ placements nodes config,
      placed.1 = parent? nodes placed.2.index := by
    intro placed member
    rcases List.mem_append.mp member with in_group | in_orphan
    · exact placeUnder_parent (whole_unfolds nodes _) (fun i among => (mem_groups.mp among).1) _
        placed in_group
    · exact placeUnder_parent (whole_unfolds nodes _) (fun i among => (mem_orphans.mp among).1) _
        placed in_orphan
  constructor
  · intro member
    have listed : ⟨i, box⟩ ∈ (placements nodes config).map Prod.snd := List.mem_map_of_mem member
    rw [placements_boxed] at listed
    exact ⟨under_parent _ member, (nodeBox_eq_of_mem listed).symm⟩
  · rintro ⟨rfl, rfl⟩
    -- The node has been placed under some node, which can only be its parent.
    have listed := mem_boxed nodes config i
    rw [← placements_boxed, List.mem_map] at listed
    obtain ⟨⟨outer, _⟩, member, rfl⟩ := listed
    have same : outer = parent? nodes i := under_parent _ member
    rwa [same] at member

end TextDiagram.Hierarchy
