import TextDiagram.Layout.Flow
import TextDiagram.Proofs.Flow.Connections

/-!
# Connections without influence

Main statement: a flow is laid out alike when connections are taken out of it that have an end which
no node has, or the ends of a connection in front of them. These draw no link of their own, and the
others draw their links in the order from before.
-/
namespace TextDiagram.Flow

/-! ### Taking connections out -/

/-- The connection has an end that is the id of no node, or it repeats the ends of an earlier
one. -/
def Redundant (nodes : List Node) (earlier : List Connection) (connection : Connection) : Prop :=
  connection.source ∉ nodes.map Node.id ∨ connection.target ∉ nodes.map Node.id ∨
    ∃ first ∈ earlier, first.source = connection.source ∧ first.target = connection.target

instance (nodes : List Node) (earlier : List Connection) (connection : Connection) :
    Decidable (Redundant nodes earlier connection) :=
  inferInstanceAs (Decidable (_ ∨ _ ∨ _))

/-- Redundant connections, as many as one likes, have been taken out of a list. Its connections are
told redundant by all that are in front of them, those `earlier` and those taken out too. -/
inductive Thinned (nodes : List Node) :
    (earlier connections left : List Connection) → Prop where
  | nil {earlier : List Connection} : Thinned nodes earlier [] []
  | keep {earlier rest left : List Connection} {connection : Connection}
      (thinned : Thinned nodes (connection :: earlier) rest left) :
      Thinned nodes earlier (connection :: rest) (connection :: left)
  | drop {earlier rest left : List Connection} {connection : Connection}
      (redundant : Redundant nodes earlier connection)
      (thinned : Thinned nodes (connection :: earlier) rest left) :
      Thinned nodes earlier (connection :: rest) left

variable {nodes : List Node} {earlier connections left : List Connection}

/-! ### Links -/

theorem link?_declared {connection : Connection} {link : Link nodes.length}
    (draws : link? nodes connection = some link) :
    connection.source ∈ nodes.map Node.id ∧ connection.target ∈ nodes.map Node.id := by
  simp only [link?, Option.bind_eq_bind, Option.bind_eq_some_iff] at draws
  obtain ⟨source, source_found, target, target_found, -⟩ := draws
  have source_named := (lastIndex?_eq_some_iff.mp source_found).1
  have target_named := (lastIndex?_eq_some_iff.mp target_found).1
  exact ⟨List.mem_map.mpr ⟨_, nodes.get_mem source, source_named⟩,
    List.mem_map.mpr ⟨_, nodes.get_mem target, target_named⟩⟩

/-- What a redundant connection links, if it links anything, has been linked before. -/
theorem Redundant.link_mem {connection : Connection}
    (redundant : Redundant nodes earlier connection) {link : Link nodes.length}
    (draws : link? nodes connection = some link) : link ∈ earlier.filterMap (link? nodes) := by
  rcases redundant with no_source | no_target | ⟨first, among, source, target⟩
  · exact absurd (link?_declared draws).1 no_source
  · exact absurd (link?_declared draws).2 no_target
  · refine List.mem_filterMap.mpr ⟨first, among, ?_⟩
    rw [← draws, link?, link?, source, target]

/-- What is new of a list is its first item, unless that has been seen, and what is new behind
it. -/
theorem filter_distinct_cons {β : Type} [DecidableEq β] (seen : List β) (first : β)
    (rest : List β) :
    (distinct (first :: rest)).filter (· ∉ seen) =
      (if first ∈ seen then [] else [first]) ++ (distinct rest).filter (· ∉ first :: seen) := by
  have both : (fun item => decide (item ∉ seen) && decide (item ≠ first)) =
      fun item => decide (item ∉ first :: seen) := by
    funext item
    simp [Bool.and_comm]
  rw [distinct, List.filter_cons, List.filter_filter, both]
  by_cases old : first ∈ seen <;> simp [old]

/-- Behind earlier connections, the links that are new are the same. -/
theorem Thinned.new_links (thinned : Thinned nodes earlier connections left) :
    (links nodes left).filter (· ∉ earlier.filterMap (link? nodes)) =
      (links nodes connections).filter (· ∉ earlier.filterMap (link? nodes)) := by
  -- Each connection passed comes to those in front, whether it has been kept or taken out, so that
  -- both lists are filtered by the same links.
  induction thinned with
  | nil => rfl
  | @keep earlier rest left connection _ ih =>
    unfold links at ih ⊢
    cases draws : link? nodes connection with
    | none => simpa only [List.filterMap_cons, draws] using ih
    | some link =>
      simp only [List.filterMap_cons, draws] at ih ⊢
      rw [filter_distinct_cons, filter_distinct_cons, ih]
  | @drop earlier rest left connection redundant _ ih =>
    unfold links at ih ⊢
    cases draws : link? nodes connection with
    | none => simpa only [List.filterMap_cons, draws] using ih
    | some link =>
      -- What it links has been linked in front, and adds nothing to the links that are left out.
      have old := redundant.link_mem draws
      have seen : (fun other => decide (other ∉ link :: earlier.filterMap (link? nodes))) =
          fun other => decide (other ∉ earlier.filterMap (link? nodes)) := by
        funext other
        have other_old : other = link → other ∈ earlier.filterMap (link? nodes) := by
          rintro rfl
          exact old
        simp only [List.mem_cons, or_iff_right_of_imp other_old]
      simp only [List.filterMap_cons, draws, seen] at ih ⊢
      rw [filter_distinct_cons, if_pos old, List.nil_append, seen, ih]

theorem Thinned.links_eq (thinned : Thinned nodes [] connections left) :
    links nodes left = links nodes connections := by
  have all_new (found : List (Link nodes.length)) :
      found.filter (· ∉ ([] : List Connection).filterMap (link? nodes)) = found :=
    List.filter_eq_self.mpr (by simp)
  have same := thinned.new_links
  rwa [all_new, all_new] at same

/-! ### The layout -/

/-- A flow without some of its redundant connections has the layout that it has with them. -/
theorem layout_thinned {α : Type} [Scalar α] (config : Config α)
    (thinned : Thinned nodes [] connections left) :
    layout nodes left config = layout nodes connections config := by
  simp only [layout, thinned.links_eq]

/-- An arrow drawn twice, with another label, and two arrows to a node that is not there are taken
out; a third copy of the first arrow is left. -/
theorem layout_thinned_of_repeated :
    let node (id : String) : Node := ⟨id, id, .task, none, none⟩
    let arrow (source target : String) (label : Option String) : Connection :=
      ⟨source, target, none, none, false, label⟩
    let nodes := [node "a", node "b", node "c"]
    let connections := [arrow "a" "b" none, arrow "a" "x" none, arrow "a" "c" none,
      arrow "a" "b" (some "again"), arrow "a" "x" none, arrow "c" "b" none, arrow "a" "b" none]
    let left := [arrow "a" "b" none, arrow "a" "c" none, arrow "c" "b" none, arrow "a" "b" none]
    Thinned nodes [] connections left ∧
      layout nodes left (.default : Config Rat) = layout nodes connections .default := by
  intro node arrow nodes connections left
  have thinned : Thinned nodes [] connections left := by
    refine .keep (.drop ?_ (.keep (.drop ?_ (.drop ?_ (.keep (.keep .nil))))))
    all_goals decide +kernel
  exact ⟨thinned, layout_thinned _ thinned⟩

end TextDiagram.Flow
