import Mathlib.Data.Set.Card
import TextDiagram.Proofs.Flow.Reaching

/-!
# Counting the nodes that are reachable

Branches are ranked by how many nodes they reach, which a search with a worklist counts. A node may
wait on the worklist several times, and links may lead in circles. Main statement: the search ends,
and the number it gives is that of the nodes that links lead to, the first one included.
-/
namespace TextDiagram.Flow

variable {n : Nat} {next : Fin n → List (Fin n)} {seen waiting found : List (Fin n)}
  {node start : Fin n}

/-! ### The run of a search -/

/-- A search that has seen some nodes while others wait, and those seen when none waits any more. -/
inductive Searches (next : Fin n → List (Fin n)) :
    (seen waiting found : List (Fin n)) → Prop where
  | nothing (seen : List (Fin n)) : Searches next seen [] seen
  | skip {seen waiting found : List (Fin n)} {node : Fin n} (old : node ∈ seen)
      (others : Searches next seen waiting found) : Searches next seen (node :: waiting) found
  | enter {seen waiting found : List (Fin n)} {node : Fin n} (new : node ∉ seen)
      (others : Searches next (node :: seen)
        ((next node).filter (· ∉ node :: seen) ++ waiting) found) :
      Searches next seen (node :: waiting) found

theorem visit_nil : visit next seen [] = seen := by
  rw [visit.eq_def]

theorem visit_skip (old : node ∈ seen) :
    visit next seen (node :: waiting) = visit next seen waiting := by
  rw [visit.eq_def]
  simp [old]

theorem visit_enter (new : node ∉ seen) :
    visit next seen (node :: waiting) =
      visit next (node :: seen) ((next node).filter (· ∉ node :: seen) ++ waiting) := by
  rw [visit.eq_def]
  simp [new]

/-- Every search ends, with what is visited and with nothing else. -/
theorem searches_iff : Searches next seen waiting found ↔ found = visit next seen waiting := by
  constructor
  · intro searches
    induction searches with
    | nothing => rw [visit_nil]
    | skip old _ ih => rw [visit_skip old, ih]
    | enter new _ ih => rw [visit_enter new, ih]
  · rintro rfl
    fun_induction visit next seen waiting with
    | case1 seen => exact .nothing seen
    | case2 seen node waiting old ih => exact .skip (by simpa using old) ih
    | case3 seen node waiting new found ih =>
      have unseen : found = (next node).filter (· ∉ node :: seen) :=
        List.filter_congr (by simp)
      rw [unseen] at ih ⊢
      exact .enter (by simpa using new) ih

/-! ### What a search finds -/

/-- What holds at every moment of a search from `start`: the nodes seen are different ones, links
lead to all that has been seen or waits, and no link leads from the nodes seen anywhere else. -/
structure Exploring (next : Fin n → List (Fin n)) (start : Fin n)
    (seen waiting : List (Fin n)) : Prop where
  distinct : seen.Nodup
  started : start ∈ seen ∨ start ∈ waiting
  reached : ∀ node, node ∈ seen ∨ node ∈ waiting → Reached next [start] node
  closed : ∀ node ∈ seen, ∀ target ∈ next node, target ∈ seen ∨ target ∈ waiting

namespace Exploring

theorem begin (next : Fin n → List (Fin n)) (start : Fin n) : Exploring next start [] [start] where
  distinct := List.nodup_nil
  started := by simp
  reached := by simp [Reached, Relation.ReflTransGen.refl]
  closed := by simp

/-- When the node taken off the worklist is among those seen, no node has been lost. -/
theorem none_lost {seen_now waiting_now : List (Fin n)} (taken : node ∈ seen_now)
    (seen_kept : seen ⊆ seen_now) (waiting_kept : waiting ⊆ waiting_now) (other : Fin n)
    (known : other ∈ seen ∨ other ∈ node :: waiting) :
    other ∈ seen_now ∨ other ∈ waiting_now := by
  rcases known with seen_before | waits
  · exact .inl (seen_kept seen_before)
  · rcases List.mem_cons.mp waits with rfl | later
    · exact .inl taken
    · exact .inr (waiting_kept later)

/-- A node that has been seen stands for itself among those seen. -/
theorem skip (exploring : Exploring next start seen (node :: waiting)) (old : node ∈ seen) :
    Exploring next start seen waiting := by
  have stays := none_lost old (List.Subset.refl seen) (List.Subset.refl waiting)
  constructor
  case distinct => exact exploring.distinct
  case started => exact stays start exploring.started
  case reached =>
    exact fun other known => exploring.reached other (known.imp_right (List.mem_cons_of_mem node))
  case closed =>
    exact fun source source_seen target linked =>
      stays target (exploring.closed source source_seen target linked)

/-- A node not seen before comes to those seen, and what it links to waits if it is not among
them. -/
theorem enter (exploring : Exploring next start seen (node :: waiting)) (new : node ∉ seen) :
    Exploring next start (node :: seen) ((next node).filter (· ∉ node :: seen) ++ waiting) := by
  have stays := none_lost List.mem_cons_self (List.subset_cons_self node seen)
    (List.subset_append_right ((next node).filter (· ∉ node :: seen)) waiting)
  have node_reached := exploring.reached node (.inr List.mem_cons_self)
  constructor
  case distinct => exact List.nodup_cons.mpr ⟨new, exploring.distinct⟩
  case started => exact stays start exploring.started
  case reached =>
    intro other known
    rcases known with seen_now | waits
    · rcases List.mem_cons.mp seen_now with rfl | seen_before
      · exact node_reached
      · exact exploring.reached other (.inl seen_before)
    · rcases List.mem_append.mp waits with linked | later
      · obtain ⟨first, among, path⟩ := node_reached
        exact ⟨first, among, path.tail (List.mem_filter.mp linked).1⟩
      · exact exploring.reached other (.inr (List.mem_cons_of_mem node later))
  case closed =>
    intro source source_seen target linked
    rcases List.mem_cons.mp source_seen with rfl | seen_before
    -- Only what has not been seen goes on the worklist.
    · by_cases target_seen : target ∈ source :: seen
      · exact .inl target_seen
      · refine .inr (List.mem_append_left _ (List.mem_filter.mpr ⟨linked, ?_⟩))
        simpa using target_seen
    · exact stays target (exploring.closed source seen_before target linked)

/-- What holds at one moment of a search holds at its end, with nothing waiting. -/
theorem run (exploring : Exploring next start seen waiting)
    (searches : Searches next seen waiting found) : Exploring next start found [] := by
  induction searches with
  | nothing => exact exploring
  | skip old _ ih => exact ih (exploring.skip old)
  | enter new _ ih => exact ih (exploring.enter new)

/-- When nothing waits, all that links lead to has been seen. -/
theorem mem_iff (exploring : Exploring next start seen []) :
    node ∈ seen ↔ Reached next [start] node := by
  constructor
  · exact fun seen_node => exploring.reached node (.inl seen_node)
  · rintro ⟨first, among, path⟩
    cases List.mem_singleton.mp among
    induction path with
    | refl => exact exploring.started.resolve_right List.not_mem_nil
    | tail _ linked ih => exact (exploring.closed _ ih _ linked).resolve_right List.not_mem_nil

end Exploring

/-! ### The number of nodes -/

/-- Whatever the links, the search from a node ends, in one way only. It has then seen, each once,
the nodes that links lead to from there, and their number is the reach of the node. -/
theorem reach_counts (next : Fin n → List (Fin n)) (node : Fin n) :
    ∃ found, (∀ other, Searches next [] [node] other ↔ other = found) ∧ found.Nodup ∧
      (∀ target, target ∈ found ↔ Reached next [node] target) ∧
      reach next node = found.length ∧
      reach next node = {target | Reached next [node] target}.ncard := by
  have explored := (Exploring.begin next node).run (searches_iff.mpr rfl)
  refine ⟨visit next [] [node], fun other => searches_iff, explored.distinct,
    fun target => explored.mem_iff, rfl, ?_⟩
  have all_found : {target | Reached next [node] target} =
      ((visit next [] [node]).toFinset : Set (Fin n)) := by
    ext target
    simp [explored.mem_iff]
  rw [all_found, Set.ncard_coe_finset, List.toFinset_card_of_nodup explored.distinct, reach]

end TextDiagram.Flow
