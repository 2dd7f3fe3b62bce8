import TextDiagram.Proofs.Document.Keyed

/-!
# Overwriting items under keys

Items are put into a list one after the other, and each is looked up in the list that those before
it have left. Main statement: what comes out can be said of the items as a whole. Old items keep
their places, what is kept under a key is the last item given for it, and keys that are new come
behind in the order of their first items. This determines the list, and so putting the same items in
again changes nothing.
-/
namespace TextDiagram

variable {β κ : Type} [DecidableEq κ]

/-- The last of the items that has the key. -/
def lastUnder? (key : β → κ) (items : List β) (wanted : κ) : Option β :=
  items.reverse.find? fun item => key item = wanted

/-- Items have been put into the list `before`, each over the one with its key, and the list has
become `after`. -/
structure Overwritten (key : β → κ) (items before after : List β) : Prop where
  /-- Old keys keep their places. New ones are behind them, in the order in which they are first
  given. -/
  keys : after.map key = before.map key ++ (items.map key).eraseDups.filter (· ∉ before.map key)
  /-- Under a key that is given there is the last item given for it, and no other. -/
  latest : ∀ wanted ∈ items.map key, ∃ item ∈ after, lastUnder? key items wanted = some item ∧
    ∀ other ∈ after, key other = wanted → other = item
  /-- Under other keys each place has the item that it had. -/
  others : ∀ (place : Nat) (item : β), before[place]? = some item → key item ∉ items.map key →
    after[place]? = some item

/-! ### One item more -/

section Concat

variable {key : β → κ} {items : List β} {item : β}

theorem upsertAll_concat (key : β → κ) (items : List β) (item : β) (held : List β) :
    upsertAll key (items ++ [item]) held = upsert key item (upsertAll key items held) := by
  simp [upsertAll]

theorem lastUnder?_concat_self : lastUnder? key (items ++ [item]) (key item) = some item := by
  simp [lastUnder?]

theorem lastUnder?_concat_of_ne {wanted : κ} (apart : wanted ≠ key item) :
    lastUnder? key (items ++ [item]) wanted = lastUnder? key items wanted := by
  simp [lastUnder?, apart.symm]

theorem mem_upsert (other : β) {held : List β} (distinct : (held.map key).Nodup) :
    other ∈ upsert key item held ↔ other = item ∨ (other ∈ held ∧ key other ≠ key item) := by
  rw [(upsert_perm key item distinct).mem_iff]
  simp [List.mem_filter]

theorem getElem?_upsert_of_ne {held : List β} {place : Nat} {other : β}
    (there : held[place]? = some other) (apart : key other ≠ key item) :
    (upsert key item held)[place]? = some other := by
  induction held generalizing place with
  | nil => simp at there
  | cons first rest ih =>
    rw [upsert]
    cases place with
    | zero =>
      obtain rfl : first = other := by simpa using there
      rw [if_neg apart, List.getElem?_cons_zero]
    | succ place =>
      split
      · simpa using there
      · simpa using ih (by simpa using there)

end Concat

/-! ### All items -/

section All

variable (key : β → κ)

/-- The keys after all items have been put in. -/
theorem map_upsertAll (items held : List β) :
    (upsertAll key items held).map key =
      held.map key ++ (items.map key).eraseDups.filter (· ∉ held.map key) := by
  induction items using List.reverseRecOn with
  | nil => simp
  | append_singleton items item ih =>
    rw [upsertAll_concat, map_upsert, ih, List.map_append, List.map_singleton]
    by_cases given : key item ∈ items.map key
    -- The key is among those before, wherever it has come from.
    · have there := (mem_map_upsertAll key items held).mpr (.inl given)
      rw [ih] at there
      rw [if_pos there, eraseDups_append_of_mem given]
    · rw [eraseDups_append_of_notMem given, List.filter_append]
      by_cases old : key item ∈ held.map key
      · rw [if_pos (List.mem_append_left _ old), List.filter_singleton]
        simp [old]
      · have new : key item ∉
            held.map key ++ (items.map key).eraseDups.filter (· ∉ held.map key) := by
          rw [← ih, mem_map_upsertAll]
          exact fun either => either.elim given old
        rw [if_neg new, List.filter_singleton, List.append_assoc]
        simp [old]

/-- Where something has been put in there is an item. -/
theorem eq_nil_of_upsertAll {items held : List β} (nothing : upsertAll key items held = []) :
    items = [] := by
  refine List.eq_nil_iff_forall_not_mem.mpr fun item given => ?_
  have there := (mem_map_upsertAll key items held).mpr (.inl (List.mem_map_of_mem given))
  simp [nothing] at there

theorem upsertAll_overwritten (items : List β) {held : List β} (distinct : (held.map key).Nodup) :
    Overwritten key items held (upsertAll key items held) := by
  -- From the end of the items, as the last one put in is what stays under its key.
  induction items using List.reverseRecOn with
  | nil => exact ⟨map_upsertAll key [] held, by simp, fun _ _ there _ => there⟩
  | append_singleton items item ih =>
    have between_distinct := upsertAll_nodup key items distinct
    refine ⟨map_upsertAll key _ held, fun wanted given => ?_, fun place other there apart => ?_⟩
    · rw [upsertAll_concat]
      by_cases last : wanted = key item
      · subst last
        refine ⟨item, (mem_upsert item between_distinct).mpr (.inl rfl), lastUnder?_concat_self, ?_⟩
        intro other other_held same
        rcases (mem_upsert other between_distinct).mp other_held with is_item | ⟨-, apart⟩
        · exact is_item
        · exact absurd same apart
      -- An item before this one has the key, and what it has left under it stays.
      · have given_before : wanted ∈ items.map key := by simpa [last] using given
        obtain ⟨first, held_first, is_last, unique⟩ := ih.latest wanted given_before
        have same_key : key first = wanted := by simpa using List.find?_some is_last
        refine ⟨first, (mem_upsert first between_distinct).mpr (.inr ⟨held_first, ?_⟩), ?_, ?_⟩
        · exact fun same => last (same_key.symm.trans same)
        · rw [lastUnder?_concat_of_ne last, is_last]
        · intro other other_held same
          rcases (mem_upsert other between_distinct).mp other_held with rfl | ⟨before, -⟩
          · exact absurd same.symm last
          · exact unique other before same
    · simp only [List.map_append, List.map_singleton, List.mem_append, List.mem_singleton,
        not_or] at apart
      rw [upsertAll_concat]
      exact getElem?_upsert_of_ne (ih.others place other there apart.1) apart.2

end All

/-! ### What determines the list -/

namespace Overwritten

variable {key : β → κ} {items before after other : List β}

/-- Every key that is given is there in the end. -/
theorem key_mem (overwritten : Overwritten key items before after) {wanted : κ}
    (given : wanted ∈ items.map key) : wanted ∈ after.map key := by
  obtain ⟨item, held, is_last, -⟩ := overwritten.latest wanted given
  have same_key : key item = wanted := by simpa using List.find?_some is_last
  exact List.mem_map.mpr ⟨item, held, same_key⟩

/-- A key that is not given has its place from before. -/
theorem old_of_not_given (overwritten : Overwritten key items before after) {place : Nat}
    (inside : place < after.length) (apart : key after[place] ∉ items.map key) :
    ∃ item, before[place]? = some item ∧ key item ∉ items.map key := by
  have same_key : (after.map key)[place]? = some (key after[place]) := by
    rw [List.getElem?_map, List.getElem?_eq_getElem inside, Option.map_some]
  rw [overwritten.keys] at same_key
  rcases Nat.lt_or_ge place before.length with old | new
  · refine ⟨before[place], List.getElem?_eq_getElem old, ?_⟩
    rw [List.getElem?_append_left (by simpa using old)] at same_key
    have unchanged : key before[place] = key after[place] := by simpa [old] using same_key
    rwa [unchanged]
  · rw [List.getElem?_append_right (by simpa using new)] at same_key
    have is_new := (List.mem_filter.mp (List.mem_of_getElem? same_key)).1
    exact absurd (List.mem_eraseDups.mp is_new) apart

/-- What has been put in determines the list. -/
theorem unique (overwritten : Overwritten key items before after)
    (also : Overwritten key items before other) : after = other := by
  have same_keys : after.map key = other.map key := overwritten.keys.trans also.keys.symm
  have same_length : after.length = other.length := by simpa using congrArg List.length same_keys
  refine List.ext_getElem same_length fun place in_after in_other => ?_
  have same_key : key after[place] = key other[place] := by
    have same_place := List.getElem_of_eq same_keys (i := place) (by simpa using in_after)
    rwa [List.getElem_map, List.getElem_map] at same_place
  -- A given key has its last item in both lists, and any other key has its old item in both.
  by_cases given : key after[place] ∈ items.map key
  · obtain ⟨item, -, is_last, unique⟩ := overwritten.latest _ given
    obtain ⟨item', -, is_last', unique'⟩ := also.latest _ given
    obtain rfl : item = item' := by simpa [is_last] using is_last'
    rw [unique _ (List.getElem_mem in_after) rfl,
      unique' _ (List.getElem_mem in_other) same_key.symm]
  · obtain ⟨item, old, apart⟩ := overwritten.old_of_not_given in_after given
    have here := overwritten.others place item old apart
    have there := also.others place item old apart
    rw [List.getElem?_eq_getElem in_after] at here
    rw [List.getElem?_eq_getElem in_other] at there
    exact Option.some.inj (here.trans there.symm)

/-- Putting the same items in again finds nothing to change. -/
theorem again (overwritten : Overwritten key items before after) :
    Overwritten key items after after where
  keys := by
    have none_new : (items.map key).eraseDups.filter (· ∉ after.map key) = [] := by
      refine List.filter_eq_nil_iff.mpr fun wanted given => ?_
      simpa using overwritten.key_mem (List.mem_eraseDups.mp given)
    rw [none_new, List.append_nil]
  latest := overwritten.latest
  others := fun _ _ there _ => there

/-- Items under different keys make up the list that they are put into empty. -/
theorem of_nil (distinct : (items.map key).Nodup) : Overwritten key items [] items where
  keys := by simp [eraseDups_of_nodup distinct]
  latest := by
    intro wanted given
    obtain ⟨item, member, rfl⟩ := List.mem_map.mp given
    refine ⟨item, member, ?_, fun other held same => eq_of_key_eq key distinct held member same⟩
    have reversed : (items.reverse.map key).Nodup := by
      rwa [List.map_reverse, List.nodup_reverse]
    exact find?_key_of_mem key reversed (List.mem_reverse.mpr member)
  others := by simp

end Overwritten

theorem upsertAll_upsertAll (key : β → κ) (items : List β) {held : List β}
    (distinct : (held.map key).Nodup) :
    upsertAll key items (upsertAll key items held) = upsertAll key items held :=
  (upsertAll_overwritten key items (upsertAll_nodup key items distinct)).unique
    (upsertAll_overwritten key items distinct).again

theorem upsertAll_of_distinct (key : β → κ) {items : List β} (distinct : (items.map key).Nodup) :
    upsertAll key items [] = items := by
  have none_held : (([] : List β).map key).Nodup := List.nodup_nil
  exact (upsertAll_overwritten key items none_held).unique (.of_nil distinct)

end TextDiagram
