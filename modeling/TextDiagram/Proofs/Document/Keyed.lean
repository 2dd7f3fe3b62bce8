import Mathlib.Data.List.Induction
import Mathlib.Data.List.Nodup
import Mathlib.Data.List.Perm.Basic
import TextDiagram.Document.Basic

/-!
# Items kept under keys

What `upsert` and `modifyFirst?` do to a list whose items are told apart by their keys. Up to the
order of the list an upsert takes the item with the key out and puts the new one in, so upserts
do not depend on the order of the list they start from. Items under other keys stay, in order.
-/
namespace TextDiagram

variable {β κ : Type} [DecidableEq κ]

/-- Puts items into a list one after the other. -/
def upsertAll (key : β → κ) (items held : List β) : List β :=
  items.foldl (fun held item => upsert key item held) held

@[simp] theorem upsertAll_nil (key : β → κ) (held : List β) : upsertAll key [] held = held :=
  rfl

@[simp] theorem upsertAll_cons (key : β → κ) (item : β) (items held : List β) :
    upsertAll key (item :: items) held = upsertAll key items (upsert key item held) :=
  rfl

omit [DecidableEq κ] in
theorem nodup_map_filter (key : β → κ) (keep : β → Bool) {held : List β}
    (distinct : (held.map key).Nodup) : ((held.filter keep).map key).Nodup :=
  distinct.sublist (List.filter_sublist.map key)

omit [DecidableEq κ] in
theorem map_zipWith_key {δ : Type} (give : δ → κ → β) (key : β → κ)
    (gives : ∀ draft k, key (give draft k) = k) {drafts : List δ} {keys : List κ}
    (length : drafts.length = keys.length) : (drafts.zipWith give keys).map key = keys := by
  have pairs := List.map_snd_zip (Nat.le_of_eq length.symm)
  rw [List.zip, List.map_zipWith] at pairs
  simpa only [List.map_zipWith, gives] using pairs

/-! ### Keys in the order of their first occurrence -/

section

variable {ι : Type} [BEq ι] [LawfulBEq ι] {keys : List ι} {k : ι}

theorem eraseDups_append_of_mem (old : k ∈ keys) : (keys ++ [k]).eraseDups = keys.eraseDups := by
  simp [List.eraseDups_append, List.removeAll, old]

theorem eraseDups_append_of_notMem (new : k ∉ keys) :
    (keys ++ [k]).eraseDups = keys.eraseDups ++ [k] := by
  simp [List.eraseDups_append, List.removeAll, new, List.eraseDups_cons]

theorem eraseDups_nodup (keys : List ι) : keys.eraseDups.Nodup := by
  induction keys using List.reverseRecOn with
  | nil => exact List.nodup_nil
  | append_singleton before k ih =>
    by_cases old : k ∈ before
    · rwa [eraseDups_append_of_mem old]
    · rw [eraseDups_append_of_notMem old, ← List.concat_eq_append]
      exact ih.concat fun held => old (List.mem_eraseDups.mp held)

theorem eraseDups_of_nodup (distinct : keys.Nodup) : keys.eraseDups = keys := by
  induction keys using List.reverseRecOn with
  | nil => rfl
  | append_singleton before k ih =>
    obtain ⟨before_distinct, -, apart⟩ := List.nodup_append'.mp distinct
    rw [eraseDups_append_of_notMem (fun old => apart old (List.mem_singleton_self k)),
      ih before_distinct]

end

/-! ### Other keys stay -/

/-- A selection that leaves out the key does not see the upsert. -/
theorem filter_upsert (key : β → κ) (keep : β → Bool) (item : β) (held : List β)
    (left_out : ∀ other, key other = key item → keep other = false) :
    (upsert key item held).filter keep = held.filter keep := by
  induction held with
  | nil => simp [upsert, left_out item rfl]
  | cons first rest ih =>
    simp only [upsert]
    split
    -- The item goes in here, and neither it nor the one it replaces is selected.
    next same => simp [left_out item rfl, left_out first same]
    next => simp only [List.filter_cons, ih]

theorem filter_upsertAll (key : β → κ) (keep : β → Bool) (items held : List β)
    (left_out : ∀ other, key other ∈ items.map key → keep other = false) :
    (upsertAll key items held).filter keep = held.filter keep := by
  induction items generalizing held with
  | nil => rfl
  | cons item items ih =>
    rw [upsertAll_cons, ih]
    · exact filter_upsert key keep item held fun other same => left_out other (by simp [same])
    · intro other member
      exact left_out other (List.mem_cons_of_mem _ member)

/-- Items whose keys are all left out are not seen at all. -/
theorem filter_upsertAll_of_listed (key : β → κ) (items held : List β) {keys : List κ}
    (listed : ∀ item ∈ items, key item ∈ keys) :
    (upsertAll key items held).filter (key · ∉ keys) = held.filter (key · ∉ keys) := by
  refine filter_upsertAll key _ items held fun other same => ?_
  obtain ⟨item, member, equal⟩ := List.mem_map.mp same
  simpa using equal ▸ listed item member

theorem filter_of_absent (key : β → κ) {items : List β} {keys : List κ}
    (absent : ∀ wanted ∈ keys, wanted ∉ items.map key) : items.filter (key · ∉ keys) = items := by
  refine List.filter_eq_self.mpr fun item member => ?_
  simpa using fun listed => absent _ listed (List.mem_map_of_mem member)

theorem absent_of_not_any (key : β → κ) {items : List β} {keys : List κ}
    (none_listed : ¬ items.any (key · ∈ keys) = true) :
    ∀ wanted ∈ keys, wanted ∉ items.map key := by
  intro wanted listed held
  obtain ⟨item, member, rfl⟩ := List.mem_map.mp held
  exact none_listed (List.any_eq_true.mpr ⟨item, member, decide_eq_true listed⟩)

/-- The keys after an upsert: the old ones, and behind them a key that is new. -/
theorem map_upsert (key : β → κ) (item : β) (held : List β) :
    (upsert key item held).map key =
      if key item ∈ held.map key then held.map key else held.map key ++ [key item] := by
  induction held with
  | nil => rfl
  | cons first rest ih =>
    simp only [upsert]
    split
    next same => simp [same]
    -- Not this key, so the item goes in further back or at the end.
    next other =>
      have apart : key item ≠ key first := fun equal => other equal.symm
      simp only [List.map_cons, ih, List.mem_cons, apart, false_or]
      split <;> rfl

theorem upsert_nodup (key : β → κ) (item : β) {held : List β} (distinct : (held.map key).Nodup) :
    ((upsert key item held).map key).Nodup := by
  rw [map_upsert]
  split
  · exact distinct
  next new => exact List.nodup_append_comm.mpr (List.nodup_cons.mpr ⟨new, distinct⟩)

theorem upsertAll_nodup (key : β → κ) (items : List β) {held : List β}
    (distinct : (held.map key).Nodup) : ((upsertAll key items held).map key).Nodup := by
  induction items generalizing held with
  | nil => exact distinct
  | cons item items ih => exact ih (upsert_nodup key item distinct)

/-- Putting items in leaves their keys and those that were there. -/
theorem mem_map_upsertAll (key : β → κ) {wanted : κ} (items held : List β) :
    wanted ∈ (upsertAll key items held).map key ↔
      wanted ∈ items.map key ∨ wanted ∈ held.map key := by
  induction items generalizing held with
  | nil => simp
  | cons item items ih =>
    have one : wanted ∈ (upsert key item held).map key ↔
        wanted = key item ∨ wanted ∈ held.map key := by
      rw [map_upsert]
      split
      next held_key => exact ⟨.inr, fun either => either.elim (· ▸ held_key) id⟩
      next => rw [List.mem_append, List.mem_singleton, or_comm]
    rw [upsertAll_cons, ih, one, List.map_cons, List.mem_cons, or_left_comm, or_assoc]

/-! ### Up to order -/

/-- Up to order, an upsert takes the item with the key out and puts the new one in. -/
theorem upsert_perm (key : β → κ) (item : β) {held : List β} (distinct : (held.map key).Nodup) :
    (upsert key item held).Perm (item :: held.filter fun other => key other ≠ key item) := by
  induction held with
  | nil => exact .refl _
  | cons first rest ih =>
    simp only [List.map_cons, List.nodup_cons] at distinct
    simp only [upsert]
    split
    next same =>
      -- Keys are distinct, so that nothing behind is filtered out.
      have untouched : (rest.filter fun other => key other ≠ key item) = rest := by
        refine List.filter_eq_self.mpr fun other member => ?_
        have apart : key other ≠ key item := by
          intro equal
          exact distinct.1 (List.mem_map.mpr ⟨other, member, equal.trans same.symm⟩)
        simpa using apart
      rw [List.filter_cons_of_neg (by simpa using same), untouched]
    next other =>
      rw [List.filter_cons_of_pos (by simpa using other)]
      exact ((ih distinct.2).cons first).trans (.swap item first _)

/-- Up to order, items under different keys take the place of all that had their keys. -/
theorem upsertAll_perm (key : β → κ) {items held : List β} (items_distinct : (items.map key).Nodup)
    (distinct : (held.map key).Nodup) :
    (upsertAll key items held).Perm
      (items ++ held.filter fun other => key other ∉ items.map key) := by
  induction items generalizing held with
  | nil => simp
  | cons item items ih =>
    simp only [List.map_cons, List.nodup_cons] at items_distinct
    -- The first item is put in before the others, which have other keys and let it be.
    have first := (upsert_perm key item distinct).filter fun other => key other ∉ items.map key
    rw [List.filter_cons_of_pos (by simpa using items_distinct.1), List.filter_filter] at first
    have both : (fun other => decide (key other ∉ items.map key) && decide (key other ≠ key item)) =
        fun other => decide (key other ∉ (item :: items).map key) := by
      funext other
      simp only [← Bool.decide_and, List.map_cons, List.mem_cons, not_or, and_comm]
    rw [both] at first
    have rest := ih items_distinct.2 (upsert_nodup key item distinct)
    exact (rest.trans (first.append_left items)).trans List.perm_middle

theorem mem_upsertAll (key : β → κ) (other : β) {items held : List β}
    (items_distinct : (items.map key).Nodup) (distinct : (held.map key).Nodup) :
    other ∈ upsertAll key items held ↔
      other ∈ items ∨ (other ∈ held ∧ key other ∉ items.map key) := by
  rw [(upsertAll_perm key items_distinct distinct).mem_iff]
  simp [List.mem_filter]

omit [DecidableEq κ] in
theorem perm_of_mem_iff (key : β → κ) {held other : List β} (distinct : (held.map key).Nodup)
    (other_distinct : (other.map key).Nodup) (same : ∀ item, item ∈ held ↔ item ∈ other) :
    held.Perm other :=
  (List.perm_ext_iff_of_nodup (.of_map key distinct) (.of_map key other_distinct)).mpr same

omit [DecidableEq κ] in
theorem eq_of_key_eq (key : β → κ) {held : List β} (distinct : (held.map key).Nodup)
    {item other : β} (item_held : item ∈ held) (other_held : other ∈ held)
    (same : key item = key other) : item = other :=
  List.inj_on_of_nodup_map distinct item_held other_held same

theorem find?_key_of_mem (key : β → κ) {held : List β} (distinct : (held.map key).Nodup) {item : β}
    (member : item ∈ held) : held.find? (fun other => key other = key item) = some item := by
  cases found : held.find? (fun other => key other = key item) with
  | none => exact absurd (decide_eq_true rfl) (List.find?_eq_none.mp found item member)
  | some other =>
    have same : key other = key item := by simpa using List.find?_some found
    rw [eq_of_key_eq key distinct (List.mem_of_find?_eq_some found) member same]

theorem perm_cons_filter (key : β → κ) {item : β} {held : List β}
    (distinct : (held.map key).Nodup) (member : item ∈ held) :
    held.Perm (item :: held.filter fun other => key other ≠ key item) := by
  refine perm_of_mem_iff key distinct ?_ fun other => ?_
  · refine List.nodup_cons.mpr ⟨?_, nodup_map_filter key _ distinct⟩
    intro listed
    obtain ⟨other, kept, same⟩ := List.mem_map.mp listed
    exact of_decide_eq_true (List.mem_filter.mp kept).2 same
  · simp only [List.mem_cons, List.mem_filter, decide_eq_true_eq]
    constructor
    · intro other_held
      by_cases same : key other = key item
      · exact .inl (eq_of_key_eq key distinct other_held member same)
      · exact .inr ⟨other_held, same⟩
    · rintro (rfl | ⟨other_held, -⟩)
      · exact member
      · exact other_held

/-- Items of one list under keys, put into other items of it, take the place of nothing else. -/
theorem mem_upsertAll_of_subset (key : β → κ) (other : β) {all items held : List β}
    (distinct : (all.map key).Nodup) (items_distinct : (items.map key).Nodup)
    (held_distinct : (held.map key).Nodup) (items_all : items ⊆ all) (held_all : held ⊆ all) :
    other ∈ upsertAll key items held ↔ other ∈ items ∨ other ∈ held := by
  rw [mem_upsertAll key other items_distinct held_distinct]
  constructor
  · rintro (put | ⟨stayed, -⟩)
    · exact .inl put
    · exact .inr stayed
  · rintro (put | stayed)
    · exact .inl put
    · by_cases same : key other ∈ items.map key
      -- What has the key of an item is this item, since both are from one list.
      · obtain ⟨item, put, equal⟩ := List.mem_map.mp same
        have is_item : item = other :=
          eq_of_key_eq key distinct (items_all put) (held_all stayed) equal
        exact .inl (is_item ▸ put)
      · exact .inr ⟨stayed, same⟩

theorem upsert_congr (key : β → κ) (item : β) {held other : List β}
    (distinct : (held.map key).Nodup) (same : held.Perm other) :
    (upsert key item held).Perm (upsert key item other) := by
  have other_distinct := (same.map key).nodup_iff.mp distinct
  exact (upsert_perm key item distinct).trans
    (((same.filter _).cons item).trans (upsert_perm key item other_distinct).symm)

theorem upsertAll_congr (key : β → κ) (items : List β) {held other : List β}
    (distinct : (held.map key).Nodup) (same : held.Perm other) :
    (upsertAll key items held).Perm (upsertAll key items other) := by
  induction items generalizing held other with
  | nil => exact same
  | cons item items ih =>
    exact ih (upsert_nodup key item distinct) (upsert_congr key item distinct same)

/-! ### Changing one item -/

/-- Items in front that do not have the key are passed over. -/
theorem modifyFirst?_append (key : β → κ) (change : β → β) {wanted : κ} {before : List β}
    (absent : wanted ∉ before.map key) (after : List β) :
    modifyFirst? key wanted change (before ++ after) =
      (modifyFirst? key wanted change after).map (before ++ ·) := by
  induction before with
  | nil => simp
  | cons head before ih =>
    simp only [List.map_cons, List.mem_cons, not_or] at absent
    rw [List.cons_append, modifyFirst?, if_neg (Ne.symm absent.1), ih absent.2, Option.map_map]
    rfl

/-- An item is changed where its key comes first. -/
theorem modifyFirst?_append_cons (key : β → κ) (change : β → β) (before : List β) (item : β)
    (after : List β) (first : key item ∉ before.map key) :
    modifyFirst? key (key item) change (before ++ item :: after) =
      some (before ++ change item :: after) := by
  rw [modifyFirst?_append key change first, modifyFirst?, if_pos rfl, Option.map_some]

theorem map_modifyFirst? (key : β → κ) (change : β → β)
    (keeps : ∀ item, key (change item) = key item) {wanted : κ} {items changed : List β}
    (modified : modifyFirst? key wanted change items = some changed) :
    changed.map key = items.map key := by
  induction items generalizing changed with
  | nil => cases modified
  | cons first rest ih =>
    rw [modifyFirst?] at modified
    split at modified
    · cases modified
      simp [keeps]
    · obtain ⟨others, modified_rest, rfl⟩ := Option.map_eq_some_iff.mp modified
      simp [ih modified_rest]

/-! ### Looking a key up -/

theorem find?_upsert_self (key : β → κ) (item : β) (held : List β) :
    ((upsert key item held).find? fun other => key other = key item) = some item := by
  induction held with
  | nil => simp [upsert]
  | cons first rest ih =>
    simp only [upsert]
    split
    next => simp
    next other => simp [other, ih]

theorem find?_upsert_of_ne (key : β → κ) (item : β) (held : List β) {wanted : κ}
    (apart : wanted ≠ key item) :
    ((upsert key item held).find? fun other => key other = wanted) =
      held.find? fun other => key other = wanted := by
  induction held with
  | nil => simp [upsert, apart.symm]
  | cons first rest ih =>
    simp only [upsert]
    split
    next same => simp [same, apart.symm]
    next => simp only [List.find?_cons, ih]

/-- An item that is found is put in where it is. -/
theorem upsert_of_found (key : β → κ) {item : β} {held : List β}
    (found : (held.find? fun other => key other = key item) = some item) :
    upsert key item held = held := by
  induction held with
  | nil => simp at found
  | cons first rest ih =>
    rw [upsert]
    split
    next same =>
      obtain rfl : first = item := by simpa [same] using found
      rfl
    next apart => rw [ih (by simpa [apart] using found)]

theorem find?_key_congr (key : β → κ) (wanted : κ) {held other : List β}
    (distinct : (held.map key).Nodup) (same : held.Perm other) :
    (held.find? fun item => key item = wanted) = other.find? fun item => key item = wanted := by
  induction same with
  | nil => rfl
  | cons first _ ih =>
    simp only [List.map_cons, List.nodup_cons] at distinct
    simp only [List.find?_cons, ih distinct.2]
  | swap first second rest =>
    simp only [List.map_cons, List.nodup_cons, List.mem_cons, not_or] at distinct
    -- At most one of the two has the key, so that it does not matter which comes first.
    have apart : key second ≠ key first := fun equal => distinct.1.1 equal
    by_cases here : key first = wanted
    · have there : key second ≠ wanted := fun equal => apart (equal.trans here.symm)
      simp [here, there]
    · simp [List.find?_cons, here]
  | trans first _ ih next =>
    exact (ih distinct).trans (next ((first.map key).nodup_iff.mp distinct))

/-! ### Other keys for all items -/

section

variable {key : β → κ} {move : β → β} {rename : κ → κ} (injective : Function.Injective rename)
  (renamed : ∀ item, key (move item) = rename (key item))

include injective renamed

theorem find?_map_key (wanted : κ) (items : List β) :
    ((items.map move).find? fun item => key item = rename wanted) =
      (items.find? fun item => key item = wanted).map move := by
  simp only [List.find?_map, Function.comp_def, renamed, injective.eq_iff]

theorem filter_map_listed (keys : List κ) (items : List β) :
    (items.map move).filter (fun item => key item ∈ keys.map rename) =
      (items.filter fun item => key item ∈ keys).map move := by
  simp only [List.filter_map, Function.comp_def, renamed, List.mem_map_of_injective injective]

theorem filter_map_unlisted (keys : List κ) (items : List β) :
    (items.map move).filter (fun item => key item ∉ keys.map rename) =
      (items.filter fun item => key item ∉ keys).map move := by
  simp only [List.filter_map, Function.comp_def, renamed, List.mem_map_of_injective injective]

theorem any_map_listed (keys : List κ) (items : List β) :
    ((items.map move).any fun item => key item ∈ keys.map rename) =
      items.any fun item => key item ∈ keys := by
  simp only [List.any_map, Function.comp_def, renamed, List.mem_map_of_injective injective]

theorem upsert_map (item : β) (held : List β) :
    upsert key (move item) (held.map move) = (upsert key item held).map move := by
  induction held with
  | nil => rfl
  | cons first rest ih =>
    simp only [List.map_cons, upsert, renamed, injective.eq_iff, ih]
    split <;> rfl

theorem upsertAll_map (items held : List β) :
    upsertAll key (items.map move) (held.map move) = (upsertAll key items held).map move := by
  induction items generalizing held with
  | nil => rfl
  | cons item items ih =>
    rw [List.map_cons, upsertAll_cons, upsertAll_cons, upsert_map injective renamed, ih]

theorem modifyFirst?_map (change changed : β → β)
    (agrees : ∀ item, changed (move item) = move (change item)) (wanted : κ) (items : List β) :
    modifyFirst? key (rename wanted) changed (items.map move) =
      (modifyFirst? key wanted change items).map (List.map move) := by
  induction items with
  | nil => rfl
  | cons first rest ih =>
    simp only [List.map_cons, modifyFirst?, renamed, injective.eq_iff, agrees, ih]
    split
    · rfl
    · simp [Option.map_map, Function.comp_def]

end

end TextDiagram
