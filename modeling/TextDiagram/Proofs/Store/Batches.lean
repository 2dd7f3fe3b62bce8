import TextDiagram.Proofs.Store.Calls

/-!
# Many entries at once

A store in memory works on many entries in one call. Main statements: creating entries in one call
is the same as creating them in two calls, one after the other, and so is deleting; hence a call on
many entries is the same as the calls that a store without such calls makes, one for each entry.
-/
namespace TextDiagram

variable {α : Type}

/-- Calls that always yield the same are the same. -/
theorem StoreCall.eq_of_yields {σ β : Type} {first second : StoreCall σ β}
    (same : ∀ before, ∃ answer after, first.Yields before answer after ∧
      second.Yields before answer after) : first = second := by
  apply ExceptT.ext
  funext before
  obtain ⟨answer, after, first_yields, second_yields⟩ := same before
  exact first_yields.trans second_yields.symm

theorem upsert_upsert {β κ : Type} [DecidableEq κ] (key : β → κ) {first second : β}
    (same : key first = key second) (items : List β) :
    upsert key second (upsert key first items) = upsert key second items := by
  induction items with
  | nil => simp [upsert, same]
  | cons item rest ih =>
    by_cases here : key item = key first
    · simp [upsert, here, same]
    · have not_second : ¬ key item = key second := same ▸ here
      simp [upsert, here, not_second, ih]

namespace Memory

/-! ### Writing twice -/

theorem documentOrEmpty_keep (memory : Memory α) {document : Document α} {id : DocumentId}
    (same_id : document.id = id) : (memory.keep document).documentOrEmpty id = document :=
  documentOrEmpty_of_some (same_id ▸ document?_keep memory document)

theorem keep_keep (memory : Memory α) {first second : Document α} (same : first.id = second.id) :
    (memory.keep first).keep second = memory.keep second := by
  simp only [keep, upsert_upsert Document.id same]

theorem withIds_append {δ ι β : Type} (give : δ → ι → β) (supply : Nat → ι) (number : Nat)
    (first rest : List δ) :
    withIds give supply number (first ++ rest) =
      withIds give supply number first ++ withIds give supply (number + first.length) rest := by
  induction first generalizing number with
  | nil => rfl
  | cons draft others ih =>
    rw [List.cons_append, withIds, ih, withIds, List.cons_append, List.length_cons,
      Nat.add_assoc, Nat.add_comm 1]

/-! ### Creating -/

theorem drawn_drawn (memory : Memory α) (shapes connectors moreShapes moreConnectors : Nat) :
    (memory.drawn shapes connectors).drawn moreShapes moreConnectors =
      memory.drawn (shapes + moreShapes) (connectors + moreConnectors) := by
  simp only [drawn, Nat.add_assoc]

theorem keep_drawn (memory : Memory α) (document : Document α) (shapes connectors : Nat) :
    (memory.keep document).drawn shapes connectors =
      (memory.drawn shapes connectors).keep document :=
  rfl

/-- The call draws so many ids of shapes and of connectors, changes a document, and answers with
it. -/
def Creates (call : StoreCall (Memory α) (Document α)) (id : DocumentId) (memory : Memory α)
    (shapes connectors : Nat) (change : Document α → Document α) : Prop :=
  call.Yields memory (change (memory.documentOrEmpty id))
    ((memory.drawn shapes connectors).keep (change (memory.documentOrEmpty id)))

theorem Series.add_creates {β δ ι : Type} (series : Series α β δ ι) (supply : Supply)
    (id : DocumentId) (drafts : List δ) (memory : Memory α) :
    Creates (series.add supply id drafts) id memory (series.shapes drafts.length)
      (series.connectors drafts.length)
      (series.append · (withIds series.withId (series.give supply) (series.given memory) drafts)) :=
  rfl

/-- The second of two creations finds the document that the first one has left. -/
theorem Creates.append {first second : StoreCall (Memory α) (Document α)} {id : DocumentId}
    {memory : Memory α} {shapes connectors moreShapes moreConnectors : Nat}
    {change further : Document α → Document α}
    (created : Creates first id memory shapes connectors change)
    (created_further :
      let between := (memory.drawn shapes connectors).keep (change (memory.documentOrEmpty id))
      Creates second id between moreShapes moreConnectors further)
    (change_id : ∀ document, (change document).id = document.id)
    (further_id : ∀ document, (further document).id = document.id) :
    Creates (first >>= fun _ => second) id memory (shapes + moreShapes)
      (connectors + moreConnectors) (further ∘ change) := by
  let one := change (memory.documentOrEmpty id)
  have one_id : one.id = id := (change_id _).trans (memory.documentOrEmpty_id id)
  have held : ((memory.drawn shapes connectors).keep one).documentOrEmpty id = one :=
    documentOrEmpty_keep _ one_id
  have after : (((memory.drawn shapes connectors).keep one).drawn moreShapes moreConnectors).keep
      (further one) =
        (memory.drawn (shapes + moreShapes) (connectors + moreConnectors)).keep (further one) := by
    rw [keep_drawn, drawn_drawn, keep_keep _ (further_id one).symm]
  have further_yields : second.Yields _ _ _ := created_further
  rw [held, after] at further_yields
  exact StoreCall.Yields.bind created further_yields

theorem Creates.unique {first second : StoreCall (Memory α) (Document α)} {id : DocumentId}
    (same : ∀ memory, ∃ shapes connectors change,
      Creates first id memory shapes connectors change ∧
        Creates second id memory shapes connectors change) : first = second := by
  apply StoreCall.eq_of_yields
  intro memory
  obtain ⟨shapes, connectors, change, first_yields, second_yields⟩ := same memory
  exact ⟨_, _, first_yields, second_yields⟩

/-- Two creations, one after the other, are the same as one of all entries. -/
theorem Series.add_append {β δ ι : Type} (series : Series α β δ ι) (supply : Supply)
    (id : DocumentId) (first rest : List δ) :
    (series.add supply id first >>= fun _ => series.add supply id rest) =
      series.add supply id (first ++ rest) := by
  apply Creates.unique
  intro memory
  let made (number : Nat) (drafts : List δ) : List β :=
    withIds series.withId (series.give supply) number drafts
  -- The second creation goes on numbering where the first one has ended.
  obtain ⟨between, called, became⟩ := series.add_does supply memory id first
  have first_creates := series.add_creates supply id first memory
  obtain ⟨-, rfl⟩ := called.unique first_creates
  have rest_creates := series.add_creates supply id rest
    ((memory.drawn (series.shapes first.length) (series.connectors first.length)).keep
      (series.append (memory.documentOrEmpty id) (made (series.given memory) first)))
  rw [series.given_of_becomes became] at rest_creates
  refine ⟨_, _, _, first_creates.append rest_creates (fun _ => series.append_id _ _)
    fun _ => series.append_id _ _, ?_⟩
  have changes : (series.append · (made (series.given memory + first.length) rest)) ∘
      (series.append · (made (series.given memory) first)) =
        (series.append · (made (series.given memory) (first ++ rest))) := by
    funext document
    simp only [made, Function.comp_apply, series.append_append, withIds_append]
  have together := series.add_creates supply id (first ++ rest) memory
  rw [List.length_append, series.shapes_add, series.connectors_add] at together
  exact changes ▸ together

/-- Creations one by one answer what one creation of all entries answers. -/
theorem lastAnswer_eq {δ : Type} {add : List δ → StoreCall (Memory α) (Document α)}
    (append : ∀ first rest, (add first >>= fun _ => add rest) = add (first ++ rest))
    (last : Option (Document α)) (draft : δ) (rest : List δ) :
    BasicStore.lastAnswer (fun draft => add [draft]) last (draft :: rest) =
      some <$> add (draft :: rest) := by
  induction rest generalizing last draft with
  | nil =>
    simp only [BasicStore.lastAnswer]
    rfl
  | cons next rest ih =>
    have two_calls := append [draft] (next :: rest)
    rw [List.singleton_append] at two_calls
    rw [BasicStore.lastAnswer, ← two_calls, map_bind]
    simp only [ih]

theorem addEach_eq {δ : Type} (store : BasicStore α (Memory α)) (id : DocumentId)
    {add : List δ → StoreCall (Memory α) (Document α)}
    (append : ∀ first rest, (add first >>= fun _ => add rest) = add (first ++ rest))
    {drafts : List δ} (some_drafts : drafts ≠ []) :
    store.addEach id (fun _ draft => add [draft]) drafts = add drafts := by
  obtain ⟨draft, rest, rfl⟩ := List.exists_cons_of_ne_nil some_drafts
  rw [BasicStore.addEach, lastAnswer_eq append]
  simp

/-! ### Deleting -/

/-- Keeps a document if there is one. -/
def keep? (memory : Memory α) : Option (Document α) → Memory α
  | none => memory
  | some document => memory.keep document

theorem change?_yields (memory : Memory α) (id : DocumentId)
    (change : Document α → Option (Document α)) :
    (change? id change).Yields memory ((memory.document? id).bind change)
      (memory.keep? ((memory.document? id).bind change)) := by
  refine .get_bind ?_
  cases (memory.document? id).bind change <;> rfl

end Memory

namespace EntryKind

variable {β ι : Type} [DecidableEq ι] (kind : EntryKind α β ι)

theorem delete_yields (memory : Memory α) (id : DocumentId) (keys : List ι) :
    (kind.delete id keys).Yields memory ((memory.document? id).bind (kind.erased? · keys))
      (memory.keep? ((memory.document? id).bind (kind.erased? · keys))) :=
  memory.change?_yields id (kind.erased? · keys)

theorem delete_nil (id : DocumentId) : kind.delete (α := α) id [] = pure none := by
  apply StoreCall.eq_of_yields
  intro memory
  have yields := kind.delete_yields memory id []
  have found : (memory.document? id).bind (kind.erased? · []) = none := by
    simp [erased?_nil]
  rw [found] at yields
  exact ⟨none, memory, yields, rfl⟩

/-- Two deletions, one after the other, are the same as one of all entries. -/
theorem delete_append (id : DocumentId) (first rest : List ι) :
    (do
      let one ← kind.delete id first
      let two ← kind.delete id rest
      pure (two.or one)) = kind.delete id (first ++ rest) := by
  apply StoreCall.eq_of_yields
  intro memory
  have one_yields := kind.delete_yields memory id first
  have two_yields := kind.delete_yields
    (memory.keep? ((memory.document? id).bind (kind.erased? · first))) id rest
  have together := kind.delete_yields memory id (first ++ rest)
  refine ⟨_, _, .bind one_yields (.bind two_yields rfl), ?_⟩
  cases held : memory.document? id with
  | none => simpa [held, Memory.keep?] using together
  | some document =>
    simp only [held, Option.bind_some, erased?_append] at together ⊢
    cases some_first : kind.erased? document first with
    | none => simpa [some_first, Memory.keep?, held] using together
    | some between =>
      -- The second deletion finds the document that the first one has kept.
      have same_id : between.id = id :=
        (kind.erased?_id some_first).trans (by simpa using List.find?_some held)
      have kept : (memory.keep between).document? id = some between :=
        same_id ▸ memory.document?_keep between
      simp only [some_first, Memory.keep?, kept, Option.bind_some, Option.elim_some] at together ⊢
      cases some_rest : kind.erased? between rest with
      | none => simpa [some_rest] using together
      | some erased =>
        have same_keep : (memory.keep between).keep erased = memory.keep erased :=
          memory.keep_keep (kind.erased?_id some_rest).symm
        simpa [some_rest, same_keep] using together

/-- Deletions one by one answer what one deletion of all entries answers. -/
theorem lastChange_eq (id : DocumentId) (last : Option (Document α)) (keys : List ι) :
    BasicStore.lastChange (fun key => kind.delete id [key]) last keys =
      (·.or last) <$> kind.delete id keys := by
  induction keys generalizing last with
  | nil =>
    rw [BasicStore.lastChange, delete_nil]
    rfl
  | cons key rest ih =>
    have two_calls := kind.delete_append (α := α) id [key] rest
    rw [List.singleton_append] at two_calls
    rw [BasicStore.lastChange, ← two_calls]
    simp [ih, Option.or_assoc]

theorem deleteEach_eq (id : DocumentId) (keys : List ι) :
    BasicStore.lastChange (fun key => kind.delete (α := α) id [key]) none keys =
      kind.delete id keys := by
  rw [lastChange_eq]
  simp

end EntryKind

end TextDiagram
