import TextDiagram.Proofs.Store.Batches

/-!
# One by one against all at once

A store that has no calls on lists of entries makes them out of its calls on single entries. Main
statement: over a store in memory such calls answer what the store's own calls on lists answer, and
leave the same documents, in one call and in a whole run of calls. The two ways differ in one thing
only: when nothing is to be added, the store's own call brings the document into being. An absent
document therefore counts as an empty one.
-/
namespace TextDiagram

variable {α σ : Type}

/-! ### Calls on many entries -/

/-- A call on many entries of a document. -/
inductive BulkCall (α : Type) where
  | addShapes (drafts : List (ShapeDraft α))
  | addConnectors (drafts : List ConnectorDraft)
  | deleteShapes (ids : List ShapeId)
  | deleteConnectors (ids : List ConnectorId)

namespace BulkCall

/-- Makes the call to a store. An addition always answers with a document. -/
def call (store : DocumentStore α σ) (id : DocumentId) :
    BulkCall α → StoreCall σ (Option (Document α))
  | addShapes drafts => some <$> store.addShapes id drafts
  | addConnectors drafts => some <$> store.addConnectors id drafts
  | deleteShapes ids => store.deleteShapes id ids
  | deleteConnectors ids => store.deleteConnectors id ids

/-- Makes one call after the other, and gives all answers. -/
def callAll (store : DocumentStore α σ) :
    List (DocumentId × BulkCall α) → StoreCall σ (List (Option (Document α)))
  | [] => pure []
  | (id, bulk) :: rest => do
    let answer ← bulk.call store id
    let answers ← callAll store rest
    pure (answer :: answers)

end BulkCall

namespace Memory

/-! ### Stores with the same documents -/

/-- The stores hold the same documents, an absent document counting as an empty one, and have drawn
as many ids. -/
structure SameDocuments (memory other : Memory α) : Prop where
  documents : ∀ id, memory.documentOrEmpty id = other.documentOrEmpty id
  shapesDrawn : memory.shapesDrawn = other.shapesDrawn
  connectorsDrawn : memory.connectorsDrawn = other.connectorsDrawn

theorem documentOrEmpty_keep_of_ne (memory : Memory α) (document : Document α) {id : DocumentId}
    (apart : id ≠ document.id) :
    (memory.keep document).documentOrEmpty id = memory.documentOrEmpty id :=
  congrArg (Option.getD · (Document.empty id)) (document?_keep_of_ne memory document apart)

namespace SameDocuments

variable {memory other : Memory α}

theorem refl (memory : Memory α) : memory.SameDocuments memory :=
  ⟨fun _ => rfl, rfl, rfl⟩

theorem keep (same : memory.SameDocuments other) (document : Document α) :
    (memory.keep document).SameDocuments (other.keep document) where
  documents id := by
    by_cases here : document.id = id
    · rw [documentOrEmpty_keep memory here, documentOrEmpty_keep other here]
    · have apart : id ≠ document.id := fun equal => here equal.symm
      rw [documentOrEmpty_keep_of_ne memory document apart,
        documentOrEmpty_keep_of_ne other document apart]
      exact same.documents id
  shapesDrawn := same.shapesDrawn
  connectorsDrawn := same.connectorsDrawn

theorem drawn (same : memory.SameDocuments other) (shapes connectors : Nat) :
    (memory.drawn shapes connectors).SameDocuments (other.drawn shapes connectors) where
  documents := same.documents
  shapesDrawn := congrArg (· + shapes) same.shapesDrawn
  connectorsDrawn := congrArg (· + connectors) same.connectorsDrawn

/-- Bringing a document into being does not show. -/
theorem keep_held (same : memory.SameDocuments other) (id : DocumentId) :
    memory.SameDocuments (other.keep (other.documentOrEmpty id)) where
  documents wanted := by
    rw [same.documents wanted]
    have held_id := other.documentOrEmpty_id id
    by_cases here : wanted = id
    · rw [here, documentOrEmpty_keep other held_id]
    · rw [documentOrEmpty_keep_of_ne other _ (held_id.symm ▸ here)]
  shapesDrawn := same.shapesDrawn
  connectorsDrawn := same.connectorsDrawn

end SameDocuments

/-! ### Calls that coincide -/

/-- On stores with the same documents both calls succeed with one answer, and leave stores with the
same documents. -/
def Coincide {β : Type} (call other : StoreCall (Memory α) β) : Prop :=
  ∀ memory otherMemory, memory.SameDocuments otherMemory →
    ∃ answer after otherAfter, call.Yields memory answer after ∧
      other.Yields otherMemory answer otherAfter ∧ after.SameDocuments otherAfter

namespace Coincide

variable {β γ : Type}

theorem pure (answer : β) : Coincide (α := α) (Pure.pure answer) (Pure.pure answer) :=
  fun memory other same => ⟨answer, memory, other, rfl, rfl, same⟩

theorem bind {call other : StoreCall (Memory α) β} {next otherNext : β → StoreCall (Memory α) γ}
    (agree : Coincide call other)
    (continue_agree : ∀ answer, Coincide (next answer) (otherNext answer)) :
    Coincide (call >>= next) (other >>= otherNext) := by
  intro memory otherMemory same
  obtain ⟨answer, between, otherBetween, called, other_called, same_between⟩ :=
    agree memory otherMemory same
  obtain ⟨last, after, otherAfter, continued, other_continued, same_after⟩ :=
    continue_agree answer between otherBetween same_between
  exact ⟨last, after, otherAfter, called.bind continued, other_called.bind other_continued,
    same_after⟩

theorem map {call other : StoreCall (Memory α) β} (agree : Coincide call other) (change : β → γ) :
    Coincide (change <$> call) (change <$> other) := by
  rw [map_eq_pure_bind, map_eq_pure_bind]
  exact agree.bind fun answer => .pure (change answer)

end Coincide

/-! ### Adding -/

/-- A creation does the same to stores with the same documents, as long as what it makes of the
document hangs on nothing but the ids drawn. -/
theorem creates_coincide {call : StoreCall (Memory α) (Document α)} {id : DocumentId}
    {shapes connectors : Nat} {change : Memory α → Document α → Document α}
    (creates : ∀ memory, Creates call id memory shapes connectors (change memory))
    (change_congr : ∀ memory other : Memory α, memory.SameDocuments other →
      change memory = change other) : Coincide call call := by
  intro memory other same
  refine ⟨_, _, _, creates memory, ?_, (same.drawn shapes connectors).keep _⟩
  rw [change_congr memory other same, same.documents id]
  exact creates other

/-- A creation that changes nothing still keeps the document. -/
theorem Creates.idle {call : StoreCall (Memory α) (Document α)} {id : DocumentId}
    {memory : Memory α} {change : Document α → Document α}
    (created : Creates call id memory 0 0 change) (idle : ∀ document, change document = document) :
    call.Yields memory (memory.documentOrEmpty id)
      (memory.keep (memory.documentOrEmpty id)) := by
  have yields : call.Yields memory (change (memory.documentOrEmpty id))
      (memory.keep (change (memory.documentOrEmpty id))) := created
  rwa [idle] at yields

namespace Series

variable {β δ ι : Type} (series : Series α β δ ι) (supply : Supply) (id : DocumentId)

theorem add_coincide (drafts : List δ) :
    Coincide (series.add supply id drafts) (series.add supply id drafts) :=
  creates_coincide (series.add_creates supply id drafts) fun memory other same => by
    rw [series.given_congr same.shapesDrawn same.connectorsDrawn]

theorem add_nil (memory : Memory α) :
    (series.add supply id []).Yields memory (memory.documentOrEmpty id)
      (memory.keep (memory.documentOrEmpty id)) := by
  have created := series.add_creates supply id [] memory
  rw [List.length_nil, series.shapes_zero, series.connectors_zero] at created
  exact created.idle fun document => series.append_nil document

/-- Adding entries one by one agrees with adding them together. Only where there is nothing to add
do the two calls do different things: one of them looks at the document, the other one keeps it. -/
theorem addEach_coincide (batches : Bool) (drafts : List δ) :
    Coincide
      ((store supply batches).addEach id (fun _ draft => series.add supply id [draft]) drafts)
      (series.add supply id drafts) := by
  cases drafts with
  | nil =>
    intro memory other same
    have looked : ((store supply batches).addEach id
        (fun _ draft => series.add supply id [draft]) []).Yields memory
        (memory.documentOrEmpty id) memory := rfl
    rw [same.documents id] at looked
    exact ⟨_, _, _, looked, series.add_nil supply id other, same.keep_held id⟩
  | cons draft rest =>
    rw [addEach_eq _ id (series.add_append supply id) (List.cons_ne_nil draft rest)]
    exact series.add_coincide supply id (draft :: rest)

end Series

end Memory

/-! ### Deleting -/

namespace EntryKind

variable {β ι : Type} [DecidableEq ι] (kind : EntryKind α β ι) (id : DocumentId)

/-- There is as little to delete in an absent document as in an empty one. -/
theorem erased?_documentOrEmpty (memory : Memory α) (keys : List ι) :
    (memory.document? id).bind (kind.erased? · keys) =
      kind.erased? (memory.documentOrEmpty id) keys := by
  cases held : memory.document? id with
  | none => simp [Memory.documentOrEmpty, held, erased?_empty]
  | some document => rw [Memory.documentOrEmpty_of_some held, Option.bind_some]

theorem delete_coincide (keys : List ι) :
    Memory.Coincide (kind.delete id keys) (kind.delete id keys) := by
  intro memory other same
  have yields := kind.delete_yields memory id keys
  have other_yields := kind.delete_yields other id keys
  rw [kind.erased?_documentOrEmpty] at yields other_yields
  rw [same.documents id] at yields
  refine ⟨_, _, _, yields, other_yields, ?_⟩
  cases kind.erased? (other.documentOrEmpty id) keys with
  | none => exact same
  | some erased => exact same.keep erased

theorem deleteEach_coincide (keys : List ι) :
    Memory.Coincide (BasicStore.lastChange (fun key => kind.delete id [key]) none keys)
      (kind.delete id keys) := by
  rw [kind.deleteEach_eq]
  exact kind.delete_coincide id keys

end EntryKind

namespace Memory

/-! ### Main statement -/

/-- What a store makes of its calls on single entries is as good as what it does itself: adding and
deleting many entries answers the same and leaves the same documents, whatever the entries are, and
so does any run of such calls, from one store in particular. -/
theorem oneByOne_agrees (supply : Supply) (batches : Bool) :
    let own : DocumentStore α (Memory α) := store supply batches
    let each := own.toBasicStore.oneByOne
    (∀ id drafts, Coincide (each.addShapes id drafts) (own.addShapes id drafts)) ∧
    (∀ id drafts, Coincide (each.addConnectors id drafts) (own.addConnectors id drafts)) ∧
    (∀ id ids, Coincide (each.deleteShapes id ids) (own.deleteShapes id ids)) ∧
    (∀ id ids, Coincide (each.deleteConnectors id ids) (own.deleteConnectors id ids)) ∧
    (∀ calls, Coincide (BulkCall.callAll each calls) (BulkCall.callAll own calls)) ∧
    ∀ calls memory, ∃ answers after ownAfter,
      (BulkCall.callAll each calls).Yields memory answers after ∧
      (BulkCall.callAll own calls).Yields memory answers ownAfter ∧
      after.SameDocuments ownAfter := by
  intro own each
  have adds_shapes (id : DocumentId) (drafts : List (ShapeDraft α)) :
      Coincide (each.addShapes id drafts) (own.addShapes id drafts) :=
    shapeSeries.addEach_coincide supply id batches drafts
  have adds_connectors (id : DocumentId) (drafts : List ConnectorDraft) :
      Coincide (each.addConnectors id drafts) (own.addConnectors id drafts) :=
    connectorSeries.addEach_coincide supply id batches drafts
  have deletes_shapes (id : DocumentId) (ids : List ShapeId) :
      Coincide (each.deleteShapes id ids) (own.deleteShapes id ids) :=
    shapeKind.deleteEach_coincide id ids
  have deletes_connectors (id : DocumentId) (ids : List ConnectorId) :
      Coincide (each.deleteConnectors id ids) (own.deleteConnectors id ids) :=
    connectorKind.deleteEach_coincide id ids
  have runs (calls : List (DocumentId × BulkCall α)) :
      Coincide (BulkCall.callAll each calls) (BulkCall.callAll own calls) := by
    induction calls with
    | nil => exact .pure []
    | cons call rest ih =>
      obtain ⟨id, bulk⟩ := call
      refine .bind ?_ fun answer => ih.bind fun answers => .pure (answer :: answers)
      cases bulk with
      | addShapes drafts => exact (adds_shapes id drafts).map some
      | addConnectors drafts => exact (adds_connectors id drafts).map some
      | deleteShapes ids => exact deletes_shapes id ids
      | deleteConnectors ids => exact deletes_connectors id ids
  exact ⟨adds_shapes, adds_connectors, deletes_shapes, deletes_connectors, runs,
    fun calls memory => runs calls memory memory (.refl memory)⟩

end Memory

end TextDiagram
