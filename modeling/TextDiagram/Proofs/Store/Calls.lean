import TextDiagram.Proofs.Document.Records
import TextDiagram.Store.Memory

/-!
# Calls on a store in memory

No call on a store in memory fails. Each one changes a single document, and does to it what the
operation of documents with the same name does, an absent document counting as an empty one. Calls
that create draw ids; other calls draw none.
-/
namespace TextDiagram

variable {α : Type}

theorem run_bind_eq {ε σ β γ : Type} (call : ExceptT ε (StateM σ) β)
    (next : β → ExceptT ε (StateM σ) γ) (before : σ) :
    (call >>= next).run.run before =
      match call.run.run before with
      | (.ok answer, state) => (next answer).run.run state
      | (.error error, state) => (.error error, state) := by
  simp only [ExceptT.run_bind, StateT.run_bind]
  rcases call.run.run before with ⟨answer | answer, state⟩ <;> rfl

/-- The call succeeds: what it answers, and the state that it leaves. -/
def StoreCall.Yields {σ β : Type} (call : StoreCall σ β) (before : σ) (answer : β)
    (after : σ) : Prop :=
  call.run.run before = (.ok answer, after)

theorem StoreCall.Yields.bind {σ β γ : Type} {call : StoreCall σ β} {next : β → StoreCall σ γ}
    {before between after : σ} {first : β} {second : γ} (called : call.Yields before first between)
    (continued : (next first).Yields between second after) :
    StoreCall.Yields (call >>= next) before second after := by
  unfold StoreCall.Yields
  rw [run_bind_eq, called]
  exact continued

theorem StoreCall.Yields.unique {σ β : Type} {call : StoreCall σ β} {before after other : σ}
    {answer also : β} (first : call.Yields before answer after)
    (second : call.Yields before also other) : answer = also ∧ after = other := by
  have same : ((.ok answer : Except StoreError β), after) = (.ok also, other) :=
    first.symm.trans second
  simpa only [Prod.mk.injEq, Except.ok.injEq] using same

theorem StoreCall.Yields.get_bind {σ γ : Type} {next : σ → StoreCall σ γ} {before after : σ}
    {answer : γ} (continued : (next before).Yields before answer after) :
    StoreCall.Yields (get >>= next) before answer after :=
  .bind (rfl : StoreCall.Yields get before before before) continued

theorem StoreCall.Yields.set_bind {σ γ : Type} {next : PUnit → StoreCall σ γ}
    {before between after : σ} {answer : γ}
    (continued : (next ⟨⟩).Yields between answer after) :
    StoreCall.Yields (set between >>= next) before answer after :=
  .bind (rfl : StoreCall.Yields (set between) before ⟨⟩ between) continued

namespace Memory

/-! ### Documents in memory -/

theorem documentOrEmpty_id (memory : Memory α) (id : DocumentId) :
    (memory.documentOrEmpty id).id = id := by
  unfold documentOrEmpty
  cases held : memory.document? id with
  | none => rfl
  | some document => simpa using List.find?_some held

theorem documentOrEmpty_of_some {memory : Memory α} {id : DocumentId} {document : Document α}
    (held : memory.document? id = some document) : memory.documentOrEmpty id = document := by
  simp [documentOrEmpty, held]

theorem document?_keep (memory : Memory α) (document : Document α) :
    (memory.keep document).document? document.id = some document :=
  find?_upsert_self Document.id document memory.documents

theorem document?_keep_of_ne (memory : Memory α) (document : Document α) {id : DocumentId}
    (apart : id ≠ document.id) : (memory.keep document).document? id = memory.document? id :=
  find?_upsert_of_ne Document.id document memory.documents apart

/-- What calls on the document `id` have done to a store: the document has become `document`, no
other one has changed, and so many ids of shapes and of connectors have been drawn. -/
structure Becomes (id : DocumentId) (before after : Memory α) (document : Document α)
    (shapes connectors : Nat) : Prop where
  held : after.documentOrEmpty id = document
  others : ∀ other, other ≠ id → after.document? other = before.document? other
  shapesDrawn : after.shapesDrawn = before.shapesDrawn + shapes
  connectorsDrawn : after.connectorsDrawn = before.connectorsDrawn + connectors

namespace Becomes

variable {id : DocumentId} {before between after : Memory α} {document changed : Document α}
  {shapes connectors moreShapes moreConnectors : Nat}

theorem refl (id : DocumentId) (memory : Memory α) :
    Becomes id memory memory (memory.documentOrEmpty id) 0 0 :=
  ⟨rfl, fun _ _ => rfl, rfl, rfl⟩

theorem trans (first : Becomes id before between document shapes connectors)
    (second : Becomes id between after changed moreShapes moreConnectors) :
    Becomes id before after changed (shapes + moreShapes) (connectors + moreConnectors) where
  held := second.held
  others other apart := (second.others other apart).trans (first.others other apart)
  shapesDrawn := by rw [second.shapesDrawn, first.shapesDrawn, Nat.add_assoc]
  connectorsDrawn := by rw [second.connectorsDrawn, first.connectorsDrawn, Nat.add_assoc]

theorem counted (became : Becomes id before after document shapes connectors)
    (total_shapes : shapes = moreShapes) (total_connectors : connectors = moreConnectors) :
    Becomes id before after document moreShapes moreConnectors :=
  total_shapes ▸ total_connectors ▸ became

theorem keep (memory : Memory α) (changed : Document α) (same_id : changed.id = id) :
    Becomes id memory (memory.keep changed) changed 0 0 where
  held := documentOrEmpty_of_some (same_id ▸ document?_keep memory changed)
  others _ apart := document?_keep_of_ne memory changed (same_id ▸ apart)
  shapesDrawn := rfl
  connectorsDrawn := rfl

end Becomes

/-- The call succeeds on a store in memory, and does to the document `id` what is said of it. -/
def Does {β : Type} (call : StoreCall (Memory α) β) (id : DocumentId) (before : Memory α)
    (answer : β) (document : Document α) (shapes connectors : Nat) : Prop :=
  ∃ after, call.Yields before answer after ∧ Becomes id before after document shapes connectors

namespace Does

theorem pure {β : Type} (memory : Memory α) (id : DocumentId) (answer : β) :
    Does (Pure.pure answer) id memory answer (memory.documentOrEmpty id) 0 0 :=
  ⟨memory, rfl, .refl id memory⟩

end Does

/-! ### The calls one by one -/

theorem write_does (memory : Memory α) (id : DocumentId) (change : Document α → Document α)
    (same_id : ∀ document, (change document).id = document.id) :
    Does (write id change) id memory (change (memory.documentOrEmpty id))
      (change (memory.documentOrEmpty id)) 0 0 :=
  ⟨memory.keep (change (memory.documentOrEmpty id)), rfl,
    .keep memory _ ((same_id _).trans (memory.documentOrEmpty_id id))⟩

/-- A change that finds nothing to change leaves the document as it is. -/
theorem change?_does (memory : Memory α) (id : DocumentId)
    (change : Document α → Option (Document α))
    (same_id : ∀ document changed, change document = some changed → changed.id = document.id)
    (empty : change (.empty id) = none) :
    ∃ answer, Does (change? id change) id memory answer
      ((change (memory.documentOrEmpty id)).getD (memory.documentOrEmpty id)) 0 0 := by
  cases held : memory.document? id with
  -- Without the document nothing is called, which is as good as finding nothing in an empty one.
  | none =>
    have absent : memory.documentOrEmpty id = .empty id := by simp [documentOrEmpty, held]
    refine ⟨none, memory, .get_bind ?_, ?_⟩
    · simp only [held, Option.bind_none]
      rfl
    · rw [absent, empty, Option.getD_none, ← absent]
      exact .refl id memory
  | some document =>
    have present := documentOrEmpty_of_some held
    cases found : change document with
    | none =>
      refine ⟨none, memory, .get_bind ?_, ?_⟩
      · simp only [held, Option.bind_some, found]
        rfl
      · rw [present, found, Option.getD_none, ← present]
        exact .refl id memory
    | some changed =>
      refine ⟨some changed, memory.keep changed, .get_bind ?_, ?_⟩
      · simp only [held, Option.bind_some, found]
        rfl
      · have changed_id : changed.id = id := by
          rw [same_id document changed found, ← present, documentOrEmpty_id]
        rw [present, found, Option.getD_some]
        exact .keep memory changed changed_id

/-- Ids given out from a number on. -/
def idsFrom {ι : Type} (give : Nat → ι) (first count : Nat) : List ι :=
  (List.range' first count).map give

theorem idsFrom_cons {ι : Type} (give : Nat → ι) (first count : Nat) :
    idsFrom give first (count + 1) = give first :: idsFrom give (first + 1) count :=
  rfl

@[simp] theorem idsFrom_length {ι : Type} (give : Nat → ι) (first count : Nat) :
    (idsFrom give first count).length = count := by
  simp [idsFrom]

theorem idsFrom_append {ι : Type} (give : Nat → ι) (first count more : Nat) :
    idsFrom give first count ++ idsFrom give (first + count) more =
      idsFrom give first (count + more) := by
  simp [idsFrom, ← List.map_append]

/-- What is given out in two runs, one behind the other. -/
theorem idsFrom_parts {ι : Type} (give : Nat → ι) {first middle last : Nat}
    (from_first : first ≤ middle) (to_last : middle ≤ last) :
    idsFrom give first (middle - first) ++ idsFrom give middle (last - middle) =
      idsFrom give first (last - first) := by
  have parts := idsFrom_append give first (middle - first) (last - middle)
  have whole : middle - first + (last - middle) = last - first := by omega
  rwa [Nat.add_sub_of_le from_first, whole] at parts

theorem idsFrom_grow {ι : Type} (give : Nat → ι) {first middle : Nat}
    (from_first : first ≤ middle) (count : Nat) :
    idsFrom give first (middle - first) ++ idsFrom give middle count =
      idsFrom give first (middle + count - first) := by
  have parts := idsFrom_parts give from_first (Nat.le_add_right middle count)
  rwa [Nat.add_sub_cancel_left] at parts

theorem idsFrom_sublist {ι : Type} (give : Nat → ι) {first start stop last : Nat}
    (from_first : first ≤ start) (to_last : stop ≤ last) :
    (idsFrom give start (stop - start)).Sublist (idsFrom give first (last - first)) := by
  rcases Nat.le_total stop start with none_given | some_given
  · simp [idsFrom, Nat.sub_eq_zero_of_le none_given]
  -- The whole run is what is given before, what is given in between, and what is given behind.
  · rw [← idsFrom_parts give from_first (Nat.le_trans some_given to_last),
      ← idsFrom_parts give some_given to_last]
    exact (List.sublist_append_left _ _).trans (List.sublist_append_right _ _)

theorem withIds_eq {δ ι β : Type} (give : δ → ι → β) (supply : Nat → ι) (first : Nat)
    (drafts : List δ) :
    withIds give supply first drafts =
      drafts.zipWith give (idsFrom supply first drafts.length) := by
  induction drafts generalizing first with
  | nil => rfl
  | cons draft rest ih => simp [withIds, idsFrom_cons, ih]

/-- The store when more ids have been drawn. -/
def drawn (memory : Memory α) (shapes connectors : Nat) : Memory α :=
  { memory with
    shapesDrawn := memory.shapesDrawn + shapes
    connectorsDrawn := memory.connectorsDrawn + connectors }

/-! ### Calls on a kind of entries -/

/-- A kind of entries as a store creates them, from drafts and under ids that it draws. -/
structure Series (α β δ ι : Type) extends EntryKind α β ι where
  withId : δ → ι → β
  give : Supply → Nat → ι
  /-- How many ids the store has given out for the kind. -/
  given : Memory α → Nat
  /-- How many ids of shapes so many entries take. -/
  shapes : Nat → Nat
  /-- How many ids of connectors so many entries take. -/
  connectors : Nat → Nat
  key_withId : ∀ draft id, key (withId draft id) = id
  shapes_add : ∀ count more, shapes (count + more) = shapes count + shapes more
  connectors_add : ∀ count more, connectors (count + more) = connectors count + connectors more
  /-- It depends on nothing else of the store than the ids that have been drawn. -/
  given_congr : ∀ {memory other : Memory α}, memory.shapesDrawn = other.shapesDrawn →
    memory.connectorsDrawn = other.connectorsDrawn → given memory = given other
  given_drawn : ∀ memory count,
    given (memory.drawn (shapes count) (connectors count)) = given memory + count

def shapeSeries : Series α (Shape α) (ShapeDraft α) ShapeId where
  toEntryKind := shapeKind
  withId := ShapeDraft.withId
  give := Supply.shape
  given := shapesDrawn
  shapes count := count
  connectors _ := 0
  key_withId _ _ := rfl
  shapes_add _ _ := rfl
  connectors_add _ _ := rfl
  given_congr same_shapes _ := same_shapes
  given_drawn _ _ := rfl

def connectorSeries : Series α Connector ConnectorDraft ConnectorId where
  toEntryKind := connectorKind
  withId := ConnectorDraft.withId
  give := Supply.connector
  given := connectorsDrawn
  shapes _ := 0
  connectors count := count
  key_withId _ _ := rfl
  shapes_add _ _ := rfl
  connectors_add _ _ := rfl
  given_congr _ same_connectors := same_connectors
  given_drawn _ _ := rfl

namespace Series

variable {β δ ι : Type} (series : Series α β δ ι) (supply : Supply)

/-- Draws ids, and appends the entries that drafts become under them. -/
def add (id : DocumentId) (drafts : List δ) : StoreCall (Memory α) (Document α) := do
  let memory ← get
  let entries := withIds series.withId (series.give supply) (series.given memory) drafts
  set (memory.drawn (series.shapes drafts.length) (series.connectors drafts.length))
  write id (series.append · entries)

variable {series} in
theorem given_of_becomes {id : DocumentId} {before after : Memory α} {document : Document α}
    {count : Nat}
    (became : Becomes id before after document (series.shapes count) (series.connectors count)) :
    series.given after = series.given before + count :=
  (series.given_congr became.shapesDrawn became.connectorsDrawn).trans
    (series.given_drawn before count)

theorem shapes_zero : series.shapes 0 = 0 := by
  -- No entries at all take as many ids as twice no entries.
  have twice : series.shapes 0 = series.shapes 0 + series.shapes 0 := series.shapes_add 0 0
  omega

theorem connectors_zero : series.connectors 0 = 0 := by
  have twice : series.connectors 0 = series.connectors 0 + series.connectors 0 :=
    series.connectors_add 0 0
  omega

/-- The ids that entries are going to be given. -/
def next (memory : Memory α) (drafts : List δ) : List ι :=
  idsFrom (series.give supply) (series.given memory) drafts.length

theorem next_length (memory : Memory α) (drafts : List δ) :
    drafts.length = (series.next supply memory drafts).length :=
  (idsFrom_length ..).symm

/-- The entries that drafts become. -/
def made (memory : Memory α) (drafts : List δ) : List β :=
  drafts.zipWith series.withId (series.next supply memory drafts)

theorem made_ids (memory : Memory α) (drafts : List δ) :
    (series.made supply memory drafts).map series.key = series.next supply memory drafts :=
  map_zipWith_key series.withId series.key series.key_withId
    (series.next_length supply memory drafts)

/-- The ids of the kind that have been given out between two states. -/
def between (before after : Memory α) : List ι :=
  idsFrom (series.give supply) (series.given before) (series.given after - series.given before)

theorem between_eq_next {id : DocumentId} {before after : Memory α} {document : Document α}
    {drafts : List δ}
    (became : Becomes id before after document (series.shapes drafts.length)
      (series.connectors drafts.length)) :
    series.between supply before after = series.next supply before drafts := by
  rw [between, given_of_becomes became, Nat.add_sub_cancel_left, next]

theorem add_does (memory : Memory α) (id : DocumentId) (drafts : List δ) :
    let document := series.append (memory.documentOrEmpty id) (series.made supply memory drafts)
    Does (series.add supply id drafts) id memory document document
      (series.shapes drafts.length) (series.connectors drafts.length) := by
  -- The ids are drawn first; then the entries are written under them.
  have ids := withIds_eq series.withId (series.give supply) (series.given memory) drafts
  let between := memory.drawn (series.shapes drafts.length) (series.connectors drafts.length)
  obtain ⟨after, yields, becomes⟩ := write_does between id
    (series.append · (withIds series.withId (series.give supply) (series.given memory) drafts))
    fun document => series.append_id document _
  rw [ids] at becomes
  refine ⟨after, ?_, becomes.held, becomes.others, becomes.shapesDrawn, becomes.connectorsDrawn⟩
  rw [made, next, ← ids]
  exact .get_bind (.set_bind yields)

end Series

theorem addShapes_does (supply : Supply) (memory : Memory α) (id : DocumentId)
    (drafts : List (ShapeDraft α)) :
    let document := (memory.documentOrEmpty id).addShapes
      (drafts.zipWith ShapeDraft.withId (idsFrom supply.shape memory.shapesDrawn drafts.length))
    Does (addShapes supply id drafts) id memory document document drafts.length 0 :=
  shapeSeries.add_does supply memory id drafts

theorem addConnectors_does (supply : Supply) (memory : Memory α) (id : DocumentId)
    (drafts : List ConnectorDraft) :
    let document := (memory.documentOrEmpty id).addConnectors
      (drafts.zipWith ConnectorDraft.withId
        (idsFrom supply.connector memory.connectorsDrawn drafts.length))
    Does (addConnectors supply id drafts) id memory document document 0 drafts.length :=
  connectorSeries.add_does supply memory id drafts

end Memory

namespace EntryKind

variable {β ι : Type} [DecidableEq ι] (kind : EntryKind α β ι)

/-- Deletes entries; none if the document has none of them. -/
def delete (id : DocumentId) (keys : List ι) : StoreCall (Memory α) (Option (Document α)) :=
  Memory.change? id (kind.erased? · keys)

/-- The call leaves the document alone where it would change nothing. -/
theorem delete_does (memory : Memory α) (id : DocumentId) (keys : List ι) :
    ∃ answer, Memory.Does (kind.delete id keys) id memory answer
      (kind.erase (memory.documentOrEmpty id) keys) 0 0 := by
  obtain ⟨answer, does⟩ := Memory.change?_does memory id (kind.erased? · keys)
    (fun _ _ => kind.erased?_id) (kind.erased?_empty id keys)
  rw [kind.erased?_getD] at does
  exact ⟨answer, does⟩

end EntryKind

namespace Memory

theorem deleteShapes_does (memory : Memory α) (id : DocumentId) (ids : List ShapeId) :
    ∃ answer, Does (deleteShapes id ids) id memory answer
      ((memory.documentOrEmpty id).eraseShapes ids) 0 0 :=
  shapeKind.delete_does memory id ids

theorem deleteConnectors_does (memory : Memory α) (id : DocumentId) (ids : List ConnectorId) :
    ∃ answer, Does (deleteConnectors id ids) id memory answer
      ((memory.documentOrEmpty id).eraseConnectors ids) 0 0 :=
  connectorKind.delete_does memory id ids

theorem updateShape_does (memory : Memory α) (id : DocumentId) (shape : ShapeId)
    (patch : ShapePatch) :
    ∃ answer, Does (change? id (·.patchShape? shape patch)) id memory answer
      (((memory.documentOrEmpty id).patchShape? shape patch).getD (memory.documentOrEmpty id))
      0 0 := by
  refine change?_does memory id (·.patchShape? shape patch) ?_ rfl
  intro document changed patched
  obtain ⟨shapes, _, rfl⟩ := Option.map_eq_some_iff.mp patched
  rfl

end Memory

/-! ### Fresh ids -/

namespace Supply

/-- The ids of shapes that a store has drawn between two of its states. -/
def shapesBetween (supply : Supply) (before after : Memory α) : List ShapeId :=
  Memory.idsFrom supply.shape before.shapesDrawn (after.shapesDrawn - before.shapesDrawn)

/-- The ids of connectors that a store has drawn between two of its states. -/
def connectorsBetween (supply : Supply) (before after : Memory α) : List ConnectorId :=
  Memory.idsFrom supply.connector before.connectorsDrawn
    (after.connectorsDrawn - before.connectorsDrawn)

/-- The ids drawn between two states differ from each other, and from the ids that the document
had at first. -/
structure Fresh (supply : Supply) (id : DocumentId) (before after : Memory α) : Prop where
  shapes_distinct : (supply.shapesBetween before after).Nodup
  shapes_new : ∀ shape ∈ supply.shapesBetween before after,
    shape ∉ (before.documentOrEmpty id).shapeIds
  connectors_distinct : (supply.connectorsBetween before after).Nodup
  connectors_new : ∀ connector ∈ supply.connectorsBetween before after,
    connector ∉ (before.documentOrEmpty id).connectorIds

instance (supply : Supply) (id : DocumentId) (before after : Memory α) :
    Decidable (supply.Fresh id before after) :=
  decidable_of_iff
    (((supply.shapesBetween before after).Nodup ∧
        ∀ shape ∈ supply.shapesBetween before after,
          shape ∉ (before.documentOrEmpty id).shapeIds) ∧
      (supply.connectorsBetween before after).Nodup ∧
        ∀ connector ∈ supply.connectorsBetween before after,
          connector ∉ (before.documentOrEmpty id).connectorIds)
    ⟨fun fresh => ⟨fresh.1.1, fresh.1.2, fresh.2.1, fresh.2.2⟩,
      fun fresh => ⟨⟨fresh.shapes_distinct, fresh.shapes_new⟩,
        fresh.connectors_distinct, fresh.connectors_new⟩⟩

namespace Fresh

variable {supply : Supply} {id : DocumentId} {before start stop after : Memory α}

/-- Ids that are fresh for a run are fresh for a part of it, as long as the part starts from a
document that has gained no ids. -/
theorem part (fresh : supply.Fresh id before after)
    (shapes_from : before.shapesDrawn ≤ start.shapesDrawn)
    (shapes_to : stop.shapesDrawn ≤ after.shapesDrawn)
    (connectors_from : before.connectorsDrawn ≤ start.connectorsDrawn)
    (connectors_to : stop.connectorsDrawn ≤ after.connectorsDrawn)
    (shapes_held : (start.documentOrEmpty id).shapeIds ⊆ (before.documentOrEmpty id).shapeIds)
    (connectors_held :
      (start.documentOrEmpty id).connectorIds ⊆ (before.documentOrEmpty id).connectorIds) :
    supply.Fresh id start stop := by
  have shapes := Memory.idsFrom_sublist supply.shape shapes_from shapes_to
  have connectors := Memory.idsFrom_sublist supply.connector connectors_from connectors_to
  constructor
  · exact fresh.shapes_distinct.sublist shapes
  · exact fun shape drawn held => fresh.shapes_new shape (shapes.subset drawn) (shapes_held held)
  · exact fresh.connectors_distinct.sublist connectors
  · exact fun connector drawn held =>
      fresh.connectors_new connector (connectors.subset drawn) (connectors_held held)

/-- Ids that are fresh for a run are fresh for the end of it, as long as the document has gained no
ids but those that were drawn up to there. -/
theorem behind {between : Memory α} (fresh : supply.Fresh id before after)
    (shapes_from : before.shapesDrawn ≤ between.shapesDrawn)
    (shapes_to : between.shapesDrawn ≤ after.shapesDrawn)
    (connectors_from : before.connectorsDrawn ≤ between.connectorsDrawn)
    (connectors_to : between.connectorsDrawn ≤ after.connectorsDrawn)
    (shapes_held : (between.documentOrEmpty id).shapeIds ⊆
      (before.documentOrEmpty id).shapeIds ++ supply.shapesBetween before between)
    (connectors_held : (between.documentOrEmpty id).connectorIds ⊆
      (before.documentOrEmpty id).connectorIds ++ supply.connectorsBetween before between) :
    supply.Fresh id between after := by
  have shapes : _ = supply.shapesBetween before after :=
    Memory.idsFrom_parts supply.shape shapes_from shapes_to
  have connectors : _ = supply.connectorsBetween before after :=
    Memory.idsFrom_parts supply.connector connectors_from connectors_to
  obtain ⟨-, shapes_distinct, shapes_apart⟩ := List.nodup_append.mp (shapes ▸ fresh.shapes_distinct)
  obtain ⟨-, connectors_distinct, connectors_apart⟩ :=
    List.nodup_append.mp (connectors ▸ fresh.connectors_distinct)
  constructor
  · exact shapes_distinct
  · intro shape drawn held
    rcases List.mem_append.mp (shapes_held held) with was_held | drawn_before
    · exact fresh.shapes_new shape (shapes ▸ List.mem_append_right _ drawn) was_held
    · exact shapes_apart shape drawn_before shape drawn rfl
  · exact connectors_distinct
  · intro connector drawn held
    rcases List.mem_append.mp (connectors_held held) with was_held | drawn_before
    · exact fresh.connectors_new connector (connectors ▸ List.mem_append_right _ drawn) was_held
    · exact connectors_apart connector drawn_before connector drawn rfl

end Fresh

end Supply

end TextDiagram
