import TextDiagram.Proofs.Store.Batches
import TextDiagram.Proofs.Store.Failing

/-!
# Runs of edits on a store in memory

A store in memory does not check the ids that it is given: only the way its operations work keeps
the entries of a document apart. Main statement: in whatever order documents are added to, changed,
deleted from and restored into, no document has two entries with one id, as long as the ids that
the store draws are fresh. Only a deletion takes ids out of a document, and an operation leaves what
stays in order and puts what is new behind it.
-/
namespace TextDiagram

variable {α σ β : Type}

open Memory

/-! ### Lists that are gone on with -/

section Lists

variable {ι κ : Type} [DecidableEq ι] [DecidableEq κ]

/-- One list has become the other: the items that are listed as gone are gone, what stays is in
order, and behind it come items that are new, each once. -/
def GoneOn (gone before after : List ι) : Prop :=
  ∃ new, after = before.filter (· ∉ gone) ++ new ∧ new.Nodup ∧ ∀ item ∈ new, item ∉ before

namespace GoneOn

variable {gone before between after new : List ι}

theorem erase (gone before : List ι) : GoneOn gone before (before.filter (· ∉ gone)) :=
  ⟨[], by simp⟩

theorem append (distinct : new.Nodup) (absent : ∀ item ∈ new, item ∉ before) :
    GoneOn [] before (before ++ new) :=
  ⟨new, by simp, distinct, absent⟩

theorem refl (before : List ι) : GoneOn [] before before :=
  ⟨[], by simp⟩

theorem trans (first : GoneOn [] before between) (second : GoneOn [] between after) :
    GoneOn [] before after := by
  obtain ⟨new, rfl, distinct, absent⟩ := first
  obtain ⟨more, rfl, more_distinct, more_absent⟩ := second
  refine ⟨new ++ more, by simp, ?_, fun item member held => ?_⟩
  · exact distinct.append more_distinct fun item early late =>
      more_absent item late (List.mem_append_right _ early)
  · rcases List.mem_append.mp member with early | late
    · exact absent item early held
    · exact more_absent item late (by simp [held])

theorem nodup (goneOn : GoneOn gone before after) (distinct : before.Nodup) : after.Nodup := by
  obtain ⟨new, rfl, new_distinct, absent⟩ := goneOn
  exact (distinct.filter _).append new_distinct fun item held added =>
    absent item added (List.mem_filter.mp held).1

/-- Each item put in is found in the list as the items before it have left it. -/
theorem upsertAll (key : β → κ) (items held : List β) :
    GoneOn [] (held.map key) ((upsertAll key items held).map key) := by
  induction items generalizing held with
  | nil => exact refl _
  | cons item items ih =>
    refine trans ?_ (ih (upsert key item held))
    rw [map_upsert]
    split
    · exact refl _
    next new => exact append (List.nodup_singleton _) (by simpa using new)

end GoneOn

end Lists

/-! ### Ids of a document -/

namespace EntryKind

variable {γ ι : Type} [DecidableEq ι] (kind : EntryKind α γ ι) (document : Document α)

theorem erase_goneOn (keys : List ι) :
    GoneOn keys (kind.ids document) (kind.ids (kind.erase document keys)) := by
  rw [kind.ids_erase]
  exact .erase keys _

theorem restore_goneOn (items : List γ) :
    GoneOn [] (kind.ids document) (kind.ids (kind.restore document items)) := by
  rw [ids, ids, restore, kind.entries_put]
  exact .upsertAll kind.key items _

end EntryKind

/-- Entries are created under fresh ids. -/
theorem Memory.Series.add_goneOn {γ δ ι : Type} [DecidableEq ι] {series : Series α γ δ ι}
    {supply : Supply} {id : DocumentId} {before after : Memory α} {drafts : List δ}
    (became : Becomes id before after
      (series.append (before.documentOrEmpty id) (series.made supply before drafts))
      (series.shapes drafts.length) (series.connectors drafts.length))
    (distinct : (series.between supply before after).Nodup)
    (new : ∀ key ∈ series.between supply before after,
      key ∉ series.ids (before.documentOrEmpty id)) :
    GoneOn [] (series.ids (before.documentOrEmpty id))
      (series.ids (series.append (before.documentOrEmpty id)
        (series.made supply before drafts))) := by
  rw [series.ids_append, series.made_ids, ← series.between_eq_next supply became]
  exact .append distinct new

namespace Document

/-- Whether or not the shape is there, a patch does not touch any id. -/
theorem patchShape?_ids (document : Document α) (id : ShapeId) (patch : ShapePatch) :
    ((document.patchShape? id patch).getD document).shapeIds = document.shapeIds ∧
      ((document.patchShape? id patch).getD document).connectorIds = document.connectorIds := by
  cases patched : document.patchShape? id patch with
  | none => exact ⟨rfl, rfl⟩
  | some changed =>
    obtain ⟨shapes, modified, rfl⟩ := Option.map_eq_some_iff.mp patched
    exact ⟨map_modifyFirst? Shape.id (·.patch patch) (fun _ => rfl) modified, rfl⟩

end Document

/-! ### Stores that keep each document once -/

theorem StoreCall.Keeps.after {holds : σ → Prop} {call : StoreCall σ β} {before after : σ}
    {answer : β} (keeps : call.Keeps holds) (yields : call.Yields before answer after)
    (held : holds before) : holds after := by
  have kept := keeps before held
  rwa [yields] at kept

namespace Memory

/-- No two documents of the store have the same id. -/
def Keyed (memory : Memory α) : Prop :=
  (memory.documents.map Document.id).Nodup

theorem Keyed.keep {memory : Memory α} (keyed : memory.Keyed) (document : Document α) :
    (memory.keep document).Keyed :=
  upsert_nodup Document.id document keyed

theorem write_keyed (id : DocumentId) (change : Document α → Document α) :
    (write id change).Keeps Keyed :=
  fun _ keyed => keyed.keep _

theorem change?_keyed (id : DocumentId) (change : Document α → Option (Document α)) :
    (change? id change).Keeps Keyed := by
  intro memory keyed
  have yields := change?_yields memory id change
  rw [yields]
  cases (memory.document? id).bind change with
  | none => exact keyed
  | some document => exact keyed.keep document

/-- Drawing ids does not touch the documents. -/
theorem Keyed.keep_drawn {memory : Memory α} (keyed : memory.Keyed) (shapes connectors : Nat)
    (document : Document α) : ((memory.drawn shapes connectors).keep document).Keyed :=
  keyed.keep document

theorem Series.add_keyed {β δ ι : Type} (series : Series α β δ ι) (supply : Supply)
    (id : DocumentId) (drafts : List δ) : (series.add supply id drafts).Keeps Keyed :=
  fun _ keyed => keyed.keep_drawn (series.shapes drafts.length) (series.connectors drafts.length) _

/-- The documents of the store are told apart by their ids, and the shapes and the connectors of
each document by theirs. -/
structure WellKept (memory : Memory α) : Prop where
  keyed : memory.Keyed
  /-- What is found under an id is the document with this id. -/
  own_id : ∀ id document, memory.document? id = some document → document.id = id
  distinct : ∀ id document, memory.document? id = some document → document.Distinct

theorem own_id_of_found {memory : Memory α} {id : DocumentId} {document : Document α}
    (found : memory.document? id = some document) : document.id = id := by
  simpa using List.find?_some found

theorem wellKept_empty : (empty : Memory α).WellKept where
  keyed := .nil
  own_id := fun _ _ => own_id_of_found
  distinct := by simp [document?, empty]

theorem WellKept.documentOrEmpty {memory : Memory α} (wellKept : memory.WellKept)
    (id : DocumentId) : (memory.documentOrEmpty id).Distinct := by
  cases held : memory.document? id with
  | none =>
    simp only [Memory.documentOrEmpty, held, Option.getD_none]
    exact Document.distinct_empty id
  | some document =>
    rw [documentOrEmpty_of_some held]
    exact wellKept.distinct id document held

/-! ### What a call does to a document -/

/-- What calls on the document `id` have done to the store: no other document has changed, each
document is still kept once, and the entries of the document are gone on with. -/
structure Edited (shapes : List ShapeId) (connectors : List ConnectorId) (id : DocumentId)
    (before after : Memory α) : Prop where
  others : ∀ other, other ≠ id → after.document? other = before.document? other
  keyed : before.Keyed → after.Keyed
  shapes : GoneOn shapes (before.documentOrEmpty id).shapeIds (after.documentOrEmpty id).shapeIds
  connectors : GoneOn connectors (before.documentOrEmpty id).connectorIds
    (after.documentOrEmpty id).connectorIds

theorem Edited.wellKept {shapes : List ShapeId} {connectors : List ConnectorId} {id : DocumentId}
    {before after : Memory α} (edited : Edited shapes connectors id before after)
    (wellKept : before.WellKept) : after.WellKept where
  keyed := edited.keyed wellKept.keyed
  own_id := fun _ _ => own_id_of_found
  distinct := by
    intro other document held
    by_cases same : other = id
    · subst same
      have distinct := wellKept.documentOrEmpty other
      rw [← documentOrEmpty_of_some held]
      exact ⟨edited.shapes.nodup distinct.shapes, edited.connectors.nodup distinct.connectors⟩
    · exact wellKept.distinct other document (edited.others other same ▸ held)

theorem Becomes.edited {id : DocumentId} {before after : Memory α} {document : Document α}
    {shapesDrawn connectorsDrawn : Nat} {shapes : List ShapeId} {connectors : List ConnectorId}
    (became : Becomes id before after document shapesDrawn connectorsDrawn)
    (keyed : before.Keyed → after.Keyed)
    (shapes_goneOn : GoneOn shapes (before.documentOrEmpty id).shapeIds document.shapeIds)
    (connectors_goneOn :
      GoneOn connectors (before.documentOrEmpty id).connectorIds document.connectorIds) :
    Edited shapes connectors id before after := by
  rw [← became.held] at shapes_goneOn connectors_goneOn
  exact ⟨became.others, keyed, shapes_goneOn, connectors_goneOn⟩

/-- The call succeeds, and as long as the ids that it draws are fresh, it edits the document and
deletes these entries at most. -/
def Performs (supply : Supply) (call : StoreCall (Memory α) β) (id : DocumentId)
    (shapes : List ShapeId) (connectors : List ConnectorId) : Prop :=
  ∀ before, ∃ answer after, call.Yields before answer after ∧
    (supply.Fresh id before after → Edited shapes connectors id before after)

section Calls

variable {supply : Supply} {id : DocumentId}

theorem Performs.of_does {call : StoreCall (Memory α) β} {change : Memory α → Document α}
    {shapesDrawn connectorsDrawn : Nat} {shapes : List ShapeId} {connectors : List ConnectorId}
    (does : ∀ before,
      ∃ answer, Does call id before answer (change before) shapesDrawn connectorsDrawn)
    (keyed : call.Keeps Keyed)
    (goneOn : ∀ before after,
      Becomes id before after (change before) shapesDrawn connectorsDrawn →
        supply.Fresh id before after →
          GoneOn shapes (before.documentOrEmpty id).shapeIds (change before).shapeIds ∧
            GoneOn connectors (before.documentOrEmpty id).connectorIds
              (change before).connectorIds) :
    Performs supply call id shapes connectors := by
  intro before
  obtain ⟨answer, after, yields, became⟩ := does before
  refine ⟨answer, after, yields, fun fresh => ?_⟩
  obtain ⟨shapes_goneOn, connectors_goneOn⟩ := goneOn before after became fresh
  exact became.edited (keyed.after yields) shapes_goneOn connectors_goneOn

variable (supply id)

theorem addShapes_performs (drafts : List (ShapeDraft α)) :
    Performs supply (addShapes supply id drafts) id [] [] :=
  .of_does (fun before => ⟨_, addShapes_does supply before id drafts⟩)
    (shapeSeries.add_keyed supply id drafts) fun _ _ became fresh =>
      ⟨shapeSeries.add_goneOn became fresh.shapes_distinct fresh.shapes_new, .refl _⟩

theorem addConnectors_performs (drafts : List ConnectorDraft) :
    Performs (α := α) supply (addConnectors supply id drafts) id [] [] :=
  .of_does (fun before => ⟨_, addConnectors_does supply before id drafts⟩)
    (connectorSeries.add_keyed supply id drafts) fun _ _ became fresh =>
      ⟨.refl _, connectorSeries.add_goneOn became fresh.connectors_distinct fresh.connectors_new⟩

theorem updateShape_performs (shape : ShapeId) (patch : ShapePatch) :
    Performs (α := α) supply (change? id (·.patchShape? shape patch)) id [] [] := by
  refine .of_does (updateShape_does · id shape patch) (change?_keyed id _) fun before _ _ _ => ?_
  obtain ⟨same_shapes, same_connectors⟩ :=
    (before.documentOrEmpty id).patchShape?_ids shape patch
  rw [same_shapes, same_connectors]
  exact ⟨.refl _, .refl _⟩

theorem deleteShapes_performs (ids : List ShapeId) :
    Performs (α := α) supply (deleteShapes id ids) id ids [] :=
  .of_does (deleteShapes_does · id ids) (change?_keyed id _) fun _ _ _ _ =>
    ⟨shapeKind.erase_goneOn _ ids, .refl _⟩

theorem deleteConnectors_performs (ids : List ConnectorId) :
    Performs (α := α) supply (deleteConnectors id ids) id [] ids :=
  .of_does (deleteConnectors_does · id ids) (change?_keyed id _) fun _ _ _ _ =>
    ⟨.refl _, connectorKind.erase_goneOn _ ids⟩

theorem restoreShapes_performs (shapes : List (Shape α)) :
    Performs supply (write id (·.restoreShapes shapes)) id [] [] :=
  .of_does (fun before => ⟨_, write_does before id (·.restoreShapes shapes) fun _ => rfl⟩)
    (write_keyed id _) fun _ _ _ _ => ⟨shapeKind.restore_goneOn _ shapes, .refl _⟩

theorem restoreConnectors_performs (connectors : List Connector) :
    Performs (α := α) supply (write id (·.restoreConnectors connectors)) id [] [] :=
  .of_does (fun before => ⟨_, write_does before id (·.restoreConnectors connectors) fun _ => rfl⟩)
    (write_keyed id _) fun _ _ _ _ => ⟨.refl _, connectorKind.restore_goneOn _ connectors⟩

end Calls

end Memory

/-! ### Edits of a document -/

/-- An operation that changes a document of a store. -/
inductive Edit (α : Type) where
  | addShape (draft : ShapeDraft α)
  | addShapes (drafts : List (ShapeDraft α))
  | updateShape (shape : ShapeId) (patch : ShapePatch)
  | deleteShape (shape : ShapeId)
  | deleteShapes (shapes : List ShapeId)
  | restoreShapes (shapes : List (Shape α))
  | addConnector (draft : ConnectorDraft)
  | addConnectors (drafts : List ConnectorDraft)
  | deleteConnector (connector : ConnectorId)
  | deleteConnectors (connectors : List ConnectorId)
  | restoreConnectors (connectors : List Connector)

namespace Edit

/-- Calls the store for the operation on a document. -/
def call (store : DocumentStore α σ) (document : DocumentId) : Edit α → StoreCall σ Unit
  | addShape draft => discard (store.addShape document draft)
  | addShapes drafts => discard (store.addShapes document drafts)
  | updateShape shape patch => discard (store.updateShape document shape patch)
  | deleteShape shape => discard (store.deleteShape document shape)
  | deleteShapes shapes => discard (store.deleteShapes document shapes)
  | restoreShapes shapes => discard (store.restoreShapes document shapes)
  | addConnector draft => discard (store.addConnector document draft)
  | addConnectors drafts => discard (store.addConnectors document drafts)
  | deleteConnector connector => discard (store.deleteConnector document connector)
  | deleteConnectors connectors => discard (store.deleteConnectors document connectors)
  | restoreConnectors connectors => discard (store.restoreConnectors document connectors)

/-- The shapes that the operation deletes where they are. -/
def deletedShapes : Edit α → List ShapeId
  | deleteShape shape => [shape]
  | deleteShapes shapes => shapes
  | _ => []

/-- The connectors that the operation deletes where they are. -/
def deletedConnectors : Edit α → List ConnectorId
  | deleteConnector connector => [connector]
  | deleteConnectors connectors => connectors
  | _ => []

theorem discard_performs {supply : Supply} {call : StoreCall (Memory α) β} {id : DocumentId}
    {shapes : List ShapeId} {connectors : List ConnectorId}
    (performs : Performs supply call id shapes connectors) :
    Performs supply (discard call) id shapes connectors := by
  intro before
  obtain ⟨answer, after, yields, edited⟩ := performs before
  exact ⟨(), after, yields.bind rfl, edited⟩

/-- Every operation succeeds and edits its document. -/
theorem call_performs (supply : Supply) (batches : Bool) (id : DocumentId)
    (edit : Edit α) :
    Performs supply (edit.call (store supply batches) id) id edit.deletedShapes
      edit.deletedConnectors := by
  cases edit with
  | addShape draft => exact discard_performs (addShapes_performs supply id [draft])
  | addShapes drafts => exact discard_performs (addShapes_performs supply id drafts)
  | updateShape shape patch => exact discard_performs (updateShape_performs supply id shape patch)
  | deleteShape shape => exact discard_performs (deleteShapes_performs supply id [shape])
  | deleteShapes shapes => exact discard_performs (deleteShapes_performs supply id shapes)
  | restoreShapes shapes => exact discard_performs (restoreShapes_performs supply id shapes)
  | addConnector draft => exact discard_performs (addConnectors_performs supply id [draft])
  | addConnectors drafts => exact discard_performs (addConnectors_performs supply id drafts)
  | deleteConnector connector =>
    exact discard_performs (deleteConnectors_performs supply id [connector])
  | deleteConnectors connectors =>
    exact discard_performs (deleteConnectors_performs supply id connectors)
  | restoreConnectors connectors =>
    exact discard_performs (restoreConnectors_performs supply id connectors)

/-! ### Runs -/

/-- Calls the store for operations on documents, one after the other. -/
def callAll (store : DocumentStore α σ) : List (DocumentId × Edit α) → StoreCall σ Unit
  | [] => pure ()
  | (id, edit) :: rest => do
    edit.call store id
    callAll store rest

/-- All ids drawn in a run are fresh, each at its time. -/
def AllFresh (supply : Supply) (batches : Bool) (memory : Memory α) :
    List (DocumentId × Edit α) → Prop
  | [] => True
  | (id, edit) :: rest =>
    let after := ((edit.call (store supply batches) id).run.run memory).2
    supply.Fresh id memory after ∧ AllFresh supply batches after rest

theorem callAll_from {supply : Supply} {batches : Bool} {memory : Memory α}
    {edits : List (DocumentId × Edit α)} (wellKept : memory.WellKept)
    (fresh : AllFresh supply batches memory edits) :
    ∃ last, (callAll (store supply batches) edits).Yields memory () last ∧ last.WellKept ∧
      ∀ earlier id edit later, edits = earlier ++ (id, edit) :: later →
        ∃ before after, (callAll (store supply batches) earlier).Yields memory () before ∧
          (edit.call (store supply batches) id).Yields before () after ∧
          Edited edit.deletedShapes edit.deletedConnectors id before after := by
  induction edits generalizing memory with
  | nil => exact ⟨memory, rfl, wellKept, by simp⟩
  | cons first rest ih =>
    obtain ⟨id, edit⟩ := first
    obtain ⟨⟨⟩, next, called, edited⟩ := edit.call_performs supply batches id memory
    obtain ⟨fresh_first, fresh_rest⟩ := fresh
    rw [called] at fresh_first fresh_rest
    obtain ⟨last, called_rest, last_wellKept, steps⟩ :=
      ih ((edited fresh_first).wellKept wellKept) fresh_rest
    refine ⟨last, called.bind called_rest, last_wellKept, ?_⟩
    -- Where the run is cut: in front of this edit, or somewhere behind it.
    intro earlier other_id other later split
    cases earlier with
    | nil =>
      cases split
      exact ⟨memory, next, rfl, called, edited fresh_first⟩
    | cons head earlier =>
      cases split
      obtain ⟨before, after, called_earlier, called_here, edited_here⟩ :=
        steps earlier other_id other later rfl
      exact ⟨before, after, called.bind called_earlier, called_here, edited_here⟩

/-- A run of edits from the empty store succeeds, if only the ids it draws are fresh, and leaves a
store that is well kept. Each edit on the way changes no other document than its own; there it
takes out only what it is told to delete, leaves the others in order, and puts new entries behind
them. -/
theorem callAll_wellKept (supply : Supply) (batches : Bool) (edits : List (DocumentId × Edit α))
    (fresh : AllFresh supply batches .empty edits) :
    ∃ last, (callAll (store supply batches) edits).Yields .empty () last ∧ last.WellKept ∧
      ∀ earlier id edit later, edits = earlier ++ (id, edit) :: later →
        ∃ before after, (callAll (store supply batches) earlier).Yields .empty () before ∧
          (edit.call (store supply batches) id).Yields before () after ∧
          Edited edit.deletedShapes edit.deletedConnectors id before after :=
  callAll_from wellKept_empty fresh

/-- Shapes are restored over one that has just been created, one of them twice; then one of them is
deleted and a connector is created. -/
theorem callAll_wellKept_of_restore :
    let draft : ShapeDraft Rat := ⟨"task", ⟨0, 0, 120, 60⟩, none, .null⟩
    let created (number : Nat) : ShapeId := Supply.numbered.shape number
    let given : ShapeId := ⟨.numbered 3 0⟩
    let shape (id : ShapeId) (x : Rat) : Shape Rat := ⟨id, "task", ⟨x, 0, 120, 60⟩, none, .null⟩
    let edits : List (DocumentId × Edit Rat) :=
      [(⟨.numbered 2 0⟩, .addShapes [draft, draft]),
        (⟨.numbered 2 0⟩, .restoreShapes [shape given 0, shape (created 1) 100, shape given 200]),
        (⟨.numbered 2 1⟩, .addShape draft),
        (⟨.numbered 2 0⟩, .deleteShapes [created 0, created 0]),
        (⟨.numbered 2 0⟩, .addConnector ⟨created 0, given, none, none, false, none⟩)]
    ∃ last, (callAll (store .numbered true) edits).Yields .empty () last ∧ last.WellKept ∧
      (last.documentOrEmpty ⟨.numbered 2 0⟩).shapeIds = [created 1, given] := by
  intro draft created given shape edits
  have fresh : AllFresh .numbered true .empty edits :=
    ⟨by decide +kernel, by decide +kernel, by decide +kernel, by decide +kernel,
      by decide +kernel, trivial⟩
  obtain ⟨last, called, wellKept, _⟩ := callAll_wellKept .numbered true edits fresh
  refine ⟨last, called, wellKept, ?_⟩
  have same : last = ((callAll (store .numbered true) edits).run.run .empty).2 := by
    rw [called]
  rw [same]
  rfl

end Edit

end TextDiagram
