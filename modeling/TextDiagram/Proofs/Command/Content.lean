import TextDiagram.Proofs.Command.Addition
import TextDiagram.Proofs.Store.Batches

/-!
# Writing and removing content in memory

A store in memory may take new entries together or one by one; either way the same entries are
appended under the same ids. Main statements: writing a plan appends its addition to the document,
provided that the ids drawn for it are fresh, and removing content deletes exactly the entries that
it names.
-/
namespace TextDiagram

variable {α : Type}

open Memory

/-! ### Creating entries -/

theorem newest_append {ι : Type} (old new : List ι) :
    newest new.length (old ++ new) = .ok new := by
  simp [newest]

theorem requireNewest_yields {ι : Type} (memory : Memory α) (old new : List ι) :
    (requireNewest new.length (old ++ new)).Yields memory new memory := by
  unfold StoreCall.Yields requireNewest
  rw [newest_append]
  rfl

namespace Memory.Series

variable {β δ ι : Type} (series : Series α β δ ι) (supply : Supply) (id : DocumentId)

/-- Creates entries together or one by one, and gives their ids. -/
def create (batches : Bool) (drafts : List δ) : StoreCall (Memory α) (List ι) :=
  if batches then
    createTogether series.ids (series.add supply id) drafts
  else
    createEach series.ids (fun draft => series.add supply id [draft]) drafts

theorem next_cons {before after : Memory α} {document : Document α} (draft : δ) (rest : List δ)
    (became : Becomes id before after document (series.shapes 1) (series.connectors 1)) :
    series.next supply before [draft] ++ series.next supply after rest =
      series.next supply before (draft :: rest) := by
  simp only [next, given_of_becomes became, List.length_cons, List.length_nil, idsFrom_append]
  rw [Nat.zero_add, Nat.add_comm]

theorem create_nil_does (memory : Memory α) :
    Does (pure []) id memory (series.next supply memory [])
      (series.append (memory.documentOrEmpty id) (series.made supply memory []))
      (series.shapes 0) (series.connectors 0) := by
  rw [series.shapes_zero, series.connectors_zero]
  have unchanged := Does.pure memory id (series.next supply memory [])
  rw [← series.append_nil (memory.documentOrEmpty id)] at unchanged
  exact unchanged

/-- As many ids are read off the end of a document as there are new entries. -/
theorem newest_made (memory : Memory α) (document : Document α) (drafts : List δ) :
    newest drafts.length (series.ids (series.append document (series.made supply memory drafts))) =
      .ok (series.next supply memory drafts) := by
  rw [series.ids_append, series.made_ids, series.next_length supply memory drafts]
  exact newest_append _ _

/-- The answer ends with the new ids. -/
theorem newest_yields {memory after : Memory α} {drafts : List δ} {document : Document α}
    (added : (series.add supply id drafts).Yields memory document after) :
    (requireNewest drafts.length (series.ids document)).Yields after
      (series.next supply memory drafts) after := by
  obtain ⟨_, grown, -⟩ := series.add_does supply memory id drafts
  obtain ⟨rfl, -⟩ := added.unique grown
  unfold StoreCall.Yields requireNewest
  rw [series.newest_made]
  rfl

theorem createTogether_does (memory : Memory α) (drafts : List δ) :
    Does (createTogether series.ids (series.add supply id) drafts) id memory
      (series.next supply memory drafts)
      (series.append (memory.documentOrEmpty id) (series.made supply memory drafts))
      (series.shapes drafts.length) (series.connectors drafts.length) := by
  cases drafts with
  | nil => exact series.create_nil_does supply id memory
  | cons draft rest =>
    obtain ⟨after, added, became⟩ := series.add_does supply memory id (draft :: rest)
    exact ⟨after, added.bind (series.newest_yields supply id added), became⟩

/-- One by one, the same ids are given, and the store is left as by the creation of all entries. -/
theorem createEach_yields (memory : Memory α) (draft : δ) (rest : List δ) :
    ∃ document after, (series.add supply id (draft :: rest)).Yields memory document after ∧
      (createEach series.ids (fun draft => series.add supply id [draft]) (draft :: rest)).Yields
        memory (series.next supply memory (draft :: rest)) after := by
  induction rest generalizing memory draft with
  | nil =>
    obtain ⟨after, added, -⟩ := series.add_does supply memory id [draft]
    refine ⟨_, after, added, added.bind ((series.newest_yields supply id added).bind ?_)⟩
    refine .bind (rfl : StoreCall.Yields (pure []) after [] after) ?_
    rw [List.append_nil]
    rfl
  | cons next rest ih =>
    -- The ids drawn for the first entry are followed by those drawn for the others.
    obtain ⟨between, added, became⟩ := series.add_does supply memory id [draft]
    obtain ⟨document, after, rest_added, rest_created⟩ := ih between next
    have all_added : (series.add supply id [draft] >>= fun _ =>
        series.add supply id (next :: rest)).Yields memory document after := added.bind rest_added
    rw [series.add_append, List.singleton_append] at all_added
    refine ⟨document, after, all_added, ?_⟩
    rw [← series.next_cons supply id draft (next :: rest) became]
    exact added.bind ((series.newest_yields supply id added).bind (rest_created.bind rfl))

/-- It does not matter whether entries are created together or one by one. -/
theorem createEach_eq (drafts : List δ) :
    createEach series.ids (fun draft => series.add supply id [draft]) drafts =
      createTogether series.ids (series.add supply id) drafts := by
  cases drafts with
  | nil => rfl
  | cons draft rest =>
    apply StoreCall.eq_of_yields
    intro memory
    obtain ⟨document, after, added, each⟩ := series.createEach_yields supply id memory draft rest
    exact ⟨_, after, each, added.bind (series.newest_yields supply id added)⟩

theorem create_does (batches : Bool) (memory : Memory α) (drafts : List δ) :
    Does (series.create supply id batches drafts) id memory (series.next supply memory drafts)
      (series.append (memory.documentOrEmpty id) (series.made supply memory drafts))
      (series.shapes drafts.length) (series.connectors drafts.length) := by
  unfold create
  rw [series.createEach_eq, ite_self]
  exact series.createTogether_does supply id memory drafts

end Memory.Series

theorem createShapes_does (supply : Supply) (batches : Bool) (memory : Memory α) (id : DocumentId)
    (drafts : List (ShapeDraft α)) :
    let ids := idsFrom supply.shape memory.shapesDrawn drafts.length
    Does (createShapes (store supply batches) id drafts) id memory ids
      ((memory.documentOrEmpty id).addShapes (drafts.zipWith ShapeDraft.withId ids))
      drafts.length 0 :=
  shapeSeries.create_does supply id batches memory drafts

theorem createConnectors_does (supply : Supply) (batches : Bool) (memory : Memory α)
    (id : DocumentId) (drafts : List ConnectorDraft) :
    let ids := idsFrom supply.connector memory.connectorsDrawn drafts.length
    Does (createConnectors (store supply batches) id drafts) id memory ids
      ((memory.documentOrEmpty id).addConnectors (drafts.zipWith ConnectorDraft.withId ids))
      0 drafts.length :=
  connectorSeries.create_does supply id batches memory drafts

theorem addShape_does (supply : Supply) (memory : Memory α) (id : DocumentId)
    (draft : ShapeDraft α) :
    let document := (memory.documentOrEmpty id).addShapes
      [draft.withId (supply.shape memory.shapesDrawn)]
    Does (addShapes supply id [draft]) id memory document document 1 0 :=
  addShapes_does supply memory id [draft]

/-! ### Linking parents -/

theorem linkParents_does (supply : Supply) (batches : Bool) (memory : Memory α) (id : DocumentId)
    (ids : List ShapeId) (planned : List (PlannedShape α)) :
    Does (linkParents (store supply batches) id ids planned) id memory ()
      ((memory.documentOrEmpty id).linked ids planned) 0 0 := by
  induction planned generalizing memory with
  | nil => exact Does.pure memory id ()
  | cons shape rest ih =>
    cases found : ids[shape.index]? with
    | none =>
      simp only [linkParents, Document.linked, found]
      exact ih memory
    | some child =>
      cases inside : shape.parent.bind (ids[·]?) with
      | none =>
        simp only [linkParents, Document.linked, found, inside]
        exact ih memory
      | some parent =>
        obtain ⟨answer, between, updated, became⟩ :=
          updateShape_does memory id child ⟨some parent⟩
        obtain ⟨after, linked, turned⟩ := ih between
        rw [became.held] at turned
        simp only [linkParents, Document.linked, found, inside]
        exact ⟨after, updated.bind linked, became.trans turned⟩

/-! ### Removing content -/

/-- Entries are deleted if there are any to delete, which makes no difference to the document. -/
theorem EntryKind.deleteListed_does {β ι : Type} [DecidableEq ι] (kind : EntryKind α β ι)
    (memory : Memory α) (id : DocumentId) (keys : List ι) :
    Does (if keys.isEmpty then pure () else do let _ ← kind.delete id keys; pure ()) id memory ()
      (kind.erase (memory.documentOrEmpty id) keys) 0 0 := by
  cases keys with
  | nil =>
    rw [kind.erase_nil]
    exact .pure memory id ()
  | cons first rest =>
    obtain ⟨answer, after, deleted, became⟩ := kind.delete_does memory id (first :: rest)
    exact ⟨after, deleted.bind rfl, became⟩

theorem deleteListedShapes_does (supply : Supply) (batches : Bool) (memory : Memory α)
    (id : DocumentId) (ids : List ShapeId) :
    Does (TextDiagram.deleteShapes (store supply batches) id ids) id memory ()
      ((memory.documentOrEmpty id).eraseShapes ids) 0 0 :=
  shapeKind.deleteListed_does memory id ids

theorem deleteListedConnectors_does (supply : Supply) (batches : Bool) (memory : Memory α)
    (id : DocumentId) (ids : List ConnectorId) :
    Does (TextDiagram.deleteConnectors (store supply batches) id ids) id memory ()
      ((memory.documentOrEmpty id).eraseConnectors ids) 0 0 :=
  connectorKind.deleteListed_does memory id ids

theorem removeContent_does (supply : Supply) (batches : Bool) (memory : Memory α)
    (id : DocumentId) (created : Created) :
    Does (removeContent (store supply batches) id created) id memory ()
      (created.removedFrom (memory.documentOrEmpty id)) 0 0 := by
  have members_removed (bare : Memory α) : Does
      (do TextDiagram.deleteConnectors (store supply batches) id created.connectors
          TextDiagram.deleteShapes (store supply batches) id created.shapes) id bare ()
      (((bare.documentOrEmpty id).eraseConnectors created.connectors).eraseShapes created.shapes)
      0 0 := by
    obtain ⟨cut, connectors_deleted, became_cut⟩ :=
      deleteListedConnectors_does supply batches bare id created.connectors
    obtain ⟨after, shapes_deleted, became_after⟩ :=
      deleteListedShapes_does supply batches cut id created.shapes
    rw [became_cut.held] at became_after
    exact ⟨after, connectors_deleted.bind shapes_deleted, became_cut.trans became_after⟩
  unfold removeContent Created.removedFrom
  cases created.container with
  -- Without a container there is one call less, which would delete nothing.
  | none =>
    have removed := members_removed memory
    rwa [← Document.eraseShapes_of_absent (memory.documentOrEmpty id) [] (by simp)] at removed
  | some container_id =>
    obtain ⟨answer, bare, container_deleted, became_bare⟩ :=
      deleteShapes_does memory id [container_id]
    obtain ⟨after, deleted, became_after⟩ := members_removed bare
    rw [became_bare.held] at became_after
    exact ⟨after, container_deleted.bind deleted, became_bare.trans became_after⟩

/-! ### Writing a plan -/

variable [Scalar α]

/-- What an import is going to add, with the ids that the store gives out next. -/
def Memory.nextAddition (supply : Supply) (memory : Memory α) (content : Import α)
    (plan : Plan α) : Addition α :=
  content.addition plan (idsFrom supply.shape memory.shapesDrawn plan.shapes.length)
    (idsFrom supply.connector memory.connectorsDrawn plan.connectors.length)
    (supply.shape (memory.shapesDrawn + plan.shapes.length))

theorem createContent_does (supply : Supply) (batches : Bool) (memory : Memory α)
    (content : Import α) {plan : Plan α} (indexed : plan.Indexed) :
    let addition := memory.nextAddition supply content plan
    Does (createContent (store supply batches) content plan) content.document memory
      addition.created
      (content.written plan addition (memory.documentOrEmpty content.document))
      (plan.shapes.length + 1) plan.connectors.length := by
  intro addition
  let id := content.document
  let placed := content.place plan
  let shapeIds := idsFrom supply.shape memory.shapesDrawn plan.shapes.length
  let connectorIds := idsFrom supply.connector memory.connectorsDrawn plan.connectors.length
  have shapes_length : shapeIds.length = plan.shapes.length := idsFrom_length ..
  have ids : addition.shapes.map Shape.id = shapeIds :=
    content.addition_shapes_ids _ shapes_length
  -- The shapes are created first, without parents.
  obtain ⟨drawn, shapes_created, became_drawn⟩ :=
    createShapes_does supply batches memory id (placed.shapes.map PlannedShape.draft)
  rw [List.length_map, content.place_length plan] at shapes_created became_drawn
  -- Linking them draws no ids.
  obtain ⟨linked, parents_linked, became_linked⟩ :=
    linkParents_does supply batches drawn id shapeIds placed.shapes
  -- No connector is left out, so that the plan says how many ids are drawn.
  have placed_connectors : placed.connectors = plan.connectors := content.place_connectors plan
  have connectors_length :
      (placed.connectors.filterMap (PlannedConnector.draft? shapeIds)).length =
        plan.connectors.length := by
    rw [placed_connectors, indexed.drafts_length shapes_length]
  obtain ⟨joined, connectors_created, became_joined⟩ :=
    createConnectors_does supply batches linked id
      (placed.connectors.filterMap (PlannedConnector.draft? shapeIds))
  have same_connectors : linked.connectorsDrawn = memory.connectorsDrawn :=
    became_linked.connectorsDrawn.trans became_drawn.connectorsDrawn
  rw [connectors_length, same_connectors] at connectors_created became_joined
  rw [placed_connectors] at became_joined
  -- The container comes last, under the first id that the shapes have not taken.
  obtain ⟨after, container_added, became_after⟩ := addShape_does supply joined id
    (Container.draft (content.frame plan) content.family content.source ⟨shapeIds, connectorIds⟩)
  have container_number : joined.shapesDrawn = memory.shapesDrawn + plan.shapes.length :=
    (became_joined.shapesDrawn.trans became_linked.shapesDrawn).trans became_drawn.shapesDrawn
  rw [container_number] at container_added became_after
  have answered := requireNewest_yields after (joined.documentOrEmpty id).shapeIds
    [addition.container.id]
  have created : addition.created = ⟨some addition.container.id, shapeIds, connectorIds⟩ :=
    content.addition_created _ indexed shapes_length (idsFrom_length ..)
  have newest_ids : ((joined.documentOrEmpty id).addShapes [addition.container]).shapeIds =
      (joined.documentOrEmpty id).shapeIds ++ [addition.container.id] := by
    simp [Document.shapeIds, Document.addShapes]
  rw [← newest_ids] at answered
  refine ⟨after, ?_, ?_⟩
  · rw [created]
    refine shapes_created.bind (parents_linked.bind (connectors_created.bind ?_))
    refine container_added.bind (answered.bind ?_)
    rfl
  · rw [became_joined.held, became_linked.held, became_drawn.held] at became_after
    simp only [Import.written, ids]
    exact (became_drawn.trans (became_linked.trans (became_joined.trans became_after))).counted
      (by omega) (by omega)

/-! ### Fresh ids -/

section Fresh

variable {supply : Supply} {memory after : Memory α} {content : Import α} {plan : Plan α}
  {document : Document α}

theorem Memory.nextAddition_shapeIds (supply : Supply) (memory : Memory α) (content : Import α)
    (plan : Plan α) :
    (memory.nextAddition supply content plan).shapeIds =
      idsFrom supply.shape memory.shapesDrawn (plan.shapes.length + 1) := by
  rw [nextAddition, content.addition_shapeIds _ (idsFrom_length ..), ← idsFrom_append]
  rfl

theorem Memory.nextAddition_connectorIds (supply : Supply) (memory : Memory α)
    (content : Import α) (indexed : plan.Indexed) :
    (memory.nextAddition supply content plan).connectorIds =
      idsFrom supply.connector memory.connectorsDrawn plan.connectors.length :=
  content.addition_connectorIds _ indexed (idsFrom_length ..) (idsFrom_length ..)

/-- The ids that writing a plan draws are the ids of what it adds. -/
theorem Memory.Becomes.nextAddition_new {id : DocumentId} (indexed : plan.Indexed)
    (became : Becomes id memory after document (plan.shapes.length + 1) plan.connectors.length)
    (fresh : supply.Fresh id memory after) :
    (memory.nextAddition supply content plan).New (memory.documentOrEmpty id) := by
  have shapes : supply.shapesBetween memory after =
      (memory.nextAddition supply content plan).shapeIds := by
    rw [nextAddition_shapeIds, Supply.shapesBetween, became.shapesDrawn, Nat.add_sub_cancel_left]
  have connectors : supply.connectorsBetween memory after =
      (memory.nextAddition supply content plan).connectorIds := by
    rw [nextAddition_connectorIds supply memory content indexed, Supply.connectorsBetween,
      became.connectorsDrawn, Nat.add_sub_cancel_left]
  constructor
  case shapes => exact shapes ▸ fresh.shapes_new
  case connectors => exact connectors ▸ fresh.connectors_new
  case shapes_distinct => exact shapes ▸ fresh.shapes_distinct
  case connectors_distinct => exact connectors ▸ fresh.connectors_distinct

/-- Under fresh ids, what has been written is the addition, also into a part of the document. -/
theorem Memory.Becomes.written_eq_addTo {id : DocumentId} (indexed : plan.Indexed)
    (became : Becomes id memory after
      (content.written plan (memory.nextAddition supply content plan) document)
      (plan.shapes.length + 1) plan.connectors.length)
    (fresh : supply.Fresh id memory after)
    (shapes_held : document.shapeIds ⊆ (memory.documentOrEmpty id).shapeIds)
    (connectors_held : document.connectorIds ⊆ (memory.documentOrEmpty id).connectorIds) :
    (memory.nextAddition supply content plan).New document ∧
      after.documentOrEmpty id = (memory.nextAddition supply content plan).addTo document := by
  have new : (memory.nextAddition supply content plan).New document :=
    (became.nextAddition_new indexed fresh).part shapes_held connectors_held
  refine ⟨new, became.held.trans ?_⟩
  exact content.written_eq_addTo _ document indexed (idsFrom_length ..) new

end Fresh

end TextDiagram
