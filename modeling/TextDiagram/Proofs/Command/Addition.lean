import TextDiagram.Command.Content
import TextDiagram.Proofs.Document.Records
import TextDiagram.Proofs.Plan.Indices

/-!
# What an import adds to a document

Writing a plan appends one shape for every planned shape, one connector for every planned
connector, and a container that lists them. The parents of the shapes are set after all shapes
exist, by one change of a shape after the other; main statement: the outcome is as if every shape
had been created with its parent. Deleting what was added gives the old document back.
-/
namespace TextDiagram

variable {α : Type}

/-! ### Planned entries under their ids -/

/-- The shape of a planned shape, where the planned shapes have been given these ids. -/
def PlannedShape.shape (ids : List ShapeId) (planned : PlannedShape α) (id : ShapeId) :
    Shape α where
  id := id
  kind := planned.kind.keyword
  box := planned.box
  parent := planned.parent.bind (ids[·]?)
  props := planned.props

/-- What an import adds to a document. -/
structure Addition (α : Type) where
  shapes : List (Shape α)
  connectors : List Connector
  container : Shape α

namespace Addition

def addTo (addition : Addition α) (document : Document α) : Document α :=
  { document with
    shapes := document.shapes ++ (addition.shapes ++ [addition.container])
    connectors := document.connectors ++ addition.connectors }

/-- The ids of the shapes, that of the container last. -/
def shapeIds (addition : Addition α) : List ShapeId :=
  addition.shapes.map Shape.id ++ [addition.container.id]

def connectorIds (addition : Addition α) : List ConnectorId :=
  addition.connectors.map Connector.id

/-- What the import remembers to have created. -/
def created (addition : Addition α) : Created :=
  ⟨some addition.container.id, addition.shapes.map Shape.id, addition.connectorIds⟩

theorem shapeIds_addTo (addition : Addition α) (document : Document α) :
    (addition.addTo document).shapeIds = document.shapeIds ++ addition.shapeIds := by
  simp [addTo, Document.shapeIds, shapeIds]

theorem connectorIds_addTo (addition : Addition α) (document : Document α) :
    (addition.addTo document).connectorIds = document.connectorIds ++ addition.connectorIds := by
  simp [addTo, Document.connectorIds, connectorIds]

end Addition

/-- The document without what an import has created. -/
def Created.removedFrom (created : Created) (document : Document α) : Document α :=
  ((document.eraseShapes created.container.toList).eraseConnectors
    created.connectors).eraseShapes created.shapes

/-- The ids of an addition differ from each other and from those of a document. -/
structure Addition.New (addition : Addition α) (document : Document α) : Prop where
  shapes : ∀ id ∈ addition.shapeIds, id ∉ document.shapeIds
  connectors : ∀ id ∈ addition.connectorIds, id ∉ document.connectorIds
  shapes_distinct : addition.shapeIds.Nodup
  connectors_distinct : addition.connectorIds.Nodup

theorem Addition.New.part {addition : Addition α} {document other : Document α}
    (new : addition.New document) (shapes : other.shapeIds ⊆ document.shapeIds)
    (connectors : other.connectorIds ⊆ document.connectorIds) : addition.New other where
  shapes id added held := new.shapes id added (shapes held)
  connectors id added held := new.connectors id added (connectors held)
  shapes_distinct := new.shapes_distinct
  connectors_distinct := new.connectors_distinct

/-- Removing what was added, and new, gives the document back as it was. -/
theorem Addition.removedFrom_addTo (addition : Addition α) (document : Document α)
    (new : addition.New document) :
    addition.created.removedFrom (addition.addTo document) = document := by
  have shapes : ((document.shapes ++ (addition.shapes ++ [addition.container])).filter
      (·.id ∉ [addition.container.id])).filter (·.id ∉ addition.shapes.map Shape.id) =
        document.shapes := by
    rw [List.filter_filter, List.filter_append, List.filter_eq_self.mpr, List.filter_eq_nil_iff.mpr,
      List.append_nil]
    -- What was added goes with the container or with the shapes.
    · intro shape added
      simp only [Bool.and_eq_true, decide_eq_true_eq]
      rcases List.mem_append.mp added with drawn | container
      · exact fun kept => kept.1 (List.mem_map_of_mem drawn)
      · exact fun kept => kept.2 (List.mem_singleton.mp container ▸ List.mem_singleton_self _)
    · intro shape held
      have apart : shape.id ∉ addition.shapeIds :=
        fun added => new.shapes _ added (List.mem_map_of_mem held)
      simpa [shapeIds] using apart
  have connectors : (document.connectors ++ addition.connectors).filter
      (·.id ∉ addition.connectorIds) = document.connectors := by
    rw [List.filter_append, List.filter_eq_self.mpr, List.filter_eq_nil_iff.mpr, List.append_nil]
    · intro connector added
      have listed : connector.id ∈ addition.connectorIds := List.mem_map_of_mem added
      simpa using listed
    · intro connector held
      have apart : connector.id ∉ addition.connectorIds :=
        fun added => new.connectors _ added (List.mem_map_of_mem held)
      simpa using apart
  exact congr (congrArg (Document.mk document.id) shapes) connectors

namespace Addition

variable {addition : Addition α} {document : Document α}

theorem addTo_distinct (distinct : document.Distinct) (new : addition.New document) :
    (addition.addTo document).Distinct := by
  constructor
  · rw [shapeIds_addTo]
    exact distinct.shapes.append new.shapes_distinct fun id held added => new.shapes id added held
  · rw [connectorIds_addTo]
    exact distinct.connectors.append new.connectors_distinct
      fun id held added => new.connectors id added held

end Addition

/-! ### Linking parents -/

/-- The document with the parents of planned shapes set, one shape after the other. -/
def Document.linked (ids : List ShapeId) : List (PlannedShape α) → Document α → Document α
  | [], document => document
  | planned :: rest, document =>
    match ids[planned.index]?, planned.parent.bind (ids[·]?) with
    | some child, some parent =>
      linked ids rest ((document.patchShape? child ⟨some parent⟩).getD document)
    | _, _ => linked ids rest document

/-- Linking goes through the new shapes in order: those in front have their parents already. -/
theorem Document.linked_append (document : Document α) (ids : List ShapeId)
    (front : List (Shape α)) (rest : List (PlannedShape α)) (first : Nat) (restIds : List ShapeId)
    (index : rest.map PlannedShape.index = List.range' first rest.length)
    (suffix : ids.drop first = restIds) (length : restIds.length = rest.length)
    (distinct : restIds.Nodup) (new : ∀ id ∈ restIds, id ∉ front.map Shape.id) :
    linked ids rest
        { document with
          shapes := front ++ (rest.map PlannedShape.draft).zipWith ShapeDraft.withId restIds } =
      { document with shapes := front ++ rest.zipWith (PlannedShape.shape ids) restIds } := by
  induction rest generalizing front first restIds with
  | nil => simp [linked]
  | cons planned rest ih =>
    cases restIds with
    | nil => simp at length
    | cons id restIds =>
      simp only [List.map_cons, List.length_cons, List.range'_succ, List.cons.injEq] at index
      simp only [List.nodup_cons] at distinct
      -- The index of the head is its place among all ids, where its own id stands.
      have found : ids[planned.index]? = some id := by
        rw [index.1, ← Nat.add_zero first, ← List.getElem?_drop, suffix, List.getElem?_cons_zero]
      have suffix_rest : ids.drop (first + 1) = restIds := by
        rw [← List.drop_drop, suffix, List.drop_one, List.tail_cons]
      -- Once the head has its parent, it joins the shapes in front.
      have step := ih (front ++ [planned.shape ids id]) (first + 1) restIds index.2 suffix_rest
        (by simpa using length) distinct.2 (by
          intro other member
          have apart : other ≠ id := fun same => distinct.1 (same ▸ member)
          simpa [PlannedShape.shape, apart] using new other (List.mem_cons_of_mem _ member))
      simp only [List.append_assoc, List.singleton_append] at step
      simp only [linked, found, List.map_cons, List.zipWith_cons_cons]
      cases inside : planned.parent.bind (ids[·]?) with
      | none =>
        have already : planned.draft.withId id = planned.shape ids id := by
          simp [PlannedShape.draft, ShapeDraft.withId, PlannedShape.shape, inside]
        simpa only [already] using step
      | some parent =>
        -- No shape in front has the id of the head, so that the head is the one that is patched.
        have patched := modifyFirst?_append_cons Shape.id (·.patch ⟨some parent⟩) front
          (planned.draft.withId id)
          ((rest.map PlannedShape.draft).zipWith ShapeDraft.withId restIds)
          (new id List.mem_cons_self)
        have linked_head :
            (planned.draft.withId id).patch ⟨some parent⟩ = planned.shape ids id := by
          simp [PlannedShape.draft, ShapeDraft.withId, PlannedShape.shape, Shape.patch, inside]
        have same_id : (planned.draft.withId id).id = id := rfl
        rw [same_id, linked_head] at patched
        simpa only [patchShape?, patched, Option.map_some, Option.getD_some] using step

/-! ### The addition of an import -/

namespace Import

variable [Scalar α]

/-- The plan at the place where an import draws it. -/
def place (content : Import α) (plan : Plan α) : Plan α :=
  plan.moveTo (content.origin.x + content.config.containerPadding)
    (content.origin.y + content.config.containerPadding)

def frame (content : Import α) (plan : Plan α) : Box α :=
  let padding := content.config.containerPadding
  ((content.place plan).bounds?.getD
    ⟨content.origin.x + padding, content.origin.y + padding, Scalar.zero, Scalar.zero⟩).inflate
    padding

/-- What an import adds to a document that gives its entries these ids. -/
def addition (content : Import α) (plan : Plan α) (shapeIds : List ShapeId)
    (connectorIds : List ConnectorId) (containerId : ShapeId) : Addition α where
  shapes := (content.place plan).shapes.zipWith (PlannedShape.shape shapeIds) shapeIds
  connectors :=
    (plan.connectors.filterMap (PlannedConnector.draft? shapeIds)).zipWith
      ConnectorDraft.withId connectorIds
  container :=
    (Container.draft (content.frame plan) content.family content.source
      ⟨shapeIds, connectorIds⟩).withId containerId

/-- The document as an import leaves it, one step of its writing after the other. -/
def written (content : Import α) (plan : Plan α) (addition : Addition α)
    (document : Document α) : Document α :=
  let placed := content.place plan
  let ids := addition.shapes.map Shape.id
  let drawn := (placed.shapes.map PlannedShape.draft).zipWith ShapeDraft.withId ids
  (((document.addShapes drawn).linked ids placed.shapes).addConnectors
    addition.connectors).addShapes [addition.container]

theorem place_eq_shift (content : Import α) (plan : Plan α) :
    ∃ dx dy, content.place plan = plan.shift dx dy :=
  plan.moveTo_eq_shift _ _

theorem place_connectors (content : Import α) (plan : Plan α) :
    (content.place plan).connectors = plan.connectors := by
  obtain ⟨dx, dy, same⟩ := content.place_eq_shift plan
  rw [same, Plan.shift]

theorem place_length (content : Import α) (plan : Plan α) :
    (content.place plan).shapes.length = plan.shapes.length := by
  obtain ⟨dx, dy, same⟩ := content.place_eq_shift plan
  rw [same, Plan.shift, List.length_map]

theorem place_indexed (content : Import α) {plan : Plan α} (indexed : plan.Indexed) :
    (content.place plan).Indexed := by
  obtain ⟨dx, dy, same⟩ := content.place_eq_shift plan
  exact same ▸ Plan.shift_indexed dx dy indexed

end Import

/-- Connectors between shapes of the plan are all created. -/
theorem Plan.Indexed.drafts_length {plan : Plan α} (indexed : plan.Indexed) {ids : List ShapeId}
    (length : ids.length = plan.shapes.length) :
    (plan.connectors.filterMap (PlannedConnector.draft? ids)).length = plan.connectors.length := by
  refine (List.filterMap_length_eq_length).mpr fun connector member => ?_
  obtain ⟨source, target⟩ := indexed.ends connector member
  -- There are as many ids as shapes, so both ends have one.
  rw [← length] at source target
  simp [PlannedConnector.draft?, List.getElem?_eq_getElem source, List.getElem?_eq_getElem target]

section Ids

variable [Scalar α] (content : Import α) {plan : Plan α} {shapeIds : List ShapeId}
  {connectorIds : List ConnectorId} (containerId : ShapeId)

theorem Import.addition_shapes_ids (length : shapeIds.length = plan.shapes.length) :
    (content.addition plan shapeIds connectorIds containerId).shapes.map Shape.id = shapeIds :=
  map_zipWith_key (PlannedShape.shape shapeIds) Shape.id (fun _ _ => rfl)
    ((content.place_length plan).trans length.symm)

theorem Import.addition_shapeIds (length : shapeIds.length = plan.shapes.length) :
    (content.addition plan shapeIds connectorIds containerId).shapeIds =
      shapeIds ++ [containerId] := by
  rw [Addition.shapeIds, content.addition_shapes_ids containerId length]
  rfl

theorem Import.addition_connectorIds (indexed : plan.Indexed)
    (length : shapeIds.length = plan.shapes.length)
    (connectors : connectorIds.length = plan.connectors.length) :
    (content.addition plan shapeIds connectorIds containerId).connectorIds = connectorIds :=
  map_zipWith_key ConnectorDraft.withId Connector.id (fun _ _ => rfl)
    ((indexed.drafts_length length).trans connectors.symm)

theorem Import.addition_created (indexed : plan.Indexed)
    (length : shapeIds.length = plan.shapes.length)
    (connectors : connectorIds.length = plan.connectors.length) :
    (content.addition plan shapeIds connectorIds containerId).created =
      ⟨some containerId, shapeIds, connectorIds⟩ := by
  rw [Addition.created, content.addition_shapes_ids containerId length,
    content.addition_connectorIds containerId indexed length connectors]
  rfl

/-- Step by step or at once, an import under new ids leaves the same document. -/
theorem Import.written_eq_addTo (document : Document α) (indexed : plan.Indexed)
    (length : shapeIds.length = plan.shapes.length)
    (new : (content.addition plan shapeIds connectorIds containerId).New document) :
    let addition := content.addition plan shapeIds connectorIds containerId
    content.written plan addition document = addition.addTo document := by
  intro addition
  have all_ids : addition.shapeIds = shapeIds ++ [containerId] :=
    content.addition_shapeIds containerId length
  obtain ⟨distinct, -, -⟩ := List.nodup_append.mp (all_ids ▸ new.shapes_distinct)
  have new : ∀ id ∈ shapeIds, id ∉ document.shapeIds := by
    intro id member
    refine new.shapes id ?_
    rw [all_ids]
    exact List.mem_append_left _ member
  have ids : addition.shapes.map Shape.id = shapeIds :=
    content.addition_shapes_ids containerId length
  have placed_length := (content.place_length plan).trans length.symm
  have index := (content.place_indexed indexed).index
  rw [List.range_eq_range'] at index
  -- The old shapes are in front, and none of them has a new id.
  have linked := document.linked_append shapeIds document.shapes (content.place plan).shapes 0
    shapeIds index rfl placed_length.symm distinct new
  simp only [written, ids, Document.addShapes, linked, Document.addConnectors, List.append_assoc]
  rfl

end Ids

end TextDiagram
