import TextDiagram.Command.Basic
import TextDiagram.Proofs.Command.Content

/-!
# Taking an import out and putting it back

An update deletes an earlier import in three steps and remembers what it found; its undo puts that
back in three steps, in another order. The lists of the container may name anything: entries that
do not exist, one entry twice, or the container itself. Main statement: as long as no two entries
of a document have the same id, what is put back makes up the records of the document again, and
the entries of other imports have kept their order.
-/
namespace TextDiagram

variable {α : Type}

open Memory

/-! ### Imports of a document -/

namespace Document

/-- The container with an id and what it lists, if its lists can be read. -/
def container? (document : Document α) (preview : ShapeId) : Option (Shape α × Members) :=
  (document.shape? preview).bind fun shape =>
    (Container.members? shape).map fun members => (shape, members)

/-- The import with an id as it stands in the document. -/
def replaced? (document : Document α) (preview : ShapeId) : Option (Replaced α) :=
  (document.container? preview).map fun (container, members) =>
    .ofDocument container members (some document)

/-- All that belongs to the import with an id: its container and what it lists. -/
def entries (document : Document α) (preview : ShapeId) : Members :=
  match document.container? preview with
  | none => ⟨[], []⟩
  | some (container, members) => ⟨container.id :: members.shapes, members.connectors⟩

/-- The entries of the document besides some, in order. -/
def besides (document : Document α) (members : Members) : Document α :=
  (document.eraseConnectors members.connectors).eraseShapes members.shapes

/-- The document without the import that has the id. -/
def without (document : Document α) (preview : ShapeId) : Document α :=
  document.besides (document.entries preview)

variable {document : Document α} {preview : ShapeId} {container : Shape α} {members : Members}

theorem container?_some (found : document.container? preview = some (container, members)) :
    container ∈ document.shapes ∧ container.id = preview ∧
      Container.members? container = some members := by
  obtain ⟨shape, held, listed⟩ := Option.bind_eq_some_iff.mp found
  obtain ⟨lists, read, same⟩ := Option.map_eq_some_iff.mp listed
  cases same
  exact ⟨List.mem_of_find?_eq_some held, by simpa using List.find?_some held, read⟩

/-- The order of a document does not matter to what belongs to an import. -/
theorem SameRecords.entries {other : Document α} (same : document.SameRecords other)
    (distinct : document.Distinct) (preview : ShapeId) :
    document.entries preview = other.entries preview := by
  have found : document.shape? preview = other.shape? preview :=
    find?_key_congr Shape.id preview distinct.shapes same.shapes
  simp only [Document.entries, container?, found]

theorem besides_eq_self {members : Members} (shapes : ∀ id ∈ members.shapes, id ∉ document.shapeIds)
    (connectors : ∀ id ∈ members.connectors, id ∉ document.connectorIds) :
    document.besides members = document := by
  rw [besides, eraseConnectors_of_absent _ _ connectors, eraseShapes_of_absent _ _ shapes]

theorem besides_nothing (document : Document α) : document.besides ⟨[], []⟩ = document :=
  besides_eq_self (by simp) (by simp)

theorem besides_besides (document : Document α) (members : Members) :
    (document.besides members).besides members = document.besides members := by
  simp [besides, eraseShapes, eraseConnectors]

/-- Restoring some of the entries that are left out leaves the others where they are. -/
theorem besides_restoreShapes (document : Document α) (members : Members) {shapes : List (Shape α)}
    (listed : ∀ shape ∈ shapes, shape.id ∈ members.shapes) :
    (document.restoreShapes shapes).besides members = document.besides members :=
  shapeKind.erase_restore_of_listed (document.eraseConnectors members.connectors) listed

theorem besides_restoreConnectors (document : Document α) (members : Members)
    {connectors : List Connector}
    (listed : ∀ connector ∈ connectors, connector.id ∈ members.connectors) :
    (document.restoreConnectors connectors).besides members = document.besides members :=
  congrArg (·.eraseShapes members.shapes) (connectorKind.erase_restore_of_listed document listed)

theorem without_of_none (absent : document.container? preview = none) :
    document.without preview = document := by
  rw [without, entries, absent, besides_nothing]

/-- An import is taken out in three steps: its connectors, its members, and its container. -/
theorem without_of_some (present : document.container? preview = some (container, members)) :
    document.without preview =
      ((document.eraseConnectors members.connectors).eraseShapes members.shapes).eraseShapes
        [container.id] := by
  simp only [without, entries, present, besides, eraseShapes, List.filter_filter]
  congr 1
  refine List.filter_congr fun shape _ => ?_
  simp

theorem without_distinct (distinct : document.Distinct) (preview : ShapeId) :
    (document.without preview).Distinct :=
  (distinct.eraseConnectors _).eraseShapes _

theorem without_shapeIds_subset (document : Document α) (preview : ShapeId) :
    (document.without preview).shapeIds ⊆ document.shapeIds :=
  (List.filter_sublist.map Shape.id).subset

theorem without_connectorIds_subset (document : Document α) (preview : ShapeId) :
    (document.without preview).connectorIds ⊆ document.connectorIds :=
  (List.filter_sublist.map Connector.id).subset

end Document

/-! ### Entries left out part by part -/

namespace Members

def nothing : Members :=
  ⟨[], []⟩

/-- The entries of both. -/
def and (first second : Members) : Members :=
  ⟨first.shapes ++ second.shapes, first.connectors ++ second.connectors⟩

structure Within (part whole : Members) : Prop where
  shapes : part.shapes ⊆ whole.shapes
  connectors : part.connectors ⊆ whole.connectors

namespace Within

variable {part whole first second : Members}

theorem nothing (members : Members) : Members.nothing.Within members :=
  ⟨List.nil_subset _, List.nil_subset _⟩

theorem left (within : part.Within first) : part.Within (first.and second) where
  shapes := List.Subset.trans within.shapes (List.subset_append_left _ _)
  connectors := List.Subset.trans within.connectors (List.subset_append_left _ _)

theorem and_right (within : part.Within second) : (first.and part).Within (first.and second) where
  shapes := List.append_subset.mpr ⟨List.subset_append_left _ _,
    List.Subset.trans within.shapes (List.subset_append_right _ _)⟩
  connectors := List.append_subset.mpr ⟨List.subset_append_left _ _,
    List.Subset.trans within.connectors (List.subset_append_right _ _)⟩

theorem and (first_within : first.Within whole) (second_within : second.Within whole) :
    (first.and second).Within whole where
  shapes := List.append_subset.mpr ⟨first_within.shapes, second_within.shapes⟩
  connectors := List.append_subset.mpr ⟨first_within.connectors, second_within.connectors⟩

end Within

end Members

namespace Document

theorem besides_and (document : Document α) (first second : Members) :
    (document.besides first).besides second = document.besides (first.and second) := by
  simp only [besides, eraseShapes, eraseConnectors, Members.and, List.filter_filter,
    List.mem_append, not_or, Bool.decide_and, Bool.and_comm]

theorem besides_shapes (document : Document α) (ids : List ShapeId) :
    document.besides ⟨ids, []⟩ = document.eraseShapes ids := by
  rw [besides, eraseConnectors_of_absent _ _ (by simp)]

theorem besides_connectors (document : Document α) (ids : List ConnectorId) :
    document.besides ⟨[], ids⟩ = document.eraseConnectors ids := by
  rw [besides, eraseShapes_of_absent _ _ (by simp)]

/-- What is left out at first makes no difference when more is left out later. -/
theorem besides_of_within (document : Document α) {part whole : Members}
    (within : part.Within whole) :
    (document.besides part).besides whole = document.besides whole := by
  rw [besides_and]
  simp only [besides, eraseShapes, eraseConnectors, Members.and, List.mem_append, Document.mk.injEq,
    true_and]
  constructor
  · refine List.filter_congr fun shape _ => decide_eq_decide.mpr (not_congr ?_)
    exact or_iff_right_of_imp fun listed => within.shapes listed
  · refine List.filter_congr fun connector _ => decide_eq_decide.mpr (not_congr ?_)
    exact or_iff_right_of_imp fun listed => within.connectors listed

end Document

/-- All entries that a command has created. -/
def Created.members (created : Created) : Members :=
  ⟨created.container.toList ++ created.shapes, created.connectors⟩

theorem Created.removedFrom_eq_besides (created : Created) (document : Document α) :
    created.removedFrom document = document.besides created.members := by
  have twice := document.besides_and ⟨created.container.toList, []⟩
    ⟨created.shapes, created.connectors⟩
  rw [document.besides_shapes] at twice
  exact twice

/-! ### Putting an import back -/

def Replaced.putInto (replaced : Replaced α) (document : Document α) : Document α :=
  ((document.restoreShapes replaced.shapes).restoreConnectors
    replaced.connectors).restoreShapes [replaced.container]

namespace Replaced

variable {document other : Document α}

theorem putInto_congr (replaced : Replaced α) (distinct : document.Distinct)
    (same : document.SameRecords other) :
    (replaced.putInto document).SameRecords (replaced.putInto other) :=
  ((same.restoreShapes distinct _).restoreConnectors (distinct.restoreShapes _) _).restoreShapes
    ((distinct.restoreShapes _).restoreConnectors _) _

end Replaced

/-! ### Out and back -/

namespace Document

variable {document : Document α} {preview : ShapeId}

/-- The members and the container of an import, put into what is left, make up all shapes. -/
theorem shapes_putBack (distinct : document.Distinct) {container : Shape α}
    (held : container ∈ document.shapes) (listed : List ShapeId) :
    let noted := document.shapes.filter (·.id ∈ listed)
    let rest := document.shapes.filter (·.id ∉ container.id :: listed)
    (upsertAll Shape.id [container] (upsertAll Shape.id noted rest)).Perm document.shapes := by
  intro noted rest
  have noted_held : noted ⊆ document.shapes := List.filter_subset_self _
  have rest_held : rest ⊆ document.shapes := List.filter_subset_self _
  have rest_distinct : (rest.map Shape.id).Nodup := nodup_map_filter Shape.id _ distinct.shapes
  -- Putting the members back replaces nothing but themselves, since all is from one document.
  have noted_back (shape : Shape α) :
      shape ∈ upsertAll Shape.id noted rest ↔ shape ∈ noted ∨ shape ∈ rest :=
    mem_upsertAll_of_subset Shape.id shape distinct.shapes
      (nodup_map_filter Shape.id _ distinct.shapes) rest_distinct noted_held rest_held
  have back_held : upsertAll Shape.id noted rest ⊆ document.shapes := by
    intro shape back
    rcases (noted_back shape).mp back with was_noted | was_left
    · exact noted_held was_noted
    · exact rest_held was_left
  have back_distinct := upsertAll_nodup Shape.id noted rest_distinct
  -- Both lists have distinct ids, so that it is enough that they hold the same shapes.
  refine perm_of_mem_iff Shape.id (upsertAll_nodup Shape.id [container] back_distinct)
    distinct.shapes fun shape => ?_
  rw [mem_upsertAll_of_subset Shape.id shape distinct.shapes (by simp) back_distinct
    (by simpa using held) back_held, noted_back]
  simp only [noted, rest, List.mem_filter, List.mem_cons, List.not_mem_nil, or_false,
    decide_eq_true_eq]
  constructor
  · rintro (rfl | ⟨shape_held, -⟩ | ⟨shape_held, -⟩) <;> assumption
  · intro shape_held
    by_cases is_container : shape.id = container.id
    -- The container may be listed by itself; it is put back after the members in any case.
    · exact .inl (eq_of_key_eq Shape.id distinct.shapes shape_held held is_container)
    · by_cases is_listed : shape.id ∈ listed
      · exact .inr (.inl ⟨shape_held, is_listed⟩)
      · exact .inr (.inr ⟨shape_held, not_or.mpr ⟨is_container, is_listed⟩⟩)

/-- The connectors of an import, put into what is left, make up all connectors. -/
theorem connectors_putBack (distinct : document.Distinct) (listed : List ConnectorId) :
    let noted := document.connectors.filter (·.id ∈ listed)
    let rest := document.connectors.filter (·.id ∉ listed)
    (upsertAll Connector.id noted rest).Perm document.connectors := by
  intro noted rest
  have rest_distinct : (rest.map Connector.id).Nodup := nodup_map_filter _ _ distinct.connectors
  refine perm_of_mem_iff Connector.id (upsertAll_nodup Connector.id noted rest_distinct)
    distinct.connectors fun connector => ?_
  rw [mem_upsertAll_of_subset Connector.id connector distinct.connectors
    (nodup_map_filter Connector.id _ distinct.connectors) rest_distinct
    (List.filter_subset_self _) (List.filter_subset_self _)]
  simp only [rest, List.mem_filter, decide_eq_true_eq]
  constructor
  · rintro (⟨held, -⟩ | ⟨held, -⟩) <;> exact held
  · intro held
    by_cases is_listed : connector.id ∈ listed
    · exact .inl ⟨held, is_listed⟩
    · exact .inr ⟨held, is_listed⟩

/-- What is taken out and put back makes up the same records. -/
theorem putInto_without (distinct : document.Distinct) {replaced : Replaced α}
    (found : document.replaced? preview = some replaced) :
    (replaced.putInto (document.without preview)).SameRecords document := by
  obtain ⟨⟨container, members⟩, present, rfl⟩ := Option.map_eq_some_iff.mp found
  simp only [without, entries, present]
  exact ⟨document.shapes_putBack distinct (container?_some present).1 members.shapes,
    document.connectors_putBack distinct members.connectors⟩

/-- Putting an import back moves nothing but its own entries. -/
theorem besides_putInto {replaced : Replaced α} (found : document.replaced? preview = some replaced)
    (other : Document α) :
    (replaced.putInto other).besides (document.entries preview) =
      other.besides (document.entries preview) := by
  obtain ⟨⟨container, members⟩, present, rfl⟩ := Option.map_eq_some_iff.mp found
  simp only [entries, present, Replaced.putInto]
  rw [besides_restoreShapes, besides_restoreConnectors, besides_restoreShapes]
  -- All that is put back belongs to the import.
  · intro shape noted
    exact List.mem_cons_of_mem _ (of_decide_eq_true (List.mem_filter.mp noted).2)
  · intro connector noted
    exact of_decide_eq_true (List.mem_filter.mp noted).2
  · intro shape restored
    rw [List.mem_singleton.mp restored]
    exact List.mem_cons_self

end Document

/-! ### The calls -/

theorem shape?_yields (supply : Supply) (batches : Bool) (memory : Memory α) (id : DocumentId)
    (shape : ShapeId) :
    ((store supply batches).shape? id shape).Yields memory
      ((memory.documentOrEmpty id).shape? shape) memory := by
  have looked_up : (memory.document? id).bind (·.shape? shape) =
      (memory.documentOrEmpty id).shape? shape := by
    cases held : memory.document? id with
    | none => simp [documentOrEmpty, held, Document.shape?, Document.empty]
    | some document => simp [documentOrEmpty, held]
  exact looked_up ▸ rfl

/-- Taking an import out never fails, whether or not there is one. -/
theorem Replaced.take_does (supply : Supply) (batches : Bool) (memory : Memory α)
    (id : DocumentId) (preview : ShapeId) :
    Does (Replaced.take (store supply batches) id preview) id memory
      ((memory.documentOrEmpty id).replaced? preview)
      ((memory.documentOrEmpty id).without preview) 0 0 := by
  have looked_up := shape?_yields supply batches memory id preview
  cases present : (memory.documentOrEmpty id).container? preview with
  | none =>
    rw [Document.without_of_none present, Document.replaced?, present]
    refine ⟨memory, looked_up.bind ?_, .refl id memory⟩
    unfold Document.container? at present
    simp only [present]
    rfl
  | some found =>
    obtain ⟨container, members⟩ := found
    -- A document that has the container exists, so that the members are noted down from it.
    have held : memory.document? id = some (memory.documentOrEmpty id) := by
      cases held : memory.document? id with
      | some document => rw [documentOrEmpty_of_some held]
      | none =>
        simp [documentOrEmpty, held, Document.container?, Document.shape?,
          Document.empty] at present
    obtain ⟨cut, connectors_deleted, became_cut⟩ :=
      deleteListedConnectors_does supply batches memory id members.connectors
    obtain ⟨bare, shapes_deleted, became_bare⟩ :=
      deleteListedShapes_does supply batches cut id members.shapes
    obtain ⟨answer, after, container_deleted, became_after⟩ :=
      deleteShapes_does bare id [container.id]
    rw [became_bare.held, became_cut.held] at became_after
    rw [Document.without_of_some present, Document.replaced?, present, Option.map_some, ← held]
    refine ⟨after, looked_up.bind ?_, became_cut.trans (became_bare.trans became_after)⟩
    unfold Document.container? at present
    simp only [present]
    refine .get_bind ?_
    refine connectors_deleted.bind (shapes_deleted.bind (.bind container_deleted ?_))
    rfl

theorem Replaced.putBack_does (supply : Supply) (batches : Bool) (memory : Memory α)
    (id : DocumentId) (replaced : Replaced α) :
    Does (replaced.putBack (store supply batches) id) id memory ()
      (replaced.putInto (memory.documentOrEmpty id)) 0 0 := by
  obtain ⟨drawn, shapes_restored, became_drawn⟩ :=
    write_does memory id (·.restoreShapes replaced.shapes) fun _ => rfl
  obtain ⟨joined, connectors_restored, became_joined⟩ :=
    write_does drawn id (·.restoreConnectors replaced.connectors) fun _ => rfl
  obtain ⟨after, container_restored, became_after⟩ :=
    write_does joined id (·.restoreShapes [replaced.container]) fun _ => rfl
  rw [became_joined.held, became_drawn.held] at became_after
  exact ⟨after, shapes_restored.bind (connectors_restored.bind (container_restored.bind rfl)),
    became_drawn.trans (became_joined.trans became_after)⟩

end TextDiagram
