import TextDiagram.Proofs.Document.Kinds

/-!
# Records of documents

Two documents have the same records when they hold the same shapes and the same connectors, in
whatever order. Deleting and restoring respect this. Main statement: what was taken out of a
document and is put back under its ids gives the records of the document again.
-/
namespace TextDiagram.Document

variable {α : Type}

/-- No two shapes and no two connectors of the document have the same id. -/
structure Distinct (document : Document α) : Prop where
  shapes : document.shapeIds.Nodup
  connectors : document.connectorIds.Nodup

instance (document : Document α) : Decidable document.Distinct :=
  decidable_of_iff (document.shapeIds.Nodup ∧ document.connectorIds.Nodup)
    ⟨fun nodup => ⟨nodup.1, nodup.2⟩, fun distinct => ⟨distinct.shapes, distinct.connectors⟩⟩

/-- The documents hold the same shapes and the same connectors, in any order. -/
structure SameRecords (document other : Document α) : Prop where
  shapes : document.shapes.Perm other.shapes
  connectors : document.connectors.Perm other.connectors

theorem distinct_empty (id : DocumentId) : (empty id : Document α).Distinct :=
  ⟨.nil, .nil⟩

namespace SameRecords

variable {document other third : Document α}

theorem refl (document : Document α) : document.SameRecords document :=
  ⟨.refl _, .refl _⟩

theorem symm (same : document.SameRecords other) : other.SameRecords document :=
  ⟨same.shapes.symm, same.connectors.symm⟩

theorem trans (first : document.SameRecords other) (second : other.SameRecords third) :
    document.SameRecords third :=
  ⟨first.shapes.trans second.shapes, first.connectors.trans second.connectors⟩

theorem shapeIds (same : document.SameRecords other) :
    document.shapeIds.Perm other.shapeIds :=
  same.shapes.map Shape.id

theorem connectorIds (same : document.SameRecords other) :
    document.connectorIds.Perm other.connectorIds :=
  same.connectors.map Connector.id

theorem distinct (same : document.SameRecords other) (distinct : document.Distinct) :
    other.Distinct :=
  ⟨same.shapeIds.nodup_iff.mp distinct.shapes, same.connectorIds.nodup_iff.mp distinct.connectors⟩

/-! ### Calls respect the records -/

theorem eraseShapes (same : document.SameRecords other) (ids : List ShapeId) :
    (document.eraseShapes ids).SameRecords (other.eraseShapes ids) :=
  ⟨same.shapes.filter _, same.connectors⟩

theorem eraseConnectors (same : document.SameRecords other) (ids : List ConnectorId) :
    (document.eraseConnectors ids).SameRecords (other.eraseConnectors ids) :=
  ⟨same.shapes, same.connectors.filter _⟩

theorem restoreShapes (same : document.SameRecords other) (distinct : document.Distinct)
    (shapes : List (Shape α)) :
    (document.restoreShapes shapes).SameRecords (other.restoreShapes shapes) :=
  ⟨upsertAll_congr Shape.id shapes distinct.shapes same.shapes, same.connectors⟩

theorem restoreConnectors (same : document.SameRecords other) (distinct : document.Distinct)
    (connectors : List Connector) :
    (document.restoreConnectors connectors).SameRecords (other.restoreConnectors connectors) :=
  ⟨same.shapes, upsertAll_congr Connector.id connectors distinct.connectors same.connectors⟩

end SameRecords

namespace Distinct

variable {document : Document α}

theorem eraseShapes (distinct : document.Distinct) (ids : List ShapeId) :
    (document.eraseShapes ids).Distinct :=
  ⟨nodup_map_filter Shape.id _ distinct.shapes, distinct.connectors⟩

theorem eraseConnectors (distinct : document.Distinct) (ids : List ConnectorId) :
    (document.eraseConnectors ids).Distinct :=
  ⟨distinct.shapes, nodup_map_filter Connector.id _ distinct.connectors⟩

theorem restoreShapes (distinct : document.Distinct) (shapes : List (Shape α)) :
    (document.restoreShapes shapes).Distinct :=
  ⟨upsertAll_nodup Shape.id shapes distinct.shapes, distinct.connectors⟩

theorem restoreConnectors (distinct : document.Distinct) (connectors : List Connector) :
    (document.restoreConnectors connectors).Distinct :=
  ⟨distinct.shapes, upsertAll_nodup Connector.id connectors distinct.connectors⟩

end Distinct

/-! ### Deleting what was added -/

theorem eraseShapes_of_absent (document : Document α) (ids : List ShapeId)
    (absent : ∀ id ∈ ids, id ∉ document.shapeIds) : document.eraseShapes ids = document :=
  shapeKind.erase_of_absent absent

theorem eraseConnectors_of_absent (document : Document α) (ids : List ConnectorId)
    (absent : ∀ id ∈ ids, id ∉ document.connectorIds) : document.eraseConnectors ids = document :=
  connectorKind.erase_of_absent absent

/-- Deleting restored entries deletes what had their ids before, and nothing else. -/
theorem eraseShapes_restoreShapes (document : Document α) (shapes : List (Shape α)) :
    (document.restoreShapes shapes).eraseShapes (shapes.map Shape.id) =
      document.eraseShapes (shapes.map Shape.id) :=
  shapeKind.erase_restore document shapes

theorem eraseConnectors_restoreConnectors (document : Document α) (connectors : List Connector) :
    (document.restoreConnectors connectors).eraseConnectors (connectors.map Connector.id) =
      document.eraseConnectors (connectors.map Connector.id) :=
  connectorKind.erase_restore document connectors

end TextDiagram.Document
