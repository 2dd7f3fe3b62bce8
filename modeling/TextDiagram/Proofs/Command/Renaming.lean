import Mathlib.Logic.Equiv.Basic
import TextDiagram.Command.History
import TextDiagram.Proofs.Command.Container
import TextDiagram.Proofs.Document.Kinds
import TextDiagram.Proofs.Json.Renaming

/-!
# Other ids for the same entries

What documents and commands become when the ids of shapes and of connectors are exchanged for other
ones. The properties of a container list ids, too; the properties of other shapes are never looked
into and stay. Main statement: every operation of a document, and everything that is read off a
document to work on it, goes along with an exchange of ids.
-/
namespace TextDiagram

variable {α : Type}

/-- A one-to-one exchange of the ids of shapes, and of those of connectors. -/
structure Renaming where
  shape : Equiv.Perm ShapeId
  connector : Equiv.Perm ConnectorId

namespace Renaming

/-- The renaming that keeps all ids. -/
def identity : Renaming :=
  ⟨Equiv.refl _, Equiv.refl _⟩

/-- The properties of a shape of a kind; those of a container list members. -/
def props (names : Renaming) (kind : String) (props : Json) : Json :=
  if kind = Container.kind then
    (props.mapField "shapeIds"
        (Json.mapItems (Json.rename ShapeId.decoder ShapeId.toJson names.shape))).mapField
      "connectorIds"
        (Json.mapItems (Json.rename ConnectorId.decoder ConnectorId.toJson names.connector))
  else
    props

end Renaming

/-! ### Entries -/

def ShapeDraft.rename (names : Renaming) (draft : ShapeDraft α) : ShapeDraft α :=
  { draft with
    parent := draft.parent.map names.shape
    props := names.props draft.kind draft.props }

def Shape.rename (names : Renaming) (shape : Shape α) : Shape α :=
  { shape with
    id := names.shape shape.id
    parent := shape.parent.map names.shape
    props := names.props shape.kind shape.props }

def ShapePatch.rename (names : Renaming) (patch : ShapePatch) : ShapePatch :=
  ⟨patch.parent.map names.shape⟩

def ConnectorDraft.rename (names : Renaming) (draft : ConnectorDraft) : ConnectorDraft :=
  { draft with
    source := names.shape draft.source
    target := names.shape draft.target }

def Connector.rename (names : Renaming) (connector : Connector) : Connector :=
  { connector with
    id := names.connector connector.id
    source := names.shape connector.source
    target := names.shape connector.target }

def Members.rename (names : Renaming) (members : Members) : Members :=
  ⟨members.shapes.map names.shape, members.connectors.map names.connector⟩

def Created.rename (names : Renaming) (created : Created) : Created :=
  ⟨created.container.map names.shape, created.shapes.map names.shape,
    created.connectors.map names.connector⟩

def Document.rename (names : Renaming) (document : Document α) : Document α :=
  { document with
    shapes := document.shapes.map (Shape.rename names)
    connectors := document.connectors.map (Connector.rename names) }

variable (names : Renaming)

theorem Shape.rename_patch (shape : Shape α) (patch : ShapePatch) :
    (shape.patch patch).rename names =
      (shape.rename names).patch (patch.rename names) := by
  cases given : patch.parent <;> simp [Shape.patch, Shape.rename, ShapePatch.rename, given]

theorem ShapeDraft.rename_withId (draft : ShapeDraft α) (id : ShapeId) :
    (draft.rename names).withId (names.shape id) = (draft.withId id).rename names :=
  rfl

theorem ConnectorDraft.rename_withId (draft : ConnectorDraft) (id : ConnectorId) :
    (draft.rename names).withId (names.connector id) = (draft.withId id).rename names :=
  rfl

/-! ### Documents -/

theorem Shape.rename_id (shape : Shape α) : (shape.rename names).id = names.shape shape.id :=
  rfl

theorem Connector.rename_id (connector : Connector) :
    (connector.rename names).id = names.connector connector.id :=
  rfl

/-- How the entries of a kind and their ids are renamed. -/
structure EntryKind.Renamed {β ι : Type} (kind : EntryKind α β ι) (names : Renaming) where
  entry : β → β
  name : ι → ι
  injective : Function.Injective name
  key_entry : ∀ item, kind.key (entry item) = name (kind.key item)
  entries_rename : ∀ document : Document α,
    kind.entries (document.rename names) = (kind.entries document).map entry
  put_rename : ∀ (document : Document α) held,
    (kind.put document held).rename names = kind.put (document.rename names) (held.map entry)

def Renaming.shapes : (shapeKind (α := α)).Renamed names where
  entry := Shape.rename names
  name := names.shape
  injective := names.shape.injective
  key_entry := Shape.rename_id names
  entries_rename _ := rfl
  put_rename _ _ := rfl

def Renaming.connectors : (connectorKind (α := α)).Renamed names where
  entry := Connector.rename names
  name := names.connector
  injective := names.connector.injective
  key_entry := Connector.rename_id names
  entries_rename _ := rfl
  put_rename _ _ := rfl

namespace EntryKind.Renamed

variable {names} {β ι : Type} {kind : EntryKind α β ι} (renamed : kind.Renamed names)
  (document : Document α)

theorem ids : kind.ids (document.rename names) = (kind.ids document).map renamed.name := by
  rw [EntryKind.ids, renamed.entries_rename, EntryKind.ids, List.map_map, List.map_map]
  exact List.map_congr_left fun item _ => renamed.key_entry item

theorem append (items : List β) :
    (kind.append document items).rename names =
      kind.append (document.rename names) (items.map renamed.entry) := by
  rw [EntryKind.append, renamed.put_rename, List.map_append, ← renamed.entries_rename,
    EntryKind.append]

variable [DecidableEq ι]

theorem erase (keys : List ι) :
    (kind.erase document keys).rename names =
      kind.erase (document.rename names) (keys.map renamed.name) := by
  rw [EntryKind.erase, renamed.put_rename, EntryKind.erase, renamed.entries_rename,
    filter_map_unlisted renamed.injective renamed.key_entry]

theorem erased? (keys : List ι) :
    kind.erased? (document.rename names) (keys.map renamed.name) =
      (kind.erased? document keys).map (Document.rename names) := by
  have held : kind.holds (document.rename names) (keys.map renamed.name) =
      kind.holds document keys := by
    rw [holds, renamed.entries_rename, any_map_listed renamed.injective renamed.key_entry, holds]
  rw [EntryKind.erased?, held, ← renamed.erase, EntryKind.erased?]
  split <;> rfl

theorem restore (items : List β) :
    (kind.restore document items).rename names =
      kind.restore (document.rename names) (items.map renamed.entry) := by
  rw [EntryKind.restore, renamed.put_rename, EntryKind.restore, renamed.entries_rename,
    upsertAll_map renamed.injective renamed.key_entry]

end EntryKind.Renamed

namespace Document

variable (document : Document α)

theorem rename_shapeIds :
    (document.rename names).shapeIds = document.shapeIds.map names.shape :=
  names.shapes.ids document

theorem rename_connectorIds :
    (document.rename names).connectorIds = document.connectorIds.map names.connector :=
  names.connectors.ids document

theorem rename_shape? (id : ShapeId) :
    (document.rename names).shape? (names.shape id) =
      (document.shape? id).map (Shape.rename names) :=
  find?_map_key names.shape.injective (Shape.rename_id names) id document.shapes

theorem rename_patchShape? (id : ShapeId) (patch : ShapePatch) :
    (document.patchShape? id patch).map (rename names) =
      (document.rename names).patchShape? (names.shape id) (patch.rename names) := by
  have patched := modifyFirst?_map names.shape.injective (Shape.rename_id (α := α) names)
    (·.patch patch) (·.patch (patch.rename names))
    (fun shape => (shape.rename_patch names patch).symm) id document.shapes
  simp [patchShape?, rename, patched, Function.comp_def]

end Document

/-! ### Containers -/

namespace Container

theorem rename_props (family : Family) (source : String) (members : Members) :
    names.props kind (props family source members) =
      props family source (members.rename names) := by
  have shapes := Json.mapItems_ofList ShapeId.decode_toJson names.shape members.shapes
  have connectors := Json.mapItems_ofList ConnectorId.decode_toJson names.connector
    members.connectors
  simp [Renaming.props, props, Json.mapField_ofFields, Json.changeNamed, Members.rename, shapes,
    connectors]

theorem rename_draft (box : Box α) (family : Family) (source : String) (members : Members) :
    (draft box family source members).rename names =
      draft box family source (members.rename names) := by
  simp [draft, ShapeDraft.rename, rename_props]

theorem rename_members? (shape : Shape α) :
    members? (shape.rename names) = (members? shape).map (Members.rename names) := by
  by_cases container : shape.kind = kind
  · have shapes := Json.decode?_mapItems ShapeId.decode_toJson names.shape
    have connectors := Json.decode?_mapItems ConnectorId.decode_toJson names.connector
    simp only [members?, Shape.rename, Renaming.props, container, if_true]
    rw [Json.field?_mapField_of_ne _ (by decide), Json.field?_mapField_self,
      Json.field?_mapField_self, Json.field?_mapField_of_ne _ (by decide)]
    cases shape.props.field? "shapeIds" with
    | none => rfl
    | some listed =>
      simp only [Option.map_some, Option.bind_eq_bind, Option.bind_some, shapes]
      cases Json.decode? (.list ShapeId.decoder) listed with
      | none => rfl
      | some shape_ids =>
        cases shape.props.field? "connectorIds" with
        | none => rfl
        | some listed =>
          simp only [Option.map_some, Option.bind_some, connectors]
          cases Json.decode? (.list ConnectorId.decoder) listed <;> rfl
  · simp [members?, Shape.rename, container]

end Container

/-! ### What is to be written -/

/-- A shape that is drawn for a node lists no members. -/
theorem PlannedShape.rename_draft (planned : PlannedShape α) :
    planned.draft.rename names = planned.draft := by
  have other : planned.kind.keyword ≠ Container.kind := by
    cases planned.kind <;> decide
  simp [draft, ShapeDraft.rename, Renaming.props, other]

theorem PlannedConnector.rename_draft? (ids : List ShapeId) (planned : PlannedConnector) :
    planned.draft? (ids.map names.shape) =
      (planned.draft? ids).map (ConnectorDraft.rename names) := by
  unfold draft?
  rw [List.getElem?_map, List.getElem?_map]
  cases ids[planned.source]? with
  | none => rfl
  | some source => cases ids[planned.target]? <;> rfl

theorem newest_map {ι κ : Type} (change : ι → κ) (count : Nat) (ids : List ι) :
    newest count (ids.map change) = (newest count ids).map (List.map change) := by
  unfold newest
  rw [List.length_map]
  split
  · rfl
  · simp [Except.map, List.map_drop]

/-! ### Commands -/

def Replaced.rename (replaced : Replaced α) : Replaced α where
  container := replaced.container.rename names
  shapes := replaced.shapes.map (Shape.rename names)
  connectors := replaced.connectors.map (Connector.rename names)

theorem Replaced.rename_ofDocument (container : Shape α) (members : Members)
    (document : Option (Document α)) :
    (ofDocument container members document).rename names =
      ofDocument (container.rename names) (members.rename names)
        (document.map (Document.rename names)) := by
  cases document with
  | none => rfl
  | some document =>
    have shapes := filter_map_listed names.shape.injective (Shape.rename_id names) members.shapes
      document.shapes
    have connectors := filter_map_listed names.connector.injective (Connector.rename_id names)
      members.connectors document.connectors
    exact congrArg₂ (Replaced.mk (container.rename names)) shapes.symm connectors.symm

def CreateCommand.rename (command : CreateCommand α) : CreateCommand α :=
  { command with created := command.created.map (Created.rename names) }

def UpdateCommand.rename (command : UpdateCommand α) : UpdateCommand α :=
  { command with
    preview := names.shape command.preview
    created := command.created.map (Created.rename names)
    replaced := command.replaced.map (Replaced.rename names) }

/-- Where the new content goes is read off the box of the old container. -/
theorem UpdateCommand.rename_content [Scalar α] (command : UpdateCommand α)
    (replaced : Option (Replaced α)) :
    (command.rename names).content (replaced.map (Replaced.rename names)) =
      command.content replaced := by
  cases replaced <;> rfl

def RestoreCommand.rename (command : RestoreCommand α) : RestoreCommand α :=
  { command with
    shapes := command.shapes.map (Shape.rename names)
    connectors := command.connectors.map (Connector.rename names) }

namespace Command

def rename : Command α → Command α
  | create command => create (command.rename names)
  | update command => update (command.rename names)
  | restore command => restore (command.rename names)

theorem rename_created? (command : Command α) :
    (command.rename names).created? = command.created?.map (Created.rename names) := by
  cases command <;> rfl

/-- A description counts entries but does not name them. -/
theorem rename_description (command : Command α) :
    (command.rename names).description = command.description := by
  cases command <;> simp [rename, description, CreateCommand.rename, UpdateCommand.rename,
    RestoreCommand.rename]

end Command

theorem History.map_push (history : History α) (depth : Nat) (command : Command α) :
    (history.push depth command).map (Command.rename names) =
      push (history.map (Command.rename names)) depth (command.rename names) := by
  simp [push, List.map_take]

/-! ### No exchange at all -/

section

open Renaming (identity)

@[simp] theorem Renaming.coe_identity_shape : ⇑identity.shape = id :=
  rfl

@[simp] theorem Renaming.coe_identity_connector : ⇑identity.connector = id :=
  rfl

@[simp] theorem Renaming.identity_props (kind : String) (props : Json) :
    identity.props kind props = props := by
  have shapes : Json.rename ShapeId.decoder ShapeId.toJson id = id := funext Json.rename_id
  have connectors : Json.rename ConnectorId.decoder ConnectorId.toJson id = id :=
    funext Json.rename_id
  have items : Json.mapItems id = id := funext Json.mapItems_id
  simp [Renaming.props, shapes, connectors, items, Json.mapField_id]

@[simp] theorem ShapeDraft.rename_identity :
    ShapeDraft.rename (α := α) identity = fun draft => draft := by
  funext draft
  simp [rename]

@[simp] theorem ShapePatch.rename_identity : ShapePatch.rename identity = fun patch => patch := by
  funext patch
  simp [rename]

@[simp] theorem ConnectorDraft.rename_identity :
    ConnectorDraft.rename identity = fun draft => draft :=
  rfl

@[simp] theorem Shape.rename_identity :
    Shape.rename (α := α) identity = fun shape => shape := by
  funext shape
  simp [rename]

@[simp] theorem Connector.rename_identity :
    Connector.rename identity = fun connector => connector :=
  rfl

@[simp] theorem Created.rename_identity : Created.rename identity = fun created => created := by
  funext created
  simp [rename]

@[simp] theorem Document.rename_identity :
    Document.rename (α := α) identity = fun document => document := by
  funext document
  simp [rename]

@[simp] theorem Command.rename_identity :
    Command.rename (α := α) identity = fun command => command := by
  have replaced : Replaced.rename (α := α) identity = fun replaced => replaced := by
    funext replaced
    simp [Replaced.rename]
  funext command
  cases command <;> simp [rename, CreateCommand.rename, UpdateCommand.rename,
    RestoreCommand.rename, replaced]

end

end TextDiagram
