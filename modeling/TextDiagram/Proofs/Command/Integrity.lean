import Mathlib.Data.List.Pairwise
import TextDiagram.Proofs.Command.Change
import TextDiagram.Proofs.Command.Container

/-!
# Referential integrity of documents

Nothing in a store cascades: deleting a shape leaves the lists, parents and connectors that name it.
What holds a document together is that its shapes and connectors come and go with the container
that lists them. Main statement: the containers of a document list its other shapes and its
connectors once each, and links stay within the list of one container; adding an import keeps this,
taking an import out keeps it, and it does not depend on the order of the document.
-/
namespace TextDiagram

variable {α : Type}

/-! ### Lists of containers -/

namespace Container

/-- The shapes that a container lists; other shapes list none. -/
def listedShapes (shape : Shape α) : List ShapeId :=
  ((members? shape).map Members.shapes).getD []

/-- The connectors that a container lists; other shapes list none. -/
def listedConnectors (shape : Shape α) : List ConnectorId :=
  ((members? shape).map Members.connectors).getD []

variable {shape : Shape α} {members : Members}

theorem members?_of_kind_ne (other : shape.kind ≠ kind) : members? shape = none := by
  simp [members?, other]

theorem kind_of_members (read : members? shape = some members) : shape.kind = kind := by
  by_contra other
  rw [members?_of_kind_ne other] at read
  cases read

theorem listedShapes_of_kind_ne (other : shape.kind ≠ kind) : listedShapes shape = [] := by
  simp [listedShapes, members?_of_kind_ne other]

theorem listedConnectors_of_kind_ne (other : shape.kind ≠ kind) : listedConnectors shape = [] := by
  simp [listedConnectors, members?_of_kind_ne other]

theorem listedShapes_of_members (read : members? shape = some members) :
    listedShapes shape = members.shapes := by
  simp [listedShapes, read]

theorem kind_of_listed {id : ShapeId} (listed : id ∈ listedShapes shape) : shape.kind = kind := by
  by_contra other
  rw [listedShapes_of_kind_ne other] at listed
  cases listed

theorem listedConnectors_of_members (read : members? shape = some members) :
    listedConnectors shape = members.connectors := by
  simp [listedConnectors, read]

end Container

open Container

/-- What is listed by some item is listed by one item only, if nothing is listed twice. -/
theorem eq_of_mem_flatMap {β γ : Type} {list : β → List γ} {items : List β}
    (distinct : (items.flatMap list).Nodup) {first second : β} {listed : γ}
    (first_held : first ∈ items) (second_held : second ∈ items) (by_first : listed ∈ list first)
    (by_second : listed ∈ list second) : first = second := by
  obtain ⟨-, apart⟩ := List.nodup_flatMap.mp distinct
  have : Std.Symm (Function.onFun List.Disjoint list) :=
    ⟨fun _ _ disjoint _ in_second in_first => disjoint in_first in_second⟩
  by_contra other
  exact apart.forall first_held second_held other by_first by_second

theorem flatMap_filter {β γ : Type} (list : β → List γ) (keep : β → Bool) {items : List β}
    (empty : ∀ item ∈ items, keep item = false → list item = []) :
    (items.filter keep).flatMap list = items.flatMap list := by
  induction items with
  | nil => rfl
  | cons first rest ih =>
    have rest_same := ih fun item member => empty item (List.mem_cons_of_mem _ member)
    cases kept : keep first with
    | true => simp [kept, rest_same]
    -- Nothing is lost by leaving the first item out, since it lists nothing.
    | false => simp [kept, rest_same, empty first List.mem_cons_self kept]

/-- What stands behind some items is all the rest. -/
theorem perm_filter_of_append {ι : Type} [DecidableEq ι] {front back all : List ι}
    (distinct : all.Nodup) (split : (front ++ back).Perm all) :
    back.Perm (all.filter (· ∉ front)) := by
  have apart := (List.nodup_append'.mp (split.nodup_iff.mpr distinct)).2.2
  have rest := split.filter (· ∉ front)
  -- All of the front is left out, and nothing behind it, since no item comes twice.
  rw [List.filter_append, List.filter_eq_nil_iff.mpr (by simp), List.nil_append,
    List.filter_eq_self.mpr] at rest
  · exact rest
  · intro item behind
    simpa using fun in_front => apart in_front behind

/-! ### The invariant -/

namespace Document

/-- The ids of the shapes that are not containers. -/
def nodeIds (document : Document α) : List ShapeId :=
  (document.shapes.filter (·.kind ≠ Container.kind)).map Shape.id

/-- The containers of the document list its other shapes and its connectors once each. Connectors
and parents stay within the list of one container, and parents are groups. -/
structure Linked (document : Document α) : Prop where
  distinct : document.Distinct
  readable : ∀ shape ∈ document.shapes, shape.kind = Container.kind →
    (members? shape).isSome = true
  shapes : (document.shapes.flatMap listedShapes).Perm document.nodeIds
  connectors : (document.shapes.flatMap listedConnectors).Perm document.connectorIds
  ends : ∀ container ∈ document.shapes, ∀ connector ∈ document.connectors,
    connector.id ∈ listedConnectors container →
      connector.source ∈ listedShapes container ∧ connector.target ∈ listedShapes container
  parents : ∀ shape ∈ document.shapes, ∀ parent, shape.parent = some parent →
    ∃ container ∈ document.shapes, shape.id ∈ listedShapes container ∧
      parent ∈ listedShapes container ∧
      ∃ holder ∈ document.shapes, holder.id = parent ∧ holder.kind = NodeKind.group.keyword

theorem linked_empty (id : DocumentId) : (empty id : Document α).Linked where
  distinct := distinct_empty id
  readable _ held := absurd held List.not_mem_nil
  shapes := .nil
  connectors := .nil
  ends _ held := absurd held List.not_mem_nil
  parents _ held := absurd held List.not_mem_nil

namespace Linked

variable {document other : Document α} {container holder shape : Shape α} {id : ShapeId}

theorem nodeIds_nodup (linked : document.Linked) : document.nodeIds.Nodup :=
  nodup_map_filter Shape.id _ linked.distinct.shapes

/-- A shape that is listed is not a container. -/
theorem kind_ne (linked : document.Linked) (held : container ∈ document.shapes)
    (listed : shape.id ∈ listedShapes container) (shape_held : shape ∈ document.shapes) :
    shape.kind ≠ Container.kind := by
  have node := linked.shapes.subset (List.mem_flatMap.mpr ⟨container, held, listed⟩)
  obtain ⟨other, other_held, same⟩ := List.mem_map.mp node
  obtain ⟨other_held, not_container⟩ := List.mem_filter.mp other_held
  have is_other := eq_of_key_eq Shape.id linked.distinct.shapes other_held shape_held same
  exact is_other ▸ of_decide_eq_true not_container

theorem listed_once (linked : document.Linked) (held : container ∈ document.shapes)
    (other_held : holder ∈ document.shapes) (listed : id ∈ listedShapes container)
    (other_listed : id ∈ listedShapes holder) : container = holder :=
  eq_of_mem_flatMap (linked.shapes.nodup_iff.mpr linked.nodeIds_nodup) held other_held listed
    other_listed

theorem congr (linked : document.Linked) (same : document.SameRecords other) : other.Linked where
  distinct := same.distinct linked.distinct
  readable shape held := linked.readable shape (same.shapes.mem_iff.mpr held)
  shapes := ((same.shapes.flatMap_right _).symm.trans linked.shapes).trans
    ((same.shapes.filter _).map _)
  connectors := ((same.shapes.flatMap_right _).symm.trans linked.connectors).trans
    same.connectorIds
  ends container held connector joined := linked.ends container (same.shapes.mem_iff.mpr held)
    connector (same.connectors.mem_iff.mpr joined)
  parents shape held parent inside := by
    obtain ⟨container, container_held, lists_shape, lists_parent, holder, holder_held, group⟩ :=
      linked.parents shape (same.shapes.mem_iff.mpr held) parent inside
    exact ⟨container, same.shapes.mem_iff.mp container_held, lists_shape, lists_parent, holder,
      same.shapes.mem_iff.mp holder_held, group⟩

/-! ### Taking an import out -/

section Without

variable {members : Members}

/-- What the container lists comes off the lists of the document, and nothing else. -/
theorem flatMap_without (linked : document.Linked) (held : container ∈ document.shapes)
    (read : members? container = some members) {ι : Type} (list : Shape α → List ι)
    (empty : ∀ shape : Shape α, shape.kind ≠ Container.kind → list shape = []) :
    (document.shapes.flatMap list).Perm (list container ++
      (document.shapes.filter (·.id ∉ container.id :: members.shapes)).flatMap list) := by
  have apart := perm_cons_filter Shape.id linked.distinct.shapes held
  let others := document.shapes.filter (·.id ≠ container.id)
  have rest : document.shapes.filter (·.id ∉ container.id :: members.shapes) =
      others.filter (·.id ∉ members.shapes) := by
    rw [List.filter_filter]
    refine List.filter_congr fun shape _ => ?_
    simp [Bool.and_comm]
  -- What goes with the container besides itself is no container and lists nothing.
  have listed_empty : ∀ shape ∈ others, decide (shape.id ∉ members.shapes) = false →
      list shape = [] := by
    intro shape kept listed
    have is_listed : shape.id ∈ listedShapes container := by
      simpa [listedShapes_of_members read] using listed
    exact empty shape (linked.kind_ne held is_listed (List.mem_filter.mp kept).1)
  rw [rest, flatMap_filter list _ listed_empty]
  exact apart.flatMap_right list

/-- The nodes that are left are those that the container does not list. -/
theorem nodeIds_besides (linked : document.Linked) (held : container ∈ document.shapes)
    (read : members? container = some members) :
    (document.besides ⟨container.id :: members.shapes, members.connectors⟩).nodeIds =
      document.nodeIds.filter (· ∉ members.shapes) := by
  have container_kind := kind_of_members read
  simp only [nodeIds, besides, eraseShapes, eraseConnectors, List.filter_map, List.filter_filter]
  congr 1
  refine List.filter_congr fun shape shape_held => ?_
  by_cases is_container : shape.id = container.id
  -- The container is no node, so that no node is lost with it.
  · have same := eq_of_key_eq Shape.id linked.distinct.shapes shape_held held is_container
    simp [same, container_kind]
  · simp [is_container, Bool.and_comm]

/-- A shape that is left has its parent left, and the container that lists both. -/
theorem parents_besides (linked : document.Linked) (held : container ∈ document.shapes)
    (read : members? container = some members) {parent : ShapeId}
    (shape_held : shape ∈ document.shapes) (not_listed : shape.id ∉ members.shapes)
    (inside : shape.parent = some parent) :
    ∃ other ∈ (document.besides ⟨container.id :: members.shapes, members.connectors⟩).shapes,
      shape.id ∈ listedShapes other ∧ parent ∈ listedShapes other ∧
      ∃ holder ∈ (document.besides ⟨container.id :: members.shapes, members.connectors⟩).shapes,
        holder.id = parent ∧ holder.kind = NodeKind.group.keyword := by
  have kept {shape : Shape α} (shape_held : shape ∈ document.shapes)
      (not_container : shape ≠ container) (not_listed : shape.id ∉ listedShapes container) :
      shape ∈ (document.besides ⟨container.id :: members.shapes, members.connectors⟩).shapes := by
    have other_id : shape.id ≠ container.id := fun same =>
      not_container (eq_of_key_eq Shape.id linked.distinct.shapes shape_held held same)
    rw [listedShapes_of_members read] at not_listed
    simpa [besides, eraseShapes, eraseConnectors, shape_held] using ⟨other_id, not_listed⟩
  obtain ⟨other, other_held, lists_shape, lists_parent, holder, holder_held, rfl, group⟩ :=
    linked.parents shape shape_held parent inside
  -- The shape is still there, so it is listed by another container.
  have apart : other ≠ container := by
    rintro rfl
    exact not_listed (listedShapes_of_members read ▸ lists_shape)
  have other_kept := kept other_held apart fun listed =>
    linked.kind_ne held listed other_held (kind_of_listed lists_shape)
  -- The parent is no container, and listed with the shape, so it is still there as well.
  have holder_not_container : holder ≠ container := by
    rintro rfl
    exact linked.kind_ne other_held lists_parent holder_held (kind_of_members read)
  have holder_kept := kept holder_held holder_not_container fun listed =>
    apart (linked.listed_once other_held held lists_parent listed)
  exact ⟨other, other_kept, lists_shape, lists_parent, holder, holder_kept, rfl, group⟩

/-- Without an import that is there: its container is gone, and all that it listed. -/
theorem without (linked : document.Linked) (preview : ShapeId) :
    (document.without preview).Linked := by
  cases present : document.container? preview with
  | none =>
    rw [Document.without_of_none present]
    exact linked
  | some found =>
    obtain ⟨container, members⟩ := found
    obtain ⟨held, -, read⟩ := container?_some present
    have rest_distinct := without_distinct linked.distinct preview
    simp only [Document.without, Document.entries, present] at rest_distinct ⊢
    have was_held {shape : Shape α} (kept : shape ∈
        (document.besides ⟨container.id :: members.shapes, members.connectors⟩).shapes) :
        shape ∈ document.shapes ∧ shape.id ∉ members.shapes := by
      obtain ⟨shape_held, not_listed⟩ := List.mem_filter.mp kept
      exact ⟨shape_held, fun listed => of_decide_eq_true not_listed (List.mem_cons_of_mem _ listed)⟩
    have shapes_left := (linked.flatMap_without held read listedShapes
      fun _ => listedShapes_of_kind_ne).symm.trans linked.shapes
    have connectors_left := (linked.flatMap_without held read listedConnectors
      fun _ => listedConnectors_of_kind_ne).symm.trans linked.connectors
    rw [listedShapes_of_members read] at shapes_left
    rw [listedConnectors_of_members read] at connectors_left
    constructor
    case distinct => exact rest_distinct
    case readable => exact fun shape kept => linked.readable shape (was_held kept).1
    case shapes =>
      rw [linked.nodeIds_besides held read]
      exact perm_filter_of_append linked.nodeIds_nodup shapes_left
    case connectors =>
      -- The lists of the other containers are what the lists of all have besides this one.
      have left := perm_filter_of_append linked.distinct.connectors connectors_left
      rw [connectorIds, List.filter_map] at left
      exact left
    case ends =>
      intro holder kept connector joined listed
      exact linked.ends holder (was_held kept).1 connector (List.mem_filter.mp joined).1 listed
    case parents =>
      intro shape kept parent inside
      exact linked.parents_besides held read (was_held kept).1 (was_held kept).2 inside

end Without

end Linked

end Document

/-! ### Adding an import -/

/-- The container of an addition lists just its shapes and connectors; its connectors and parents
stay among its shapes, and parents are groups. -/
structure Addition.Closed (addition : Addition α) : Prop where
  kinds : ∀ shape ∈ addition.shapes, shape.kind ≠ Container.kind
  container_members : members? addition.container =
    some ⟨addition.shapes.map Shape.id, addition.connectorIds⟩
  container_parent : addition.container.parent = none
  ends : ∀ connector ∈ addition.connectors,
    connector.source ∈ addition.shapes.map Shape.id ∧
      connector.target ∈ addition.shapes.map Shape.id
  parents : ∀ shape ∈ addition.shapes, ∀ parent, shape.parent = some parent →
    ∃ holder ∈ addition.shapes, holder.id = parent ∧ holder.kind = NodeKind.group.keyword

theorem NodeKind.keyword_ne_container (kind : NodeKind) : kind.keyword ≠ Container.kind := by
  cases kind <;> decide

theorem exists_of_mem_zipWith {β γ δ : Type} {combine : β → γ → δ} {items : List β}
    {others : List γ} {combined : δ} (member : combined ∈ items.zipWith combine others) :
    ∃ item ∈ items, ∃ other ∈ others, combined = combine item other := by
  rw [← List.map_uncurry_zip_eq_zipWith] at member
  obtain ⟨⟨item, other⟩, paired, rfl⟩ := List.mem_map.mp member
  exact ⟨item, (List.of_mem_zip paired).1, other, (List.of_mem_zip paired).2, rfl⟩

theorem Addition.Planned.closed [Scalar α] {addition : Addition α} (planned : addition.Planned) :
    addition.Closed := by
  cases planned with
  | @ofImport content plan shapeIds connectorIds containerId indexed shapes connectors =>
  let addition := content.addition plan shapeIds connectorIds containerId
  have ids : addition.shapes.map Shape.id = shapeIds :=
    content.addition_shapes_ids containerId shapes
  have connector_ids : addition.connectorIds = connectorIds :=
    content.addition_connectorIds containerId indexed shapes connectors
  constructor
  case kinds =>
    intro shape member
    obtain ⟨planned, -, id, -, rfl⟩ := exists_of_mem_zipWith member
    exact planned.kind.keyword_ne_container
  case container_members =>
    rw [ids, connector_ids]
    exact members?_draft content.family content.source ⟨shapeIds, connectorIds⟩ _ containerId
  case container_parent => rfl
  case ends =>
    intro connector member
    rw [ids]
    obtain ⟨draft, drafted, id, -, rfl⟩ := exists_of_mem_zipWith member
    obtain ⟨planned, -, resolved⟩ := List.mem_filterMap.mp drafted
    -- Both ends have been looked up among the new ids.
    simp only [PlannedConnector.draft?, Option.bind_eq_bind, Option.bind_eq_some_iff,
      Option.some.injEq] at resolved
    obtain ⟨source, source_at, target, target_at, rfl⟩ := resolved
    exact ⟨List.mem_of_getElem? source_at, List.mem_of_getElem? target_at⟩
  case parents =>
    intro shape member parent inside
    obtain ⟨planned, planned_member, id, -, rfl⟩ := exists_of_mem_zipWith member
    obtain ⟨index, planned_parent, parent_at⟩ := Option.bind_eq_some_iff.mp inside
    obtain ⟨holder, holder_at, group⟩ :=
      (content.place_indexed indexed).parent planned planned_member index planned_parent
    refine ⟨holder.shape shapeIds parent, ?_, rfl, congrArg NodeKind.keyword group⟩
    -- The parent has been given the id that stands at its own index.
    refine List.mem_of_getElem? (i := index) ?_
    simp [Import.addition, List.getElem?_zipWith, holder_at, parent_at]

namespace Document.Linked

variable {document : Document α} {addition : Addition α}

theorem flatMap_addTo (closed : addition.Closed) (document : Document α) {ι : Type}
    (list : Shape α → List ι)
    (empty : ∀ shape : Shape α, shape.kind ≠ Container.kind → list shape = []) :
    (addition.addTo document).shapes.flatMap list =
      document.shapes.flatMap list ++ list addition.container := by
  have nodes_empty : addition.shapes.flatMap list = [] :=
    List.flatMap_eq_nil_iff.mpr fun shape member => empty shape (closed.kinds shape member)
  simp [Addition.addTo, nodes_empty]

theorem nodeIds_addTo (closed : addition.Closed) (document : Document α) :
    (addition.addTo document).nodeIds = document.nodeIds ++ addition.shapes.map Shape.id := by
  have nodes : addition.shapes.filter (·.kind ≠ Container.kind) = addition.shapes :=
    List.filter_eq_self.mpr fun shape member => decide_eq_true (closed.kinds shape member)
  have container_kind := kind_of_members closed.container_members
  simp only [nodeIds, Addition.addTo, List.filter_append, nodes, List.map_append]
  simp [container_kind]

/-- What is new and closed in itself is linked with nothing that was there. -/
theorem addTo (linked : document.Linked) (new : addition.New document)
    (closed : addition.Closed) : (addition.addTo document).Linked := by
  have lists_shapes := listedShapes_of_members closed.container_members
  have lists_connectors := listedConnectors_of_members closed.container_members
  have old_or_new {shape : Shape α} (member : shape ∈ (addition.addTo document).shapes) :
      shape ∈ document.shapes ∨ shape ∈ addition.shapes ∨ shape = addition.container := by
    simpa [Addition.addTo] using member
  constructor
  case distinct => exact Addition.addTo_distinct linked.distinct new
  case readable =>
    intro shape member is_container
    rcases old_or_new member with old | node | rfl
    · exact linked.readable shape old is_container
    · exact absurd is_container (closed.kinds shape node)
    · rw [closed.container_members]
      rfl
  case shapes =>
    rw [flatMap_addTo closed _ _ fun _ => listedShapes_of_kind_ne, nodeIds_addTo closed,
      lists_shapes]
    exact linked.shapes.append_right _
  case connectors =>
    rw [flatMap_addTo closed _ _ fun _ => listedConnectors_of_kind_ne,
      Addition.connectorIds_addTo, lists_connectors]
    exact linked.connectors.append_right _
  case ends =>
    intro container member connector joined listed
    -- Old containers list old connectors and the new one lists new ones; the ids tell them apart.
    have lists_old :
        container ∈ document.shapes → connector.id ∈ document.connectorIds := fun old =>
      linked.connectors.subset (List.mem_flatMap.mpr ⟨container, old, listed⟩)
    rcases List.mem_append.mp joined with old_connector | new_connector
    · rcases old_or_new member with old | node | rfl
      · exact linked.ends container old connector old_connector listed
      · rw [listedConnectors_of_kind_ne (closed.kinds container node)] at listed
        cases listed
      · rw [lists_connectors] at listed
        exact absurd (List.mem_map_of_mem old_connector) (new.connectors _ listed)
    · rcases old_or_new member with old | node | rfl
      · exact absurd (lists_old old) (new.connectors _ (List.mem_map_of_mem new_connector))
      · rw [listedConnectors_of_kind_ne (closed.kinds container node)] at listed
        cases listed
      · rw [lists_shapes]
        exact closed.ends connector new_connector
  case parents =>
    intro shape member parent inside
    rcases old_or_new member with old | node | rfl
    · obtain ⟨container, held, lists_shape, lists_parent, holder, holder_held, group⟩ :=
        linked.parents shape old parent inside
      exact ⟨container, List.mem_append_left _ held, lists_shape, lists_parent, holder,
        List.mem_append_left _ holder_held, group⟩
    -- The parent of a new shape is a new group, and the new container lists both.
    · obtain ⟨holder, holder_new, rfl, group⟩ := closed.parents shape node parent inside
      have new_held {shape : Shape α} (node : shape ∈ addition.shapes) :
          shape ∈ (addition.addTo document).shapes :=
        List.mem_append_right _ (List.mem_append_left _ node)
      refine ⟨addition.container, ?_, ?_, ?_, holder, new_held holder_new, rfl, group⟩
      · exact List.mem_append_right _ (List.mem_append_right _ (List.mem_singleton_self _))
      · exact lists_shapes ▸ List.mem_map_of_mem node
      · exact lists_shapes ▸ List.mem_map_of_mem holder_new
    · rw [closed.container_parent] at inside
      cases inside

/-- Imports keep a document linked, whatever they replace. -/
theorem changes [Scalar α] {command : Command α} {after : Document α} (linked : document.Linked)
    (imports : command.restores = false) (changes : command.Changes document after) :
    after.Linked := by
  cases changes with
  | create _ planned new => exact linked.addTo new planned.closed
  | update _ planned _ new => exact (linked.without _).addTo new planned.closed
  | restore => cases imports

end Document.Linked

end TextDiagram
