import TextDiagram.Proofs.Command.Integrity
import TextDiagram.Proofs.Session.Undoing

/-!
# Referential integrity in sessions

Main statement: in a session that has only imported and undone, on whatever documents and whatever
the imports replace, every document is integral after every action.
-/
namespace TextDiagram

variable {α : Type}

open Memory Container

/-! ### Integrity -/

/-- Every reference in the document leads to where it should. -/
structure Document.Integral (document : Document α) : Prop where
  /-- The lists of a container can be read. -/
  readable : ∀ container ∈ document.shapes, container.kind = Container.kind →
    ∃ members, members? container = some members
  shapes_present : ∀ container ∈ document.shapes, ∀ id ∈ listedShapes container,
    id ∈ document.shapeIds
  connectors_present : ∀ container ∈ document.shapes, ∀ id ∈ listedConnectors container,
    id ∈ document.connectorIds
  /-- Other shapes and connectors are listed by one container each. -/
  shape_listed : ∀ shape ∈ document.shapes, shape.kind ≠ Container.kind →
    ∃! container, container ∈ document.shapes ∧ shape.id ∈ listedShapes container
  connector_listed : ∀ connector ∈ document.connectors,
    ∃! container, container ∈ document.shapes ∧ connector.id ∈ listedConnectors container
  shapes_once : (document.shapes.flatMap listedShapes).Nodup
  connectors_once : (document.shapes.flatMap listedConnectors).Nodup
  /-- A connector joins shapes of the list that it is on. -/
  ends : ∀ connector ∈ document.connectors, ∀ container ∈ document.shapes,
    connector.id ∈ listedConnectors container →
      connector.source ∈ listedShapes container ∧ connector.target ∈ listedShapes container
  /-- A parent is on the list of the shape, and a group. -/
  parent_listed : ∀ shape ∈ document.shapes, ∀ parent, shape.parent = some parent →
    ∃ container ∈ document.shapes,
      shape.id ∈ listedShapes container ∧ parent ∈ listedShapes container
  parent_group : ∀ shape ∈ document.shapes, ∀ parent, shape.parent = some parent →
    ∃ holder ∈ document.shapes, holder.id = parent ∧ holder.kind = "group"

theorem Document.Linked.integral {document : Document α} (linked : document.Linked) :
    document.Integral := by
  have shapes_once := linked.shapes.nodup_iff.mpr linked.nodeIds_nodup
  have connectors_once := linked.connectors.nodup_iff.mpr linked.distinct.connectors
  constructor
  case readable =>
    intro container held is_container
    exact Option.isSome_iff_exists.mp (linked.readable container held is_container)
  case shapes_present =>
    intro container held id listed
    have node := linked.shapes.subset (List.mem_flatMap.mpr ⟨container, held, listed⟩)
    exact (List.filter_sublist.map Shape.id).subset node
  case connectors_present =>
    intro container held id listed
    exact linked.connectors.subset (List.mem_flatMap.mpr ⟨container, held, listed⟩)
  case shape_listed =>
    intro shape held not_container
    have node : shape.id ∈ document.nodeIds :=
      List.mem_map_of_mem (List.mem_filter.mpr ⟨held, decide_eq_true not_container⟩)
    obtain ⟨container, container_held, listed⟩ :=
      List.mem_flatMap.mp (linked.shapes.symm.subset node)
    refine ⟨container, ⟨container_held, listed⟩, ?_⟩
    rintro other ⟨other_held, other_listed⟩
    exact eq_of_mem_flatMap shapes_once other_held container_held other_listed listed
  case connector_listed =>
    intro connector held
    obtain ⟨container, container_held, listed⟩ :=
      List.mem_flatMap.mp (linked.connectors.symm.subset (List.mem_map_of_mem held))
    refine ⟨container, ⟨container_held, listed⟩, ?_⟩
    rintro other ⟨other_held, other_listed⟩
    exact eq_of_mem_flatMap connectors_once other_held container_held other_listed listed
  case shapes_once => exact shapes_once
  case connectors_once => exact connectors_once
  case ends =>
    intro connector joined container held
    exact linked.ends container held connector joined
  case parent_listed =>
    intro shape held parent inside
    obtain ⟨container, container_held, lists_shape, lists_parent, -⟩ :=
      linked.parents shape held parent inside
    exact ⟨container, container_held, lists_shape, lists_parent⟩
  case parent_group =>
    intro shape held parent inside
    obtain ⟨-, -, -, -, holder, holder_held, is_parent, group⟩ :=
      linked.parents shape held parent inside
    exact ⟨holder, holder_held, is_parent, group⟩

/-! ### Sessions -/

namespace Session

variable [Scalar α]

def performAll (store : DocumentStore α (Memory α)) (session : Session α (Memory α)) :
    List (Action α) → Session α (Memory α)
  | [] => session
  | action :: rest => performAll store (session.perform store action).2 rest

theorem run_session (store : DocumentStore α (Memory α)) (id : DocumentId) (watch : Watch α)
    (actions : List (Action α)) :
    (watch.run store id actions).session = watch.session.performAll store actions := by
  induction actions generalizing watch with
  | nil => rfl
  | cons action rest ih => exact ih _

/-- Sessions that start without documents and only import and undo keep all documents integral; a
document that does not exist counts as empty. -/
theorem performAll_integral (supply : Supply) (batches : Bool) (layout : Config α) (depth : Nat)
    (actions : List (Action α)) (no_restores : ∀ action ∈ actions, action.restores = false)
    (allowed : (Session.start layout depth .empty).AllowsAll supply batches actions)
    (id : DocumentId) :
    (((Session.start layout depth .empty).performAll (Memory.store supply batches)
      actions).store.documentOrEmpty id).Integral := by
  -- Being linked is kept by imports in any order of the document, so it is kept along with the way
  -- back: undos then lead to documents that were linked before.
  have started : Watch.Tracks id Document.Linked ⟨.start layout depth .empty, []⟩ :=
    .start (Document.linked_empty id)
  have tracks := started.run (fun _ linked => linked.distinct)
    (fun _ _ linked same => linked.congr same) actions
    (fun action member _ _ _ kind changes linked =>
      linked.changes (kind.trans (no_restores action member)) changes) allowed
  have linked := tracks.now
  rw [run_session] at linked
  exact linked.integral

/-- A flow chart is imported, replaced and refused, and the replacement is undone. -/
theorem performAll_integral_of_undo :
    (((Session.start .default 8 .empty).performAll (Memory.store .numbered true)
      [.importText ⟨.numbered 2 0⟩ ⟨"flow", "bpmn\nstart --> a", none, none, none⟩,
        .importText ⟨.numbered 2 0⟩
          ⟨"flow", "bpmn\na --> b; b --> c", none, none, some (Supply.numbered.shape 2)⟩,
        .importText ⟨.numbered 2 1⟩ ⟨"flow", "a --> b", none, none, none⟩,
        .undo ⟨.numbered 2 0⟩]).store.documentOrEmpty ⟨.numbered 2 0⟩ : Document Rat).Integral :=
  performAll_integral .numbered true .default 8
    [.importText _ ⟨_, _, _, _, _⟩, .importText _ ⟨_, _, _, _, _⟩, .importText _ ⟨_, _, _, _, _⟩,
      .undo _] (by simp [Action.restores])
    ⟨⟨by decide +kernel, nofun⟩, ⟨by decide +kernel, nofun⟩, ⟨by decide +kernel, nofun⟩,
      ⟨by decide +kernel, nofun⟩, trivial⟩ _

end Session

end TextDiagram
