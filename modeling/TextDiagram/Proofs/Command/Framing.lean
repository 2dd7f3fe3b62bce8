import Mathlib.Tactic.Ring
import TextDiagram.Proofs.Command.Container
import TextDiagram.Proofs.Command.Reversal
import TextDiagram.Proofs.Plan.Moving

/-!
# The frame of an import

Main statement: over exact numbers the container of an import stands with its corner at the origin
and keeps its padding from the bounding box of the created shapes; and when the import is updated,
and the update updated again, whatever the texts and settings are, the corner stays where it is. The
content has been moved so that the padding has room before it, and an update takes its origin from
the container that it finds.
-/
namespace TextDiagram

open Memory

/-! ### Boxes around boxes -/

namespace Box

variable {frame : Box Rat} {boxes : List (Box Rat)} {padding : Rat}

/-- The frame keeps a distance from the bounding box of the boxes on all four sides. -/
def Surrounds (padding : Rat) (frame : Box Rat) (boxes : List (Box Rat)) : Prop :=
  ∃ bounds, Bounds bounds boxes ∧ frame.x = bounds.x - padding ∧ frame.y = bounds.y - padding ∧
    frame.right = bounds.right + padding ∧ frame.bottom = bounds.bottom + padding

theorem Bounds.surrounds {bounds : Box Rat} (is_bounds : Bounds bounds boxes) (padding : Rat) :
    Surrounds padding (bounds.inflate padding) boxes := by
  refine ⟨bounds, is_bounds, rfl, rfl, ?_, ?_⟩
  · show bounds.x - padding + (bounds.width + 2 * padding) = bounds.x + bounds.width + padding
    ring
  · show bounds.y - padding + (bounds.height + 2 * padding) = bounds.y + bounds.height + padding
    ring

theorem Surrounds.encloses (surrounds : Surrounds padding frame boxes) (nonneg : 0 ≤ padding)
    {box : Box Rat} (member : box ∈ boxes) : frame.Encloses box := by
  obtain ⟨bounds, is_bounds, left, top, right, bottom⟩ := surrounds
  refine Encloses.trans ?_ (is_bounds.encloses member)
  constructor
  · exact left ▸ sub_le_self _ nonneg
  · exact top ▸ sub_le_self _ nonneg
  · exact right ▸ le_add_of_nonneg_right nonneg
  · exact bottom ▸ le_add_of_nonneg_right nonneg

end Box

/-! ### The frame of a plan -/

namespace Import

variable (content : Import Rat) {plan : Plan Rat}

/-- Where an import draws its content, the bounding box starts behind the padding. -/
theorem place_bounds {bounds : Box Rat} (found : plan.bounds? = some bounds) :
    (content.place plan).bounds? =
      some ⟨content.origin.x + content.config.containerPadding,
        content.origin.y + content.config.containerPadding, bounds.width, bounds.height⟩ :=
  Plan.bounds?_moveTo found _ _

theorem place_bounds_of_empty (empty : plan.shapes = []) :
    (content.place plan).bounds? = none := by
  simp [place, Plan.moveTo, Plan.bounds?, empty, Box.union?]

/-- The padding that the content has been moved by is taken back by the frame. -/
theorem frame_corner (plan : Plan Rat) :
    (content.frame plan).x = content.origin.x ∧ (content.frame plan).y = content.origin.y := by
  have back (place : Rat) := add_sub_cancel_right place content.config.containerPadding
  cases found : plan.bounds? with
  | some bounds =>
    rw [frame, content.place_bounds found]
    exact ⟨back _, back _⟩
  | none =>
    -- Only a plan without shapes has no bounding box.
    have empty : plan.shapes = [] := by
      by_contra some_shape
      obtain ⟨bounds, joined⟩ := Plan.exists_bounds some_shape
      cases found.symm.trans joined
    rw [frame, content.place_bounds_of_empty empty]
    exact ⟨back _, back _⟩

theorem frame_surrounds (some_shape : plan.shapes ≠ []) :
    Box.Surrounds content.config.containerPadding (content.frame plan)
      ((content.place plan).shapes.map PlannedShape.box) := by
  obtain ⟨bounds, found⟩ := Plan.exists_bounds some_shape
  have placed := content.place_bounds found
  rw [frame, placed]
  exact (Box.union?_eq_some_iff.mp placed).surrounds _

theorem frame_square (empty : plan.shapes = []) :
    (content.frame plan).width = 2 * content.config.containerPadding ∧
      (content.frame plan).height = 2 * content.config.containerPadding := by
  rw [frame, content.place_bounds_of_empty empty]
  exact ⟨zero_add _, zero_add _⟩

end Import

/-! ### What has been added is found -/

namespace Addition

variable {α : Type} {addition : Addition α} {document : Document α}

theorem shape?_addTo (new : addition.New document) {shape : Shape α}
    (member : shape ∈ addition.shapes ++ [addition.container]) :
    (addition.addTo document).shape? shape.id = some shape := by
  have ids : (addition.shapes ++ [addition.container]).map Shape.id = addition.shapeIds := by
    simp [shapeIds]
  have added : shape.id ∈ addition.shapeIds := ids ▸ List.mem_map_of_mem member
  have absent : document.shapes.find? (·.id = shape.id) = none := by
    refine List.find?_eq_none.mpr fun other held => ?_
    have apart := new.shapes shape.id added
    have held_id : other.id ∈ document.shapeIds := List.mem_map_of_mem held
    intro same
    rw [of_decide_eq_true same] at held_id
    exact apart held_id
  rw [Document.shape?, addTo, List.find?_append, absent, Option.none_or]
  exact find?_key_of_mem Shape.id (ids ▸ new.shapes_distinct) member

end Addition

/-! ### Framed imports -/

/-- What an import has created as it stands in a document: the container is found and lists what has
been created, and the shapes are found. The container has its corner at the origin and surrounds
the shapes; around no shapes it is a square of twice the padding. -/
structure Framed (document : Document Rat) (created : Created) (origin : Origin Rat)
    (padding : Rat) (container : Shape Rat) (shapes : List (Shape Rat)) : Prop where
  container_found : created.container.bind document.shape? = some container
  lists : Container.members? container = some ⟨created.shapes, created.connectors⟩
  shapes_found : created.shapes.map document.shape? = shapes.map some
  left : container.box.x = origin.x
  top : container.box.y = origin.y
  surrounds : shapes ≠ [] → Box.Surrounds padding container.box (shapes.map Shape.box)
  square : shapes = [] → container.box.width = 2 * padding ∧ container.box.height = 2 * padding

namespace Framed

variable {document : Document Rat} {created : Created} {origin : Origin Rat} {padding : Rat}
  {container : Shape Rat} {shapes : List (Shape Rat)}

/-- No created shape stands out of the container. -/
theorem encloses (framed : Framed document created origin padding container shapes)
    (nonneg : 0 ≤ padding) {shape : Shape Rat} (member : shape ∈ shapes) :
    container.box.Encloses shape.box :=
  (framed.surrounds (List.ne_nil_of_mem member)).encloses nonneg (List.mem_map_of_mem member)

/-- An update of the container finds the origin. -/
theorem replaced_origin (framed : Framed document created origin padding container shapes)
    {preview : ShapeId} (names : created.container = some preview) :
    (document.replaced? preview).map Replaced.origin = some origin := by
  have found := framed.container_found
  rw [names, Option.bind_some] at found
  rw [Document.replaced?, Document.container?, found, Option.bind_some, framed.lists]
  exact congrArg₂ (fun x y => some (Origin.mk x y)) framed.left framed.top

/-- The created shapes have the boxes that the plan has at its place. -/
theorem addition_boxes (content : Import Rat) {plan : Plan Rat} {shapeIds : List ShapeId}
    (connectorIds : List ConnectorId) (containerId : ShapeId)
    (length : shapeIds.length = plan.shapes.length) :
    (content.addition plan shapeIds connectorIds containerId).shapes.map Shape.box =
      (content.place plan).shapes.map PlannedShape.box := by
  have enough : (content.place plan).shapes.length ≤ shapeIds.length :=
    ((content.place_length plan).trans length.symm).le
  have planned := congrArg (List.map PlannedShape.box) (List.map_fst_zip enough)
  rw [List.map_map, List.zip, List.map_zipWith] at planned
  rw [← planned, Import.addition, List.map_zipWith]
  rfl

/-- An import that has been written under new ids is framed. -/
theorem of_addition (content : Import Rat) {plan : Plan Rat} {shapeIds : List ShapeId}
    {connectorIds : List ConnectorId} {containerId : ShapeId} (indexed : plan.Indexed)
    (length : shapeIds.length = plan.shapes.length)
    (connectors : connectorIds.length = plan.connectors.length)
    (new : (content.addition plan shapeIds connectorIds containerId).New document) :
    let addition := content.addition plan shapeIds connectorIds containerId
    Framed (addition.addTo document) addition.created content.origin
      content.config.containerPadding addition.container addition.shapes := by
  intro addition
  have boxes : addition.shapes.map Shape.box = (content.place plan).shapes.map PlannedShape.box :=
    addition_boxes content connectorIds containerId length
  have same_length : addition.shapes.length = plan.shapes.length := by
    rw [← content.place_length plan, ← List.length_map Shape.box, boxes, List.length_map]
  constructor
  case container_found =>
    exact Addition.shape?_addTo new (List.mem_append_right _ (List.mem_singleton_self _))
  case lists =>
    rw [content.addition_created containerId indexed length connectors]
    exact Container.members?_draft _ _ _ _ containerId
  case shapes_found =>
    rw [Addition.created, List.map_map, List.map_inj_left]
    intro shape member
    exact Addition.shape?_addTo new (List.mem_append_left _ member)
  case left => exact (content.frame_corner plan).1
  case top => exact (content.frame_corner plan).2
  case surrounds =>
    intro some_shape
    rw [boxes]
    apply content.frame_surrounds
    rwa [← List.length_pos_iff, ← same_length, List.length_pos_iff]
  case square =>
    intro no_shape
    apply content.frame_square
    rw [← List.length_eq_zero_iff, ← same_length, no_shape, List.length_nil]

end Framed

/-! ### Drawing in a store -/

/-- What a run that draws an import does: it draws ids, the document gains no others, and where they
are fresh, the import is framed at the origin. -/
structure Draws (supply : Supply) (id : DocumentId) (memory after : Memory Rat) (created : Created)
    (origin : Origin Rat) (padding : Rat) : Prop where
  shapesDrawn : memory.shapesDrawn ≤ after.shapesDrawn
  connectorsDrawn : memory.connectorsDrawn ≤ after.connectorsDrawn
  contained : ∃ preview, created.container = some preview
  shapes_gained : supply.Fresh id memory after →
    (after.documentOrEmpty id).shapeIds ⊆
      (memory.documentOrEmpty id).shapeIds ++ supply.shapesBetween memory after
  connectors_gained : supply.Fresh id memory after →
    (after.documentOrEmpty id).connectorIds ⊆
      (memory.documentOrEmpty id).connectorIds ++ supply.connectorsBetween memory after
  framed : supply.Fresh id memory after → ∃ container shapes,
    Framed (after.documentOrEmpty id) created origin padding container shapes

/-- Writing a plan into what has been left of a document draws an import. -/
theorem Draws.of_written {supply : Supply} {id : DocumentId} {memory after : Memory Rat}
    {content : Import Rat} {plan : Plan Rat} {document : Document Rat} (indexed : plan.Indexed)
    (became : Becomes id memory after
      (content.written plan (memory.nextAddition supply content plan) document)
      (plan.shapes.length + 1) plan.connectors.length)
    (shapes_held : document.shapeIds ⊆ (memory.documentOrEmpty id).shapeIds)
    (connectors_held : document.connectorIds ⊆ (memory.documentOrEmpty id).connectorIds) :
    Draws supply id memory after (memory.nextAddition supply content plan).created content.origin
      content.config.containerPadding := by
  have added (fresh : supply.Fresh id memory after) :=
    became.written_eq_addTo indexed fresh shapes_held connectors_held
  constructor
  case shapesDrawn => exact became.shapesDrawn ▸ Nat.le_add_right _ _
  case connectorsDrawn => exact became.connectorsDrawn ▸ Nat.le_add_right _ _
  case contained => exact ⟨_, rfl⟩
  case shapes_gained =>
    intro fresh
    rw [(added fresh).2, Addition.shapeIds_addTo, nextAddition_shapeIds, Supply.shapesBetween,
      became.shapesDrawn, Nat.add_sub_cancel_left]
    exact List.append_subset.mpr
      ⟨List.subset_append_of_subset_left _ shapes_held, List.subset_append_right _ _⟩
  case connectors_gained =>
    intro fresh
    rw [(added fresh).2, Addition.connectorIds_addTo,
      nextAddition_connectorIds supply memory content indexed, Supply.connectorsBetween,
      became.connectorsDrawn, Nat.add_sub_cancel_left]
    exact List.append_subset.mpr
      ⟨List.subset_append_of_subset_left _ connectors_held, List.subset_append_right _ _⟩
  case framed =>
    intro fresh
    obtain ⟨new, same⟩ := added fresh
    rw [same]
    exact ⟨_, _, Framed.of_addition content indexed (idsFrom_length ..) (idsFrom_length ..) new⟩

/-- What is fresh for a run that starts with a drawing is fresh for the drawing and for the rest. -/
theorem Draws.fresh_parts {supply : Supply} {id : DocumentId} {memory between after : Memory Rat}
    {created : Created} {origin : Origin Rat} {padding : Rat}
    (draws : Draws supply id memory between created origin padding)
    (shapes_drawn : between.shapesDrawn ≤ after.shapesDrawn)
    (connectors_drawn : between.connectorsDrawn ≤ after.connectorsDrawn)
    (fresh : supply.Fresh id memory after) :
    supply.Fresh id memory between ∧ supply.Fresh id between after := by
  have first : supply.Fresh id memory between :=
    fresh.part (Nat.le_refl _) shapes_drawn (Nat.le_refl _) connectors_drawn
      (List.Subset.refl _) (List.Subset.refl _)
  exact ⟨first, fresh.behind draws.shapesDrawn shapes_drawn draws.connectorsDrawn connectors_drawn
    (draws.shapes_gained first) (draws.connectors_gained first)⟩

/-! ### Editions -/

/-- A text of a family, and the settings that it is laid out with. -/
structure Edition (α : Type) where
  family : Family
  source : String
  config : Config α

namespace Edition

section

variable {α σ : Type} [Scalar α]

/-- The text is accepted as one of the family. -/
def Valid (edition : Edition α) : Prop :=
  (Plan.ofText edition.family edition.source edition.config).isOk = true

instance (edition : Edition α) : Decidable edition.Valid :=
  inferInstanceAs (Decidable (_ = true))

/-- Imports the edition as new content. Gives what has been created, if that succeeds. -/
def draw (store : DocumentStore α σ) (id : DocumentId) (origin : Origin α) (edition : Edition α) :
    StateM σ (Option Created) := do
  let (_, command) ← (CreateCommand.new
    ⟨id, edition.family, edition.source, origin, edition.config⟩).execute store
  pure command.created

/-- Updates an import by its container. Gives what has been created, if that succeeds. -/
def redraw (store : DocumentStore α σ) (id : DocumentId) (created : Created)
    (edition : Edition α) : StateM σ (Option Created) :=
  match created.container with
  | none => pure none
  | some preview => do
    let (_, command) ← (UpdateCommand.new id preview edition.family edition.source
      edition.config).execute store
    pure command.created

/-- Updates an import by one edition after the other, each by the container that the one before has
created. -/
def redrawAll (store : DocumentStore α σ) (id : DocumentId) (created : Created) :
    List (Edition α) → StateM σ (Option Created)
  | [] => pure (some created)
  | edition :: rest => do
    match ← edition.redraw store id created with
    | none => pure none
    | some next => redrawAll store id next rest

/-- Imports an edition, and updates the import by further ones. -/
def drawAll (store : DocumentStore α σ) (id : DocumentId) (origin : Origin α)
    (first : Edition α) (later : List (Edition α)) : StateM σ (Option Created) := do
  match ← first.draw store id origin with
  | none => pure none
  | some created => redrawAll store id created later

end

variable (supply : Supply) (batches : Bool) (memory : Memory Rat) (id : DocumentId)

theorem draw_does (origin : Origin Rat) {edition : Edition Rat} (valid : edition.Valid) :
    ∃ created after,
      (edition.draw (store supply batches) id origin).run memory = (some created, after) ∧
      Draws supply id memory after created origin edition.config.containerPadding := by
  obtain ⟨plan, planned⟩ := Plan.exists_ofText valid
  obtain ⟨after, executed, became⟩ := CreateCommand.execute_does supply batches memory
    (.new ⟨id, edition.family, edition.source, origin, edition.config⟩) rfl planned
  refine ⟨_, after, run_bind_of_run executed, ?_⟩
  exact .of_written (Plan.ofText_indexed planned) became (List.Subset.refl _) (List.Subset.refl _)

theorem redraw_does {created : Created} {preview : ShapeId}
    (names : created.container = some preview) {edition : Edition Rat} (valid : edition.Valid) :
    ∃ next after,
      (edition.redraw (store supply batches) id created).run memory = (some next, after) ∧
      Draws supply id memory after next
        ((((memory.documentOrEmpty id).replaced? preview).map Replaced.origin).getD .zero)
        edition.config.containerPadding := by
  obtain ⟨plan, planned⟩ := Plan.exists_ofText valid
  obtain ⟨after, executed, became⟩ := UpdateCommand.execute_does supply batches memory
    (.new id preview edition.family edition.source edition.config) rfl planned
  rw [redraw, names]
  refine ⟨_, after, run_bind_of_run executed, ?_⟩
  exact .of_written (Plan.ofText_indexed planned) became
    (Document.without_shapeIds_subset _ _) (Document.without_connectorIds_subset _ _)

/-- However often a framed import is updated, it is framed at the same origin. -/
theorem redrawAll_does {created : Created} {preview : ShapeId}
    (names : created.container = some preview) (origin : Origin Rat) (current : Edition Rat)
    (later : List (Edition Rat)) (valid : ∀ edition ∈ later, edition.Valid) :
    let latest := later.getLast?.getD current
    ∃ last after, (redrawAll (store supply batches) id created later).run memory =
        (some last, after) ∧
      memory.shapesDrawn ≤ after.shapesDrawn ∧ memory.connectorsDrawn ≤ after.connectorsDrawn ∧
      (supply.Fresh id memory after →
        (∃ container shapes, Framed (memory.documentOrEmpty id) created origin
          current.config.containerPadding container shapes) →
        ∃ container shapes, Framed (after.documentOrEmpty id) last origin
          latest.config.containerPadding container shapes) := by
  -- Each update starts from the memory and the container that the one before has left.
  induction later generalizing memory created preview current with
  | nil =>
    intro latest
    exact ⟨created, memory, rfl, Nat.le_refl _, Nat.le_refl _, fun _ framed => framed⟩
  | cons edition rest ih =>
    intro latest
    obtain ⟨next, between, redrawn, draws⟩ :=
      edition.redraw_does supply batches memory id names (valid edition List.mem_cons_self)
    obtain ⟨next_preview, next_names⟩ := draws.contained
    obtain ⟨last, after, updated, shapes_drawn, connectors_drawn, keeps⟩ :=
      ih between next_names edition fun other member => valid other (List.mem_cons_of_mem _ member)
    refine ⟨last, after, (run_bind_of_run redrawn).trans updated,
      draws.shapesDrawn.trans shapes_drawn, draws.connectorsDrawn.trans connectors_drawn,
      fun fresh framed => ?_⟩
    obtain ⟨fresh_first, fresh_rest⟩ := draws.fresh_parts shapes_drawn connectors_drawn fresh
    obtain ⟨container, shapes, framed⟩ := framed
    -- The update has its origin from the container that it replaces, which is framed there.
    have kept := draws.framed fresh_first
    rw [framed.replaced_origin names, Option.getD_some] at kept
    have same_latest : latest = rest.getLast?.getD edition := by
      simp [latest, List.getLast?_cons]
    rw [same_latest]
    exact keeps fresh_rest kept

/-! ### Main statement -/

/-- An import, and any number of updates of it, each by the container that the one before has
created: all of them succeed, and the container that the last one has created stands with its corner
at the origin of the import. It keeps the padding of the last one from the bounding box of its
shapes, or is a square around nothing; where the padding is not negative, its shapes lie in it.
Without any update this is said of the import itself. -/
theorem drawAll_framed (origin : Origin Rat) (first : Edition Rat) (later : List (Edition Rat))
    (valid : ∀ edition ∈ first :: later, edition.Valid)
    (fresh : supply.Fresh id memory
      ((drawAll (store supply batches) id origin first later).run memory).2) :
    let ended := (drawAll (store supply batches) id origin first later).run memory
    let padding := (later.getLast?.getD first).config.containerPadding
    ∃ last container shapes, ended.1 = some last ∧
      Framed (ended.2.documentOrEmpty id) last origin padding container shapes ∧
      (0 ≤ padding → ∀ shape ∈ shapes, container.box.Encloses shape.box) := by
  intro ended padding
  obtain ⟨created, between, drawn, draws⟩ :=
    draw_does supply batches memory id origin (valid first List.mem_cons_self)
  obtain ⟨preview, names⟩ := draws.contained
  obtain ⟨last, after, updated, shapes_drawn, connectors_drawn, keeps⟩ :=
    redrawAll_does supply batches between id names origin first later fun edition member =>
      valid edition (List.mem_cons_of_mem _ member)
  have ended_with : ended = (some last, after) := (run_bind_of_run drawn).trans updated
  have fresh_after : supply.Fresh id memory after := by
    rw [show after = ended.2 by rw [ended_with]]
    exact fresh
  -- The import frames itself, and every update keeps that.
  obtain ⟨fresh_first, fresh_rest⟩ := draws.fresh_parts shapes_drawn connectors_drawn fresh_after
  obtain ⟨container, shapes, framed⟩ := keeps fresh_rest (draws.framed fresh_first)
  rw [ended_with]
  exact ⟨last, container, shapes, rfl, framed, fun nonneg shape member =>
    framed.encloses nonneg member⟩

/-- A flow chart is imported beside a note. The import becomes an architecture with another padding,
and then a flow chart without nodes. -/
theorem drawAll_framed_to_nothing :
    let supply := Supply.numbered
    let id : DocumentId := ⟨.numbered 2 0⟩
    let memory : Memory Rat :=
      (((store supply true).addShape id ⟨"note", ⟨0, 0, 80, 80⟩, none, .null⟩).run.run .empty).2
    let origin : Origin Rat := ⟨10, -20⟩
    let flow : Edition Rat := ⟨.flow, "bpmn\nstart --> a", .default⟩
    let services : Edition Rat :=
      ⟨.architecture, "architecture-beta\ngroup g(cloud)[G]\nservice a(server)[A] in g",
        { Config.default with containerPadding := 7 }⟩
    let nothing : Edition Rat := ⟨.flow, "bpmn", .default⟩
    let ended := (drawAll (store supply true) id origin flow [services, nothing]).run memory
    (∀ edition ∈ [flow, services, nothing], edition.Valid) ∧
      ∃ last container shapes, ended.1 = some last ∧
        Framed (ended.2.documentOrEmpty id) last origin 40 container shapes ∧
        (0 ≤ (40 : Rat) → ∀ shape ∈ shapes, container.box.Encloses shape.box) :=
  ⟨by decide +kernel,
    drawAll_framed .numbered true _ ⟨.numbered 2 0⟩ ⟨10, -20⟩ _ [_, _] (by decide +kernel)
      (by decide +kernel)⟩

end Edition

end TextDiagram
