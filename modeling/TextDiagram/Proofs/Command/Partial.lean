import TextDiagram.Proofs.Command.Reversal
import TextDiagram.Proofs.Store.Failing

/-!
# Imports that end half-way

What an import leaves behind when one of its calls fails. Main statements: taking an earlier import
out stops at one of four stages, and writing content only ever appends entries, all of them under
ids that have been drawn for it. The links to parents are what could reach further back; they are
set under ids read off the end of an answer, which are new unless the answer is empty.
-/
namespace TextDiagram

variable {α σ : Type}

open Memory Observed
open StoreCall (Ensures)

/-! ### Entries behind a document -/

/-- Between two states of a store, entries have been appended to a document, under the ids that have
been drawn. -/
structure Memory.Grown (supply : Supply) (id : DocumentId) (start : Memory α) (base : Document α)
    (memory : Memory α) : Prop where
  shapes_from : start.shapesDrawn ≤ memory.shapesDrawn
  connectors_from : start.connectorsDrawn ≤ memory.connectorsDrawn
  entries : ∃ shapes connectors,
    memory.documentOrEmpty id = (base.addShapes shapes).addConnectors connectors ∧
      shapes.map Shape.id = supply.shapesBetween start memory ∧
      connectors.map Connector.id = supply.connectorsBetween start memory

section Grown

variable {supply : Supply} {id : DocumentId} {start stop before after : Memory α}
  {base : Document α}

theorem Memory.Grown.refl (same_shapes : before.shapesDrawn = start.shapesDrawn)
    (same_connectors : before.connectorsDrawn = start.connectorsDrawn) :
    Grown supply id start (before.documentOrEmpty id) before where
  shapes_from := Nat.le_of_eq same_shapes.symm
  connectors_from := Nat.le_of_eq same_connectors.symm
  entries := by
    refine ⟨[], [], ?_, ?_, ?_⟩
    · simp [Document.addShapes, Document.addConnectors]
    · simp [Supply.shapesBetween, same_shapes, idsFrom]
    · simp [Supply.connectorsBetween, same_connectors, idsFrom]

/-- Under the ids drawn, entries have been put behind the others. -/
theorem Memory.Grown.append (grown : Grown supply id start base before) {shapes : List (Shape α)}
    {connectors : List Connector} {moreShapes moreConnectors : Nat}
    (became : Becomes id before after
      (((before.documentOrEmpty id).addShapes shapes).addConnectors connectors)
      moreShapes moreConnectors)
    (shape_ids : shapes.map Shape.id = idsFrom supply.shape before.shapesDrawn moreShapes)
    (connector_ids : connectors.map Connector.id =
      idsFrom supply.connector before.connectorsDrawn moreConnectors) :
    Grown supply id start base after := by
  obtain ⟨old_shapes, old_connectors, held, old_shape_ids, old_connector_ids⟩ := grown.entries
  have shapes_from := grown.shapes_from
  have connectors_from := grown.connectors_from
  have shapes_drawn := became.shapesDrawn
  have connectors_drawn := became.connectorsDrawn
  refine ⟨by omega, by omega, old_shapes ++ shapes, old_connectors ++ connectors, ?_, ?_, ?_⟩
  · rw [became.held, held]
    simp [Document.addShapes, Document.addConnectors]
  · rw [List.map_append, old_shape_ids, shape_ids, Supply.shapesBetween,
      idsFrom_grow supply.shape shapes_from, Supply.shapesBetween, shapes_drawn]
  · rw [List.map_append, old_connector_ids, connector_ids, Supply.connectorsBetween,
      idsFrom_grow supply.connector connectors_from, Supply.connectorsBetween, connectors_drawn]

theorem Memory.Grown.addShapes (grown : Grown supply id start base before)
    {drafts : List (ShapeDraft α)}
    (became : Becomes id before after
      ((before.documentOrEmpty id).addShapes
        (drafts.zipWith ShapeDraft.withId (idsFrom supply.shape before.shapesDrawn drafts.length)))
      drafts.length 0) : Grown supply id start base after := by
  have no_connectors (document : Document α) : document.addConnectors [] = document :=
    connectorKind.append_nil document
  rw [← no_connectors (Document.addShapes _ _)] at became
  exact grown.append became (shapeSeries.made_ids supply before drafts) rfl

theorem Memory.Grown.addConnectors (grown : Grown supply id start base before)
    {drafts : List ConnectorDraft}
    (became : Becomes id before after
      ((before.documentOrEmpty id).addConnectors
        (drafts.zipWith ConnectorDraft.withId
          (idsFrom supply.connector before.connectorsDrawn drafts.length)))
      0 drafts.length) : Grown supply id start base after := by
  have no_shapes (document : Document α) : document.addShapes [] = document :=
    shapeKind.append_nil document
  rw [← no_shapes (before.documentOrEmpty id)] at became
  exact grown.append became rfl (connectorSeries.made_ids supply before drafts)

/-- A shape that the document did not have at first is changed among the appended ones. -/
theorem Memory.Grown.patch (grown : Grown supply id start base before) {shape : ShapeId}
    (new : shape ∉ base.shapeIds) (patch : ShapePatch)
    (became : Becomes id before after
      (((before.documentOrEmpty id).patchShape? shape patch).getD (before.documentOrEmpty id))
      0 0) : Grown supply id start base after := by
  obtain ⟨shapes, connectors, held, shape_ids, connector_ids⟩ := grown.entries
  have same_shapes : supply.shapesBetween start after = supply.shapesBetween start before := by
    rw [Supply.shapesBetween, became.shapesDrawn, Nat.add_zero, Supply.shapesBetween]
  have same_connectors :
      supply.connectorsBetween start after = supply.connectorsBetween start before := by
    rw [Supply.connectorsBetween, became.connectorsDrawn, Nat.add_zero, Supply.connectorsBetween]
  have passed_over := modifyFirst?_append Shape.id (·.patch patch) new shapes
  have held_after := became.held
  refine ⟨?_, ?_, ?_⟩
  · rw [became.shapesDrawn]
    exact grown.shapes_from
  · rw [became.connectorsDrawn]
    exact grown.connectors_from
  rw [same_shapes, same_connectors]
  cases modified : modifyFirst? Shape.id shape (·.patch patch) shapes with
  | none =>
    refine ⟨shapes, connectors, ?_, shape_ids, connector_ids⟩
    rw [held_after, held]
    simp [Document.patchShape?, Document.addShapes, Document.addConnectors, passed_over, modified]
  | some changed =>
    refine ⟨changed, connectors, ?_, ?_, connector_ids⟩
    · rw [held_after, held]
      simp [Document.patchShape?, Document.addShapes, Document.addConnectors, passed_over, modified]
    · rw [map_modifyFirst? Shape.id (·.patch patch) (fun _ => rfl) modified, shape_ids]

end Grown

/-! ### Creating entries -/

theorem requireNewest_ensures {ι : Type} {pre failed : σ → Prop} (count : Nat) (ids : List ι)
    (kept : ∀ state, pre state → failed state) :
    Ensures pre (requireNewest count ids)
      (fun newIds state => newest count ids = .ok newIds ∧ pre state) failed := by
  intro before holds
  unfold requireNewest
  cases read : newest count ids with
  | error error => exact kept before holds
  | ok newIds => exact ⟨rfl, holds⟩

/-- What is known in a state may be forgotten. -/
def Weakens (state : Prop → σ → Prop) : Prop :=
  ∀ known less now, state known now → (known → less) → state less now

section Creating

variable {δ ι : Type} {ids : Document α → List ι} {good : ι → Prop} {state : Prop → σ → Prop}
  (weakens : Weakens state)

include weakens

theorem createNothing_ensures (known : Prop) :
    Ensures (state known) (pure []) (fun newIds => state (known ∧ ∀ id ∈ newIds, good id))
      (state known) :=
  .pure fun now holds => weakens _ _ now holds fun known => ⟨known, by simp⟩

/-- What is known of the ids that each call gives is known of all ids, if they are created in one
call. -/
theorem createTogether_ensures {add : List δ → StoreCall σ (Document α)}
    (adds : ∀ drafts known, drafts ≠ [] → Ensures (state known) (add drafts)
      (fun answer => state (known ∧
        ∀ newIds, newest drafts.length (ids answer) = .ok newIds → ∀ id ∈ newIds, good id))
      (state known))
    (drafts : List δ) (known : Prop) :
    Ensures (state known) (createTogether ids add drafts)
      (fun newIds => state (known ∧ ∀ id ∈ newIds, good id)) (state known) := by
  unfold createTogether
  split
  next => exact createNothing_ensures weakens known
  next some_drafts =>
    refine (adds drafts known (by simpa using some_drafts)).bind fun answer => ?_
    refine (requireNewest_ensures _ _ fun now holds => weakens _ _ now holds And.left).imp_done ?_
    rintro newIds now ⟨read, holds⟩
    exact weakens _ _ now holds fun both => ⟨both.1, both.2 newIds read⟩

/-- What is known of the ids that each call gives is known of all ids, if they are created one by
one. -/
theorem createEach_ensures {add : δ → StoreCall σ (Document α)}
    (adds : ∀ draft known, Ensures (state known) (add draft)
      (fun answer => state (known ∧
        ∀ newIds, newest 1 (ids answer) = .ok newIds → ∀ id ∈ newIds, good id))
      (state known))
    (drafts : List δ) (known : Prop) :
    Ensures (state known) (createEach ids add drafts)
      (fun newIds => state (known ∧ ∀ id ∈ newIds, good id)) (state known) := by
  induction drafts generalizing known with
  | nil => exact createNothing_ensures weakens known
  | cons draft rest ih =>
    refine (adds draft known).bind fun answer => ?_
    refine (requireNewest_ensures _ _ fun now holds => weakens _ _ now holds And.left).bind
      fun first => .of_fact fun read => ?_
    -- What is known of the first ids stays known while the others are created.
    have others := (ih (known ∧ ∀ id ∈ first, good id)).imp_failed
      fun now holds => weakens _ known now holds And.left
    refine (others.imp_pre fun now holds => ?_).bind fun newIds => .pure fun now holds => ?_
    · exact weakens _ _ now holds fun both => ⟨both.1, both.2 first read⟩
    · refine weakens _ _ now holds fun all => ?_
      exact ⟨all.1.1, List.forall_mem_append.mpr ⟨all.1.2, all.2⟩⟩

end Creating

/-! ### Writing content -/

/-- Content being written into a document: the document and the store when that began, and the store
when it ended. -/
structure Writing (α : Type) where
  supply : Supply
  document : DocumentId
  base : Document α
  start : Memory α
  stop : Memory α

namespace Writing

/-- The shapes drawn for the content are new to the document. -/
def Fresh (writing : Writing α) : Prop :=
  ∀ shape ∈ writing.supply.shapesBetween writing.start writing.stop,
    shape ∉ writing.base.shapeIds

/-- Entries have been appended and something is known, unless more shapes have been drawn than when
the writing ended. -/
def Reaches (writing : Writing α) (known : Prop) (memory : Memory α) : Prop :=
  memory.shapesDrawn ≤ writing.stop.shapesDrawn →
    Grown writing.supply writing.document writing.start writing.base memory ∧ known

def Holds (writing : Writing α) (known : Prop) : Observed (Memory α) → Prop :=
  Behind (writing.Reaches known)

variable {writing : Writing α}

theorem weakens : Weakens writing.Holds :=
  fun _ _ _ holds weaker => ⟨holds.1, fun within => (holds.2 within).imp_right weaker⟩

/-- The ids read off the answer are new to the document, or else there are none to be read. -/
theorem addShapes_ensures (fresh : writing.Fresh) (call : Call) {drafts : List (ShapeDraft α)}
    (some_drafts : drafts ≠ []) (known : Prop) :
    Ensures (writing.Holds known)
      (creating writing.document call (addShapes writing.supply writing.document drafts))
      (fun answer => writing.Holds (known ∧
        ∀ newIds, newest drafts.length answer.shapeIds = .ok newIds →
          ∀ shape ∈ newIds, shape ∉ writing.base.shapeIds))
      (writing.Holds known) := by
  have acts : ∀ before, writing.Reaches known before →
      ∃ answer after,
        (addShapes writing.supply writing.document drafts).Yields before answer after ∧
        writing.Reaches (known ∧
          ∀ newIds, newest drafts.length answer.shapeIds = .ok newIds →
            ∀ shape ∈ newIds, shape ∉ writing.base.shapeIds) after := by
    intro before reached
    obtain ⟨after, yields, became⟩ := addShapes_does writing.supply before writing.document drafts
    refine ⟨_, after, yields, fun within => ?_⟩
    have drawn := became.shapesDrawn
    obtain ⟨grown, holds⟩ := reached (by omega)
    refine ⟨grown.addShapes became, holds, fun newIds read shape among => ?_⟩
    -- What is read off the end of the answer is what has just been drawn.
    have newest_ids := shapeSeries.newest_made writing.supply before
      (before.documentOrEmpty writing.document) drafts
    obtain rfl := Except.ok.inj (newest_ids.symm.trans read)
    have part := idsFrom_sublist writing.supply.shape grown.shapes_from within
    rw [drawn, Nat.add_sub_cancel_left] at part
    exact fresh shape (part.subset among)
  refine (creating_ensures acts writing.document call).imp_done fun answer now => ?_
  rintro ⟨heeded, created, reached, rfl | rfl⟩
  · exact ⟨heeded, reached⟩
  · refine ⟨heeded, fun within => ?_⟩
    obtain ⟨grown, holds, -⟩ := reached within
    refine ⟨grown, holds, fun newIds read => ?_⟩
    have positive := List.length_pos_iff.mpr some_drafts
    simp [newest, Document.shapeIds, Document.empty, positive] at read

theorem addConnectors_keeps (call : Call) (drafts : List ConnectorDraft) (known : Prop) :
    (creating writing.document call
      (addConnectors writing.supply writing.document drafts)).Keeps (writing.Holds known) := by
  have acts : ∀ before, writing.Reaches known before →
      ∃ answer after,
        (addConnectors writing.supply writing.document drafts).Yields before answer after ∧
          writing.Reaches known after := by
    intro before reached
    obtain ⟨after, yields, became⟩ :=
      addConnectors_does writing.supply before writing.document drafts
    refine ⟨_, after, yields, fun within => ?_⟩
    rw [became.shapesDrawn] at within
    exact (reached within).imp_left fun grown => grown.addConnectors became
  refine (creating_ensures acts writing.document call).imp_done ?_
  rintro answer now ⟨heeded, created, reached, -⟩
  exact ⟨heeded, reached⟩

/-- The ids of the created shapes are new to the document. -/
theorem createShapes_ensures (fresh : writing.Fresh) (batches : Bool)
    (drafts : List (ShapeDraft α)) :
    Ensures (writing.Holds True)
      (createShapes (store writing.supply batches).observed writing.document drafts)
      (fun newIds => writing.Holds (True ∧ ∀ shape ∈ newIds, shape ∉ writing.base.shapeIds))
      (writing.Holds True) := by
  unfold createShapes
  split
  · exact createTogether_ensures weakens
      (fun _ known some_drafts => addShapes_ensures fresh _ some_drafts known) drafts True
  · exact createEach_ensures weakens
      (fun draft known => addShapes_ensures fresh _ (List.cons_ne_nil draft []) known) drafts True

theorem createConnectors_keeps (batches : Bool) (drafts : List ConnectorDraft) (known : Prop) :
    (createConnectors (store writing.supply batches).observed writing.document drafts).Keeps
      (writing.Holds known) := by
  -- Nothing needs to be known of the ids of connectors.
  have adds (call : Call) (drafts : List ConnectorDraft) (known : Prop) (count : Nat) :
      Ensures (writing.Holds known)
        (creating writing.document call
          (addConnectors writing.supply writing.document drafts))
        (fun answer => writing.Holds (known ∧
          ∀ newIds, newest count answer.connectorIds = .ok newIds → ∀ id ∈ newIds, True))
        (writing.Holds known) := by
    refine (addConnectors_keeps call drafts known).imp_done fun answer now holds => ?_
    exact weakens _ _ now holds fun known => ⟨known, fun _ _ _ _ => trivial⟩
  have created : Ensures (writing.Holds known)
      (createConnectors (store writing.supply batches).observed writing.document drafts)
      (fun newIds => writing.Holds (known ∧ ∀ id ∈ newIds, True)) (writing.Holds known) := by
    unfold createConnectors
    split
    · exact createTogether_ensures weakens (fun drafts known _ => adds _ drafts known _) drafts
        known
    · exact createEach_ensures weakens (fun draft known => adds _ [draft] known 1) drafts known
  exact created.imp_done fun newIds now holds => weakens _ _ now holds And.left

/-- The links are set under ids that the document did not have at first. -/
theorem linkParents_keeps (batches : Bool) {ids : List ShapeId} {known : Prop}
    (new : known → ∀ shape ∈ ids, shape ∉ writing.base.shapeIds)
    (planned : List (PlannedShape α)) :
    (linkParents (store writing.supply batches).observed writing.document ids planned).Keeps
      (writing.Holds known) := by
  induction planned with
  | nil => exact .pure fun _ holds => holds
  | cons shape rest ih =>
    rw [linkParents]
    split
    next child parent found _ =>
      have acts : ∀ before, writing.Reaches known before →
          ∃ answer after,
            (change? writing.document (·.patchShape? child ⟨some parent⟩)).Yields before answer
              after ∧ writing.Reaches known after := by
        intro before reached
        obtain ⟨answer, after, yields, became⟩ :=
          updateShape_does before writing.document child ⟨some parent⟩
        refine ⟨answer, after, yields, fun within => ?_⟩
        rw [became.shapesDrawn] at within
        obtain ⟨grown, holds⟩ := reached within
        exact ⟨grown.patch (new holds child (List.mem_of_getElem? found)) _ became, holds⟩
      exact (finding_ensures acts writing.document _).bind fun _ => ih
    next => exact ih

/-- However far an import comes with its writing, it has only appended entries. -/
theorem createContent_keeps [Scalar α] (fresh : writing.Fresh) (batches : Bool)
    (content : Import α) (about : content.document = writing.document) (plan : Plan α) :
    (createContent (store writing.supply batches).observed content plan).Keeps
      (writing.Holds True) := by
  have forget (known : Prop) : ∀ now, writing.Holds known now → writing.Holds True now :=
    fun now holds => weakens _ _ now holds fun _ => trivial
  rw [createContent, about]
  refine (createShapes_ensures fresh batches _).bind fun shapes => ?_
  refine ((linkParents_keeps batches And.right _).imp_failed (forget _)).bind fun _ => ?_
  refine ((createConnectors_keeps batches _ _).imp_failed (forget _)).bind fun connectors => ?_
  refine ((addShapes_ensures fresh _ (List.cons_ne_nil _ []) _).imp_failed (forget _)).bind
    fun answer => ?_
  refine (requireNewest_ensures _ _ (forget _)).bind fun newIds => .pure ?_
  exact fun now holds => forget _ now holds.2

end Writing

/-! ### Taking an import out -/

namespace Document

/-- How far the taking out of an import has come: nothing is deleted, or its connectors, or all that
it lists, or its container as well. -/
inductive Taking (document : Document α) (preview : ShapeId) : Document α → Prop where
  | begun : Taking document preview document
  | connectors {container : Shape α} {members : Members}
      (present : document.container? preview = some (container, members)) :
      Taking document preview (document.eraseConnectors members.connectors)
  | members {container : Shape α} {members : Members}
      (present : document.container? preview = some (container, members)) :
      Taking document preview
        ((document.eraseConnectors members.connectors).eraseShapes members.shapes)
  | done : Taking document preview (document.without preview)

namespace Taking

variable {document stage : Document α} {preview : ShapeId}

/-- The entries that are not of the import are there at every stage, in order. -/
theorem without_sublist (taking : document.Taking preview stage) :
    (document.without preview).shapes.Sublist stage.shapes ∧
      (document.without preview).connectors.Sublist stage.connectors := by
  cases taking with
  | begun => exact ⟨List.filter_sublist, List.filter_sublist⟩
  | connectors present =>
    rw [without_of_some present]
    exact ⟨List.filter_sublist.trans List.filter_sublist, .refl _⟩
  | members present =>
    rw [without_of_some present]
    exact ⟨List.filter_sublist, .refl _⟩
  | done => exact ⟨.refl _, .refl _⟩

/-- Once the container is gone, so is all that it lists. -/
theorem listed_gone (taking : document.Taking preview stage) {container : Shape α}
    {members : Members} (present : document.container? preview = some (container, members))
    (gone : container.id ∉ stage.shapeIds) :
    (∀ id ∈ members.shapes, id ∉ stage.shapeIds) ∧
      ∀ id ∈ members.connectors, id ∉ stage.connectorIds := by
  have held : container.id ∈ document.shapeIds := List.mem_map_of_mem (container?_some present).1
  have erased_shapes (document : Document α) (ids : List ShapeId) :
      ∀ id ∈ ids, id ∉ (document.eraseShapes ids).shapeIds := by
    intro id listed left
    obtain ⟨shape, kept, rfl⟩ := List.mem_map.mp left
    exact of_decide_eq_true (List.mem_filter.mp kept).2 listed
  have erased_connectors (document : Document α) (ids : List ConnectorId) :
      ∀ id ∈ ids, id ∉ (document.eraseConnectors ids).connectorIds := by
    intro id listed left
    obtain ⟨connector, kept, rfl⟩ := List.mem_map.mp left
    exact of_decide_eq_true (List.mem_filter.mp kept).2 listed
  cases taking with
  | begun => exact absurd held gone
  | connectors _ => exact absurd held gone
  | members also =>
    cases present.symm.trans also
    exact ⟨erased_shapes _ _, erased_connectors _ _⟩
  | done =>
    rw [without_of_some present]
    refine ⟨fun id listed left => ?_, erased_connectors _ _⟩
    exact erased_shapes _ _ id listed ((List.filter_sublist.map Shape.id).subset left)

end Taking

end Document

section Taking

variable (id : DocumentId) (start : Memory α)

/-- The document is there, and nothing has been drawn since the start. -/
def Memory.Stands (document : Document α) (memory : Memory α) : Prop :=
  memory.documentOrEmpty id = document ∧ memory.shapesDrawn = start.shapesDrawn ∧
    memory.connectorsDrawn = start.connectorsDrawn

variable {id start}

/-- A call that changes the document and draws nothing. -/
theorem Memory.Stands.changed {β : Type} {call : StoreCall (Memory α) β} {before : Memory α}
    {answer : β} {change : Document α → Document α} {document : Document α}
    (stands : Stands id start document before)
    (does : Does call id before answer (change (before.documentOrEmpty id)) 0 0) :
    ∃ after, call.Yields before answer after ∧ Stands id start (change document) after := by
  obtain ⟨held, shapes_drawn, connectors_drawn⟩ := stands
  obtain ⟨after, yields, became⟩ := does
  refine ⟨after, yields, ?_, ?_, ?_⟩
  · rw [became.held, held]
  · rw [became.shapesDrawn, shapes_drawn, Nat.add_zero]
  · rw [became.connectorsDrawn, connectors_drawn, Nat.add_zero]

/-- A call that changes the document and draws nothing changes it, or fails without an effect. -/
theorem finding_changes {β : Type} {call : StoreCall (Memory α) (Option β)}
    (change : Document α → Document α)
    (does : ∀ memory, ∃ answer, Does call id memory answer (change (memory.documentOrEmpty id)) 0 0)
    (logged : Call) (document : Document α) :
    Ensures (Behind (Stands id start document)) (finding id logged call)
      (fun _ => Behind (Stands id start (change document)))
      (Behind (Stands id start document)) := by
  refine finding_ensures (fun before stands => ?_) id logged
  obtain ⟨answer, changes⟩ := does before
  exact ⟨answer, stands.changed changes⟩

variable (supply : Supply) (batches : Bool) (document : Document α)

/-- Entries are deleted if there are any, or the call fails without an effect. -/
theorem EntryKind.deleteListed_ensures {β ι : Type} [DecidableEq ι] (kind : EntryKind α β ι)
    (logged : Call) (keys : List ι) :
    Ensures (Behind (Stands id start document))
      (if keys.isEmpty then pure ()
        else do let _ ← finding id logged (kind.delete id keys); pure ())
      (fun _ => Behind (Stands id start (kind.erase document keys)))
      (Behind (Stands id start document)) := by
  refine .listed (fun none_listed => ?_)
    (finding_changes (kind.erase · keys) (kind.delete_does · id keys) logged document)
  rw [none_listed, kind.erase_nil]
  exact fun _ stands => stands

theorem deleteListedShapes_ensures (ids : List ShapeId) :
    Ensures (Behind (Stands id start document))
      (TextDiagram.deleteShapes (store supply batches).observed id ids)
      (fun _ => Behind (Stands id start (document.eraseShapes ids)))
      (Behind (Stands id start document)) :=
  shapeKind.deleteListed_ensures document _ ids

theorem deleteListedConnectors_ensures (ids : List ConnectorId) :
    Ensures (Behind (Stands id start document))
      (TextDiagram.deleteConnectors (store supply batches).observed id ids)
      (fun _ => Behind (Stands id start (document.eraseConnectors ids)))
      (Behind (Stands id start document)) :=
  connectorKind.deleteListed_ensures document _ ids

/-- Taking an import out ends with the document without it, or fails at one of the stages. -/
theorem Replaced.take_ensures (preview : ShapeId) :
    Ensures (Behind (Stands id start document))
      (Replaced.take (store supply batches).observed id preview)
      (fun _ => Behind (Stands id start (document.without preview)))
      (Behind fun memory =>
        ∃ stage, document.Taking preview stage ∧ Stands id start stage memory) := by
  have at_stage {stage : Document α} (taking : document.Taking preview stage)
      (now : Observed (Memory α)) (stands : Behind (Stands id start stage) now) :
      Behind (fun memory => ∃ stage, document.Taking preview stage ∧ Stands id start stage memory)
        now :=
    ⟨stands.1, stage, taking, stands.2⟩
  have looked_up : Ensures (Behind (Stands id start document))
      ((store supply batches).observed.shape? id preview)
      (fun found => Behind fun memory =>
        found = document.shape? preview ∧ Stands id start document memory)
      (Behind (Stands id start document)) := by
    refine finding_ensures (fun before stands => ?_) id _
    refine ⟨_, before, shape?_yields supply batches before id preview, ?_, stands⟩
    rw [stands.1]
  have noted : Ensures (Behind (Stands id start document))
      ((store supply batches).observed.document? id)
      (fun _ => Behind (Stands id start document)) (Behind (Stands id start document)) := by
    refine finding_ensures (fun before stands => ?_) id _
    exact ⟨before.document? id, before, rfl, stands⟩
  unfold Replaced.take
  refine (looked_up.imp_failed (at_stage .begun)).bind fun found => ensures_of_fact fun same => ?_
  subst same
  rcases present : document.container? preview with - | ⟨container, members⟩
  · have without := Document.without_of_none present
    unfold Document.container? at present
    rw [present, without]
    exact .pure fun _ stands => stands
  · have cut := Document.Taking.connectors present
    have bare := Document.Taking.members present
    have without := Document.without_of_some present
    unfold Document.container? at present
    rw [present, without]
    refine (noted.imp_failed (at_stage .begun)).bind fun held => ?_
    refine ((deleteListedConnectors_ensures supply batches document _).imp_failed
      (at_stage .begun)).bind fun _ => ?_
    refine ((deleteListedShapes_ensures supply batches _ _).imp_failed (at_stage cut)).bind
      fun _ => ?_
    refine .bind ((finding_changes (·.eraseShapes [container.id])
      (deleteShapes_does · id [container.id]) _ _).imp_failed (at_stage bare)) ?_
    exact fun _ => .pure fun _ stands => stands

end Taking

/-! ### Imports that fail -/

section Failing

variable [Scalar α] {store : DocumentStore α σ} {before after : σ} {error : CommandError}

/-- A creation fails before it begins, or while it writes. -/
theorem CreateCommand.execute_fails {command ended : CreateCommand α}
    (pending : command.created = none)
    (ran : (command.execute store).run before = ((.error error, ended), after)) :
    after = before ∨ ∃ plan error,
      (createContent store command.content plan).run.run before = (.error error, after) := by
  rw [CreateCommand.execute, pending] at ran
  dsimp only at ran
  split at ran
  next =>
    cases ran
    exact .inl rfl
  next plan read =>
    rcases written : (createContent store command.content plan).run.run before with
      ⟨failed | created, between⟩
    · rw [run_bind_of_run written] at ran
      cases ran
      exact .inr ⟨plan, failed, written⟩
    · rw [run_bind_of_run written] at ran
      cases ran

/-- An update fails before it begins, or while it takes the earlier import out, or while it writes
in the place of it. -/
theorem UpdateCommand.execute_fails {command ended : UpdateCommand α}
    (pending : command.created = none)
    (ran : (command.execute store).run before = ((.error error, ended), after)) :
    after = before ∨
      (∃ error, (Replaced.take store command.document command.preview).run.run before =
        (.error error, after)) ∨
      ∃ replaced between plan error,
        (Replaced.take store command.document command.preview).run.run before =
          (.ok replaced, between) ∧
        (createContent store (command.content replaced) plan).run.run between =
          (.error error, after) := by
  rw [UpdateCommand.execute, pending] at ran
  dsimp only at ran
  split at ran
  next =>
    cases ran
    exact .inl rfl
  next plan read =>
    rcases taken : (Replaced.take store command.document command.preview).run.run before with
      ⟨failed | replaced, between⟩
    · rw [run_bind_of_run taken] at ran
      cases ran
      exact .inr (.inl ⟨failed, rfl⟩)
    · rw [run_bind_of_run taken] at ran
      rcases written : (createContent store (command.content replaced) plan).run.run between with
        ⟨failed | created, last⟩
      · cases (run_bind_of_run written).symm.trans ran
        exact .inr (.inr ⟨replaced, between, plan, failed, rfl, written⟩)
      · cases (run_bind_of_run written).symm.trans ran

end Failing

end TextDiagram
