import TextDiagram.Proofs.Command.Partial

/-!
# Imports on a store that is not to be trusted

A store may answer a call with whatever document it likes: with too few entries, with none at all,
or with entries of somebody else. An import reads its ids off the ends of such answers, and looks
them up under the indices of its plan; where it does not find one, it goes on without the link or
the connector. Main statement: for the plan of a text this never happens. Writing that ends at the
first index without an id is the same as writing that passes over it, whatever the store answers,
and ends with an error of the store or with an id for every planned shape, for every planned
connector and for the container.
-/
namespace TextDiagram

variable {α σ β γ : Type}

open StoreCall (Ensures)

/-! ### Calls to any store -/

/-- Whatever the state, the call fails or gives a good answer. -/
def StoreCall.Answers (call : StoreCall σ β) (good : β → Prop) : Prop :=
  Ensures (fun _ => True) call (fun answer _ => good answer) fun _ => True

namespace StoreCall.Answers

variable {good good' : β → Prop} {call : StoreCall σ β}

theorem any (call : StoreCall σ β) : Answers call fun _ => True := by
  intro before _
  rcases call.run.run before with ⟨error | answer, after⟩ <;> trivial

theorem pure {answer : β} (holds : good answer) : Answers (Pure.pure answer : StoreCall σ β) good :=
  Ensures.pure fun _ _ => holds

theorem bind {next : β → StoreCall σ γ} {done : γ → Prop} (first : Answers call good)
    (continued : ∀ answer, good answer → Answers (next answer) done) :
    Answers (call >>= next) done := by
  refine Ensures.bind first fun answer => ?_
  intro before holds
  exact continued answer holds before trivial

end StoreCall.Answers

/-! ### Calls that look ids up -/

/-- Why writing with checked indices ends early. -/
inductive Mishap where
  | store (error : StoreError)
  /-- No id has been given for the index. -/
  | missing (index : Nat)
deriving DecidableEq

/-- A call that ends early also when an id is missing. -/
abbrev CheckedCall (σ β : Type) := ExceptT Mishap (StateM σ) β

namespace CheckedCall

/-- A call to the store, which only the store makes fail. -/
def ofStore (call : StoreCall σ β) : CheckedCall σ β :=
  call.adapt .store

/-- The id at an index, which must be there. -/
def idAt (ids : List ShapeId) (index : Nat) : CheckedCall σ ShapeId :=
  match ids[index]? with
  | none => throw (.missing index)
  | some id => pure id

/-- Links shapes to their parents; both must have an id. -/
def linkParents (store : DocumentStore α σ) (document : DocumentId) (ids : List ShapeId) :
    List (PlannedShape α) → CheckedCall σ Unit
  | [] => pure ()
  | shape :: rest => do
    match shape.parent with
    | none => linkParents store document ids rest
    | some parentIndex =>
      let parent ← idAt ids parentIndex
      let child ← idAt ids shape.index
      let _ ← ofStore (store.updateShape document child ⟨some parent⟩)
      linkParents store document ids rest

/-- The drafts of planned connectors, all of which must join shapes that have an id. -/
def connectorDrafts (ids : List ShapeId) :
    List PlannedConnector → CheckedCall σ (List ConnectorDraft)
  | [] => pure []
  | connector :: rest => do
    let source ← idAt ids connector.source
    let target ← idAt ids connector.target
    let drafts ← connectorDrafts ids rest
    pure ({
      source
      target
      sourceSide := connector.sourceSide
      targetSide := connector.targetSide
      bidirectional := connector.bidirectional
      label := connector.label } :: drafts)

/-- Writes a plan as `TextDiagram.createContent` does, but for missing ids, at the first of which it
ends. -/
def createContent [Scalar α] (store : DocumentStore α σ) (content : Import α) (plan : Plan α) :
    CheckedCall σ Created := do
  let padding := content.config.containerPadding
  let left := content.origin.x + padding
  let top := content.origin.y + padding
  let plan := plan.moveTo left top
  let shapes ← ofStore (createShapes store content.document (plan.shapes.map PlannedShape.draft))
  linkParents store content.document shapes plan.shapes
  let drafts ← connectorDrafts shapes plan.connectors
  let connectors ← ofStore (createConnectors store content.document drafts)
  let bounds := plan.bounds?.getD ⟨left, top, Scalar.zero, Scalar.zero⟩
  let container :=
    Container.draft (bounds.inflate padding) content.family content.source ⟨shapes, connectors⟩
  let answer ← ofStore (store.addShape content.document container)
  let newestIds ← ofStore (requireNewest 1 answer.shapeIds)
  pure ⟨newestIds.head?, shapes, connectors⟩

/-! ### Where no id is missing -/

theorem ofStore_run (call : StoreCall σ β) (before : σ) :
    (ofStore call).run.run before =
      ((call.run.run before).1.mapError .store, (call.run.run before).2) :=
  rfl

/-- Checked and unchecked calls go on alike after a call to the store, if they do so after every
answer that it can give. -/
theorem ofStore_bind {call : StoreCall σ β} {good : β → Prop} (answers : call.Answers good)
    {checked : β → CheckedCall σ γ} {next : β → StoreCall σ γ}
    (alike : ∀ answer, good answer → checked answer = ofStore (next answer)) :
    ofStore call >>= checked = ofStore (call >>= next) := by
  apply ExceptT.ext
  funext before
  have answered := answers before trivial
  change (ofStore call >>= checked).run.run before = (ofStore (call >>= next)).run.run before
  rw [run_bind_eq, ofStore_run, ofStore_run, run_bind_eq]
  rcases ran : call.run.run before with ⟨error | answer, after⟩
  · rfl
  · rw [ran] at answered
    simp only [Except.mapError, alike answer answered, ofStore_run]

theorem idAt_of_lt {ids : List ShapeId} {index : Nat} (given : index < ids.length) :
    (idAt ids index : CheckedCall σ ShapeId) = pure ids[index] := by
  rw [idAt, List.getElem?_eq_getElem given]

/-- The links of a plan are all set. -/
theorem linkParents_eq (store : DocumentStore α σ) (document : DocumentId) {ids : List ShapeId}
    {planned : List (PlannedShape α)} (index : ∀ shape ∈ planned, shape.index < ids.length)
    (parent : ∀ shape ∈ planned, ∀ parent, shape.parent = some parent → parent < ids.length) :
    linkParents store document ids planned =
      ofStore (TextDiagram.linkParents store document ids planned) := by
  -- Indices count in the whole plan, so that all ids stay given for the rest of the shapes.
  induction planned with
  | nil => rfl
  | cons shape rest ih =>
    have rest_linked := ih (fun shape member => index shape (List.mem_cons_of_mem _ member))
      fun shape member => parent shape (List.mem_cons_of_mem _ member)
    have child_given := index shape List.mem_cons_self
    cases inside : shape.parent with
    | none =>
      simp only [linkParents, TextDiagram.linkParents, inside, Option.bind_none,
        List.getElem?_eq_getElem child_given, rest_linked]
    | some parentIndex =>
      have parent_given := parent shape List.mem_cons_self parentIndex inside
      simp only [linkParents, TextDiagram.linkParents, inside, Option.bind_some,
        List.getElem?_eq_getElem child_given, List.getElem?_eq_getElem parent_given,
        idAt_of_lt child_given, idAt_of_lt parent_given, pure_bind]
      exact ofStore_bind (.any _) fun _ _ => rest_linked

/-- The connectors of a plan are all drafted. -/
theorem connectorDrafts_eq {ids : List ShapeId} {planned : List PlannedConnector}
    (ends : ∀ connector ∈ planned, connector.source < ids.length ∧ connector.target < ids.length) :
    (connectorDrafts ids planned : CheckedCall σ (List ConnectorDraft)) =
      pure (planned.filterMap (PlannedConnector.draft? ids)) := by
  induction planned with
  | nil => rfl
  | cons connector rest ih =>
    obtain ⟨source, target⟩ := ends connector List.mem_cons_self
    have rest_drafted := ih fun connector member => ends connector (List.mem_cons_of_mem _ member)
    simp [connectorDrafts, idAt_of_lt source, idAt_of_lt target, rest_drafted,
      PlannedConnector.draft?, List.getElem?_eq_getElem source, List.getElem?_eq_getElem target]

end CheckedCall

/-! ### How many ids are read off the answers -/

section Counts

variable {δ ι : Type} {ids : Document α → List ι}

theorem newest_length {count : Nat} {found newIds : List ι}
    (read : newest count found = .ok newIds) : newIds.length = count := by
  unfold newest at read
  split at read
  · cases read
  · cases read
    rw [List.length_drop]
    omega

theorem requireNewest_length (count : Nat) (found : List ι) :
    (requireNewest count found : StoreCall σ (List ι)).Answers (·.length = count) :=
  (requireNewest_ensures count found fun _ _ => trivial).imp_done
    fun _ _ read => newest_length read.1

theorem createTogether_length (add : List δ → StoreCall σ (Document α)) (drafts : List δ) :
    (createTogether ids add drafts).Answers (·.length = drafts.length) := by
  unfold createTogether
  split
  next none_drafted => exact .pure (by simp [List.isEmpty_iff.mp none_drafted])
  next => exact (StoreCall.Answers.any _).bind fun answer _ => requireNewest_length _ (ids answer)

theorem createEach_length (add : δ → StoreCall σ (Document α)) (drafts : List δ) :
    (createEach ids add drafts).Answers (·.length = drafts.length) := by
  induction drafts with
  | nil => exact .pure rfl
  | cons draft rest ih =>
    -- Every answer gives one id.
    refine (StoreCall.Answers.any _).bind fun answer _ => ?_
    refine (requireNewest_length 1 (ids answer)).bind fun first one => ?_
    refine ih.bind fun others counted => .pure ?_
    rw [List.length_append, one, counted, List.length_cons, Nat.add_comm]

theorem create_length (batches : Bool) (add : List δ → StoreCall σ (Document α))
    (each : δ → StoreCall σ (Document α)) (drafts : List δ) :
    (if batches then createTogether ids add drafts else createEach ids each drafts).Answers
      (·.length = drafts.length) := by
  split
  · exact createTogether_length add drafts
  · exact createEach_length each drafts

theorem createShapes_length (store : DocumentStore α σ) (document : DocumentId)
    (drafts : List (ShapeDraft α)) :
    (createShapes store document drafts).Answers (·.length = drafts.length) :=
  create_length store.batches _ _ drafts

theorem createConnectors_length (store : DocumentStore α σ) (document : DocumentId)
    (drafts : List ConnectorDraft) :
    (createConnectors store document drafts).Answers (·.length = drafts.length) :=
  create_length store.batches _ _ drafts

end Counts

/-! ### Main statement -/

/-- There is an id for every planned shape, for every planned connector and for a container. -/
structure Created.Covers (created : Created) (plan : Plan α) : Prop where
  shapes : created.shapes.length = plan.shapes.length
  connectors : created.connectors.length = plan.connectors.length
  container : created.container.isSome = true

section Writing

variable [Scalar α] (store : DocumentStore α σ) (content : Import α) {plan : Plan α}
  (indexed : plan.Indexed)

include indexed

/-- Whatever the store answers, an import that succeeds has given ids to all that it has planned. -/
theorem createContent_covers : (createContent store content plan).Answers (·.Covers plan) := by
  have same_length := content.place_length plan
  unfold createContent
  refine (createShapes_length store _ _).bind fun shapes shapes_counted => ?_
  rw [List.length_map] at shapes_counted
  have shapes_covered := shapes_counted.trans same_length
  -- No connector is left out, so that there are as many drafts as planned connectors.
  have drafted : ((content.place plan).connectors.filterMap
      (PlannedConnector.draft? shapes)).length = plan.connectors.length := by
    rw [content.place_connectors plan]
    exact indexed.drafts_length shapes_covered
  refine (StoreCall.Answers.any _).bind fun _ _ => ?_
  refine (createConnectors_length store _ _).bind fun connectors connectors_counted => ?_
  refine (StoreCall.Answers.any _).bind fun answer _ => ?_
  refine (requireNewest_length 1 _).bind fun newest one => .pure ?_
  obtain ⟨id, rfl⟩ := List.length_eq_one_iff.mp one
  exact ⟨shapes_covered, connectors_counted.trans drafted, rfl⟩

/-- No index of the plan is without an id. -/
theorem CheckedCall.createContent_eq :
    CheckedCall.createContent store content plan =
      ofStore (TextDiagram.createContent store content plan) := by
  have placed := content.place_indexed indexed
  -- Only the number of the shapes' ids matters; what other answers contain is not looked at.
  unfold CheckedCall.createContent TextDiagram.createContent
  refine ofStore_bind (createShapes_length store _ _) fun shapes counted => ?_
  rw [List.length_map] at counted
  have counted : shapes.length = (content.place plan).shapes.length := counted
  have linked := linkParents_eq store content.document (counted ▸ placed.index_lt)
    (counted ▸ placed.parent_lt)
  have drafted := connectorDrafts_eq (σ := σ) (counted ▸ placed.ends)
  unfold Import.place at linked drafted
  rw [linked]
  refine ofStore_bind (.any _) fun _ _ => ?_
  rw [drafted, pure_bind]
  refine ofStore_bind (.any _) fun connectors _ => ?_
  refine ofStore_bind (.any _) fun answer _ => ?_
  exact ofStore_bind (.any _) fun newest _ => rfl

end Writing

/-- Writing the plan of a text on any store asks for no id that is not there and leaves no connector
out: it ends as writing with checked indices does, with an error of the store or with an id for
every planned shape, for every planned connector and for the container. -/
theorem createContent_complete [Scalar α] (store : DocumentStore α σ) (content : Import α)
    {plan : Plan α}
    (planned : Plan.ofText content.family content.source content.config = .ok plan) (state : σ) :
    let checked := (CheckedCall.createContent store content plan).run.run state
    let ended := (createContent store content plan).run.run state
    checked = (ended.1.mapError .store, ended.2) ∧
      ((∃ error, checked.1 = .error (.store error)) ∨
        ∃ created, checked.1 = .ok created ∧ created.Covers plan) := by
  intro checked ended
  have indexed := Plan.ofText_indexed planned
  have same : checked = (ended.1.mapError .store, ended.2) := by
    simp only [checked, CheckedCall.createContent_eq store content indexed, CheckedCall.ofStore_run]
    rfl
  have covers := createContent_covers store content indexed state trivial
  refine ⟨same, ?_⟩
  rw [same]
  rcases ran : ended with ⟨error | created, after⟩
  · exact .inl ⟨error, rfl⟩
  · have written : (createContent store content plan).run.run state = (.ok created, after) := ran
    rw [written] at covers
    exact .inr ⟨created, rfl, covers⟩

/-- The store that gives the same answer to all calls. -/
def DocumentStore.stubborn (document : Document α) : DocumentStore α σ where
  document? _ := pure (some document)
  addShape _ _ := pure document
  updateShape _ _ _ := pure none
  deleteShape _ _ := pure none
  shape? _ _ := pure document.shapes.head?
  restoreShapes _ _ := pure document
  addConnector _ _ := pure document
  deleteConnector _ _ := pure none
  restoreConnectors _ _ := pure document
  batches := false
  addShapes _ _ := pure document
  deleteShapes _ _ := pure none
  addConnectors _ _ := pure document
  deleteConnectors _ _ := pure none

/-- A service in a group and an arrow between them are imported by a store that answers with one
foreign shape and one foreign connector: all ids are read off these. -/
theorem createContent_complete_of_foreign :
    let shape : Shape Rat := ⟨⟨.numbered 3 0⟩, "note", ⟨0, 0, 80, 80⟩, none, .null⟩
    let connector : Connector := ⟨⟨.numbered 3 1⟩, shape.id, shape.id, none, none, false, none⟩
    let id : DocumentId := ⟨.numbered 2 0⟩
    let store : DocumentStore Rat Unit := .stubborn ⟨id, [shape], [connector]⟩
    let content : Import Rat :=
      ⟨id, .architecture, "architecture-beta\nservice a(x)[A] in g\ngroup g(x)[G]\na:E --> W:g",
        .zero, .default⟩
    let created : Created := ⟨some shape.id, [shape.id, shape.id], [connector.id]⟩
    ∃ plan, Plan.ofText content.family content.source content.config = .ok plan ∧
      ((CheckedCall.createContent store content plan).run.run ()).1 = .ok created ∧
      created.Covers plan := by
  intro shape connector id store content created
  have ran : ((Plan.ofText content.family content.source content.config).map fun plan =>
      ((CheckedCall.createContent store content plan).run.run ()).1) = .ok (.ok created) := by
    decide +kernel
  cases planned : Plan.ofText content.family content.source content.config with
  | error error => simp [planned, Except.map] at ran
  | ok plan =>
    simp only [planned, Except.map, Except.ok.injEq] at ran
    obtain ⟨_, ⟨error, failed⟩ | ⟨covering, ended, covers⟩⟩ :=
      createContent_complete store content planned ()
    · cases failed.symm.trans ran
    · cases ended.symm.trans ran
      exact ⟨plan, rfl, ended, covers⟩

end TextDiagram
