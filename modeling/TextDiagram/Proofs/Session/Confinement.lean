import TextDiagram.Proofs.Command.Container
import TextDiagram.Proofs.Command.Partial
import TextDiagram.Proofs.Session.Actions

/-!
# Imports that fail

Main statement: an import that fails, at whatever call, leaves the history of its document as it
was, and of the document everything but the import that it was to replace; and it does not delete
the container of that import without all that the container lists.
-/
namespace TextDiagram

variable {α σ : Type}

open Memory Observed

namespace Session

variable [Scalar α] {store : DocumentStore α σ} {session : Session α σ} {id : DocumentId}
  {error : CommandError}

/-- Only a command that fails makes a run fail, and the history stays. -/
theorem run_error {command : Command α} (failed : (session.run store id command).1 = .error error) :
    ∃ ended, (command.execute store).run session.store =
        ((.error error, ended), (session.run store id command).2.store) ∧
      (session.run store id command).2.commands id = session.commands id := by
  rcases executed : (command.execute store).run session.store with ⟨⟨refused | ⟨⟩, ended⟩, after⟩
  · rw [run_refused id executed] at failed ⊢
    cases failed
    exact ⟨ended, rfl, setHistory_commands session id _ after⟩
  · rw [run_done id executed] at failed
    cases failed

/-- An import fails before there is a command for it, or with the command. -/
theorem importText_error {request : ImportRequest α}
    (failed : (session.importText store id request).1 = .error error) :
    let after := (session.importText store id request).2
    after.commands id = session.commands id ∧
      (after.store = session.store ∨ ∃ family ended,
        ((session.importCommand id request family).execute store).run session.store =
          ((.error error, ended), after.store)) := by
  unfold importText at failed ⊢
  cases resolved : Family.resolve request.familyName with
  | error refused => exact ⟨rfl, .inl rfl⟩
  | ok family =>
    simp only [resolved] at failed ⊢
    cases ran : (session.run store id (session.importCommand id request family)).1 with
    | ok created => simp [ran, Except.map] at failed
    | error refused =>
      simp only [ran, Except.map, Except.error.injEq] at failed
      subst failed
      obtain ⟨ended, executed, commands⟩ := run_error ran
      exact ⟨commands, .inr ⟨family, ended, executed⟩⟩

end Session

/-! ### What is left of the document -/

section

variable {supply : Supply} {id : DocumentId} {start : Memory α} {base : Document α}

theorem Memory.Stands.refl (id : DocumentId) (memory : Memory α) :
    Stands id memory (memory.documentOrEmpty id) memory :=
  ⟨rfl, rfl, rfl⟩

theorem Memory.Stands.grown {memory : Memory α} (stands : Stands id start base memory) :
    Grown supply id start base memory := by
  obtain ⟨rfl, shapes_drawn, connectors_drawn⟩ := stands
  exact .refl shapes_drawn connectors_drawn

variable [Scalar α] {batches : Bool} {before between after : Observed (Memory α)}

/-- Content that is written only in part has been written behind the document. -/
theorem createContent_grown {content : Import α} {plan : Plan α} {error : StoreError}
    (stands : Behind (Stands content.document start base) between)
    (fresh : ∀ shape ∈ supply.shapesBetween start after.inner, shape ∉ base.shapeIds)
    (written : (createContent (store supply batches).observed content plan).run.run between =
      (.error error, after)) : Grown supply content.document start base after.inner := by
  let writing : Writing α := ⟨supply, content.document, base, start, after.inner⟩
  have new : writing.Fresh := fresh
  have keeps := Writing.createContent_keeps new batches content rfl plan
  have kept := keeps between ⟨stands.1, fun _ => ⟨stands.2.grown, trivial⟩⟩
  rw [written] at kept
  exact (kept.2 (Nat.le_refl _)).1

variable {error : CommandError}
  (heeded : ∀ disturbance ∈ before.disturbances, disturbance.effect ≠ .nothing)

include heeded

theorem CreateCommand.execute_grown {command ended : CreateCommand α}
    (pending : command.created = none)
    (ran : (command.execute (store supply batches).observed).run before =
      ((.error error, ended), after))
    (fresh : ∀ shape ∈ supply.shapesBetween before.inner after.inner,
      shape ∉ (before.inner.documentOrEmpty command.content.document).shapeIds) :
    Grown supply command.content.document before.inner
      (before.inner.documentOrEmpty command.content.document) after.inner := by
  have stands := Stands.refl command.content.document before.inner
  rcases CreateCommand.execute_fails pending ran with rfl | ⟨plan, error, written⟩
  · exact stands.grown
  · exact createContent_grown ⟨heeded, stands⟩ fresh written

theorem UpdateCommand.execute_grown {command ended : UpdateCommand α}
    (pending : command.created = none)
    (ran : (command.execute (store supply batches).observed).run before =
      ((.error error, ended), after))
    (fresh : ∀ shape ∈ supply.shapesBetween before.inner after.inner,
      shape ∉ (before.inner.documentOrEmpty command.document).shapeIds) :
    ∃ base, (before.inner.documentOrEmpty command.document).Taking command.preview base ∧
      Grown supply command.document before.inner base after.inner := by
  have stands := Stands.refl command.document before.inner
  have takes := Replaced.take_ensures supply batches _ command.preview before ⟨heeded, stands⟩
  rcases UpdateCommand.execute_fails pending ran with
    rfl | ⟨error, taken⟩ | ⟨replaced, between, plan, error, taken, written⟩
  · exact ⟨_, .begun, stands.grown⟩
  · rw [taken] at takes
    obtain ⟨-, stage, taking, stage_stands⟩ := takes
    exact ⟨stage, taking, stage_stands.grown⟩
  · rw [taken] at takes
    -- What is drawn is new to what the import leaves in the document, too.
    have new : ∀ shape ∈ supply.shapesBetween before.inner after.inner,
        shape ∉ ((before.inner.documentOrEmpty command.document).without
          command.preview).shapeIds :=
      fun shape drawn left => fresh shape drawn (Document.without_shapeIds_subset _ _ left)
    exact ⟨_, .done, createContent_grown takes new written⟩

end

/-! ### Failing imports -/

/-- Entries that are appended leave those in front as they are. -/
theorem Memory.Grown.in_front {supply : Supply} {id : DocumentId} {start memory : Memory α}
    {base : Document α} (grown : Grown supply id start base memory) :
    base.shapes <+: (memory.documentOrEmpty id).shapes ∧
      base.connectors <+: (memory.documentOrEmpty id).connectors := by
  obtain ⟨shapes, connectors, held, -, -⟩ := grown.entries
  rw [held]
  exact ⟨List.prefix_append _ _, List.prefix_append _ _⟩

/-- What is there has been there or has been drawn. -/
theorem Memory.Grown.drawn {supply : Supply} {id : DocumentId} {start memory : Memory α}
    {base : Document α} (grown : Grown supply id start base memory) :
    (∀ shape ∈ (memory.documentOrEmpty id).shapeIds,
        shape ∈ base.shapeIds ∨ shape ∈ supply.shapesBetween start memory) ∧
      ∀ connector ∈ (memory.documentOrEmpty id).connectorIds,
        connector ∈ base.connectorIds ∨ connector ∈ supply.connectorsBetween start memory := by
  obtain ⟨shapes, connectors, held, shape_ids, connector_ids⟩ := grown.entries
  rw [held, ← shape_ids, ← connector_ids]
  simp [Document.addShapes, Document.addConnectors, Document.shapeIds, Document.connectorIds]

/-- A command of one kind fails as a command when it fails. -/
theorem Command.lift_error {κ : Type} {wrap : κ → Command α} {run : StateM σ (Ended κ)}
    {before after : σ} {ended : Command α} {error : CommandError}
    (ran : (lift wrap run).run before = ((.error error, ended), after)) :
    ∃ own, run.run before = ((.error error, own), after) := by
  rcases own_run : run.run before with ⟨⟨result, own⟩, last⟩
  cases (run_bind_of_run own_run).symm.trans ran
  exact ⟨own, rfl⟩

namespace Session

variable [Scalar α] {supply : Supply} {batches : Bool} {session : Session α (Observed (Memory α))}
  {id : DocumentId} {request : ImportRequest α} {error : CommandError}

/-- A failed import leaves the document at a stage of the taking out, if there is something to take
out, and new entries behind it. -/
theorem importText_grown
    (heeded : ∀ disturbance ∈ session.store.disturbances, disturbance.effect ≠ .nothing)
    (failed : (session.importText (Memory.store supply batches).observed id request).1 =
      .error error)
    (fresh : supply.Fresh id session.store.inner
      (session.importText (Memory.store supply batches).observed id request).2.store.inner) :
    let after := (session.importText (Memory.store supply batches).observed id request).2
    let document := session.store.inner.documentOrEmpty id
    ∃ base, Grown supply id session.store.inner base after.store.inner ∧
      (request.preview = none → base = document) ∧
      ∀ preview, request.preview = some preview → document.Taking preview base := by
  intro after document
  obtain ⟨-, same | ⟨family, ended, executed⟩⟩ := importText_error failed
  · refine ⟨document, ?_, fun _ => rfl, fun _ _ => .begun⟩
    rw [same]
    exact (Stands.refl id session.store.inner).grown
  · have new := fresh.shapes_new
    unfold importCommand at executed
    cases preview : request.preview with
    | none =>
      simp only [preview] at executed
      obtain ⟨own, ran⟩ := Command.lift_error executed
      have grown := CreateCommand.execute_grown heeded rfl ran new
      exact ⟨document, grown, fun _ => rfl, fun _ replaces => absurd replaces (by simp)⟩
    | some preview =>
      simp only [preview] at executed
      obtain ⟨own, ran⟩ := Command.lift_error executed
      obtain ⟨base, taking, grown⟩ := UpdateCommand.execute_grown heeded rfl ran new
      refine ⟨base, grown, fun creates => absurd creates (by simp), fun other same => ?_⟩
      cases same
      exact taking

/-- A failed import is confined. Whichever calls fail, or are done without telling what they have
created: the history of the document stays, and all entries that are not of the import that was to
be replaced stay as they are, in order, in front of new ones if nothing was to be replaced. If the
container of that import is gone, then all that it lists is gone, too, but for ids that have been
drawn anew. -/
theorem importText_confined (supply : Supply) (batches : Bool)
    (session : Session α (Observed (Memory α))) (id : DocumentId) (request : ImportRequest α)
    (heeded : ∀ disturbance ∈ session.store.disturbances, disturbance.effect ≠ .nothing)
    {error : CommandError}
    (failed : (session.importText (Memory.store supply batches).observed id request).1 =
      .error error)
    (fresh : supply.Fresh id session.store.inner
      (session.importText (Memory.store supply batches).observed id request).2.store.inner) :
    let after := (session.importText (Memory.store supply batches).observed id request).2
    let document := session.store.inner.documentOrEmpty id
    let left := after.store.inner.documentOrEmpty id
    after.commands id = session.commands id ∧
      (request.preview = none →
        document.shapes <+: left.shapes ∧ document.connectors <+: left.connectors) ∧
      ∀ preview, request.preview = some preview →
        (document.without preview).shapes.Sublist left.shapes ∧
        (document.without preview).connectors.Sublist left.connectors ∧
        ∀ container members, document.container? preview = some (container, members) →
          container.id ∉ left.shapeIds →
          (∀ shape ∈ members.shapes, shape ∈ left.shapeIds →
              shape ∈ supply.shapesBetween session.store.inner after.store.inner) ∧
            ∀ connector ∈ members.connectors, connector ∈ left.connectorIds →
              connector ∈ supply.connectorsBetween session.store.inner after.store.inner := by
  intro after document left
  obtain ⟨base, grown, creates, replaces⟩ := importText_grown heeded failed fresh
  obtain ⟨shapes_kept, connectors_kept⟩ := grown.in_front
  refine ⟨(importText_error failed).1, fun none_replaced => ?_, fun preview replaced => ?_⟩
  · obtain rfl := creates none_replaced
    exact ⟨shapes_kept, connectors_kept⟩
  · have taking := replaces preview replaced
    obtain ⟨shapes_stay, connectors_stay⟩ := taking.without_sublist
    refine ⟨shapes_stay.trans shapes_kept.sublist, connectors_stay.trans connectors_kept.sublist,
      ?_⟩
    intro container members present gone
    have gone_before : container.id ∉ base.shapeIds :=
      fun held => gone ((shapes_kept.map Shape.id).subset held)
    obtain ⟨shapes_gone, connectors_gone⟩ := taking.listed_gone present gone_before
    obtain ⟨shapes_drawn, connectors_drawn⟩ := grown.drawn
    refine ⟨fun shape listed there => ?_, fun connector listed there => ?_⟩
    · exact (shapes_drawn shape there).resolve_left (shapes_gone shape listed)
    · exact (connectors_drawn connector there).resolve_left (connectors_gone connector listed)

/-- A flow chart stands beside a shape of its reader and is to be replaced. When the new connectors
are created but not told of, all of the chart has been deleted; the shape of the reader stays. -/
theorem importText_confined_of_update :
    let id : DocumentId := ⟨.numbered 2 0⟩
    let own : Shape Rat := ⟨⟨.numbered 3 0⟩, "note", ⟨0, 0, 120, 60⟩, none, .null⟩
    let member : Shape Rat := ⟨⟨.numbered 3 1⟩, "task", ⟨40, 80, 120, 60⟩, none, .null⟩
    let container : Shape Rat :=
      (Container.draft ⟨0, 40, 200, 140⟩ .flow "bpmn\ntask a" ⟨[⟨.numbered 3 1⟩], []⟩).withId
        ⟨.numbered 3 2⟩
    let document : Document Rat := ⟨id, [own, member, container], []⟩
    let session : Session Rat (Observed (Memory Rat)) :=
      start .default 8 ⟨[], [⟨.addConnectors, 1, .hollow⟩], ⟨[document], 0, 0⟩⟩
    let failed := session.importText (Memory.store .numbered true).observed id
      ⟨"flow", "bpmn\na --> b; b --> c", none, none, some container.id⟩
    let left := failed.2.store.inner.documentOrEmpty id
    failed.1 = .error (.store (.missingIds 2 0)) ∧ failed.2.commands id = session.commands id ∧
      document.without container.id = ⟨id, [own], []⟩ ∧ [own].Sublist left.shapes := by
  intro id own member container document session failed left
  have refused : failed.1 = .error (.store (.missingIds 2 0)) := by decide +kernel
  have fresh : Supply.numbered.Fresh id session.store.inner failed.2.store.inner := by
    decide +kernel
  have present : document.container? container.id = some (container, ⟨[member.id], []⟩) := by
    have found : document.shape? container.id = some container := rfl
    rw [Document.container?, found, Option.bind_some, Container.members?_draft]
    rfl
  have rest : document.without container.id = ⟨id, [own], []⟩ := by
    rw [Document.without_of_some present]
    rfl
  obtain ⟨commands, -, confined⟩ := importText_confined .numbered true session id
    ⟨"flow", "bpmn\na --> b; b --> c", none, none, some container.id⟩ (by simp [session, start])
    refused fresh
  have stays := (confined container.id rfl).1
  have held : session.store.inner.documentOrEmpty id = document := rfl
  rw [held, rest] at stays
  exact ⟨refused, commands, rest, stays⟩
end Session

end TextDiagram
