import TextDiagram.Proofs.Command.Replacement

/-!
# Executing and undoing commands in memory

On a store in memory a command that has not been executed either fails on its text, and then
nothing has happened, or succeeds; an undo always succeeds. Main statement: the undo of a command
that was just executed brings back the records that the document had before, provided that the ids
drawn are fresh and that a restore restores only what is not there.
-/
namespace TextDiagram

variable {α σ : Type}

open Memory

theorem run_bind_of_run {β γ : Type} {call : StateM σ β} {next : β → StateM σ γ}
    {before after : σ} {answer : β} (called : call.run before = (answer, after)) :
    (call >>= next).run before = (next answer).run after := by
  rw [StateT.run_bind, called]
  rfl

/-- A command goes on with what a call on its store has answered. -/
theorem StoreCall.Yields.run_bind {β γ : Type} {call : StoreCall σ β}
    {next : Except StoreError β → StateM σ γ} {before after : σ} {answer : β}
    (called : call.Yields before answer after) :
    (call.run >>= next).run before = (next (.ok answer)).run after :=
  run_bind_of_run called

/-! ### Undoing -/

/-- The document with the change of a create taken back. -/
def CreateCommand.undone (command : CreateCommand α) (document : Document α) : Document α :=
  match command.created with
  | none => document
  | some created => created.removedFrom document

/-- The document with the change of an update taken back. -/
def UpdateCommand.undone (command : UpdateCommand α) (document : Document α) : Document α :=
  match command.created with
  | none => document
  | some created =>
    match command.replaced with
    | none => created.removedFrom document
    | some replaced => replaced.putInto (created.removedFrom document)

/-- The document with the change of a restore taken back. -/
def RestoreCommand.undone (command : RestoreCommand α) (document : Document α) : Document α :=
  if command.restored then
    (document.eraseConnectors (command.connectors.map Connector.id)).eraseShapes
      (command.shapes.map Shape.id)
  else
    document

section Undo

variable (supply : Supply) (batches : Bool) (memory : Memory α)

theorem CreateCommand.undo_does (command : CreateCommand α) :
    ∃ after,
      (command.undo (store supply batches)).run memory =
        ((.ok (), { command with created := none }), after) ∧
      Becomes command.content.document memory after
        (command.undone (memory.documentOrEmpty command.content.document)) 0 0 := by
  obtain ⟨content, created⟩ := command
  cases created with
  | none => exact ⟨memory, rfl, .refl _ memory⟩
  | some created =>
    obtain ⟨after, removed, became⟩ :=
      removeContent_does supply batches memory content.document created
    exact ⟨after, removed.run_bind, became⟩

theorem UpdateCommand.undo_does (command : UpdateCommand α) {created : Created}
    (executed : command.created = some created) :
    ∃ after,
      (command.undo (store supply batches)).run memory =
        ((.ok (), { command with created := none, replaced := none }), after) ∧
      Becomes command.document memory after
        (command.undone (memory.documentOrEmpty command.document)) 0 0 := by
  obtain ⟨between, removed, became⟩ :=
    removeContent_does supply batches memory command.document created
  cases replaced : command.replaced with
  | none =>
    simp only [undo, undone, executed, replaced]
    exact ⟨between, removed.run_bind, became⟩
  -- The earlier import is put back into what is left once the new one has been deleted.
  | some earlier =>
    obtain ⟨after, put_back, became_after⟩ :=
      earlier.putBack_does supply batches between command.document
    rw [became.held] at became_after
    simp only [undo, undone, executed, replaced]
    exact ⟨after, removed.run_bind.trans put_back.run_bind, became.trans became_after⟩

theorem RestoreCommand.undo_does (command : RestoreCommand α) :
    ∃ after,
      (command.undo (store supply batches)).run memory =
        ((.ok (), { command with restored := false }), after) ∧
      Becomes command.document memory after
        (command.undone (memory.documentOrEmpty command.document)) 0 0 := by
  obtain ⟨id, shapes, connectors, restored⟩ := command
  cases restored with
  | false => exact ⟨memory, rfl, .refl id memory⟩
  | true =>
    obtain ⟨between, connectors_deleted, became⟩ :=
      deleteListedConnectors_does supply batches memory id (connectors.map Connector.id)
    obtain ⟨after, shapes_deleted, became_after⟩ :=
      deleteListedShapes_does supply batches between id (shapes.map Shape.id)
    rw [became.held] at became_after
    have erased : (erase (store supply batches) ⟨id, shapes, connectors, true⟩).Yields memory ()
        after := connectors_deleted.bind shapes_deleted
    exact ⟨after, erased.run_bind, became.trans became_after⟩

end Undo

/-! ### Executing -/

section Restore

variable (supply : Supply) (batches : Bool) (memory : Memory α)

/-- Restoring nothing calls nothing. -/
theorem RestoreCommand.write_does (command : RestoreCommand α) :
    Does (command.write (store supply batches)) command.document memory ()
      (((memory.documentOrEmpty command.document).restoreShapes command.shapes).restoreConnectors
        command.connectors) 0 0 := by
  obtain ⟨id, shapes, connectors, restored⟩ := command
  have connectors_written (memory : Memory α) : Does
      (do if !connectors.isEmpty then
            let _ ← (store supply batches).restoreConnectors id connectors) id memory ()
      ((memory.documentOrEmpty id).restoreConnectors connectors) 0 0 := by
    cases connectors with
    | nil => exact .pure memory id ()
    | cons first rest =>
      obtain ⟨after, written, became⟩ :=
        Memory.write_does memory id (·.restoreConnectors (first :: rest)) fun _ => rfl
      exact ⟨after, written.bind rfl, became⟩
  cases shapes with
  | nil => exact connectors_written memory
  | cons first rest =>
    obtain ⟨between, shapes_written, became⟩ :=
      Memory.write_does memory id (·.restoreShapes (first :: rest)) fun _ => rfl
    obtain ⟨after, written, became_after⟩ := connectors_written between
    rw [became.held] at became_after
    exact ⟨after, shapes_written.bind written, became.trans became_after⟩

theorem RestoreCommand.execute_does (command : RestoreCommand α) :
    ∃ after,
      (command.execute (store supply batches)).run memory =
        ((.ok (), { command with restored := true }), after) ∧
      Becomes command.document memory after
        (((memory.documentOrEmpty command.document).restoreShapes command.shapes).restoreConnectors
          command.connectors) 0 0 := by
  obtain ⟨after, written, became⟩ := command.write_does supply batches memory
  exact ⟨after, written.run_bind, became⟩

end Restore

section Execute

variable [Scalar α] (supply : Supply) (batches : Bool) (memory : Memory α)

/-- A text that is refused changes nothing, whatever the store. -/
theorem CreateCommand.execute_refused (store : DocumentStore α σ) (state : σ)
    (command : CreateCommand α) (pending : command.created = none) {error : FormatError}
    (refused : Plan.ofText command.content.family command.content.source command.content.config =
      .error error) :
    (command.execute store).run state = ((.error (.format error), command), state) := by
  simp only [execute, pending, refused]
  rfl

theorem UpdateCommand.execute_refused (store : DocumentStore α σ) (state : σ)
    (command : UpdateCommand α) (pending : command.created = none) {error : FormatError}
    (refused : Plan.ofText command.family command.source command.config = .error error) :
    (command.execute store).run state = ((.error (.format error), command), state) := by
  simp only [execute, pending, refused]
  rfl

/-- A text that is accepted has a plan. -/
theorem Plan.exists_ofText {family : Family} {source : String} {config : Config α}
    (valid : (Plan.ofText family source config).isOk = true) :
    ∃ plan, Plan.ofText family source config = .ok plan := by
  cases planned : Plan.ofText family source config with
  | error error => simp [planned, Except.isOk, Except.toBool] at valid
  | ok plan => exact ⟨plan, rfl⟩

/-- The plan of a text is the plan of a graph laid out as a whole. -/
theorem Plan.ofText_indexed {family : Family} {source : String} {config : Config α} {plan : Plan α}
    (planned : Plan.ofText family source config = .ok plan) : plan.Indexed := by
  unfold Plan.ofText at planned
  cases read : Graph.read family source with
  | error error => simp [read, Except.map] at planned
  | ok graph =>
    simp only [read, Except.map, Except.ok.injEq] at planned
    exact planned ▸ Plan.ofGraph_indexed graph config

theorem CreateCommand.execute_does (command : CreateCommand α) (pending : command.created = none)
    {plan : Plan α}
    (planned : Plan.ofText command.content.family command.content.source command.content.config =
      .ok plan) :
    let id := command.content.document
    let addition := memory.nextAddition supply command.content plan
    ∃ after,
      (command.execute (store supply batches)).run memory =
        ((.ok (), { command with created := some addition.created }), after) ∧
      Becomes id memory after
        (command.content.written plan addition (memory.documentOrEmpty id))
        (plan.shapes.length + 1) plan.connectors.length := by
  intro id addition
  obtain ⟨after, created, became⟩ := createContent_does supply batches memory command.content
    (Plan.ofText_indexed planned)
  refine ⟨after, ?_, became⟩
  simp only [execute, pending, planned]
  exact created.run_bind

theorem UpdateCommand.execute_does (command : UpdateCommand α) (pending : command.created = none)
    {plan : Plan α}
    (planned : Plan.ofText command.family command.source command.config = .ok plan) :
    let id := command.document
    let document := memory.documentOrEmpty id
    let replaced := document.replaced? command.preview
    let content := command.content replaced
    let addition := memory.nextAddition supply content plan
    ∃ after,
      (command.execute (store supply batches)).run memory =
        ((.ok (), { command with created := some addition.created, replaced }), after) ∧
      Becomes id memory after (content.written plan addition (document.without command.preview))
        (plan.shapes.length + 1) plan.connectors.length := by
  intro id document replaced content addition
  obtain ⟨between, taken, became⟩ :=
    Replaced.take_does supply batches memory command.document command.preview
  obtain ⟨after, created, became_after⟩ := createContent_does supply batches between content
    (Plan.ofText_indexed planned)
  -- Taking the earlier import out has drawn no ids.
  have same_addition : between.nextAddition supply content plan = addition := by
    simp only [addition, nextAddition, became.shapesDrawn, became.connectorsDrawn, Nat.add_zero]
  rw [same_addition] at created became_after
  have same_document : content.document = command.document := rfl
  rw [same_document, became.held] at became_after
  refine ⟨after, ?_, (became.trans became_after).counted (by omega) (by omega)⟩
  simp only [execute, pending, planned]
  rw [taken.run_bind]
  exact created.run_bind

end Execute

/-! ### Back to the records from before -/

section Reversal

variable {document : Document α}

/-- Undoing an import gives the very document back. -/
theorem CreateCommand.undone_addTo {command : CreateCommand α} {addition : Addition α}
    (created : command.created = some addition.created) (new : addition.New document) :
    command.undone (addition.addTo document) = document := by
  simp only [undone, created]
  exact addition.removedFrom_addTo document new

/-- Undoing an update gives the records back, and leaves what was not replaced in order. -/
theorem UpdateCommand.undone_addTo {command : UpdateCommand α} {addition : Addition α}
    {preview : ShapeId} (created : command.created = some addition.created)
    (replaced : command.replaced = document.replaced? preview) (distinct : document.Distinct)
    (new : addition.New (document.without preview)) :
    let undone := command.undone (addition.addTo (document.without preview))
    undone.SameRecords document ∧
      undone.besides (document.entries preview) = document.besides (document.entries preview) := by
  have removed := addition.removedFrom_addTo (document.without preview) new
  cases found : document.replaced? preview with
  -- Nothing was there to replace, so that deleting the addition is all there is to undo.
  | none =>
    simp only [undone, created, replaced, found, removed]
    have absent : document.container? preview = none := by
      simpa [Document.replaced?] using found
    rw [Document.without_of_none absent]
    exact ⟨.refl document, rfl⟩
  | some earlier =>
    simp only [undone, created, replaced, found, removed]
    refine ⟨document.putInto_without distinct found, ?_⟩
    rw [document.besides_putInto found, Document.without, Document.besides_besides]

/-- The ids that a restore puts entries under. -/
def RestoreCommand.members (command : RestoreCommand α) : Members :=
  ⟨command.shapes.map Shape.id, command.connectors.map Connector.id⟩

/-- Undoing a restore leaves out all entries under the restored ids, also those from before. -/
theorem RestoreCommand.undone_write {command : RestoreCommand α}
    (restored : command.restored = true) (document : Document α) :
    command.undone
        ((document.restoreShapes command.shapes).restoreConnectors command.connectors) =
      document.besides command.members := by
  -- Connectors are deleted before shapes, as if the shapes had not been restored yet.
  have apart : (document.restoreShapes command.shapes).eraseConnectors
      (command.connectors.map Connector.id) =
        (document.eraseConnectors (command.connectors.map Connector.id)).restoreShapes
          command.shapes := rfl
  simp only [undone, restored, if_true, Document.eraseConnectors_restoreConnectors]
  rw [apart, Document.eraseShapes_restoreShapes, Document.besides, members]

/-- Undoing a restore gives the very document back if nothing was restored over an entry. -/
theorem RestoreCommand.undone_restored {command : RestoreCommand α}
    (restored : command.restored = true)
    (shapes_absent : ∀ shape ∈ command.shapes, shape.id ∉ document.shapeIds)
    (connectors_absent : ∀ connector ∈ command.connectors,
      connector.id ∉ document.connectorIds) :
    command.undone
        ((document.restoreShapes command.shapes).restoreConnectors command.connectors) =
      document := by
  rw [RestoreCommand.undone_write restored, Document.besides_eq_self]
  · intro id listed
    obtain ⟨shape, member, rfl⟩ := List.mem_map.mp listed
    exact shapes_absent shape member
  · intro id listed
    obtain ⟨connector, member, rfl⟩ := List.mem_map.mp listed
    exact connectors_absent connector member

end Reversal

/-! ### Round after round -/

namespace UpdateCommand

variable [Scalar α]

/-- Executes an update and undoes it, so many times. Gives all answers in order. -/
def rounds (store : DocumentStore α σ) :
    Nat → UpdateCommand α → StateM σ (List (Except CommandError Unit) × UpdateCommand α)
  | 0, command => pure ([], command)
  | count + 1, command => do
    let (executed, command) ← command.execute store
    let (undone, command) ← command.undo store
    let (answers, command) ← rounds store count command
    pure (executed :: undone :: answers, command)

/-- What an update does to its document in a run after which it is not executed: ids are drawn, and
if they are fresh, then the records stay, and so does the order of what is not replaced. -/
structure Restores (supply : Supply) (command : UpdateCommand α) (memory after : Memory α) :
    Prop where
  shapesDrawn : memory.shapesDrawn ≤ after.shapesDrawn
  connectorsDrawn : memory.connectorsDrawn ≤ after.connectorsDrawn
  restored : (memory.documentOrEmpty command.document).Distinct →
    supply.Fresh command.document memory after →
    let before := memory.documentOrEmpty command.document
    let back := after.documentOrEmpty command.document
    back.SameRecords before ∧
      back.besides (before.entries command.preview) =
        before.besides (before.entries command.preview)

namespace Restores

variable {supply : Supply} {command : UpdateCommand α} {memory between after : Memory α}

omit [Scalar α] in
theorem refl (supply : Supply) (command : UpdateCommand α) (memory : Memory α) :
    Restores supply command memory memory :=
  ⟨Nat.le_refl _, Nat.le_refl _, fun _ _ => ⟨.refl _, rfl⟩⟩

omit [Scalar α] in
theorem trans (first : Restores supply command memory between)
    (second : Restores supply command between after) : Restores supply command memory after where
  shapesDrawn := first.shapesDrawn.trans second.shapesDrawn
  connectorsDrawn := first.connectorsDrawn.trans second.connectorsDrawn
  restored distinct fresh := by
    have fresh_first := fresh.part (Nat.le_refl _) second.shapesDrawn (Nat.le_refl _)
      second.connectorsDrawn (List.Subset.refl _) (List.Subset.refl _)
    obtain ⟨same_first, order_first⟩ := first.restored distinct fresh_first
    -- The second run starts from the same ids, since the first has brought the records back.
    have fresh_second := fresh.part first.shapesDrawn (Nat.le_refl _) first.connectorsDrawn
      (Nat.le_refl _) same_first.shapeIds.subset same_first.connectorIds.subset
    obtain ⟨same_second, order_second⟩ :=
      second.restored (same_first.symm.distinct distinct) fresh_second
    refine ⟨same_second.trans same_first, ?_⟩
    -- What belongs to the import is read off the document again, and is the same.
    rw [same_first.symm.entries distinct] at order_first ⊢
    exact order_second.trans order_first

end Restores

theorem round_does (supply : Supply) (batches : Bool) (memory : Memory α)
    (command : UpdateCommand α) (pending : command.created = none)
    (forgotten : command.replaced = none) {plan : Plan α}
    (planned : Plan.ofText command.family command.source command.config = .ok plan) :
    ∃ executed between after,
      (command.execute (store supply batches)).run memory = ((.ok (), executed), between) ∧
      (executed.undo (store supply batches)).run between = ((.ok (), command), after) ∧
      Restores supply command memory after := by
  let before := memory.documentOrEmpty command.document
  let content := command.content (before.replaced? command.preview)
  let addition := memory.nextAddition supply content plan
  let executed : UpdateCommand α :=
    { command with
      created := some addition.created
      replaced := before.replaced? command.preview }
  obtain ⟨between, made, became⟩ := command.execute_does supply batches memory pending planned
  obtain ⟨after, taken_back, became_after⟩ := executed.undo_does supply batches between rfl
  have drawn := became.trans became_after
  -- The undone command has forgotten everything, so that it is the command from before.
  have forgets : { executed with created := none, replaced := none } = command := by
    rw [← pending, ← forgotten]
  rw [forgets] at taken_back
  refine ⟨executed, between, after, made, taken_back, ?_, ?_, ?_⟩
  · exact drawn.shapesDrawn ▸ Nat.le_add_right _ _
  · exact drawn.connectorsDrawn ▸ Nat.le_add_right _ _
  · intro distinct fresh before back
    -- Undoing draws no ids, so that what is fresh for the round is fresh for the execution alone.
    have fresh_between : supply.Fresh command.document memory between :=
      fresh.part (Nat.le_refl _) (Nat.le_of_eq became_after.shapesDrawn.symm) (Nat.le_refl _)
        (Nat.le_of_eq became_after.connectorsDrawn.symm) (List.Subset.refl _) (List.Subset.refl _)
    obtain ⟨new, added⟩ := became.written_eq_addTo (Plan.ofText_indexed planned) fresh_between
      (before.without_shapeIds_subset _) (before.without_connectorIds_subset _)
    have undone : back = executed.undone (addition.addTo (before.without command.preview)) :=
      became_after.held.trans (congrArg executed.undone added)
    rw [undone]
    exact UpdateCommand.undone_addTo rfl rfl distinct new

theorem rounds_does (supply : Supply) (batches : Bool) (memory : Memory α)
    (command : UpdateCommand α) (pending : command.created = none)
    (forgotten : command.replaced = none) {plan : Plan α}
    (planned : Plan.ofText command.family command.source command.config = .ok plan) (count : Nat) :
    ∃ after,
      (command.rounds (store supply batches) count).run memory =
        ((List.replicate (2 * count) (.ok ()), command), after) ∧
      Restores supply command memory after := by
  induction count generalizing memory with
  | zero => exact ⟨memory, rfl, .refl supply command memory⟩
  | succ count ih =>
    -- A round ends with the command that it started with, so that the others are rounds of it too.
    obtain ⟨executed, between, middle, made, taken_back, restores⟩ :=
      round_does supply batches memory command pending forgotten planned
    obtain ⟨after, others, restores_rest⟩ := ih middle
    refine ⟨after, ?_, restores.trans restores_rest⟩
    refine (run_bind_of_run made).trans ((run_bind_of_run taken_back).trans ?_)
    exact run_bind_of_run others

/-- However often an update is executed and undone: all calls succeed, the update is ready to be
executed again, the records of the document are those from before, and the entries that do not
belong to the import it replaces are in the order from before. -/
theorem rounds_restore (supply : Supply) (batches : Bool) (memory : Memory α)
    (id : DocumentId) (preview : ShapeId) (family : Family) (source : String) (config : Config α)
    (valid : (Plan.ofText family source config).isOk = true)
    (distinct : (memory.documentOrEmpty id).Distinct) (count : Nat)
    (fresh : supply.Fresh id memory (((UpdateCommand.new id preview family source config).rounds
      (store supply batches) count).run memory).2) :
    let command := UpdateCommand.new id preview family source config
    let ended := (command.rounds (store supply batches) count).run memory
    let before := memory.documentOrEmpty id
    let back := ended.2.documentOrEmpty id
    ended.1 = (List.replicate (2 * count) (.ok ()), command) ∧
      back.SameRecords before ∧
      back.besides (before.entries preview) = before.besides (before.entries preview) := by
  intro command ended before back
  cases planned : Plan.ofText family source config with
  | error error => simp [planned, Except.isOk, Except.toBool] at valid
  | ok plan =>
    obtain ⟨after, run, restores⟩ :=
      rounds_does supply batches memory command rfl rfl planned count
    have ended_with : ended = ((List.replicate (2 * count) (.ok ()), command), after) := run
    have fresh_after : supply.Fresh id memory after := by
      rw [run] at fresh
      exact fresh
    simp only [back, ended_with, true_and]
    exact restores.restored distinct fresh_after

/-- A flow chart is imported, and its preview replaced and put back twice. -/
theorem rounds_restore_twice :
    let supply := Supply.numbered
    let id : DocumentId := ⟨.numbered 2 0⟩
    let drawn : CreateCommand Rat := .new ⟨id, .flow, "bpmn\nstart --> a", .zero, .default⟩
    let memory := ((drawn.execute (store supply true)).run .empty).2
    let update : UpdateCommand Rat :=
      .new id (supply.shape 2) .flow "bpmn\na -->|next| b; task c" .default
    let ended := (update.rounds (store supply true) 2).run memory
    let before := memory.documentOrEmpty id
    let back := ended.2.documentOrEmpty id
    (before.replaced? (supply.shape 2)).isSome = true ∧
      ended.1 = ([.ok (), .ok (), .ok (), .ok ()], update) ∧
      back.SameRecords before ∧
      back.besides (before.entries (supply.shape 2)) =
        before.besides (before.entries (supply.shape 2)) :=
  ⟨by decide +kernel,
    rounds_restore .numbered true _ _ _ .flow "bpmn\na -->|next| b; task c" .default
      (by decide +kernel) (by decide +kernel) 2 (by decide +kernel)⟩

end UpdateCommand

end TextDiagram
