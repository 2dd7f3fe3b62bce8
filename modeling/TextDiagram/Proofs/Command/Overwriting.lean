import TextDiagram.Proofs.Command.Reversal
import TextDiagram.Proofs.Document.Overwriting
import TextDiagram.Proofs.Store.Batches

/-!
# Restoring over what is there

A restore puts entries into a document under ids that it is given, some of which may be there, and
some of which may be given more than once. Main statement: on a store in memory the restored entries
overwrite the document by their ids, the last one given for an id counts, and restoring them again
changes nothing in the store. All entries of a document with distinct ids, restored where there is
nothing, give its lists as they were.
-/
namespace TextDiagram

variable {α : Type}

/-! ### Documents -/

theorem EntryKind.restore_twice {β ι : Type} [DecidableEq ι] (kind : EntryKind α β ι)
    {document : Document α} (distinct : (kind.ids document).Nodup) (items : List β) :
    kind.restore (kind.restore document items) items = kind.restore document items := by
  rw [restore, restore, kind.entries_put, kind.put_put,
    upsertAll_upsertAll kind.key items distinct]

namespace Document

variable {document : Document α}

theorem restoreShapes_twice (distinct : document.Distinct) (shapes : List (Shape α)) :
    (document.restoreShapes shapes).restoreShapes shapes = document.restoreShapes shapes :=
  shapeKind.restore_twice distinct.shapes shapes

theorem restoreConnectors_twice (distinct : document.Distinct) (connectors : List Connector) :
    (document.restoreConnectors connectors).restoreConnectors connectors =
      document.restoreConnectors connectors :=
  connectorKind.restore_twice distinct.connectors connectors

theorem eq_nil_of_restored {shapes : List (Shape α)} {connectors : List Connector}
    {id : DocumentId}
    (nothing : (document.restoreShapes shapes).restoreConnectors connectors = empty id) :
    shapes = [] ∧ connectors = [] := by
  have no_shapes : upsertAll Shape.id shapes document.shapes = [] :=
    congrArg Document.shapes nothing
  have no_connectors : upsertAll Connector.id connectors document.connectors = [] :=
    congrArg Document.connectors nothing
  exact ⟨eq_nil_of_upsertAll Shape.id no_shapes, eq_nil_of_upsertAll Connector.id no_connectors⟩

/-- The entries of a document, restored where there is nothing. -/
theorem restore_empty {source : Document α} (distinct : source.Distinct) (id : DocumentId) :
    ((empty id).restoreShapes source.shapes).restoreConnectors source.connectors =
      { source with id } := by
  have shapes := upsertAll_of_distinct Shape.id distinct.shapes
  have connectors := upsertAll_of_distinct Connector.id distinct.connectors
  exact congrArg₂ (Document.mk id) shapes connectors

end Document

/-! ### Writing again -/

namespace Memory

theorem document?_of_ne_empty {memory : Memory α} {id : DocumentId}
    (some_entry : memory.documentOrEmpty id ≠ .empty id) :
    memory.document? id = some (memory.documentOrEmpty id) := by
  cases held : memory.document? id with
  | none => exact absurd (by simp [documentOrEmpty, held]) some_entry
  | some document => rw [documentOrEmpty_of_some held]

theorem keep_held {memory : Memory α} {id : DocumentId} {document : Document α}
    (held : memory.document? id = some document) : memory.keep document = memory := by
  have same_id : document.id = id := by simpa using List.find?_some held
  subst same_id
  exact congrArg (fun documents => { memory with documents }) (upsert_of_found Document.id held)

/-- A change that changes nothing leaves the store as it is. -/
theorem write_held {memory : Memory α} {id : DocumentId} {document : Document α}
    (change : Document α → Document α) (held : memory.document? id = some document)
    (same : change document = document) : (write id change).Yields memory document memory := by
  have written : (write id change).Yields memory (change (memory.documentOrEmpty id))
      (memory.keep (change (memory.documentOrEmpty id))) := rfl
  rwa [documentOrEmpty_of_some held, same, keep_held held] at written

theorem write_twice (memory : Memory α) (id : DocumentId) (change : Document α → Document α)
    (same_id : ∀ document, (change document).id = document.id)
    (same : change (change (memory.documentOrEmpty id)) = change (memory.documentOrEmpty id)) :
    ∃ after, (write id change).Yields memory (change (memory.documentOrEmpty id)) after ∧
      Becomes id memory after (change (memory.documentOrEmpty id)) 0 0 ∧
      (write id change).Yields after (change (memory.documentOrEmpty id)) after := by
  have changed_id := (same_id _).trans (memory.documentOrEmpty_id id)
  have held := document?_keep memory (change (memory.documentOrEmpty id))
  rw [changed_id] at held
  exact ⟨_, rfl, .keep memory _ changed_id, write_held change held same⟩

end Memory

open Memory

/-! ### Executing again -/

namespace RestoreCommand

variable (supply : Supply) (batches : Bool)

/-- Entries that are there already are restored without a change. -/
theorem write_held {command : RestoreCommand α} {memory : Memory α} {document : Document α}
    (held : memory.document? command.document = some document)
    (shapes : document.restoreShapes command.shapes = document)
    (connectors : document.restoreConnectors command.connectors = document) :
    (command.write (store supply batches)).Yields memory () memory := by
  obtain ⟨id, restored_shapes, restored_connectors, restored⟩ := command
  have shapes_written := Memory.write_held (·.restoreShapes restored_shapes) held shapes
  have connectors_written : StoreCall.Yields
      (do if !restored_connectors.isEmpty then
            let _ ← (store supply batches).restoreConnectors id restored_connectors) memory ()
      memory := by
    cases restored_connectors with
    | nil => rfl
    | cons first rest =>
      have written :=
        Memory.write_held (·.restoreConnectors (first :: rest)) held connectors
      exact StoreCall.Yields.bind written rfl
  cases restored_shapes with
  | nil => exact connectors_written
  | cons => exact shapes_written.bind connectors_written

/-- Executing a restore and executing it again. The second time nothing in the store changes. -/
theorem execute_twice (command : RestoreCommand α) (memory : Memory α)
    (distinct : (memory.documentOrEmpty command.document).Distinct) :
    let document := ((memory.documentOrEmpty command.document).restoreShapes
      command.shapes).restoreConnectors command.connectors
    let restored := { command with restored := true }
    ∃ after, (command.execute (store supply batches)).run memory = ((.ok (), restored), after) ∧
      Becomes command.document memory after document 0 0 ∧
      (restored.execute (store supply batches)).run after = ((.ok (), restored), after) := by
  intro document restored
  obtain ⟨after, executed, became⟩ := command.execute_does supply batches memory
  refine ⟨after, executed, became, ?_⟩
  have written_again : (restored.write (store supply batches)).Yields after () after := by
    by_cases nothing : document = .empty command.document
    -- Without entries to restore no call is made, and none when it is executed again.
    · obtain ⟨no_shapes, no_connectors⟩ := Document.eq_nil_of_restored nothing
      have no_call : restored = ⟨command.document, [], [], true⟩ := by
        simp only [restored, no_shapes, no_connectors]
      rw [no_call]
      rfl
    · have held : after.document? command.document = some document := by
        rw [document?_of_ne_empty (became.held ▸ nothing), became.held]
      -- Restored connectors do not touch the shapes, so either restore may come first.
      have shapes_stay : document.restoreShapes command.shapes = document :=
        congrArg (·.restoreConnectors command.connectors)
          (Document.restoreShapes_twice distinct command.shapes)
      have connectors_stay : document.restoreConnectors command.connectors = document :=
        Document.restoreConnectors_twice (distinct.restoreShapes _) command.connectors
      exact write_held supply batches held shapes_stay connectors_stay
  exact written_again.run_bind

end RestoreCommand

/-! ### Restoring -/

/-- Restored entries overwrite a document whose entries have distinct ids, whether they are restored
by a call to the store or by a command, and restoring them again changes nothing. What is restored
from a document with distinct ids into an empty one gives its lists again. -/
theorem Memory.restore_overwrites (supply : Supply) (batches : Bool) (memory : Memory α)
    (id : DocumentId) (shapes : List (Shape α)) (connectors : List Connector)
    (distinct : (memory.documentOrEmpty id).Distinct) :
    let store := store supply batches
    let before := memory.documentOrEmpty id
    let command := RestoreCommand.new id shapes connectors
    let restored := { command with restored := true }
    (∃ document after, (store.restoreShapes id shapes).Yields memory document after ∧
      Becomes id memory after document 0 0 ∧
      Overwritten Shape.id shapes before.shapes document.shapes ∧
      document.connectors = before.connectors ∧
      (store.restoreShapes id shapes).Yields after document after) ∧
    (∃ document after, (store.restoreConnectors id connectors).Yields memory document after ∧
      Becomes id memory after document 0 0 ∧
      document.shapes = before.shapes ∧
      Overwritten Connector.id connectors before.connectors document.connectors ∧
      (store.restoreConnectors id connectors).Yields after document after) ∧
    (∃ document after, (command.execute store).run memory = ((.ok (), restored), after) ∧
      Becomes id memory after document 0 0 ∧
      Overwritten Shape.id shapes before.shapes document.shapes ∧
      Overwritten Connector.id connectors before.connectors document.connectors ∧
      (restored.execute store).run after = ((.ok (), restored), after)) ∧
    (before = .empty id → ∀ source : Document α, source.Distinct →
      let command := RestoreCommand.new id source.shapes source.connectors
      (∃ held between after,
        (store.restoreShapes id source.shapes).Yields memory held between ∧
        (store.restoreConnectors id source.connectors).Yields between { source with id } after) ∧
      ∃ after,
        (command.execute store).run memory = ((.ok (), { command with restored := true }), after) ∧
        after.documentOrEmpty id = { source with id }) := by
  intro store before command restored
  refine ⟨?_, ?_, ?_, fun empty source source_distinct => ?_⟩
  · obtain ⟨after, written, became, again⟩ := write_twice memory id (·.restoreShapes shapes)
      (fun _ => rfl) (Document.restoreShapes_twice distinct shapes)
    exact ⟨_, after, written, became, upsertAll_overwritten Shape.id shapes distinct.shapes, rfl,
      again⟩
  · obtain ⟨after, written, became, again⟩ := write_twice memory id
      (·.restoreConnectors connectors) (fun _ => rfl)
      (Document.restoreConnectors_twice distinct connectors)
    exact ⟨_, after, written, became, rfl,
      upsertAll_overwritten Connector.id connectors distinct.connectors, again⟩
  · obtain ⟨after, executed, became, again⟩ :=
      command.execute_twice supply batches memory distinct
    exact ⟨_, after, executed, became, upsertAll_overwritten Shape.id shapes distinct.shapes,
      upsertAll_overwritten Connector.id connectors distinct.connectors, again⟩
  · have reproduced := Document.restore_empty source_distinct id
    rw [← empty] at reproduced
    obtain ⟨between, shapes_written, became⟩ :=
      write_does memory id (·.restoreShapes source.shapes) fun _ => rfl
    obtain ⟨last, written, -⟩ :=
      write_does between id (·.restoreConnectors source.connectors) fun _ => rfl
    obtain ⟨after, executed, became_after⟩ :=
      (RestoreCommand.new id source.shapes source.connectors).execute_does supply batches memory
    rw [became.held, reproduced] at written
    exact ⟨⟨_, between, last, shapes_written, written⟩, after, executed,
      became_after.held.trans reproduced⟩

/-- Of two shapes one is restored over, twice, and between these come two new ones, the first of
them twice. -/
theorem Memory.restore_overwrites_repeated :
    let id : DocumentId := ⟨.numbered 2 0⟩
    let shape (number : Nat) (x : Rat) : Shape Rat :=
      ⟨⟨.numbered 3 number⟩, "task", ⟨x, 0, 120, 60⟩, none, .null⟩
    let memory : Memory Rat := ⟨[⟨id, [shape 0 0, shape 1 0], []⟩], 0, 0⟩
    let shapes := [shape 3 10, shape 1 20, shape 3 30, shape 2 40, shape 1 50]
    let restoreShapes := (store .numbered true).restoreShapes id shapes
    (memory.documentOrEmpty id).Distinct ∧
      ∃ document after, restoreShapes.Yields memory document after ∧
        document.shapes = [shape 0 0, shape 1 50, shape 3 30, shape 2 40] ∧
        restoreShapes.Yields after document after := by
  intro id shape memory shapes restoreShapes
  have distinct : (memory.documentOrEmpty id).Distinct := by decide +kernel
  obtain ⟨⟨document, after, written, -, -, -, again⟩, -⟩ :=
    Memory.restore_overwrites .numbered true memory id shapes [] distinct
  obtain ⟨rfl, rfl⟩ := written.unique rfl
  exact ⟨distinct, _, _, written, rfl, again⟩

end TextDiagram
