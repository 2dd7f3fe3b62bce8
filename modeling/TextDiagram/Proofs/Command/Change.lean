import TextDiagram.Proofs.Command.Reversal

/-!
# What commands change

Commands of all kinds are alike in this: executing one changes its own document alone, in a way
that only depends on the records of the document, and taking the change back brings the records
from before. Main statement: a command either fails on its text and leaves the store untouched, or
makes a change of its kind.
-/
namespace TextDiagram

variable {α : Type}

open Memory

/-- What is added by an import of a plan whose shapes and connectors have all been given ids. -/
inductive Addition.Planned [Scalar α] : Addition α → Prop where
  | ofImport (content : Import α) {plan : Plan α} {shapeIds : List ShapeId}
      {connectorIds : List ConnectorId} (containerId : ShapeId) (indexed : plan.Indexed)
      (shapes : shapeIds.length = plan.shapes.length)
      (connectors : connectorIds.length = plan.connectors.length) :
      Planned (content.addition plan shapeIds connectorIds containerId)

theorem Memory.nextAddition_planned [Scalar α] (supply : Supply) (memory : Memory α)
    (content : Import α) {plan : Plan α} (indexed : plan.Indexed) :
    (memory.nextAddition supply content plan).Planned :=
  .ofImport content _ indexed (idsFrom_length ..) (idsFrom_length ..)

namespace Command

/-- The document that a command is about. -/
def document : Command α → DocumentId
  | create command => command.content.document
  | update command => command.document
  | restore command => command.document

/-- The command has nothing created that it has not deleted. -/
def Pending (command : Command α) : Prop :=
  command.created? = none

/-- Whether the command puts back entries that it has been given. -/
def restores : Command α → Bool
  | create _ | update _ => false
  | restore _ => true

/-- Nothing that a restore puts back is in the document. Other commands may always run. -/
def Admissible : Command α → Document α → Prop
  | restore command, document =>
    (∀ shape ∈ command.shapes, shape.id ∉ document.shapeIds) ∧
      ∀ connector ∈ command.connectors, connector.id ∉ document.connectorIds
  | _, _ => True

/-- The document with the change of a command taken back. -/
def undone : Command α → Document α → Document α
  | create command => command.undone
  | update command => command.undone
  | restore command => command.undone

/-- An executed command, with its document before and after. -/
inductive Changes [Scalar α] : Command α → Document α → Document α → Prop where
  | create {command : CreateCommand α} {document : Document α} {addition : Addition α}
      (created : command.created = some addition.created) (planned : addition.Planned)
      (new : addition.New document) :
      Changes (.create command) document (addition.addTo document)
  | update {command : UpdateCommand α} {document : Document α} {addition : Addition α}
      (created : command.created = some addition.created) (planned : addition.Planned)
      (replaced : command.replaced = document.replaced? command.preview)
      (new : addition.New (document.without command.preview)) :
      Changes (.update command) document (addition.addTo (document.without command.preview))
  | restore {command : RestoreCommand α} {document : Document α}
      (restored : command.restored = true)
      (absent : (Command.restore command).Admissible document) :
      Changes (.restore command) document
        ((document.restoreShapes command.shapes).restoreConnectors command.connectors)

variable {command : Command α} {before after other : Document α}

theorem Changes.distinct [Scalar α] (changes : command.Changes before after)
    (distinct : before.Distinct) : after.Distinct := by
  cases changes with
  | create _ _ new => exact Addition.addTo_distinct distinct new
  | update _ _ _ new => exact Addition.addTo_distinct (Document.without_distinct distinct _) new
  | restore => exact (distinct.restoreShapes _).restoreConnectors _

/-- Taking the change of a command back brings the records from before. -/
theorem Changes.undone_same [Scalar α] (changes : command.Changes before after)
    (distinct : before.Distinct) : (command.undone after).SameRecords before := by
  cases changes with
  | create created _ new =>
    simp only [undone, CreateCommand.undone_addTo created new]
    exact .refl before
  | update created _ replaced new =>
    exact (UpdateCommand.undone_addTo created replaced distinct new).1
  | restore restored absent =>
    simp only [undone, RestoreCommand.undone_restored restored absent.1 absent.2]
    exact .refl before

end Command

/-! ### Undoing does not depend on the order of a document -/

theorem Created.removedFrom_distinct (created : Created) {document : Document α}
    (distinct : document.Distinct) : (created.removedFrom document).Distinct :=
  ((distinct.eraseShapes _).eraseConnectors _).eraseShapes _

theorem Created.removedFrom_congr (created : Created) {document other : Document α}
    (same : document.SameRecords other) :
    (created.removedFrom document).SameRecords (created.removedFrom other) :=
  ((same.eraseShapes _).eraseConnectors _).eraseShapes _

theorem Command.undone_congr (command : Command α) {document other : Document α}
    (distinct : document.Distinct) (same : document.SameRecords other) :
    (command.undone document).SameRecords (command.undone other) := by
  cases command with
  | create command =>
    simp only [undone, CreateCommand.undone]
    split
    · exact same
    · exact Created.removedFrom_congr _ same
  | update command =>
    simp only [undone, UpdateCommand.undone]
    split
    · exact same
    -- What is put back takes the place of entries with its ids, wherever they stand.
    · split
      · exact Created.removedFrom_congr _ same
      · exact Replaced.putInto_congr _ (Created.removedFrom_distinct _ distinct)
          (Created.removedFrom_congr _ same)
  | restore command =>
    simp only [undone, RestoreCommand.undone]
    split
    · exact (same.eraseConnectors _).eraseShapes _
    · exact same

/-! ### Runs of commands -/

namespace Command

theorem lift_run {κ σ : Type} {wrap : κ → Command α} {run : StateM σ (Ended κ)} {before after : σ}
    {result : Except CommandError Unit} {ended : κ}
    (ran : run.run before = ((result, ended), after)) :
    (lift wrap run).run before = ((result, wrap ended), after) :=
  run_bind_of_run ran

theorem undo_does (supply : Supply) (batches : Bool) (memory : Memory α) (command : Command α) :
    ∃ ended after,
      (command.undo (store supply batches)).run memory = ((.ok (), ended), after) ∧
      ended.description = command.description ∧
      Becomes command.document memory after
        (command.undone (memory.documentOrEmpty command.document)) 0 0 := by
  cases command with
  | create command =>
    obtain ⟨after, ran, became⟩ := command.undo_does supply batches memory
    exact ⟨_, after, lift_run ran, rfl, became⟩
  | update command =>
    cases created : command.created with
    -- An update that has created nothing has nothing to undo.
    | none =>
      refine ⟨.update command, memory, lift_run ?_, rfl, ?_⟩
      · simp only [UpdateCommand.undo, created]
        rfl
      · simp only [undone, UpdateCommand.undone, created]
        exact .refl _ memory
    | some created =>
      obtain ⟨after, ran, became⟩ := command.undo_does supply batches memory ‹_›
      exact ⟨_, after, lift_run ran, rfl, became⟩
  | restore command =>
    obtain ⟨after, ran, became⟩ := command.undo_does supply batches memory
    exact ⟨_, after, lift_run ran, rfl, became⟩

/-- A command either fails on its text and leaves the store untouched, or changes its document. -/
theorem execute_does [Scalar α] (supply : Supply) (batches : Bool) (memory : Memory α)
    (command : Command α) (pending : command.Pending) :
    (∃ error, (command.execute (store supply batches)).run memory =
      ((.error (.format error), command), memory)) ∨
    ∃ executed after,
      (command.execute (store supply batches)).run memory = ((.ok (), executed), after) ∧
      executed.document = command.document ∧ executed.restores = command.restores ∧
      (∀ id, id ≠ command.document → after.document? id = memory.document? id) ∧
      (command.Admissible (memory.documentOrEmpty command.document) →
        supply.Fresh command.document memory after →
        executed.Changes (memory.documentOrEmpty command.document)
          (after.documentOrEmpty command.document)) := by
  cases command with
  | create command =>
    cases planned : Plan.ofText command.content.family command.content.source
      command.content.config with
    | error error =>
      exact .inl ⟨error, lift_run (command.execute_refused _ memory pending planned)⟩
    | ok plan =>
      have indexed := Plan.ofText_indexed planned
      obtain ⟨after, ran, became⟩ := command.execute_does supply batches memory pending planned
      refine .inr ⟨_, after, lift_run ran, rfl, rfl, became.others, fun _ fresh => ?_⟩
      obtain ⟨new, added⟩ := became.written_eq_addTo indexed fresh (List.Subset.refl _)
        (List.Subset.refl _)
      simp only [document, added]
      exact .create rfl (memory.nextAddition_planned supply command.content indexed) new
  | update command =>
    cases planned : Plan.ofText command.family command.source command.config with
    | error error =>
      exact .inl ⟨error, lift_run (command.execute_refused _ memory pending planned)⟩
    | ok plan =>
      have indexed := Plan.ofText_indexed planned
      obtain ⟨after, ran, became⟩ := command.execute_does supply batches memory pending planned
      refine .inr ⟨_, after, lift_run ran, rfl, rfl, became.others, fun _ fresh => ?_⟩
      -- Ids that are fresh for the document are fresh for what the replaced import leaves of it.
      obtain ⟨new, added⟩ := became.written_eq_addTo indexed fresh
        (Document.without_shapeIds_subset _ _) (Document.without_connectorIds_subset _ _)
      have drawn := memory.nextAddition_planned supply (command.content
        ((memory.documentOrEmpty command.document).replaced? command.preview)) indexed
      simp only [document, added]
      exact .update rfl drawn rfl new
  | restore command =>
    obtain ⟨after, ran, became⟩ := command.execute_does supply batches memory
    refine .inr ⟨_, after, lift_run ran, rfl, rfl, became.others, fun absent _ => ?_⟩
    simp only [document, became.held]
    exact .restore rfl absent

end Command

end TextDiagram
