import TextDiagram.Proofs.Command.Reversal

/-!
# Undoing a restore

A restore puts entries in place of those with the same ids and does not note what it replaces; its
undo deletes what it has put in. Main statement: executing a restore and undoing it leaves the
document without all entries under the restored ids, so the records from before are back exactly
when none of these ids was there.
-/
namespace TextDiagram

variable {α : Type}

open Memory

namespace Document

variable {document : Document α} {members : Members}

/-- Leaving entries out changes the records as soon as one of them is there. -/
theorem besides_sameRecords_iff :
    (document.besides members).SameRecords document ↔
      (∀ id ∈ members.shapes, id ∉ document.shapeIds) ∧
        ∀ id ∈ members.connectors, id ∉ document.connectorIds := by
  constructor
  · intro same
    have shapes := List.length_filter_eq_length_iff.mp same.shapes.length_eq
    have connectors := List.length_filter_eq_length_iff.mp same.connectors.length_eq
    constructor
    · intro id listed held
      obtain ⟨shape, member, rfl⟩ := List.mem_map.mp held
      exact of_decide_eq_true (shapes shape member) listed
    · intro id listed held
      obtain ⟨connector, member, rfl⟩ := List.mem_map.mp held
      exact of_decide_eq_true (connectors connector member) listed
  · rintro ⟨shapes, connectors⟩
    rw [besides_eq_self shapes connectors]
    exact .refl document

end Document

namespace RestoreCommand

/-- Executing a restore and undoing it succeeds, and leaves the entries of the document besides
those under the restored ids, in order. The document has its records again exactly when it had none
of these ids. -/
theorem undo_restores_iff (supply : Supply) (batches : Bool) (memory : Memory α)
    (id : DocumentId) (shapes : List (Shape α)) (connectors : List Connector) :
    let command := RestoreCommand.new id shapes connectors
    let before := memory.documentOrEmpty id
    let executed := (command.execute (store supply batches)).run memory
    let undone := (executed.1.2.undo (store supply batches)).run executed.2
    let back := undone.2.documentOrEmpty id
    executed.1.1 = .ok () ∧ undone.1 = (.ok (), command) ∧
      back = before.besides command.members ∧
      (back.SameRecords before ↔
        (∀ shape ∈ shapes, shape.id ∉ before.shapeIds) ∧
          ∀ connector ∈ connectors, connector.id ∉ before.connectorIds) := by
  intro command before executed undone back
  obtain ⟨between, ran, became⟩ := command.execute_does supply batches memory
  obtain ⟨after, taken_back, became_after⟩ :=
    RestoreCommand.undo_does supply batches between { command with restored := true }
  have executed_eq : executed = ((.ok (), { command with restored := true }), between) := ran
  have undone_eq : undone = ((.ok (), command), after) := by
    simp only [undone, executed_eq]
    exact taken_back
  have back_eq : back = before.besides command.members := by
    have held := became_after.held
    rw [became.held] at held
    simp only [back, undone_eq]
    exact held.trans (RestoreCommand.undone_write rfl before)
  refine ⟨by rw [executed_eq], by rw [undone_eq], back_eq, ?_⟩
  rw [back_eq, Document.besides_sameRecords_iff]
  simp [members, command, new]

/-- A shape is restored in another place, under the id that it still has; undoing deletes it. -/
theorem undo_loses_shape :
    let id : DocumentId := ⟨.numbered 2 0⟩
    let shape (x : Rat) : Shape Rat := ⟨⟨.numbered 3 0⟩, "task", ⟨x, 0, 120, 60⟩, none, .null⟩
    let memory : Memory Rat := ⟨[⟨id, [shape 0], []⟩], 0, 0⟩
    let before := memory.documentOrEmpty id
    let executed := ((RestoreCommand.new id [shape 100] []).execute (store .numbered true)).run
      memory
    let undone := (executed.1.2.undo (store .numbered true)).run executed.2
    let back := undone.2.documentOrEmpty id
    before.Distinct ∧ before.shapes = [shape 0] ∧ back.shapes = [] ∧ ¬ back.SameRecords before := by
  intro id shape memory before executed undone back
  have distinct : before.Distinct := by decide +kernel
  have lost : back.shapes = [] := rfl
  refine ⟨distinct, rfl, lost, fun same => ?_⟩
  have length := same.shapes.length_eq
  rw [lost] at length
  cases length

end RestoreCommand

end TextDiagram
