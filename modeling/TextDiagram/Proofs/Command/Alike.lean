import TextDiagram.Command.History
import TextDiagram.Proofs.Command.Content

/-!
# Stores that commands do not tell apart

A command reaches a store through few doors: the calls on single entries, and four ways to work on
lists of entries. Main statements: two stores that agree there run and undo every command alike; and
a store in memory agrees with itself when it hides that it takes entries together, and when it is
stripped of all calls on lists of entries.
-/
namespace TextDiagram

variable {α σ : Type}

/-- The calls on single entries are the same, and so is what commands make of lists of entries. -/
structure DocumentStore.Alike (store other : DocumentStore α σ) : Prop where
  single : store.toBasicStore = other.toBasicStore
  createShapes : TextDiagram.createShapes store = TextDiagram.createShapes other
  createConnectors : TextDiagram.createConnectors store = TextDiagram.createConnectors other
  deleteShapes : TextDiagram.deleteShapes store = TextDiagram.deleteShapes other
  deleteConnectors : TextDiagram.deleteConnectors store = TextDiagram.deleteConnectors other

namespace DocumentStore.Alike

variable {store other : DocumentStore α σ}

/-! ### Writing and removing content -/

theorem linkParents (alike : store.Alike other) :
    TextDiagram.linkParents store = TextDiagram.linkParents other := by
  funext document ids planned
  induction planned with
  | nil => rfl
  | cons shape rest ih => simp only [TextDiagram.linkParents, alike.single, ih]

theorem createContent [Scalar α] (alike : store.Alike other) :
    TextDiagram.createContent store = TextDiagram.createContent other := by
  funext content plan
  simp only [TextDiagram.createContent, alike.single, alike.createShapes, alike.linkParents,
    alike.createConnectors]

theorem removeContent (alike : store.Alike other) :
    TextDiagram.removeContent store = TextDiagram.removeContent other := by
  funext document created
  simp only [TextDiagram.removeContent, alike.single, alike.deleteConnectors, alike.deleteShapes]

theorem take (alike : store.Alike other) :
    Replaced.take store = Replaced.take (α := α) other := by
  funext document preview
  simp only [Replaced.take, alike.single, alike.deleteConnectors, alike.deleteShapes]

theorem putBack (alike : store.Alike other) :
    Replaced.putBack store = Replaced.putBack (α := α) other := by
  funext document replaced
  simp only [Replaced.putBack, alike.single]

/-! ### Commands -/

theorem execute [Scalar α] (alike : store.Alike other) :
    Command.execute store = Command.execute other := by
  funext command
  cases command with
  | create command =>
    simp only [Command.execute, CreateCommand.execute, alike.createContent]
  | update command =>
    simp only [Command.execute, UpdateCommand.execute, alike.take, alike.createContent]
  | restore command =>
    simp only [Command.execute, RestoreCommand.execute, RestoreCommand.write, alike.single]

theorem undo (alike : store.Alike other) : Command.undo store = Command.undo other := by
  funext command
  cases command with
  | create command => simp only [Command.undo, CreateCommand.undo, alike.removeContent]
  | update command =>
    simp only [Command.undo, UpdateCommand.undo, alike.removeContent, alike.putBack]
  | restore command =>
    simp only [Command.undo, RestoreCommand.undo, RestoreCommand.erase, alike.deleteConnectors,
      alike.deleteShapes]

end DocumentStore.Alike

/-! ### A store in memory -/

namespace Memory

variable (supply : Supply)

/-- It makes no difference whether the store hides that it takes entries together. -/
theorem store_alike (batches : Bool) :
    (store supply batches).Alike (store (α := α) supply true) := by
  cases batches with
  | true => exact ⟨rfl, rfl, rfl, rfl, rfl⟩
  | false =>
    refine ⟨rfl, ?_, ?_, rfl, rfl⟩
    · funext id drafts
      exact shapeSeries.createEach_eq supply id drafts
    · funext id drafts
      exact connectorSeries.createEach_eq supply id drafts

/-- The store with nothing but its calls on single entries; all calls on lists of entries are made
of these. -/
def minimal (batches : Bool) : DocumentStore α (Memory α) :=
  { (store supply true).toBasicStore.oneByOne with batches }

/-- Creating entries together asks the store only when there are some. -/
theorem Series.createTogether_addEach {β δ ι : Type} (series : Series α β δ ι) (id : DocumentId)
    (drafts : List δ) :
    createTogether series.ids
        ((store supply true).addEach id fun _ draft => series.add supply id [draft]) drafts =
      createTogether series.ids (series.add supply id) drafts := by
  cases drafts with
  | nil => rfl
  | cons draft rest =>
    simp only [createTogether, addEach_eq _ id (series.add_append supply id) (List.cons_ne_nil _ _)]

/-- Deleting entries asks the store only when there are some, too. -/
theorem listed_deleteEach {β ι : Type} [DecidableEq ι] (kind : EntryKind α β ι) (id : DocumentId)
    (keys : List ι) :
    (if keys.isEmpty then pure ()
      else do
        let _ ← BasicStore.lastChange (fun key => kind.delete id [key]) none keys
        pure ()) =
      (if keys.isEmpty then pure () else do let _ ← kind.delete id keys; pure ()) := by
  rw [kind.deleteEach_eq]

/-- It makes no difference either whether entries are deleted one by one. -/
theorem minimal_alike (batches : Bool) :
    (minimal supply batches).Alike (store (α := α) supply true) where
  single := rfl
  createShapes := by
    funext id drafts
    cases batches with
    | true => exact shapeSeries.createTogether_addEach supply id drafts
    | false => exact shapeSeries.createEach_eq supply id drafts
  createConnectors := by
    funext id drafts
    cases batches with
    | true => exact connectorSeries.createTogether_addEach supply id drafts
    | false => exact connectorSeries.createEach_eq supply id drafts
  deleteShapes := by
    funext id ids
    exact listed_deleteEach shapeKind id ids
  deleteConnectors := by
    funext id ids
    exact listed_deleteEach connectorKind id ids

end Memory

end TextDiagram
