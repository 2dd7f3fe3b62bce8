import TextDiagram.Proofs.Command.Reversal
import TextDiagram.Proofs.Store.Operations

/-!
# A create, executed and undone in turn

A create command is executed and undone in any order, and documents are edited by others in between.
Main statement: the command is in one of two states. A call that would not change the state touches
no store; an execution puts new entries behind those of the document, and an undo takes out those
that the command has created, which are all still there as long as nobody else deletes them. Without
edits in between the document of an undone command is the one from the start.
-/
namespace TextDiagram

variable {α : Type}

open Memory

/-! ### Edits beside a command -/

/-- The edit deletes none of these entries. -/
structure Edit.Spares (edit : Edit α) (members : Members) : Prop where
  shapes : ∀ shape ∈ members.shapes, shape ∉ edit.deletedShapes
  connectors : ∀ connector ∈ members.connectors, connector ∉ edit.deletedConnectors

instance (edit : Edit α) (members : Members) : Decidable (edit.Spares members) :=
  decidable_of_iff
    ((∀ shape ∈ members.shapes, shape ∉ edit.deletedShapes) ∧
      ∀ connector ∈ members.connectors, connector ∉ edit.deletedConnectors)
    ⟨fun spared => ⟨spared.1, spared.2⟩, fun spared => ⟨spared.shapes, spared.connectors⟩⟩

/-- All these entries are in the document. -/
structure Document.Holds (document : Document α) (members : Members) : Prop where
  shapes : members.shapes ⊆ document.shapeIds
  connectors : members.connectors ⊆ document.connectorIds

theorem GoneOn.keeps {ι : Type} [DecidableEq ι] {gone before after : List ι} {item : ι}
    (goneOn : GoneOn gone before after) (held : item ∈ before) (kept : item ∉ gone) :
    item ∈ after := by
  obtain ⟨new, rfl, -⟩ := goneOn
  exact List.mem_append_left _ (List.mem_filter.mpr ⟨held, decide_eq_true kept⟩)

theorem Addition.addTo_holds (addition : Addition α) (document : Document α) :
    (addition.addTo document).Holds addition.created.members where
  shapes := by
    intro id created
    rw [addition.shapeIds_addTo]
    -- The container is last in the document, and first among what is created.
    refine List.mem_append_right _ ?_
    rcases List.mem_cons.mp created with rfl | drawn
    · exact List.mem_append_right _ (List.mem_singleton_self _)
    · exact List.mem_append_left _ drawn
  connectors := by
    rw [addition.connectorIds_addTo]
    exact List.subset_append_right _ _

namespace CreateCommand

/-! ### Runs -/

/-- What happens: the command is executed or undone, or a document is edited by others. -/
inductive Event (α : Type) where
  | execute
  | undo
  | edit (document : DocumentId) (change : Edit α)

/-- A command, and the store that it works on. -/
structure Scene (α : Type) where
  command : CreateCommand α
  memory : Memory α

/-- The document that the command is about. -/
def Scene.document (scene : Scene α) : Document α :=
  scene.memory.documentOrEmpty scene.command.content.document

namespace Event

/-- Whether the last call that had an effect was an execution. A call that repeats the last one has
none, so that this is the last call of all. -/
def lastExecuted (executed : Bool) : List (Event α) → Bool
  | [] => executed
  | execute :: rest => lastExecuted true rest
  | undo :: rest => lastExecuted false rest
  | edit _ _ :: rest => lastExecuted executed rest

/-- Whether the event is an edit by others. -/
def isEdit : Event α → Bool
  | execute | undo => false
  | edit _ _ => true

/-- The document that the event is about. -/
def document (scene : Scene α) : Event α → DocumentId
  | execute | undo => scene.command.content.document
  | edit document _ => document

/-- An edit of the document of the command deletes nothing that the command has created. -/
def Spares (scene : Scene α) : Event α → Prop
  | execute | undo => True
  | edit document change =>
    document = scene.command.content.document →
      ∀ created ∈ scene.command.created, change.Spares created.members

instance (scene : Scene α) (event : Event α) : Decidable (event.Spares scene) :=
  match event with
  | execute | undo => isTrue trivial
  | edit document change =>
    inferInstanceAs (Decidable (document = scene.command.content.document →
      ∀ created ∈ scene.command.created, change.Spares created.members))

variable [Scalar α]

def step (store : DocumentStore α (Memory α)) (scene : Scene α) : Event α → Scene α
  | execute =>
    let ((_, command), memory) := (scene.command.execute store).run scene.memory
    ⟨command, memory⟩
  | undo =>
    let ((_, command), memory) := (scene.command.undo store).run scene.memory
    ⟨command, memory⟩
  | edit document change => ⟨scene.command, ((change.call store document).run.run scene.memory).2⟩

def run (store : DocumentStore α (Memory α)) (scene : Scene α) (events : List (Event α)) :
    Scene α :=
  events.foldl (step store) scene

/-- All ids drawn in a run are fresh, each at its time, and no edit deletes what the command has
created. -/
def AllAllowed (supply : Supply) (batches : Bool) (scene : Scene α) : List (Event α) → Prop
  | [] => True
  | event :: rest =>
    let after := event.step (store supply batches) scene
    supply.Fresh (event.document scene) scene.memory after.memory ∧ event.Spares scene ∧
      AllAllowed supply batches after rest

end Event

/-! ### What an event does -/

/-- What an event does, by whether the command is executed: the scenes before and after. -/
inductive Lawful [Scalar α] (store : DocumentStore α (Memory α)) (before after : Scene α) :
    Event α → Prop
  | execute {addition : Addition α} (idle : before.command.created = none)
      (ran : (before.command.execute store).run before.memory =
        ((.ok (), after.command), after.memory))
      (executed : after.command = { before.command with created := some addition.created })
      (new : addition.New before.document)
      (appended : after.document = addition.addTo before.document)
      (others : ∀ other, other ≠ before.command.content.document →
        after.memory.document? other = before.memory.document? other) :
      Lawful store before after .execute
  | executeAgain {created : Created} (executed : before.command.created = some created)
      (no_call : ∀ {σ : Type} (any : DocumentStore α σ),
        before.command.execute any = pure (.ok (), before.command))
      (same : after = before) : Lawful store before after .execute
  | undo {created : Created} (executed : before.command.created = some created)
      (ran : (before.command.undo store).run before.memory =
        ((.ok (), after.command), after.memory))
      (idle : after.command = { before.command with created := none })
      (held : before.document.Holds created.members)
      (removed : after.document = before.document.besides created.members)
      (others : ∀ other, other ≠ before.command.content.document →
        after.memory.document? other = before.memory.document? other) :
      Lawful store before after .undo
  | undoAgain (idle : before.command.created = none)
      (no_call : ∀ {σ : Type} (any : DocumentStore α σ),
        before.command.undo any = pure (.ok (), before.command))
      (same : after = before) : Lawful store before after .undo
  | edit {document : DocumentId} {change : Edit α} (same : after.command = before.command) :
      Lawful store before after (.edit document change)

/-- All that the command has created is in the document. -/
def Scene.Holds (scene : Scene α) : Prop :=
  ∀ created, scene.command.created = some created → scene.document.Holds created.members

section Steps

variable [Scalar α] {supply : Supply} {batches : Bool} {scene : Scene α}

theorem execute_lawful
    (valid : (Plan.ofText scene.command.content.family scene.command.content.source
      scene.command.content.config).isOk = true)
    (fresh : supply.Fresh scene.command.content.document scene.memory
      (Event.execute.step (store supply batches) scene).memory) :
    Lawful (store supply batches) scene (Event.execute.step (store supply batches) scene)
      .execute := by
  obtain ⟨command, memory⟩ := scene
  cases executed : command.created with
  | some created =>
    have no_call {σ : Type} (any : DocumentStore α σ) :
        command.execute any = pure (.ok (), command) := by
      simp only [execute, executed]
    refine .executeAgain executed no_call ?_
    simp only [Event.step, no_call]
    rfl
  | none =>
    obtain ⟨plan, planned⟩ := Plan.exists_ofText valid
    obtain ⟨after, ran, became⟩ := command.execute_does supply batches memory executed planned
    -- That the ids are fresh is said of the scene after the step, which is known only now.
    simp only [Event.step, ran] at fresh ⊢
    obtain ⟨new, added⟩ := became.written_eq_addTo (Plan.ofText_indexed planned) fresh
      (List.Subset.refl _) (List.Subset.refl _)
    exact .execute executed ran rfl new added became.others

theorem undo_lawful (supply : Supply) (batches : Bool) (holds : scene.Holds) :
    Lawful (store supply batches) scene (Event.undo.step (store supply batches) scene) .undo := by
  obtain ⟨command, memory⟩ := scene
  cases executed : command.created with
  | none =>
    have no_call {σ : Type} (any : DocumentStore α σ) :
        command.undo any = pure (.ok (), command) := by
      simp only [undo, executed]
    refine .undoAgain executed no_call ?_
    simp only [Event.step, no_call]
    rfl
  | some created =>
    obtain ⟨after, ran, became⟩ := command.undo_does supply batches memory
    have left : after.documentOrEmpty command.content.document =
        (memory.documentOrEmpty command.content.document).besides created.members := by
      rw [became.held, undone, executed]
      exact created.removedFrom_eq_besides _
    simp only [Event.step, ran]
    exact .undo executed ran rfl (holds created executed) left became.others

/-- An edit leaves in the document what it does not delete. -/
theorem edit_holds {document : DocumentId} {change : Edit α}
    (fresh : supply.Fresh document scene.memory
      ((Event.edit document change).step (store supply batches) scene).memory)
    (spares : (Event.edit document change).Spares scene) (holds : scene.Holds) :
    ((Event.edit document change).step (store supply batches) scene).Holds := by
  obtain ⟨answer, after, yields, edited⟩ :=
    change.call_performs supply batches document scene.memory
  have after_eq : (Event.edit document change).step (store supply batches) scene =
      ⟨scene.command, after⟩ := by
    simp only [Event.step]
    rw [yields]
  rw [after_eq] at fresh ⊢
  have edited := edited fresh
  intro created executed
  have held := holds created executed
  -- An edit of another document may delete what it likes.
  by_cases own : document = scene.command.content.document
  · subst own
    have spared := spares rfl created executed
    constructor
    · intro id member
      exact edited.shapes.keeps (held.shapes member) (spared.shapes id member)
    · intro id member
      exact edited.connectors.keeps (held.connectors member) (spared.connectors id member)
  · have untouched : after.documentOrEmpty scene.command.content.document = scene.document := by
      have same := edited.others _ fun same => own same.symm
      simp only [Scene.document, Memory.documentOrEmpty, same]
    simp only [Scene.document, untouched]
    exact held

/-- After a call all that the command has created is in the document. -/
theorem Lawful.holds {store : DocumentStore α (Memory α)} {before after : Scene α} {event : Event α}
    (lawful : Lawful store before after event) (call : event.isEdit = false)
    (holds : before.Holds) : after.Holds := by
  cases lawful with
  | @execute addition _ _ executed _ appended =>
    intro created is_created
    rw [executed] at is_created
    cases is_created
    rw [appended]
    exact addition.addTo_holds before.document
  | executeAgain _ _ same => exact same ▸ holds
  | undo _ _ idle =>
    intro created is_created
    rw [idle] at is_created
    cases is_created
  | undoAgain _ _ same => exact same ▸ holds
  | edit => cases call

/-- What an event does is lawful, and all that the command has created is still there after it. -/
theorem step_lawful (event : Event α)
    (valid : (Plan.ofText scene.command.content.family scene.command.content.source
      scene.command.content.config).isOk = true)
    (fresh : supply.Fresh (event.document scene) scene.memory
      (event.step (store supply batches) scene).memory)
    (spares : event.Spares scene) (holds : scene.Holds) :
    Lawful (store supply batches) scene (event.step (store supply batches) scene) event ∧
      (event.step (store supply batches) scene).Holds := by
  cases event with
  | execute =>
    have lawful := execute_lawful valid fresh
    exact ⟨lawful, lawful.holds rfl holds⟩
  | undo =>
    have lawful := undo_lawful supply batches holds
    exact ⟨lawful, lawful.holds rfl holds⟩
  | edit document change => exact ⟨.edit rfl, edit_holds fresh spares holds⟩

theorem Lawful.same_content {store : DocumentStore α (Memory α)} {before after : Scene α}
    {event : Event α} (lawful : Lawful store before after event) :
    after.command.content = before.command.content := by
  cases lawful with
  | execute _ _ executed => rw [executed]
  | executeAgain _ _ same => rw [same]
  | undo _ _ idle => rw [idle]
  | undoAgain _ _ same => rw [same]
  | edit same => rw [same]

theorem Lawful.executed {store : DocumentStore α (Memory α)} {before after : Scene α}
    {event : Event α} (lawful : Lawful store before after event) (rest : List (Event α)) :
    Event.lastExecuted after.command.created.isSome rest =
      Event.lastExecuted before.command.created.isSome (event :: rest) := by
  cases lawful with
  | execute _ _ executed => rw [executed]; rfl
  | executeAgain executed _ same => rw [same, executed]; rfl
  | undo _ _ idle => rw [idle]; rfl
  | undoAgain idle _ same => rw [same, idle]; rfl
  | edit same => rw [same]; rfl

/-- A call does not change what an undo would leave. -/
theorem Lawful.undone {store : DocumentStore α (Memory α)} {before after : Scene α}
    {event : Event α} (lawful : Lawful store before after event) (call : event.isEdit = false) :
    after.command.undone after.document = before.command.undone before.document := by
  cases lawful with
  | execute idle _ executed new appended =>
    have idle_undone : before.command.undone before.document = before.document := by
      simp only [CreateCommand.undone, idle]
    rw [appended, idle_undone]
    exact undone_addTo (by rw [executed]) new
  | executeAgain _ _ same => rw [same]
  | undo executed _ idle _ removed =>
    simp only [CreateCommand.undone, idle, executed, removed, Created.removedFrom_eq_besides]
  | undoAgain _ _ same => rw [same]
  | edit => cases call

end Steps

/-! ### Whole runs -/

section Runs

variable [Scalar α] {supply : Supply} {batches : Bool}

theorem run_from (scene : Scene α) (events : List (Event α))
    (valid : (Plan.ofText scene.command.content.family scene.command.content.source
      scene.command.content.config).isOk = true)
    (holds : scene.Holds) (allowed : Event.AllAllowed supply batches scene events) :
    let ended := Event.run (store supply batches) scene events
    ended.command.created.isSome = Event.lastExecuted scene.command.created.isSome events ∧
      (∀ earlier event later, events = earlier ++ event :: later →
        Lawful (store supply batches) (Event.run (store supply batches) scene earlier)
          (Event.run (store supply batches) scene (earlier ++ [event])) event) ∧
      ((∀ event ∈ events, event.isEdit = false) →
        ended.command.undone ended.document = scene.command.undone scene.document) := by
  induction events generalizing scene with
  | nil => exact ⟨rfl, by simp, fun _ => rfl⟩
  | cons first rest ih =>
    obtain ⟨fresh, spares, allowed_rest⟩ := allowed
    obtain ⟨lawful, still_held⟩ := step_lawful first valid fresh spares holds
    obtain ⟨executed, steps, undone⟩ :=
      ih _ (by rw [lawful.same_content]; exact valid) still_held allowed_rest
    refine ⟨executed.trans (lawful.executed rest), ?_, fun calls => ?_⟩
    -- Where the run is cut: in front of this event, or somewhere behind it.
    · intro earlier event later split
      cases earlier with
      | nil =>
        cases split
        exact lawful
      | cons head earlier =>
        cases split
        exact steps earlier event later rfl
    · obtain ⟨call, calls_rest⟩ := List.forall_mem_cons.mp calls
      exact (undone calls_rest).trans (lawful.undone call)

/-- A create with a text that is accepted, executed and undone in any order, while documents are
edited and nothing that it has created is deleted by others. What it has created is known exactly
when the last call that had an effect was an execution; each event does what is lawful for it; and
without edits the entries of the document are those from the start whenever the command is
undone. -/
theorem alternates (supply : Supply) (batches : Bool) (memory : Memory α) (content : Import α)
    (valid : (Plan.ofText content.family content.source content.config).isOk = true)
    (events : List (Event α))
    (allowed : Event.AllAllowed supply batches ⟨.new content, memory⟩ events) :
    let store := store supply batches
    let start : Scene α := ⟨.new content, memory⟩
    let ended := Event.run store start events
    ended.command.created.isSome = Event.lastExecuted false events ∧
      (∀ earlier event later, events = earlier ++ event :: later →
        Lawful store (Event.run store start earlier) (Event.run store start (earlier ++ [event]))
          event) ∧
      ((∀ event ∈ events, event.isEdit = false) → ended.command.created = none →
        ended.document.shapes = start.document.shapes ∧
          ended.document.connectors = start.document.connectors) := by
  intro store start ended
  have holds : start.Holds := by
    intro created executed
    cases executed
  obtain ⟨executed, steps, undone⟩ := run_from start events valid holds allowed
  refine ⟨executed, steps, fun calls idle => ?_⟩
  have back : ended.command.undone ended.document = start.document := undone calls
  simp only [CreateCommand.undone, idle] at back
  rw [back]
  exact ⟨rfl, rfl⟩

/-- A flow chart is executed, undone and executed again beside two shapes of others, of which one is
deleted in between. The calls are made twice in a row. -/
theorem alternates_beside_edits :
    let id : DocumentId := ⟨.numbered 2 0⟩
    let draft : ShapeDraft Rat := ⟨"note", ⟨0, 0, 80, 80⟩, none, .null⟩
    let memory : Memory Rat := (((store .numbered true).addShape id draft).run.run .empty).2
    let content : Import Rat := ⟨id, .flow, "bpmn\ntask a", .zero, .default⟩
    let earlier : List (Event Rat) :=
      [.undo, .execute, .execute, .edit id (.addShape draft),
        .edit id (.deleteShape (Supply.numbered.shape 0))]
    let later : List (Event Rat) := [.undo, .execute]
    let run := Event.run (store .numbered true) ⟨.new content, memory⟩
    (run (earlier ++ .undo :: later)).command.created.isSome = true ∧
      Lawful (store .numbered true) (run earlier) (run (earlier ++ [.undo])) .undo ∧
      (run (earlier ++ .undo :: later)).document.shapeIds =
        [3, 4, 5].map Supply.numbered.shape := by
  intro id draft memory content earlier later
  have allowed : Event.AllAllowed .numbered true ⟨.new content, memory⟩
      (earlier ++ .undo :: later) :=
    ⟨by decide +kernel, trivial, by decide +kernel, trivial, by decide +kernel, trivial,
      by decide +kernel, by decide +kernel, by decide +kernel, by decide +kernel,
      by decide +kernel, trivial, by decide +kernel, trivial, by decide +kernel, trivial, trivial⟩
  obtain ⟨executed, steps, _⟩ := alternates .numbered true memory content (by decide +kernel)
    (earlier ++ .undo :: later) allowed
  exact ⟨executed, steps earlier .undo later rfl, by decide +kernel⟩

end Runs

end CreateCommand

end TextDiagram
