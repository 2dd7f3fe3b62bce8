import TextDiagram.Proofs.Command.Retrying

/-!
# Undoing an update once more

The undo of an update deletes the new content and then puts the earlier import back, in three calls.
Between the two it forgets what it is to put back. Main statement: an undo that fails at a deletion
can be made again, and leaves the document that it would have left at once; after one that fails
while putting back, the next undo reports success and changes nothing, and the earlier import is not
there again.
-/
namespace TextDiagram

variable {α σ β γ : Type}

open Memory Observed
open StoreCall (Ensures Erases)

/-! ### The call at which an undo fails -/

namespace Operation

def deletes : Operation → Bool
  | deleteShape | deleteShapes | deleteConnector | deleteConnectors => true
  | _ => false

def restores : Operation → Bool
  | restoreShapes | restoreConnectors => true
  | _ => false

end Operation

/-- The last call that was made is of this kind. -/
def Observed.EndsAt (kind : Operation → Bool) (observed : Observed σ) : Prop :=
  observed.calls.getLast?.any (kind ·.operation) = true

instance (kind : Operation → Bool) (observed : Observed σ) : Decidable (observed.EndsAt kind) :=
  inferInstanceAs (Decidable (_ = true))

/-- If there is a failure, then at a call of this kind, after which no other one is made. -/
def StoreCall.FailsAt (kind : Operation → Bool) (call : StoreCall (Observed σ) β) : Prop :=
  Ensures (fun _ => True) call (fun _ _ => True) (EndsAt kind)

namespace StoreCall.FailsAt

variable {kind : Operation → Bool} {call : StoreCall (Observed σ) β}

theorem pure (answer : β) : FailsAt (σ := σ) kind (Pure.pure answer) :=
  Ensures.pure fun _ _ => trivial

theorem bind {next : β → StoreCall (Observed σ) γ} (first : FailsAt kind call)
    (continued : ∀ answer, FailsAt kind (next answer)) : FailsAt kind (call >>= next) :=
  Ensures.bind first continued

theorem ends (fails : FailsAt kind call) {before after : Observed σ} {error : StoreError}
    (failed : call.run.run before = (.error error, after)) : after.EndsAt kind := by
  have ended := fails before trivial
  rwa [failed] at ended

end StoreCall.FailsAt

open StoreCall (FailsAt)

namespace Observed

variable {kind : Operation → Bool} {call : Call}

theorem log_endsAt (of_kind : kind call.operation = true) (failed : Observed σ → Prop) :
    Ensures (fun _ => True) (log call) (fun _ => EndsAt kind) failed := by
  intro before _
  have last : (before.calls ++ [call]).getLast?.any (kind ·.operation) = true := by
    simpa using of_kind
  exact last

theorem pass_endsAt (action : StoreCall σ β) :
    Ensures (EndsAt kind) (pass action) (fun _ _ => True) (EndsAt kind) := by
  rintro before ends
  rw [pass_run]
  rcases action.run.run before.inner with ⟨error | answer, after⟩
  · exact ends
  · trivial

theorem creating_failsAt (of_kind : kind call.operation = true) (document : DocumentId)
    (action : StoreCall σ (Document α)) : FailsAt kind (creating document call action) := by
  refine (log_endsAt of_kind _).bind fun effect => ?_
  match effect with
  | some (.fail _) | some .loseDocument => exact .throw fun _ => id
  | some .hollow => exact (pass_endsAt action).bind fun _ => .pure fun _ _ => trivial
  | some .nothing | none => exact pass_endsAt action

theorem finding_failsAt (of_kind : kind call.operation = true) (document : DocumentId)
    (action : StoreCall σ (Option β)) : FailsAt kind (finding document call action) := by
  refine (log_endsAt of_kind _).bind fun effect => ?_
  match effect with
  | some (.fail _) | some .loseDocument => exact .throw fun _ => id
  | some .nothing => exact .pure fun _ _ => trivial
  | some .hollow | none => exact pass_endsAt action

end Observed

section Calls

variable (store : DocumentStore α σ) (id : DocumentId)

theorem removeContent_failsAt (created : Created) :
    FailsAt Operation.deletes (removeContent store.observed id created) := by
  have connectors_deleted :
      FailsAt Operation.deletes (deleteConnectors store.observed id created.connectors) :=
    Ensures.listed (fun _ _ _ => trivial) (finding_failsAt rfl id _)
  have shapes_deleted :
      FailsAt Operation.deletes (deleteShapes store.observed id created.shapes) :=
    Ensures.listed (fun _ _ _ => trivial) (finding_failsAt rfl id _)
  unfold removeContent
  cases created.container with
  | none => exact connectors_deleted.bind fun _ => shapes_deleted
  | some container =>
    exact (finding_failsAt rfl id _).bind fun _ => connectors_deleted.bind fun _ => shapes_deleted

theorem Replaced.putBack_failsAt (replaced : Replaced α) :
    FailsAt Operation.restores (replaced.putBack store.observed id) :=
  (creating_failsAt rfl id _).bind fun _ => (creating_failsAt rfl id _).bind fun _ =>
    (creating_failsAt rfl id _).bind fun _ => .pure ()

end Calls

/-! ### Putting an import back -/

/-- How far the putting back of an import into a document has come, its container being last. -/
inductive Replaced.PuttingBack (replaced : Replaced α) (document : Document α) : Document α → Prop
  | begun : PuttingBack replaced document document
  | shapes : PuttingBack replaced document (document.restoreShapes replaced.shapes)
  | members : PuttingBack replaced document
      ((document.restoreShapes replaced.shapes).restoreConnectors replaced.connectors)

namespace Replaced

/-- Before the last step, the only shapes put back are the members. -/
theorem PuttingBack.shapeIds {replaced : Replaced α} {document stage : Document α}
    (putting : replaced.PuttingBack document stage) {id : ShapeId} (held : id ∈ stage.shapeIds) :
    id ∈ replaced.shapes.map Shape.id ∨ id ∈ document.shapeIds := by
  cases putting with
  | begun => exact .inr held
  | shapes => exact (mem_map_upsertAll Shape.id _ _).mp held
  | members => exact (mem_map_upsertAll Shape.id _ _).mp held

section

variable {id : DocumentId} {start : Memory α}

/-- Restoring changes the document, or fails without an effect. -/
theorem creating_changes (change : Document α → Document α)
    (same_id : ∀ document, (change document).id = document.id) (logged : Call)
    (document : Document α) :
    Ensures (Behind (Stands id start document)) (creating id logged (write id change))
      (fun _ => Behind (Stands id start (change document)))
      (Behind (Stands id start document)) := by
  have writes (before : Memory α) (stands : Stands id start document before) :
      ∃ answer after, (write id change).Yields before answer after ∧
        Stands id start (change document) after :=
    ⟨_, stands.changed (write_does before id change same_id)⟩
  refine (creating_ensures writes id logged).imp_done ?_
  rintro answer now ⟨heeded, created, stands, -⟩
  exact ⟨heeded, stands⟩

theorem putBack_ensures (supply : Supply) (batches : Bool) (replaced : Replaced α)
    (document : Document α) :
    Ensures (Behind (Stands id start document))
      (replaced.putBack (store supply batches).observed id)
      (fun _ => Behind (Stands id start (replaced.putInto document)))
      (Behind fun memory =>
        ∃ stage, replaced.PuttingBack document stage ∧ Stands id start stage memory) := by
  have at_stage {stage : Document α} (putting : replaced.PuttingBack document stage)
      (now : Observed (Memory α)) (stands : Behind (Stands id start stage) now) :
      Behind (fun memory => ∃ stage, replaced.PuttingBack document stage ∧
        Stands id start stage memory) now :=
    ⟨stands.1, stage, putting, stands.2⟩
  unfold putBack
  refine ((creating_changes (·.restoreShapes replaced.shapes) (fun _ => rfl) _ document).imp_failed
    (at_stage .begun)).bind fun _ => ?_
  refine ((creating_changes (·.restoreConnectors replaced.connectors) (fun _ => rfl) _ _).imp_failed
    (at_stage .shapes)).bind fun _ => ?_
  refine ((creating_changes (·.restoreShapes [replaced.container]) (fun _ => rfl) _ _).imp_failed
    (at_stage .members)).bind fun _ => ?_
  exact .pure fun _ stands => stands

end

end Replaced

/-! ### The undo of an update -/

/-- The command without what it knows of an execution. -/
def UpdateCommand.forgotten (command : UpdateCommand α) : UpdateCommand α :=
  { command with created := none, replaced := none }

/-- The undo of an update fails when it cannot delete the new content, and then the command stays as
it was; or when it cannot put the earlier import back, and then the command has forgotten both. -/
theorem UpdateCommand.undo_fails {store : DocumentStore α σ} {before after : σ}
    {error : CommandError} {command ended : UpdateCommand α} {created : Created}
    (executed : command.created = some created)
    (ran : (command.undo store).run before = ((.error error, ended), after)) :
    (ended = command ∧ ∃ error,
      (removeContent store command.document created).run.run before = (.error error, after)) ∨
    (ended = command.forgotten ∧
      ∃ replaced between error, command.replaced = some replaced ∧
        (removeContent store command.document created).run.run before = (.ok (), between) ∧
        (replaced.putBack store command.document).run.run between = (.error error, after)) := by
  rw [UpdateCommand.undo, executed] at ran
  dsimp only at ran
  rcases removed : (removeContent store command.document created).run.run before with
    ⟨failed | _, between⟩
  · cases (run_bind_of_run removed).symm.trans ran
    exact .inl ⟨rfl, failed, rfl⟩
  · rw [run_bind_of_run removed] at ran
    dsimp only at ran
    split at ran
    next => cases ran
    next replaced earlier =>
      rcases put_back : (replaced.putBack store command.document).run.run between with
        ⟨failed | _, last⟩
      · cases (run_bind_of_run put_back).symm.trans ran
        exact .inr ⟨rfl, replaced, between, failed, earlier, rfl, put_back⟩
      · cases (run_bind_of_run put_back).symm.trans ran

namespace UpdateCommand

/-- A failed undo has deleted a part of the new content, and the command still knows all of it; or
it has deleted the new content and put back a part of the earlier import, and the command knows
nothing any more. -/
theorem undo_fails_at {supply : Supply} {batches : Bool} {memory : Memory α}
    {after : Observed (Memory α)} {calls : List Call} {disturbances : List Disturbance}
    (heeded : ∀ disturbance ∈ disturbances, disturbance.effect ≠ .nothing)
    {command ended : UpdateCommand α} {created : Created} {replaced : Replaced α}
    (executed : command.created = some created) (earlier : command.replaced = some replaced)
    {error : CommandError}
    (failed : (command.undo (store supply batches).observed).run ⟨calls, disturbances, memory⟩ =
      ((.error error, ended), after)) :
    let id := command.document
    let document := memory.documentOrEmpty id
    (after.EndsAt Operation.deletes ∧ ended = command ∧
      ∃ part : Members, part.Within created.members ∧
        after.inner.documentOrEmpty id = document.besides part) ∨
    (after.EndsAt Operation.restores ∧ ended = command.forgotten ∧
      ∃ stage, replaced.PuttingBack (document.besides created.members) stage ∧
        after.inner.documentOrEmpty id = stage) := by
  intro id document
  have stands : Behind (Stands id memory document) ⟨calls, disturbances, memory⟩ :=
    ⟨heeded, rfl, rfl, rfl⟩
  have fails : Failing supply (store supply batches) (store (α := α) supply batches).observed :=
    .together batches
  have erases := removeContent_erases fails id created
  rcases command.undo_fails executed failed with
    ⟨kept, error, removing⟩ | ⟨forgotten, also, between, error, also_earlier, removed, putting_back⟩
  · obtain ⟨part, within, held, -⟩ := erases.part stands removing
    exact .inl ⟨(removeContent_failsAt _ id created).ends removing, kept, part, within, held⟩
  · cases earlier.symm.trans also_earlier
    -- The deletions have not failed, so that the import is put back into a cleared document.
    have cleared := erases memory document _ stands
    rw [removed] at cleared
    have put := replaced.putBack_ensures supply batches (document.besides created.members) between
      cleared
    rw [putting_back] at put
    obtain ⟨-, stage, putting, held, -⟩ := put
    exact .inr ⟨(replaced.putBack_failsAt _ id).ends putting_back, forgotten, stage, putting, held⟩

/-- What has been deleted already makes no difference to an undo. -/
theorem undone_besides {command : UpdateCommand α} {created : Created}
    (executed : command.created = some created) {part : Members}
    (within : part.Within created.members) (document : Document α) :
    command.undone (document.besides part) = command.undone document := by
  simp only [undone, executed, Created.removedFrom_eq_besides, document.besides_of_within within]

/-- The second undo of an executed update deletes and puts back all, or changes nothing, where the
first one has failed. -/
theorem undo_does_again (supply : Supply) (batches : Bool) (memory : Memory α)
    {disturbances : List Disturbance}
    (heeded : ∀ disturbance ∈ disturbances, disturbance.effect ≠ .nothing)
    {command : UpdateCommand α} {created : Created} {replaced : Replaced α}
    (executed : command.created = some created) (earlier : command.replaced = some replaced) :
    let quiet := store supply batches
    let id := command.document
    let document := memory.documentOrEmpty id
    let attempt := (command.undo quiet.observed).run ⟨[], disturbances, memory⟩
    let retried := (attempt.1.2.undo quiet).run attempt.2.inner
    attempt.1.1 ≠ .ok () →
      retried.1 = (.ok (), command.forgotten) ∧
      (attempt.2.EndsAt Operation.deletes ∧
          retried.2.documentOrEmpty id = command.undone document ∨
        attempt.2.EndsAt Operation.restores ∧ retried.2 = attempt.2.inner ∧
          replaced.PuttingBack (document.besides created.members)
            (retried.2.documentOrEmpty id)) := by
  intro quiet id document attempt retried attempt_fails
  rcases attempted : attempt with ⟨⟨error | _, ended⟩, after⟩
  · rcases undo_fails_at heeded executed earlier attempted with
      ⟨at_deletion, rfl, part, within, held⟩ | ⟨at_restoring, rfl, stage, putting, held⟩
    -- The command still knows what it has created, and deletes what is left of it.
    · obtain ⟨last, ran, became⟩ := ended.undo_does supply batches after.inner executed
      have retried_eq : retried = ((.ok (), ended.forgotten), last) := by
        simp only [retried, attempted]
        exact ran
      rw [held, undone_besides executed within] at became
      rw [retried_eq]
      exact ⟨rfl, .inl ⟨at_deletion, became.held⟩⟩
    -- The command knows nothing any more, and takes itself for one that was not executed.
    · have retried_eq : retried = ((.ok (), command.forgotten), after.inner) := by
        simp only [retried, attempted]
        rfl
      rw [retried_eq]
      exact ⟨rfl, .inr ⟨at_restoring, rfl, held ▸ putting⟩⟩
  · rw [attempted] at attempt_fails
    exact absurd rfl attempt_fails

/-- As long as the container is not put back, the records are not those from before. -/
theorem records_lost {replaced : Replaced α} {before stage : Document α} {preview : ShapeId}
    {container : Shape α} {members : Members}
    (present : before.container? preview = some (container, members))
    (found : before.replaced? preview = some replaced)
    (putting : replaced.PuttingBack (before.without preview) stage)
    (unlisted : container.id ∉ members.shapes) :
    container.id ∉ stage.shapeIds ∧ ¬ stage.SameRecords before := by
  have absent : container.id ∉ stage.shapeIds := by
    intro held
    rcases putting.shapeIds held with noted | left
    -- The members that are put back are those that the container lists.
    · obtain ⟨_, also, rfl⟩ := Option.map_eq_some_iff.mp found
      cases present.symm.trans also
      obtain ⟨shape, member, same_id⟩ := List.mem_map.mp noted
      have listed := of_decide_eq_true (List.mem_filter.mp member).2
      exact unlisted (same_id ▸ listed)
    · rw [Document.without_of_some present] at left
      obtain ⟨shape, member, same_id⟩ := List.mem_map.mp left
      have apart := of_decide_eq_true (List.mem_filter.mp member).2
      exact apart (List.mem_singleton.mpr same_id)
  have there : container.id ∈ before.shapeIds :=
    List.mem_map_of_mem (Document.container?_some present).1
  exact ⟨absent, fun same => absent (same.shapeIds.mem_iff.mpr there)⟩

variable [Scalar α]

/-- An update over an earlier import puts an addition in the place of it, and notes it down. -/
theorem execute_over (supply : Supply) (batches : Bool) (memory : Memory α)
    (command : UpdateCommand α) (pending : command.created = none)
    (valid : (Plan.ofText command.family command.source command.config).isOk = true)
    (fresh : supply.Fresh command.document memory
      ((command.execute (store supply batches)).run memory).2)
    {replaced : Replaced α}
    (found : (memory.documentOrEmpty command.document).replaced? command.preview = some replaced) :
    let before := memory.documentOrEmpty command.document
    ∃ (addition : Addition α) (between : Memory α),
      (command.execute (store supply batches)).run memory =
        ((.ok (), { command with created := some addition.created, replaced := some replaced }),
          between) ∧
      addition.New (before.without command.preview) ∧
      between.documentOrEmpty command.document =
        addition.addTo (before.without command.preview) := by
  intro before
  obtain ⟨plan, planned⟩ := Plan.exists_ofText valid
  obtain ⟨between, ran, became⟩ := command.execute_does supply batches memory pending planned
  rw [ran] at fresh
  obtain ⟨new, held⟩ := became.written_eq_addTo (Plan.ofText_indexed planned) fresh
    (before.without_shapeIds_subset _) (before.without_connectorIds_subset _)
  rw [found] at ran new held
  exact ⟨_, between, ran, new, held⟩

/-- The undo of an update over an earlier import that fails once, and is made again. It succeeds
then in any case, and the command counts as undone. Where the failure was at a deletion, the
document is as a single undo would have left it, with the records from before the update. Where it
was at a call that puts the import back, the second undo changes nothing; the document has lost its
container, unless this lists itself, and the records are not those from before. -/
theorem undo_retry (supply : Supply) (batches : Bool) (memory : Memory α)
    (id : DocumentId) (preview : ShapeId) (family : Family) (source : String) (config : Config α)
    (valid : (Plan.ofText family source config).isOk = true)
    (distinct : (memory.documentOrEmpty id).Distinct) {container : Shape α} {members : Members}
    (present : (memory.documentOrEmpty id).container? preview = some (container, members))
    (fresh : supply.Fresh id memory (((UpdateCommand.new id preview family source config).execute
      (store supply batches)).run memory).2)
    (disturbances : List Disturbance)
    (heeded : ∀ disturbance ∈ disturbances, disturbance.effect ≠ .nothing) :
    let quiet := store supply batches
    let command := UpdateCommand.new id preview family source config
    let executed := (command.execute quiet).run memory
    let before := memory.documentOrEmpty id
    let once := (executed.1.2.undo quiet).run executed.2
    let attempt := (executed.1.2.undo quiet.observed).run ⟨[], disturbances, executed.2⟩
    let retried := (attempt.1.2.undo quiet).run attempt.2.inner
    let back := retried.2.documentOrEmpty id
    attempt.1.1 ≠ .ok () →
      once.1 = (.ok (), command) ∧ (once.2.documentOrEmpty id).SameRecords before ∧
      retried.1 = (.ok (), command) ∧
      (attempt.2.EndsAt Operation.deletes ∧ back = once.2.documentOrEmpty id ∨
        attempt.2.EndsAt Operation.restores ∧ retried.2 = attempt.2.inner ∧
          (container.id ∉ members.shapes →
            container.id ∉ back.shapeIds ∧ ¬ back.SameRecords before)) := by
  intro quiet command executed before once attempt retried back attempt_fails
  have found : before.replaced? preview = some (.ofDocument container members (some before)) := by
    rw [Document.replaced?, present]
    rfl
  obtain ⟨addition, between, ran, new, held⟩ :=
    command.execute_over supply batches memory rfl valid fresh found
  have ended_eq : executed.1.2 = _ := congrArg (·.1.2) ran
  have memory_eq : executed.2 = between := congrArg Prod.snd ran
  have created : executed.1.2.created = some addition.created := by rw [ended_eq]
  have earlier : executed.1.2.replaced = before.replaced? preview := by rw [ended_eq, found]
  have about : executed.1.2.document = id := by rw [ended_eq]; rfl
  have forgotten : executed.1.2.forgotten = command := by
    rw [ended_eq]
    rfl
  have drawn : executed.2.documentOrEmpty id = addition.addTo (before.without preview) := by
    rw [memory_eq]
    exact held
  have again := undo_does_again supply batches executed.2 heeded created (earlier.trans found)
    attempt_fails
  obtain ⟨last, undone, became⟩ := executed.1.2.undo_does supply batches executed.2 created
  rw [about, drawn] at became
  rw [about, drawn, forgotten] at again
  have once_eq : once = ((.ok (), executed.1.2.forgotten), last) := undone
  rw [forgotten] at once_eq
  have once_held : once.2.documentOrEmpty id =
      executed.1.2.undone (addition.addTo (before.without preview)) := by
    rw [once_eq]
    exact became.held
  obtain ⟨same, -⟩ := UpdateCommand.undone_addTo created earlier distinct new
  obtain ⟨answered, left⟩ := again
  refine ⟨by rw [once_eq], once_held ▸ same, answered, ?_⟩
  rcases left with ⟨at_deletion, held_again⟩ | ⟨at_restoring, unchanged, putting⟩
  · exact .inl ⟨at_deletion, held_again.trans once_held.symm⟩
  · have cleared : (addition.addTo (before.without preview)).besides addition.created.members =
        before.without preview := by
      rw [← Created.removedFrom_eq_besides]
      exact addition.removedFrom_addTo _ new
    rw [cleared] at putting
    exact .inr ⟨at_restoring, unchanged, records_lost present found putting⟩

/-- The preview of a flow chart of one task is replaced. The undo fails once at its first deletion,
so that all of the preview is back after the second undo. -/
theorem undo_retry_of_deletion :
    let supply := Supply.numbered
    let id : DocumentId := ⟨.numbered 2 0⟩
    let drawn : CreateCommand Rat := .new ⟨id, .flow, "bpmn\ntask a", .zero, .default⟩
    let memory := ((drawn.execute (store supply true)).run .empty).2
    let update : UpdateCommand Rat := .new id (supply.shape 1) .flow "bpmn\ntask b" .default
    let executed := (update.execute (store supply true)).run memory
    let failure : Disturbance := ⟨.deleteShape, 1, .fail (.request "injected")⟩
    let attempt := (executed.1.2.undo (store supply true).observed).run ⟨[], [failure], executed.2⟩
    let retried := (attempt.1.2.undo (store supply true)).run attempt.2.inner
    attempt.1.1 = .error (.store (.request "injected")) ∧ retried.1 = (.ok (), update) ∧
      (retried.2.documentOrEmpty id).SameRecords (memory.documentOrEmpty id) := by
  intro supply id drawn memory
  have present : ((memory.documentOrEmpty id).container? (supply.shape 1)).isSome = true := by
    decide +kernel
  obtain ⟨⟨container, members⟩, is_there⟩ := Option.isSome_iff_exists.mp present
  obtain ⟨_, same, answered, left⟩ := undo_retry supply true memory id (supply.shape 1) .flow
    "bpmn\ntask b" .default (by decide +kernel) (by decide +kernel) is_there (by decide +kernel)
    [⟨.deleteShape, 1, .fail (.request "injected")⟩] (by simp) (by decide +kernel)
  refine ⟨by decide +kernel, answered, ?_⟩
  rcases left with ⟨_, held⟩ | ⟨at_restoring, _⟩
  · rw [← held] at same
    exact same
  · exact absurd at_restoring (by decide +kernel)

/-- The same update, and an undo that fails once where the members of the preview are to be put
back. The second undo reports success, and leaves a document without any of the preview. -/
theorem undo_retry_loses_preview :
    let supply := Supply.numbered
    let id : DocumentId := ⟨.numbered 2 0⟩
    let drawn : CreateCommand Rat := .new ⟨id, .flow, "bpmn\ntask a", .zero, .default⟩
    let memory := ((drawn.execute (store supply true)).run .empty).2
    let update : UpdateCommand Rat := .new id (supply.shape 1) .flow "bpmn\ntask b" .default
    let executed := (update.execute (store supply true)).run memory
    let failure : Disturbance := ⟨.restoreShapes, 1, .fail (.request "injected")⟩
    let once := (executed.1.2.undo (store supply true)).run executed.2
    let attempt := (executed.1.2.undo (store supply true).observed).run ⟨[], [failure], executed.2⟩
    let retried := (attempt.1.2.undo (store supply true)).run attempt.2.inner
    (memory.documentOrEmpty id).Distinct ∧ executed.1.1 = .ok () ∧
      attempt.1.1 = .error (.store (.request "injected")) ∧ retried.1.1 = .ok () ∧
      ¬ (retried.2.documentOrEmpty id).SameRecords (once.2.documentOrEmpty id) :=
  ⟨by decide +kernel, by decide +kernel, by decide +kernel, by decide +kernel,
    fun same => absurd same.shapes.length_eq (by decide +kernel)⟩

end UpdateCommand

end TextDiagram
