import TextDiagram.Proofs.Command.Alike
import TextDiagram.Proofs.Command.Change
import TextDiagram.Proofs.Command.Partial

/-!
# Undoing once more

The undo of a create or of a restore deletes what the command has put into its document, in several
calls or, on a store that deletes one by one, entry by entry. When a call fails, the command stays
executed, and some of the entries are gone. Main statement: however often the undo fails, and
wherever it does, the first undo that does not fail leaves the document that it would have left at
once. It deletes the rest, since deleting an entry that is gone already changes nothing.
-/
namespace TextDiagram

variable {α σ β γ : Type}

open Memory Observed
open StoreCall (Ensures)

/-! ### Calls that delete -/

/-- The call deletes these entries of a document, or fails and has deleted some of them. -/
def StoreCall.Erases (id : DocumentId) (call : StoreCall (Observed (Memory α)) β)
    (members : Members) : Prop :=
  ∀ start document, Ensures (Behind (Stands id start document)) call
    (fun _ => Behind (Stands id start (document.besides members)))
    (Behind fun memory =>
      ∃ part : Members, part.Within members ∧ Stands id start (document.besides part) memory)

namespace StoreCall.Erases

variable {id : DocumentId} {call : StoreCall (Observed (Memory α)) β} {first members : Members}

theorem pure (id : DocumentId) (answer : β) :
    Erases (α := α) id (Pure.pure answer) .nothing := by
  intro start document
  refine .pure fun _ stands => ?_
  rwa [Members.nothing, document.besides_nothing]

/-- A call that fails without an effect has deleted nothing. -/
theorem of_ensures
    (ensures : ∀ start document, Ensures (Behind (Stands id start document)) call
      (fun _ => Behind (Stands id start (document.besides members)))
      (Behind (Stands id start document))) : Erases id call members := by
  intro start document
  refine (ensures start document).imp_failed fun now stands => ⟨stands.1, .nothing, .nothing _, ?_⟩
  rw [Members.nothing, document.besides_nothing]
  exact stands.2

theorem bind {next : β → StoreCall (Observed (Memory α)) γ} (erases : Erases id call first)
    (continued : ∀ answer, Erases id (next answer) members) :
    Erases id (call >>= next) (first.and members) := by
  intro start document
  -- A failure leaves a part of the first entries, or all of these and a part of the others.
  refine Ensures.bind ((erases start document).imp_failed ?_) fun answer => ?_
  · rintro now ⟨heeded, part, within, stands⟩
    exact ⟨heeded, part, within.left, stands⟩
  · refine (continued answer start (document.besides first)).imp (fun _ stands => stands) ?_ ?_
    · intro _ now stands
      rwa [document.besides_and] at stands
    · rintro now ⟨heeded, part, within, stands⟩
      rw [document.besides_and] at stands
      exact ⟨heeded, first.and part, within.and_right, stands⟩

/-- When the call fails, it has deleted a part of the entries. -/
theorem part (erases : Erases id call members) {start : Memory α} {document : Document α}
    {before after : Observed (Memory α)} (stands : Behind (Stands id start document) before)
    {error : StoreError} (failed : call.run.run before = (.error error, after)) :
    ∃ part : Members, part.Within members ∧
      Stands id start (document.besides part) after.inner := by
  have ended := erases start document before stands
  rw [failed] at ended
  exact ended.2

/-- Listed entries are deleted when the call deletes them, which is not made for none at all. -/
theorem ofListed {ι : Type} (listed : List ι → Members) (nothing : listed [] = .nothing)
    {entries : List ι} (erases : Erases id call (listed entries)) :
    Erases id (if entries.isEmpty then Pure.pure () else call >>= fun _ => Pure.pure ())
      (listed entries) := by
  intro start document
  refine Ensures.listed (fun none_listed => ?_) (erases start document)
  rw [none_listed, nothing, Members.nothing, document.besides_nothing]
  exact fun _ stands => stands

/-- Entries of a kind are deleted when they are deleted one by one. -/
theorem lastChange {ι : Type} {delete : ι → StoreCall (Observed (Memory α)) (Option (Document α))}
    (listed : List ι → Members) (nothing : listed [] = .nothing)
    (cons : ∀ entry rest, listed (entry :: rest) = (listed [entry]).and (listed rest))
    (erases : ∀ entry, Erases id (delete entry) (listed [entry]))
    (last : Option (Document α)) (entries : List ι) :
    Erases id (BasicStore.lastChange delete last entries) (listed entries) := by
  induction entries generalizing last with
  | nil =>
    rw [nothing]
    exact .pure id last
  | cons entry rest ih =>
    rw [cons]
    exact (erases entry).bind fun answer => ih (answer.or last)

end StoreCall.Erases

open StoreCall (Erases)

/-! ### Stores of which any call may fail -/

namespace Memory

/-- A store in memory, and the same store of which any call may be told to fail. It deletes many
entries in one call, or has nothing but its calls on single entries, each of which may fail. -/
inductive Failing (supply : Supply) :
    DocumentStore α (Memory α) → DocumentStore α (Observed (Memory α)) → Prop where
  | together (batches : Bool) :
      Failing supply (store supply batches) (store supply batches).observed
  | oneByOne (batches : Bool) :
      Failing supply (minimal supply batches)
        { (store supply true).observed.toBasicStore.oneByOne with batches }

variable {supply : Supply} {quiet : DocumentStore α (Memory α)}
  {failing : DocumentStore α (Observed (Memory α))}

theorem Failing.undo_eq (fails : Failing supply quiet failing) :
    Command.undo quiet = Command.undo (store (α := α) supply true) := by
  cases fails with
  | together batches => exact (store_alike supply batches).undo
  | oneByOne batches => exact (minimal_alike supply batches).undo

end Memory

/-- How entries of a kind are listed among the members of an import. -/
structure EntryKind.Listing {β ι : Type} [DecidableEq ι] (kind : EntryKind α β ι) where
  members : List ι → Members
  nothing : members [] = .nothing
  cons : ∀ key rest, members (key :: rest) = (members [key]).and (members rest)
  besides : ∀ document keys, document.besides (members keys) = kind.erase document keys

def shapeListing : (shapeKind (α := α)).Listing where
  members ids := ⟨ids, []⟩
  nothing := rfl
  cons _ _ := rfl
  besides := Document.besides_shapes

def connectorListing : (connectorKind (α := α)).Listing where
  members ids := ⟨[], ids⟩
  nothing := rfl
  cons _ _ := rfl
  besides := Document.besides_connectors

namespace EntryKind.Listing

variable {β ι : Type} [DecidableEq ι] {kind : EntryKind α β ι} (listing : kind.Listing)
  (id : DocumentId)

theorem finding_erases (logged : Call) (keys : List ι) :
    Erases id (finding id logged (kind.delete id keys)) (listing.members keys) := by
  refine .of_ensures fun start document => ?_
  rw [listing.besides]
  exact finding_changes (kind.erase · keys) (kind.delete_does · id keys) logged document

/-- Listed entries are deleted in one call. -/
theorem together_erases (logged : Call) (keys : List ι) :
    Erases id
      (if keys.isEmpty then pure ()
        else do let _ ← finding id logged (kind.delete id keys); pure ())
      (listing.members keys) :=
  (listing.finding_erases id logged keys).ofListed listing.members listing.nothing

/-- Listed entries are deleted one by one. -/
theorem each_erases (logged : ι → Call) (keys : List ι) :
    Erases id
      (if keys.isEmpty then pure ()
        else do
          let _ ← BasicStore.lastChange
            (fun key => finding id (logged key) (kind.delete id [key])) none keys
          pure ())
      (listing.members keys) :=
  (StoreCall.Erases.lastChange listing.members listing.nothing listing.cons
    (fun key => listing.finding_erases id (logged key) [key]) none keys).ofListed listing.members
      listing.nothing

end EntryKind.Listing

namespace Memory.Failing

variable {supply : Supply} {quiet : DocumentStore α (Memory α)}
  {failing : DocumentStore α (Observed (Memory α))} (fails : Failing supply quiet failing)
  (id : DocumentId)

include fails

theorem deleteShape_erases (shape : ShapeId) :
    Erases id (failing.deleteShape id shape) ⟨[shape], []⟩ := by
  cases fails with
  | together => exact shapeListing.finding_erases id _ [shape]
  | oneByOne => exact shapeListing.finding_erases id _ [shape]

theorem deleteShapes_erases (ids : List ShapeId) :
    Erases id (TextDiagram.deleteShapes failing id ids) ⟨ids, []⟩ := by
  cases fails with
  | together => exact shapeListing.together_erases id _ ids
  | oneByOne => exact shapeListing.each_erases id _ ids

theorem deleteConnectors_erases (ids : List ConnectorId) :
    Erases id (TextDiagram.deleteConnectors failing id ids) ⟨[], ids⟩ := by
  cases fails with
  | together => exact connectorListing.together_erases id _ ids
  | oneByOne => exact connectorListing.each_erases id _ ids

end Memory.Failing

/-! ### Commands -/

section Erasing

variable {supply : Supply} {quiet : DocumentStore α (Memory α)}
  {failing : DocumentStore α (Observed (Memory α))} (fails : Failing supply quiet failing)

include fails

theorem removeContent_erases (id : DocumentId) (created : Created) :
    Erases id (removeContent failing id created) created.members := by
  have listed : Erases id (do
      TextDiagram.deleteConnectors failing id created.connectors
      TextDiagram.deleteShapes failing id created.shapes) ⟨created.shapes, created.connectors⟩ := by
    have both := (fails.deleteConnectors_erases id created.connectors).bind
      fun _ => fails.deleteShapes_erases id created.shapes
    simpa [Members.and] using both
  unfold removeContent Created.members
  cases created.container with
  | none => exact listed
  | some container => exact (fails.deleteShape_erases id container).bind fun _ => listed

theorem RestoreCommand.erase_erases (command : RestoreCommand α) :
    Erases command.document (command.erase failing) command.members := by
  have both := (fails.deleteConnectors_erases command.document
    (command.connectors.map Connector.id)).bind fun _ =>
      fails.deleteShapes_erases command.document (command.shapes.map Shape.id)
  simpa [Members.and, RestoreCommand.members, RestoreCommand.erase] using both

end Erasing

section Failing

variable {store : DocumentStore α σ} {before after : σ} {error : CommandError}

/-- The undo of a create fails when it cannot delete what was created; the command stays as it
was. -/
theorem CreateCommand.undo_fails {command ended : CreateCommand α}
    (ran : (command.undo store).run before = ((.error error, ended), after)) :
    ended = command ∧ ∃ created error, command.created = some created ∧
      (removeContent store command.content.document created).run.run before =
        (.error error, after) := by
  rw [CreateCommand.undo] at ran
  split at ran
  next => cases ran
  next created executed =>
    rcases removed : (removeContent store command.content.document created).run.run before with
      ⟨failed | _, between⟩
    · cases (run_bind_of_run removed).symm.trans ran
      exact ⟨rfl, created, failed, executed, removed⟩
    · cases (run_bind_of_run removed).symm.trans ran

/-- The undo of a restore fails when it cannot delete what was restored; the command stays as it
was. -/
theorem RestoreCommand.undo_fails {command ended : RestoreCommand α}
    (ran : (command.undo store).run before = ((.error error, ended), after)) :
    ended = command ∧ ∃ error, command.restored = true ∧
      (command.erase store).run.run before = (.error error, after) := by
  rw [RestoreCommand.undo] at ran
  split at ran
  next executed =>
    rcases erased : (command.erase store).run.run before with ⟨failed | _, between⟩
    · cases (run_bind_of_run erased).symm.trans ran
      exact ⟨rfl, failed, executed, rfl⟩
    · cases (run_bind_of_run erased).symm.trans ran
  next => cases ran

end Failing

namespace Command

/-- Whether the undo of the command only deletes. -/
def onlyDeletes : Command α → Bool
  | create _ | restore _ => true
  | update _ => false

/-- Whether the command counts as executed. -/
def executed : Command α → Bool
  | create command => command.created.isSome
  | update command => command.created.isSome
  | restore command => command.restored

/-- What the undo of the command deletes. -/
def deleted : Command α → Members
  | create command => (command.created.map Created.members).getD .nothing
  | update command => (command.created.map Created.members).getD .nothing
  | restore command => if command.restored then command.members else .nothing

/-- An undo without failures deletes all that the command has put into its document, and ends in the
same way whatever the document has become in the meantime. -/
theorem undo_deletes (supply : Supply) (batches : Bool) {command : Command α}
    (only : command.onlyDeletes = true) :
    ∃ ended : Command α, ended.executed = false ∧
      ∀ memory, ∃ after,
        (command.undo (store supply batches)).run memory = ((.ok (), ended), after) ∧
          after.documentOrEmpty command.document =
            (memory.documentOrEmpty command.document).besides command.deleted := by
  cases command with
  | create command =>
    refine ⟨.create { command with created := none }, rfl, fun memory => ?_⟩
    obtain ⟨after, ran, became⟩ := command.undo_does supply batches memory
    refine ⟨after, lift_run ran, became.held.trans ?_⟩
    simp only [CreateCommand.undone, deleted, document]
    cases command.created with
    | none => exact (Document.besides_nothing _).symm
    | some created => exact created.removedFrom_eq_besides _
  | update command => cases only
  | restore command =>
    refine ⟨.restore { command with restored := false }, rfl, fun memory => ?_⟩
    obtain ⟨after, ran, became⟩ := command.undo_does supply batches memory
    refine ⟨after, lift_run ran, became.held.trans ?_⟩
    simp only [RestoreCommand.undone, deleted, document]
    cases command.restored with
    | false => exact (Document.besides_nothing _).symm
    | true => rfl

theorem lift_run_eq {κ σ : Type} {wrap : κ → Command α} {run : StateM σ (Ended κ)}
    {before after : σ} {result : Except CommandError Unit} {ended : Command α}
    (ran : (lift wrap run).run before = ((result, ended), after)) :
    ∃ kept, run.run before = ((result, kept), after) ∧ ended = wrap kept := by
  rcases inner : run.run before with ⟨⟨inner_result, kept⟩, inner_after⟩
  have lifted : (lift wrap run).run before = _ := lift_run inner
  cases lifted.symm.trans ran
  exact ⟨kept, rfl, rfl⟩

section Attempts

variable {supply : Supply} {quiet : DocumentStore α (Memory α)}
  {failing : DocumentStore α (Observed (Memory α))} {command left : Command α}

/-- The command has been undone any number of times, and each time some call has failed. What calls
were to fail was given anew each time; none was told to find nothing where there is something. -/
inductive Attempts (failing : DocumentStore α (Observed (Memory α))) (command : Command α)
    (memory : Memory α) : Command α → Memory α → Prop
  | none : Attempts failing command memory command memory
  | again {left ended : Command α} {between : Memory α} {calls : List Call}
      {disturbances : List Disturbance} {error : CommandError} {after : Observed (Memory α)}
      (attempts : Attempts failing command memory left between)
      (heeded : ∀ disturbance ∈ disturbances, disturbance.effect ≠ .nothing)
      (failed : (left.undo failing).run ⟨calls, disturbances, between⟩ =
        ((.error error, ended), after)) :
      Attempts failing command memory ended after.inner

/-- An undo that fails leaves the command as it was, and has deleted a part of what it deletes. -/
theorem undo_fails (fails : Failing supply quiet failing) (only : command.onlyDeletes = true)
    {start : Memory α} {document : Document α} {before after : Observed (Memory α)}
    (stands : Behind (Stands command.document start document) before) {error : CommandError}
    {ended : Command α}
    (failed : (command.undo failing).run before = ((.error error, ended), after)) :
    ended = command ∧ ∃ part : Members, part.Within command.deleted ∧
      Stands command.document start (document.besides part) after.inner := by
  cases command with
  | create command =>
    obtain ⟨kept, ran, rfl⟩ := lift_run_eq failed
    obtain ⟨rfl, created, error, executed, removed⟩ := command.undo_fails ran
    have listed : (create kept).deleted = created.members := by simp [deleted, executed]
    rw [listed]
    exact ⟨rfl, (removeContent_erases fails _ created).part stands removed⟩
  | update command => cases only
  | restore command =>
    obtain ⟨kept, ran, rfl⟩ := lift_run_eq failed
    obtain ⟨rfl, error, executed, erased⟩ := command.undo_fails ran
    have listed : (restore kept).deleted = kept.members := by simp [deleted, executed]
    rw [listed]
    exact ⟨rfl, (RestoreCommand.erase_erases fails kept).part stands erased⟩

/-- Failed attempts leave the command as it was, and have deleted a part of what it deletes. -/
theorem Attempts.part (fails : Failing supply quiet failing) (only : command.onlyDeletes = true)
    {memory between : Memory α} (attempts : Attempts failing command memory left between) :
    left = command ∧ ∃ part : Members, part.Within command.deleted ∧
      Stands command.document memory ((memory.documentOrEmpty command.document).besides part)
        between := by
  induction attempts with
  | none =>
    refine ⟨rfl, .nothing, .nothing _, ?_, rfl, rfl⟩
    exact (Document.besides_nothing _).symm
  | again _ heeded failed ih =>
    obtain ⟨rfl, earlier, earlier_within, stands⟩ := ih
    -- This attempt finds the document without the part that is gone, and takes out another one.
    obtain ⟨same, later, later_within, stands⟩ := undo_fails fails only ⟨heeded, stands⟩ failed
    rw [Document.besides_and] at stands
    exact ⟨same, earlier.and later, earlier_within.and later_within, stands⟩

/-- However many attempts to undo a create or a restore have failed, and wherever they did: the next
undo without a failure succeeds, the command counts as undone then, and the document has the entries
in the order that a single undo without failures would have left. -/
theorem undo_retried (fails : Failing supply quiet failing) (only : command.onlyDeletes = true)
    {memory between : Memory α} (attempts : Attempts failing command memory left between) :
    let once := (command.undo quiet).run memory
    let retried := (left.undo quiet).run between
    once.1.1 = .ok () ∧ once.1.2.executed = false ∧ retried.1 = once.1 ∧
      retried.2.documentOrEmpty command.document = once.2.documentOrEmpty command.document := by
  intro once retried
  obtain ⟨rfl, part, within, held, -⟩ := attempts.part fails only
  obtain ⟨ended, undone, undo_does⟩ := undo_deletes supply true only
  obtain ⟨after, ran, deleted_once⟩ := undo_does memory
  obtain ⟨last, ran_again, deleted_again⟩ := undo_does between
  rw [← fails.undo_eq] at ran ran_again
  have once_eq : once = ((.ok (), ended), after) := ran
  have retried_eq : retried = ((.ok (), ended), last) := ran_again
  rw [once_eq, retried_eq]
  refine ⟨rfl, undone, rfl, ?_⟩
  -- What the failed attempts have deleted is among what is deleted now.
  rw [deleted_again, held, Document.besides_of_within _ within, deleted_once]

/-- A restore is taken back entry by entry; the undo fails once at the second entry and once at the
third one. -/
theorem undo_retried_one_by_one :
    let id : DocumentId := ⟨.numbered 2 0⟩
    let shape (number : Nat) : Shape Rat :=
      ⟨⟨.numbered 3 number⟩, "task", ⟨0, 0, 120, 60⟩, none, .null⟩
    let quiet := minimal .numbered false
    let failing := { (store .numbered true).observed.toBasicStore.oneByOne with batches := false }
    let executed := ((Command.restore (.new id [shape 1, shape 2, shape 3] [])).execute quiet).run
      ⟨[⟨id, [shape 0], []⟩], 0, 0⟩
    ∃ left between, Attempts failing executed.1.2 executed.2 left between ∧
      (between.documentOrEmpty id).shapes = [shape 0, shape 3] ∧
      let retried := (left.undo quiet).run between
      retried.1.1 = .ok () ∧ retried.1.2.executed = false ∧
        (retried.2.documentOrEmpty id).shapes = [shape 0] := by
  intro id shape quiet failing executed
  let error : StoreError := .request "injected"
  let fail (occurrence : Nat) : List Disturbance := [⟨.deleteShape, occurrence, .fail error⟩]
  have heeded (occurrence : Nat) :
      ∀ disturbance ∈ fail occurrence, disturbance.effect ≠ .nothing := by simp [fail]
  let first := (executed.1.2.undo failing).run ⟨[], fail 2, executed.2⟩
  let second := (first.1.2.undo failing).run ⟨[], fail 3, first.2.inner⟩
  have first_failed : first = ((.error (.store error), first.1.2), first.2) := rfl
  have second_failed : second = ((.error (.store error), second.1.2), second.2) := rfl
  have attempts : Attempts failing executed.1.2 executed.2 second.1.2 second.2.inner :=
    .again (.again .none (heeded 2) first_failed) (heeded 3) second_failed
  have fails : Failing .numbered quiet failing := .oneByOne false
  obtain ⟨done, undone, same, held⟩ := undo_retried fails (by rfl) attempts
  refine ⟨_, _, attempts, rfl, ?_⟩
  dsimp only
  rw [same]
  exact ⟨done, undone, congrArg Document.shapes held⟩

end Attempts

end Command

end TextDiagram
