import TextDiagram.Proofs.Session.Actions

/-!
# Where commands are kept

A command stays about its document when it is executed, whatever the store does. Main statement: in
a session every command is kept in the history of the document that it is about, after every action
and on any store.
-/
namespace TextDiagram

variable {α σ : Type}

/-! ### Commands stay on their document -/

/-- What is the same of all answers of the second run is the same of the answer of both. -/
theorem bind_answer {β γ δ : Type} (read : γ → δ) {value : δ} {run : StateM σ β}
    {next : β → StateM σ γ} (always : ∀ answer after, read ((next answer).run after).1 = value)
    (before : σ) : read ((run >>= next).run before).1 = value :=
  always _ _

theorem CreateCommand.execute_document [Scalar α] (store : DocumentStore α σ)
    (command : CreateCommand α) (before : σ) :
    ((command.execute store).run before).1.2.content.document = command.content.document := by
  obtain ⟨content, _ | created⟩ := command
  case some => rfl
  case none =>
    simp only [execute]
    cases Plan.ofText content.family content.source content.config with
    | error error => rfl
    | ok plan =>
      refine bind_answer (fun ended : Ended (CreateCommand α) => ended.2.content.document)
        (fun result after => ?_) before
      cases result <;> rfl

theorem UpdateCommand.execute_document [Scalar α] (store : DocumentStore α σ)
    (command : UpdateCommand α) (before : σ) :
    ((command.execute store).run before).1.2.document = command.document := by
  obtain ⟨document, preview, family, source, config, _ | created, replaced⟩ := command
  case some => rfl
  case none =>
    simp only [execute]
    cases Plan.ofText family source config with
    | error error => rfl
    | ok plan =>
      refine bind_answer (fun ended : Ended (UpdateCommand α) => ended.2.document)
        (fun result between => ?_) before
      cases result with
      | error error => rfl
      | ok replaced =>
        refine bind_answer (fun ended : Ended (UpdateCommand α) => ended.2.document)
          (fun result after => ?_) between
        cases result <;> rfl

theorem RestoreCommand.execute_document (store : DocumentStore α σ) (command : RestoreCommand α)
    (before : σ) : ((command.execute store).run before).1.2.document = command.document := by
  refine bind_answer (fun ended : Ended (RestoreCommand α) => ended.2.document)
    (fun result after => ?_) before
  cases result <;> rfl

theorem Command.execute_document [Scalar α] (store : DocumentStore α σ) (command : Command α)
    (before : σ) : ((command.execute store).run before).1.2.document = command.document := by
  cases command with
  | create command => exact command.execute_document store before
  | update command => exact command.execute_document store before
  | restore command => exact command.execute_document store before

namespace Session

/-- Every command is kept in the history of the document that it is about. -/
def Filed (session : Session α σ) : Prop :=
  ∀ id, ∀ command ∈ session.commands id, command.document = id

theorem setHistory_filed {session : Session α σ} (filed : session.Filed) {id : DocumentId}
    {history : History α} (about : ∀ command ∈ history, command.document = id) (state : σ) :
    (session.setHistory id history state).Filed := by
  intro other command
  by_cases here : other = id
  · rw [here, setHistory_commands]
    exact about command
  · rw [setHistory_commands_of_ne session history state here]
    exact filed other command

theorem run_filed [Scalar α] (store : DocumentStore α σ) {session : Session α σ}
    (filed : session.Filed) {id : DocumentId} {command : Command α}
    (about : command.document = id) : (session.run store id command).2.Filed := by
  have same_document := command.execute_document store session.store
  rcases executed : (command.execute store).run session.store with ⟨⟨error | ⟨⟩, ended⟩, after⟩
  · rw [run_refused id executed]
    exact setHistory_filed filed (filed id) after
  · rw [run_done id executed]
    rw [executed] at same_document
    refine setHistory_filed filed (fun kept pushed => ?_) after
    -- What is kept is the new command, or has been there.
    rcases List.mem_cons.mp (List.mem_of_mem_take pushed) with rfl | earlier
    · exact same_document.trans about
    · exact filed id kept earlier

theorem undo_filed (store : DocumentStore α σ) {session : Session α σ} (filed : session.Filed)
    (id : DocumentId) : (session.undo store id).2.Filed := by
  unfold undo
  cases held : session.history? id with
  | none => exact filed
  | some history =>
    have kept : session.commands id = history := by rw [commands, held, Option.getD_some]
    refine setHistory_filed filed (fun command left => filed id command ?_) _
    rw [kept]
    cases history with
    | nil => exact left
    | cons latest earlier =>
      have popped : (((History.undoLatest store (latest :: earlier)).run session.store).1).2 =
          earlier := by
        refine bind_answer Prod.snd (fun undone after => ?_) session.store
        obtain ⟨_ | _, _⟩ := undone <;> rfl
      exact List.mem_cons_of_mem latest (popped ▸ left)

theorem perform_filed [Scalar α] (store : DocumentStore α σ) {session : Session α σ}
    (filed : session.Filed) (action : Action α) : (session.perform store action).2.Filed := by
  cases action with
  | importText document request =>
    simp only [perform, importText]
    cases Family.resolve request.familyName with
    | error error => exact filed
    | ok family =>
      exact run_filed store filed (session.importCommand_document document request family)
  | restore document shapes connectors =>
    have about : (Command.restore (.new document shapes connectors)).document = document := rfl
    exact run_filed store filed about
  | undo document => exact undo_filed store filed document

end Session

end TextDiagram
