import TextDiagram.Proofs.Command.Matching
import TextDiagram.Proofs.Session.Filing

/-!
# The same action on two sessions

What an action on a document makes of a session depends on its store only through calls on that
document, and on its histories only through the one of that document. Main statement: on sessions
whose stores match there, an action and the same action with other ids are answered alike and leave
sessions of which the same can be said again. The histories of other documents stay as they are.
-/
namespace TextDiagram

variable {α σ τ : Type}

namespace Session

open Command (rename)

/-! ### Other documents -/

section

variable (store : DocumentStore α σ) (session : Session α σ)

theorem setHistory_history?_of_ne {id other : DocumentId} (history : History α) (state : σ)
    (apart : other ≠ id) :
    (session.setHistory id history state).history? other = session.history? other :=
  lookup_upsert_of_ne id history session.histories apart

theorem undo_history?_of_ne {id other : DocumentId} (apart : other ≠ id) :
    (session.undo store id).2.history? other = session.history? other := by
  unfold undo
  split
  · rfl
  · exact setHistory_history?_of_ne session _ _ apart

/-- An action gives no other document a history, and takes none away. -/
theorem perform_history?_of_ne [Scalar α] (action : Action α) {other : DocumentId}
    (apart : other ≠ action.document) :
    (session.perform store action).2.history? other = session.history? other := by
  cases action with
  | importText document request =>
    simp only [perform, importText]
    cases Family.resolve request.familyName with
    | error error => rfl
    | ok family => exact setHistory_history?_of_ne session _ _ apart
  | restore document shapes connectors => exact setHistory_history?_of_ne session _ _ apart
  | undo document => exact undo_history?_of_ne store session apart

/-- An action leaves the settings as they are. -/
theorem perform_settings [Scalar α] (action : Action α) :
    (session.perform store action).2.layout = session.layout ∧
      (session.perform store action).2.undoDepth = session.undoDepth := by
  cases action with
  | importText document request =>
    simp only [perform, importText]
    cases Family.resolve request.familyName <;> exact ⟨rfl, rfl⟩
  | restore document shapes connectors => exact ⟨rfl, rfl⟩
  | undo document =>
    simp only [perform, undo]
    cases session.history? document <;> exact ⟨rfl, rfl⟩

end

/-! ### Renamed actions -/

def Action.rename (names : Renaming) : Action α → Action α
  | importText document request =>
    importText document { request with preview := request.preview.map names.shape }
  | restore document shapes connectors =>
    restore document (shapes.map (Shape.rename names)) (connectors.map (Connector.rename names))
  | undo document => undo document

/-- Of all answers only those to imports tell ids. -/
def Answer.rename (names : Renaming) : Answer → Answer
  | imported result => imported (result.map (Created.rename names))
  | restored result => restored result
  | undone result => undone result

theorem Action.rename_document (names : Renaming) (action : Action α) :
    (action.rename names).document = action.document := by
  cases action <;> rfl

theorem Action.rename_identity (action : Action α) : action.rename .identity = action := by
  cases action <;> simp [rename]

theorem Answer.rename_identity (answer : Answer) : answer.rename .identity = answer := by
  cases answer with
  | imported result => cases result <;> simp [rename, Except.map]
  | _ => rfl

/-! ### Runs of commands -/

/-- Running a command and setting the history and the store that it leaves. -/
theorem run_eq [Scalar α] (store : DocumentStore α σ) (session : Session α σ) (id : DocumentId)
    (command : Command α) :
    let ran := ((session.commands id).run store session.undoDepth command).run session.store
    session.run store id command = (ran.1.1, session.setHistory id ran.1.2 ran.2) :=
  rfl

/-- Undoing the latest command likewise; a document without a history has none to undo, like one
with an empty history. -/
theorem undo_eq (store : DocumentStore α σ) (session : Session α σ) (id : DocumentId) :
    let ran := ((session.commands id).undoLatest store).run session.store
    ∃ after, session.undo store id = (ran.1.1, after) ∧ after.layout = session.layout ∧
      after.undoDepth = session.undoDepth ∧ after.commands id = ran.1.2 ∧ after.store = ran.2 := by
  intro ran
  cases held : session.history? id with
  | none =>
    have empty : session.commands id = [] := by rw [commands, held, Option.getD_none]
    have nothing : ran = ((.ok none, []), session.store) := by
      simp only [ran, empty]
      rfl
    rw [nothing]
    exact ⟨session, by rw [undo, held], rfl, rfl, empty, rfl⟩
  | some history =>
    have same : session.commands id = history := by rw [commands, held, Option.getD_some]
    refine ⟨session.setHistory id ran.1.2 ran.2, ?_, rfl, rfl, setHistory_commands _ _ _ _, rfl⟩
    simp only [ran, same, undo, held]
    rfl

/-! ### Linked sessions -/

/-- Both sessions have the same settings, the same commands of a document, up to a renaming, and
linked stores. -/
structure Linked (link : Link σ τ) (names : Renaming) (id : DocumentId) (session : Session α σ)
    (also : Session α τ) : Prop where
  layout : also.layout = session.layout
  undoDepth : also.undoDepth = session.undoDepth
  commands : also.commands id = (session.commands id).map (rename names)
  store : link.linked session.store also.store

section

variable {link : Link σ τ} {names : Renaming} {id : DocumentId} {session : Session α σ}
  {also : Session α τ} (linked : Linked link names id session also)

include linked

/-- Sessions stay linked when their histories and stores are set to linked ones. -/
theorem Linked.setHistory {history history' : History α} {state : σ} {state' : τ}
    (histories : history' = history.map (rename names)) (states : link.linked state state') :
    Linked link names id (session.setHistory id history state)
      (also.setHistory id history' state') where
  layout := linked.layout
  undoDepth := linked.undoDepth
  commands := by rw [setHistory_commands, setHistory_commands, histories]
  store := states

theorem Linked.importCommand [Scalar α] (document : DocumentId) (request : ImportRequest α)
    (family : Family) :
    also.importCommand document { request with preview := request.preview.map names.shape } family =
      (session.importCommand document request family).rename names := by
  unfold Session.importCommand
  rw [linked.layout]
  cases request.preview <;> rfl

variable {store : DocumentStore α σ} {other : DocumentStore α τ}
  (matched : store.Matches link names id other)

include matched

theorem run_linked [Scalar α] (command : Command α) (about : command.document = id) :
    link.apart (session.run store id command).2.store ∨
      (also.run other id (command.rename names)).1 =
          (session.run store id command).1.map (Option.map (Created.rename names)) ∧
        Linked link names id (session.run store id command).2
          (also.run other id (command.rename names)).2 := by
  have ran := (matched.run session.undoDepth (session.commands id) command about).agrees _ _
    linked.store
  rw [run_eq, run_eq other, linked.undoDepth, linked.commands]
  rcases ran with apart | ⟨answer, still⟩
  · exact .inl apart
  · exact .inr ⟨congrArg Prod.fst answer, linked.setHistory (congrArg Prod.snd answer) still⟩

theorem undo_linked (about : ∀ command ∈ session.commands id, command.document = id) :
    link.apart (session.undo store id).2.store ∨
      (also.undo other id).1 = (session.undo store id).1 ∧
        Linked link names id (session.undo store id).2 (also.undo other id).2 := by
  have ran := (matched.undoLatest (session.commands id) about).agrees _ _ linked.store
  obtain ⟨after, undone, layout, undoDepth, commands, state⟩ := undo_eq store session id
  obtain ⟨after', undone', layout', undoDepth', commands', state'⟩ := undo_eq other also id
  rw [linked.commands] at undone' commands' state'
  rw [undone, undone', state]
  rcases ran with apart | ⟨answer, still⟩
  · exact .inl apart
  · refine .inr ⟨congrArg Prod.fst answer, ?_, ?_, ?_, ?_⟩
    · rw [layout', layout, linked.layout]
    · rw [undoDepth', undoDepth, linked.undoDepth]
    · rw [commands', commands]
      exact congrArg Prod.snd answer
    · rw [state', state]
      exact still

theorem perform_linked [Scalar α] (action : Action α) (own : action.document = id)
    (about : ∀ command ∈ session.commands id, command.document = id) :
    link.apart (session.perform store action).2.store ∨
      (also.perform other (action.rename names)).1 =
          ((session.perform store action).1).rename names ∧
        Linked link names id (session.perform store action).2
          (also.perform other (action.rename names)).2 := by
  subst own
  cases action with
  | importText document request =>
    cases resolved : Family.resolve request.familyName with
    | error error =>
      simp only [perform, importText, Action.rename, resolved]
      exact .inr ⟨rfl, linked⟩
    | ok family =>
      simp only [perform, importText, Action.rename, resolved, linked.importCommand]
      rcases run_linked linked matched (session.importCommand document request family)
        (session.importCommand_document document request family) with apart | ⟨answer, still⟩
      · exact .inl apart
      · have told (result : Except CommandError (Option Created)) :
            (result.map (Option.map (Created.rename names))).map (·.getD .nothing) =
              (result.map (·.getD .nothing)).map (Created.rename names) := by
          rcases result with _ | _ | _ <;> rfl
        have same := (congrArg (Except.map (·.getD .nothing)) answer).trans (told _)
        exact .inr ⟨congrArg Answer.imported same, still⟩
  | restore document shapes connectors =>
    have ran := run_linked linked matched (.restore (.new document shapes connectors)) rfl
    rcases ran with apart | ⟨answer, still⟩
    · exact .inl apart
    · have told (result : Except CommandError (Option Created)) :
          (result.map (Option.map (Created.rename names))).map (fun _ => ()) =
            result.map fun _ => () := by
        cases result <;> rfl
      have same := (congrArg (Except.map fun _ => ()) answer).trans (told _)
      exact .inr ⟨congrArg Answer.restored same, still⟩
  | undo document =>
    rcases undo_linked linked matched about with apart | ⟨answer, still⟩
    · exact .inl apart
    · exact .inr ⟨congrArg Answer.undone answer, still⟩

end

end Session

end TextDiagram
