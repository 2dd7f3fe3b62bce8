import TextDiagram.Proofs.Command.Change
import TextDiagram.Session

/-!
# Actions on sessions

What imports, restores and undos do to a session on a store in memory. Main statement: an action
touches only its own document and the history of it, and it either does nothing, or executes one
command and pushes it, or undoes the latest command and pops it.
-/
namespace TextDiagram

variable {α σ : Type}

theorem lookup_upsert_self {κ β : Type} [DecidableEq κ] (key : κ) (value : β)
    (held : List (κ × β)) : (upsert Prod.fst (key, value) held).lookup key = some value := by
  induction held with
  | nil => simp [upsert]
  | cons first rest ih =>
    obtain ⟨name, old⟩ := first
    simp only [upsert]
    split
    next => simp
    -- Another key is passed over by the lookup just as by the upsert.
    next other =>
      have apart : (key == name) = false := by simpa using fun same => other same.symm
      simp only [List.lookup_cons, apart, ih]

theorem lookup_upsert_of_ne {κ β : Type} [DecidableEq κ] (key : κ) (value : β)
    (held : List (κ × β)) {wanted : κ} (apart : wanted ≠ key) :
    (upsert Prod.fst (key, value) held).lookup wanted = held.lookup wanted := by
  have not_key : (wanted == key) = false := by simpa using apart
  induction held with
  | nil => simp [upsert, List.lookup_cons, not_key]
  | cons first rest ih =>
    obtain ⟨name, old⟩ := first
    simp only [upsert]
    split
    next same => simp only [List.lookup_cons, not_key, show name = key from same]
    next => simp only [List.lookup_cons, ih]

/-! ### Histories -/

namespace History

variable {store : DocumentStore α σ} {command ended : Command α} {before after : σ}

theorem run_refused [Scalar α] (history : History α) (depth : Nat) {error : CommandError}
    (ran : (command.execute store).run before = ((.error error, ended), after)) :
    (history.run store depth command).run before = ((.error error, history), after) :=
  run_bind_of_run ran

theorem run_done [Scalar α] (history : History α) (depth : Nat)
    (ran : (command.execute store).run before = ((.ok (), ended), after)) :
    (history.run store depth command).run before =
      ((.ok ended.created?, history.push depth ended), after) :=
  run_bind_of_run ran

theorem undoLatest_done (earlier : History α)
    (ran : (command.undo store).run before = ((.ok (), ended), after)) :
    (undoLatest store (command :: earlier)).run before =
      ((.ok (some ended.description), earlier), after) :=
  run_bind_of_run ran

end History

/-! ### Actions -/

namespace Session

/-- Something that a client has a session do. -/
inductive Action (α : Type) where
  | importText (document : DocumentId) (request : ImportRequest α)
  | restore (document : DocumentId) (shapes : List (Shape α)) (connectors : List Connector)
  | undo (document : DocumentId)

inductive Answer where
  | imported (result : Except CommandError Created)
  | restored (result : Except CommandError Unit)
  | undone (result : Except CommandError (Option String))

namespace Action

def document : Action α → DocumentId
  | importText document _ => document
  | restore document _ _ => document
  | undo document => document

/-- Whether the action puts back entries that it is given. -/
def restores : Action α → Bool
  | restore _ _ _ => true
  | _ => false

end Action

/-- What an action does to the history of its document. -/
inductive Effect where
  | kept
  | pushed
  | popped
deriving DecidableEq

/-- A command is pushed when it has succeeded, and the latest one is popped by an undo. -/
def Answer.effect : Answer → Effect
  | imported (.ok _) | restored (.ok _) => .pushed
  | imported (.error _) | restored (.error _) | undone (.ok none) => .kept
  | undone (.ok (some _)) | undone (.error _) => .popped

/-- Has a session do something. -/
def perform [Scalar α] (store : DocumentStore α σ) (session : Session α σ) :
    Action α → Answer × Session α σ
  | .importText document request =>
    let (result, session) := session.importText store document request
    (.imported result, session)
  | .restore document shapes connectors =>
    let (result, session) := session.restore store document shapes connectors
    (.restored result, session)
  | .undo document =>
    let (result, session) := session.undo store document
    (.undone result, session)

/-- The commands of a document that can be undone. -/
def commands (session : Session α σ) (document : DocumentId) : History α :=
  (session.history? document).getD []

theorem setHistory_commands (session : Session α σ) (id : DocumentId) (history : History α)
    (state : σ) : (session.setHistory id history state).commands id = history :=
  congrArg (Option.getD · []) (lookup_upsert_self id history session.histories)

theorem setHistory_commands_of_ne (session : Session α σ) {id other : DocumentId}
    (history : History α) (state : σ) (apart : other ≠ id) :
    (session.setHistory id history state).commands other = session.commands other :=
  congrArg (Option.getD · []) (lookup_upsert_of_ne id history session.histories apart)

theorem run_refused [Scalar α] {store : DocumentStore α σ} {session : Session α σ}
    {command ended : Command α} {error : CommandError} {after : σ} (id : DocumentId)
    (ran : (command.execute store).run session.store = ((.error error, ended), after)) :
    session.run store id command =
      (.error error, session.setHistory id (session.commands id) after) := by
  have ran_history :=
    History.run_refused ((session.history? id).getD []) session.undoDepth ran
  simp only [run, ran_history, commands]

theorem run_done [Scalar α] {store : DocumentStore α σ} {session : Session α σ}
    {command ended : Command α} {after : σ} (id : DocumentId)
    (ran : (command.execute store).run session.store = ((.ok (), ended), after)) :
    session.run store id command = (.ok ended.created?,
      session.setHistory id ((session.commands id).push session.undoDepth ended) after) := by
  have ran_history := History.run_done ((session.history? id).getD []) session.undoDepth ran
  simp only [run, ran_history, commands]

/-- The ids drawn for an action are fresh, and a restore puts back nothing that is there. -/
structure Allows [Scalar α] (supply : Supply) (batches : Bool) (session : Session α (Memory α))
    (action : Action α) : Prop where
  fresh : supply.Fresh action.document session.store
    (session.perform (Memory.store supply batches) action).2.store
  absent : ∀ document shapes connectors, action = .restore document shapes connectors →
    (Command.restore (.new document shapes connectors)).Admissible
      (session.store.documentOrEmpty document)

/-! ### Other documents -/

/-- The session may have changed in one document and the history of it, and in nothing else. -/
structure Turns (id : DocumentId) (session after : Session α (Memory α)) : Prop where
  undoDepth : after.undoDepth = session.undoDepth
  commands : ∀ other, other ≠ id → after.commands other = session.commands other
  documents : ∀ other, other ≠ id → after.store.document? other = session.store.document? other

theorem Turns.refl (id : DocumentId) (session : Session α (Memory α)) : Turns id session session :=
  ⟨rfl, fun _ _ => rfl, fun _ _ => rfl⟩

theorem setHistory_turns {session : Session α (Memory α)} {id : DocumentId} (history : History α)
    {memory : Memory α}
    (documents : ∀ other, other ≠ id → memory.document? other = session.store.document? other) :
    Turns id session (session.setHistory id history memory) where
  undoDepth := rfl
  commands _ apart := setHistory_commands_of_ne session history memory apart
  documents := documents

/-! ### One action -/

variable [Scalar α]

/-- What an action can do to a session, seen from its own document. -/
inductive Steps (session : Session α (Memory α)) (action : Action α) :
    Answer → Session α (Memory α) → Prop where
  | idle {answer : Answer} {after : Session α (Memory α)} (kept : answer.effect = .kept)
      (commands : after.commands action.document = session.commands action.document)
      (store : after.store = session.store) : Steps session action answer after
  | executed {answer : Answer} {after : Session α (Memory α)} {command : Command α}
      (pushed : answer.effect = .pushed)
      (commands : after.commands action.document =
        (session.commands action.document).push session.undoDepth command)
      (about : command.document = action.document) (restores : command.restores = action.restores)
      (changes : command.Changes (session.store.documentOrEmpty action.document)
        (after.store.documentOrEmpty action.document)) : Steps session action answer after
  | undone {answer : Answer} {after : Session α (Memory α)} {latest : Command α}
      {earlier : History α} (popped : answer.effect = .popped)
      (answered : answer = .undone (.ok (some latest.description)))
      (held : session.commands action.document = latest :: earlier)
      (commands : after.commands action.document = earlier)
      (document : after.store.documentOrEmpty action.document =
        latest.undone (session.store.documentOrEmpty action.document)) :
      Steps session action answer after

section

variable (supply : Supply) (batches : Bool) (session : Session α (Memory α))

/-- Running a command on a document pushes it, or else the text is refused and nothing happens. -/
theorem run_does (command : Command α) (pending : command.Pending) {id : DocumentId}
    (about : command.document = id) :
    ∃ result after, session.run (Memory.store supply batches) id command = (result, after) ∧
      Turns id session after ∧
      ((∃ error, result = .error (.format error) ∧ after.store = session.store ∧
          after.commands id = session.commands id) ∨
        ∃ executed : Command α, result = .ok executed.created? ∧
          after.commands id = (session.commands id).push session.undoDepth executed ∧
          executed.document = id ∧ executed.restores = command.restores ∧
          (command.Admissible (session.store.documentOrEmpty id) →
            supply.Fresh id session.store after.store →
            executed.Changes (session.store.documentOrEmpty id)
              (after.store.documentOrEmpty id))) := by
  subst about
  rcases command.execute_does supply batches session.store pending with
    ⟨error, ran⟩ | ⟨executed, memory, ran, same_document, same_kind, others, changes⟩
  · exact ⟨_, _, run_refused _ ran, setHistory_turns _ fun _ _ => rfl,
      .inl ⟨error, rfl, rfl, setHistory_commands session _ _ _⟩⟩
  · exact ⟨_, _, run_done _ ran, setHistory_turns _ others,
      .inr ⟨executed, rfl, setHistory_commands session _ _ _, same_document, same_kind, changes⟩⟩

/-- An undo in memory undoes the latest command if there is one. -/
theorem undo_steps (id : DocumentId)
    (about : ∀ command ∈ session.commands id, command.document = id) :
    ∃ result after, session.undo (Memory.store supply batches) id = (result, after) ∧
      Turns id session after ∧ Steps session (.undo id) (.undone result) after := by
  cases found : session.history? id with
  | none =>
    refine ⟨.ok none, session, ?_, .refl id session, .idle rfl rfl rfl⟩
    simp only [undo, found]
  -- A document may have a history without commands, as after a refused import.
  | some history =>
    have same : session.commands id = history := by simp [commands, found]
    cases history with
    | nil =>
      refine ⟨.ok none, session.setHistory id [] session.store, ?_,
        setHistory_turns _ fun _ _ => rfl, .idle rfl ?_ rfl⟩
      · simp only [undo, found]
        rfl
      · exact (setHistory_commands session _ _ _).trans same.symm
    | cons latest earlier =>
      have about_latest : latest.document = id := about latest (same ▸ List.mem_cons_self)
      obtain ⟨undone, memory, ran, description, became⟩ :=
        latest.undo_does supply batches session.store
      rw [about_latest] at became
      refine ⟨.ok (some latest.description), session.setHistory id earlier memory, ?_,
        setHistory_turns _ became.others,
        .undone rfl rfl same (setHistory_commands session _ _ _) became.held⟩
      simp only [undo, found, History.undoLatest_done earlier ran, description]

theorem importCommand_pending (id : DocumentId) (request : ImportRequest α) (family : Family) :
    (session.importCommand id request family).Pending := by
  unfold importCommand
  split <;> rfl

theorem importCommand_document (session : Session α σ) (id : DocumentId)
    (request : ImportRequest α) (family : Family) :
    (session.importCommand id request family).document = id := by
  unfold importCommand
  split <;> rfl

theorem importCommand_restores (id : DocumentId) (request : ImportRequest α) (family : Family) :
    (session.importCommand id request family).restores = false := by
  unfold importCommand
  split <;> rfl

theorem importCommand_admissible (id : DocumentId) (request : ImportRequest α) (family : Family)
    (document : Document α) : (session.importCommand id request family).Admissible document := by
  unfold importCommand
  split <;> trivial

/-- Every action turns nothing but its document, and takes one of the steps. -/
theorem perform_steps (action : Action α) (allowed : session.Allows supply batches action)
    (about : ∀ command ∈ session.commands action.document, command.document = action.document) :
    ∃ answer after,
      session.perform (Memory.store supply batches) action = (answer, after) ∧
      Turns action.document session after ∧ Steps session action answer after := by
  have fresh := allowed.fresh
  cases action with
  | importText id request =>
    cases resolved : Family.resolve request.familyName with
    -- Without a family there is no command, and the document is not even given a history.
    | error error =>
      refine ⟨.imported (.error (.format error)), session, ?_, .refl id session,
        .idle rfl rfl rfl⟩
      simp only [perform, importText, resolved]
    | ok family =>
      obtain ⟨result, after, ran, turns, outcome⟩ := session.run_does supply batches
        (session.importCommand id request family) (session.importCommand_pending id request family)
        (session.importCommand_document id request family)
      have performed : session.perform (Memory.store supply batches) (.importText id request) =
          (.imported (result.map (·.getD .nothing)), after) := by
        simp only [perform, importText, resolved, ran]
      rw [performed] at fresh
      refine ⟨_, after, performed, turns, ?_⟩
      rcases outcome with ⟨error, rfl, same_store, same_commands⟩ |
        ⟨executed, rfl, pushed, same_document, same_kind, changes⟩
      · exact .idle rfl same_commands same_store
      · exact .executed rfl pushed same_document
          (same_kind.trans (session.importCommand_restores id request family))
          (changes (session.importCommand_admissible id request family _) fresh)
  | restore id shapes connectors =>
    have about_document : (Command.restore (.new id shapes connectors)).document = id := rfl
    obtain ⟨result, after, ran, turns, outcome⟩ := session.run_does supply batches
      (.restore (.new id shapes connectors)) rfl about_document
    have performed : session.perform (Memory.store supply batches) (.restore id shapes connectors) =
        (.restored (result.map fun _ => ()), after) := by
      simp only [perform, restore, ran]
    rw [performed] at fresh
    refine ⟨_, after, performed, turns, ?_⟩
    rcases outcome with ⟨error, rfl, same_store, same_commands⟩ |
      ⟨executed, rfl, pushed, same_document, same_kind, changes⟩
    · exact .idle rfl same_commands same_store
    · exact .executed rfl pushed same_document same_kind
        (changes (allowed.absent id shapes connectors rfl) fresh)
  | undo id =>
    obtain ⟨result, after, ran, turns, steps⟩ := session.undo_steps supply batches id about
    refine ⟨.undone result, after, ?_, turns, steps⟩
    simp only [perform, ran]

end

end Session

end TextDiagram
