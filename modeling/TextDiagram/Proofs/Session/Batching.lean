import TextDiagram.Proofs.Command.Alike
import TextDiagram.Proofs.Session.Actions

/-!
# Entries together or one by one

Working on many entries in one call is nothing but faster. Main statement: a session that does the
same things on a store in memory gives the same answers and is the same after every step (its
documents, their entries in order with their ids, its histories, and the ids drawn), whether the
store takes entries together, hides that it does, or has no calls on many entries at all.
-/
namespace TextDiagram

variable {α σ : Type}

/-! ### Stores that sessions do not tell apart -/

namespace DocumentStore.Alike

variable {store other : DocumentStore α σ}

theorem run [Scalar α] (alike : store.Alike other) :
    Session.run store = Session.run (α := α) other := by
  funext session document command
  simp only [Session.run, History.run, alike.execute]

theorem sessionUndo (alike : store.Alike other) :
    Session.undo store = Session.undo (α := α) other := by
  funext session document
  unfold Session.undo
  cases session.history? document with
  | none => rfl
  | some history => cases history <;> simp only [History.undoLatest, alike.undo]

/-- What a session does is the same on stores that are alike. -/
theorem perform [Scalar α] (alike : store.Alike other) :
    Session.perform store = Session.perform (α := α) other := by
  funext session action
  cases action with
  | importText document request => simp only [Session.perform, Session.importText, alike.run]
  | restore document shapes connectors => simp only [Session.perform, Session.restore, alike.run]
  | undo document => simp only [Session.perform, alike.sessionUndo]

end DocumentStore.Alike

/-! ### Whole runs -/

namespace Session

variable [Scalar α]

/-- What a session answers to one action after the other, and the session after each of them. -/
def trace (store : DocumentStore α σ) (session : Session α σ) :
    List (Action α) → List (Answer × Session α σ)
  | [] => []
  | action :: rest =>
    let (answer, after) := session.perform store action
    (answer, after) :: trace store after rest

theorem trace_congr {store other : DocumentStore α σ} (alike : store.Alike other)
    (session : Session α σ) (actions : List (Action α)) :
    session.trace store actions = session.trace other actions := by
  induction actions generalizing session with
  | nil => rfl
  | cons action rest ih => simp only [trace, alike.perform, ih]

/-- From any session on, a store in memory that hides its calls on many entries, and one that does
not have them (whatever it says of itself), run like the one that is asked to use them. -/
theorem trace_unbatched (supply : Supply) (session : Session α (Memory α))
    (actions : List (Action α)) :
    session.trace (Memory.store supply false) actions =
        session.trace (Memory.store supply true) actions ∧
      ∀ batches, session.trace (Memory.minimal supply batches) actions =
        session.trace (Memory.store supply true) actions :=
  ⟨trace_congr (Memory.store_alike supply false) session actions,
    fun batches => trace_congr (Memory.minimal_alike supply batches) session actions⟩

end Session

end TextDiagram
