import TextDiagram.Command.Basic

/-!
# Histories

The commands of a document that can be undone, the latest first. Only a command that succeeded is
kept. A history has a greatest length, and past it the oldest command is forgotten. Undoing takes
the latest command off the history, whether or not taking its change back succeeds.
-/
namespace TextDiagram

variable {α σ : Type}

/-- The commands that can be undone, the latest first. -/
abbrev History (α : Type) := List (Command α)

namespace History

/-- The history with a command that has succeeded; of `depth` commands, and of one at least. -/
def push (history : History α) (depth : Nat) (command : Command α) : History α :=
  (command :: history).take (max depth 1)

/-- Executes a command and keeps it when it succeeds. Gives what it created. -/
def run [Scalar α] (store : DocumentStore α σ) (depth : Nat) (history : History α)
    (command : Command α) : StateM σ (Except CommandError (Option Created) × History α) := do
  match ← command.execute store with
  | (.error error, _) => pure (.error error, history)
  | (.ok (), executed) => pure (.ok executed.created?, history.push depth executed)

/-- Undoes the latest command. Gives its description, and none when there is no command. -/
def undoLatest (store : DocumentStore α σ) (history : History α) :
    StateM σ (Except CommandError (Option String) × History α) := do
  match history with
  | [] => pure (.ok none, [])
  | latest :: earlier =>
    match ← latest.undo store with
    | (.error error, _) => pure (.error error, earlier)
    | (.ok (), undone) => pure (.ok (some undone.description), earlier)

end History

end TextDiagram
