import TextDiagram.Command.Content

/-!
# Commands

A command changes a document and can take its change back: `create` imports a text as new content,
`update` puts new content in the place of an earlier import, and `restore` puts entries back under
ids that they had. A command remembers what it has done. To execute it while it is executed, or to
undo it while it is not, does nothing (a restore may be executed again and again).

An error ends a command where it stands, and nothing is rolled back.
-/
namespace TextDiagram

variable {α σ : Type}

/-- Why a command failed. -/
inductive CommandError where
  | format (error : FormatError)
  | store (error : StoreError)
deriving Repr, DecidableEq

namespace CommandError

def report : CommandError → Report
  | format error => error.report
  | store error => error.report

end CommandError

/-- Imports a text as new content. -/
structure CreateCommand (α : Type) where
  content : Import α
  created : Option Created
deriving Repr

/-- An import that has been taken out of a document: its container, and those of its members that
were there. -/
structure Replaced (α : Type) where
  container : Shape α
  shapes : List (Shape α)
  connectors : List Connector
deriving Repr

/-- Puts new content in the place of an earlier import. -/
structure UpdateCommand (α : Type) where
  document : DocumentId
  /-- The container of the earlier import. -/
  preview : ShapeId
  family : Family
  source : String
  config : Config α
  created : Option Created
  replaced : Option (Replaced α)
deriving Repr

/-- Puts entries back under their ids. -/
structure RestoreCommand (α : Type) where
  document : DocumentId
  shapes : List (Shape α)
  connectors : List Connector
  restored : Bool
deriving Repr

/-- A change of a document that can be taken back. -/
inductive Command (α : Type) where
  | create (command : CreateCommand α)
  | update (command : UpdateCommand α)
  | restore (command : RestoreCommand α)
deriving Repr

/-- How a command ended, and the command as it is afterwards. -/
abbrev Ended (κ : Type) := Except CommandError Unit × κ

/-! ## Create -/

namespace CreateCommand

def new (content : Import α) : CreateCommand α :=
  ⟨content, none⟩

/-- Reads the text, and writes what it says. -/
def execute [Scalar α] (store : DocumentStore α σ) (command : CreateCommand α) :
    StateM σ (Ended (CreateCommand α)) :=
  match command.created with
  | some _ => pure (.ok (), command)
  | none =>
    let content := command.content
    match Plan.ofText content.family content.source content.config with
    | .error error => pure (.error (.format error), command)
    | .ok plan => do
      match ← (createContent store content plan).run with
      | .error error => pure (.error (.store error), command)
      | .ok created => pure (.ok (), { command with created := some created })

def undo (store : DocumentStore α σ) (command : CreateCommand α) :
    StateM σ (Ended (CreateCommand α)) :=
  match command.created with
  | none => pure (.ok (), command)
  | some created => do
    match ← (removeContent store command.content.document created).run with
    | .error error => pure (.error (.store error), command)
    | .ok () => pure (.ok (), { command with created := none })

end CreateCommand

/-! ## Update -/

namespace Replaced

/-- The members that a document holds of those that a container lists. -/
def ofDocument (container : Shape α) (members : Members) (document : Option (Document α)) :
    Replaced α :=
  match document with
  | none => ⟨container, [], []⟩
  | some document =>
    { container
      shapes := document.shapes.filter (·.id ∈ members.shapes)
      connectors := document.connectors.filter (·.id ∈ members.connectors) }

def origin (replaced : Replaced α) : Origin α :=
  ⟨replaced.container.box.x, replaced.container.box.y⟩

/-- Takes an import out of a document: its members are noted down and deleted, then its container.
None if there is no such container; then nothing is deleted. -/
def take (store : DocumentStore α σ) (document : DocumentId) (preview : ShapeId) :
    StoreCall σ (Option (Replaced α)) := do
  let shape? ← store.shape? document preview
  match shape?.bind fun shape => (Container.members? shape).map fun members => (shape, members) with
  | none => pure none
  | some (container, members) =>
    let held ← store.document? document
    deleteConnectors store document members.connectors
    deleteShapes store document members.shapes
    let _ ← store.deleteShape document container.id
    pure (some (ofDocument container members held))

/-- Puts an import back into a document. -/
def putBack (store : DocumentStore α σ) (document : DocumentId) (replaced : Replaced α) :
    StoreCall σ Unit := do
  let _ ← store.restoreShapes document replaced.shapes
  let _ ← store.restoreConnectors document replaced.connectors
  let _ ← store.restoreShapes document [replaced.container]
  pure ()

end Replaced

namespace UpdateCommand

def new (document : DocumentId) (preview : ShapeId) (family : Family) (source : String)
    (config : Config α) : UpdateCommand α :=
  ⟨document, preview, family, source, config, none, none⟩

/-- What an update writes, once it is known what it replaces. Without an earlier import it starts
at the corner of the plane. -/
def content [Scalar α] (command : UpdateCommand α) (replaced : Option (Replaced α)) : Import α where
  document := command.document
  family := command.family
  source := command.source
  origin := (replaced.map Replaced.origin).getD .zero
  config := command.config

/-- Reads the text first, so that a text that is refused changes nothing; then takes out the
earlier import, and writes the new content where it stood. -/
def execute [Scalar α] (store : DocumentStore α σ) (command : UpdateCommand α) :
    StateM σ (Ended (UpdateCommand α)) :=
  match command.created with
  | some _ => pure (.ok (), command)
  | none =>
    match Plan.ofText command.family command.source command.config with
    | .error error => pure (.error (.format error), command)
    | .ok plan => do
      match ← (Replaced.take store command.document command.preview).run with
      | .error error => pure (.error (.store error), command)
      | .ok replaced =>
        let command := { command with replaced }
        match ← (createContent store (command.content replaced) plan).run with
        | .error error => pure (.error (.store error), command)
        | .ok created => pure (.ok (), { command with created := some created })

/-- Deletes the new content, then puts the earlier import back. -/
def undo (store : DocumentStore α σ) (command : UpdateCommand α) :
    StateM σ (Ended (UpdateCommand α)) :=
  match command.created with
  | none => pure (.ok (), command)
  | some created => do
    match ← (removeContent store command.document created).run with
    | .error error => pure (.error (.store error), command)
    | .ok () =>
      let undone := { command with created := none, replaced := none }
      match command.replaced with
      | none => pure (.ok (), undone)
      | some replaced =>
        match ← (replaced.putBack store command.document).run with
        | .error error => pure (.error (.store error), undone)
        | .ok () => pure (.ok (), undone)

end UpdateCommand

/-! ## Restore -/

namespace RestoreCommand

def new (document : DocumentId) (shapes : List (Shape α)) (connectors : List Connector) :
    RestoreCommand α :=
  ⟨document, shapes, connectors, false⟩

/-- Restores the shapes and then the connectors, where there are any. -/
def write (store : DocumentStore α σ) (command : RestoreCommand α) : StoreCall σ Unit := do
  if !command.shapes.isEmpty then
    let _ ← store.restoreShapes command.document command.shapes
  if !command.connectors.isEmpty then
    let _ ← store.restoreConnectors command.document command.connectors

/-- Deletes the connectors and then the shapes, where there are any. -/
def erase (store : DocumentStore α σ) (command : RestoreCommand α) : StoreCall σ Unit := do
  deleteConnectors store command.document (command.connectors.map Connector.id)
  deleteShapes store command.document (command.shapes.map Shape.id)

def execute (store : DocumentStore α σ) (command : RestoreCommand α) :
    StateM σ (Ended (RestoreCommand α)) := do
  match ← (command.write store).run with
  | .error error => pure (.error (.store error), command)
  | .ok () => pure (.ok (), { command with restored := true })

def undo (store : DocumentStore α σ) (command : RestoreCommand α) :
    StateM σ (Ended (RestoreCommand α)) :=
  if command.restored then do
    match ← (command.erase store).run with
    | .error error => pure (.error (.store error), command)
    | .ok () => pure (.ok (), { command with restored := false })
  else
    pure (.ok (), command)

end RestoreCommand

/-! ## Commands of any kind -/

namespace Command

def description : Command α → String
  | create command => "import " ++ command.content.family.name ++ " diagram"
  | update command => "update " ++ command.family.name ++ " diagram preview"
  | restore command =>
    "restore " ++ toString command.shapes.length ++ " shapes and " ++
      toString command.connectors.length ++ " connectors"

/-- What the command has created and not yet deleted. -/
def created? : Command α → Option Created
  | create command => command.created
  | update command => command.created
  | restore _ => none

/-- A run of one kind of command as a run of a command. -/
def lift {κ : Type} (wrap : κ → Command α) (run : StateM σ (Ended κ)) :
    StateM σ (Ended (Command α)) := do
  let (result, command) ← run
  pure (result, wrap command)

def execute [Scalar α] (store : DocumentStore α σ) : Command α → StateM σ (Ended (Command α))
  | create command => lift create (command.execute store)
  | update command => lift update (command.execute store)
  | restore command => lift restore (command.execute store)

def undo (store : DocumentStore α σ) : Command α → StateM σ (Ended (Command α))
  | create command => lift create (command.undo store)
  | update command => lift update (command.undo store)
  | restore command => lift restore (command.undo store)

end Command

end TextDiagram
