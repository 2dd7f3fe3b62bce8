import TextDiagram.Json.Printer
import TextDiagram.Store.Basic
import TextDiagram.Text.Blank
import TextDiagram.Wire.Document

/-!
# Remote stores

A store that a document service keeps behind an HTTP interface. Every operation is one request. A
status of 404 says that there is nothing, any other status outside of the 200s is an error, and the
body of an answer must be of the expected type. How requests travel is left to a parameter, the
connection.
-/
namespace TextDiagram.Remote

inductive Method where
  | get
  | post
  | patch
  | delete
deriving Repr, DecidableEq

def Method.name : Method → String
  | get => "GET"
  | post => "POST"
  | patch => "PATCH"
  | delete => "DELETE"

/-- A request to a document service. -/
structure Request where
  method : Method
  url : String
  body : Option Json

/-- What a document service answers. -/
structure Reply where
  status : Nat
  body : String
deriving Repr, DecidableEq

/-- A way to send requests: gives the whole reply, or says what went wrong on the way. -/
abbrev Connection (σ : Type) := Request → StateM σ (Except String Reply)

variable {σ β : Type}

/-- What a reply carries. A reply of status 204 or 304 carries nothing. -/
def Reply.content (reply : Reply) : String :=
  if reply.status = 204 ∨ reply.status = 304 then "" else reply.body

/-- Reads a reply: 404 says that there is nothing. -/
def Reply.read (reply : Reply) (decoder : Json.Decoder β) : Except StoreError (Option β) :=
  if reply.status = 404 then
    .ok none
  else if 200 ≤ reply.status ∧ reply.status < 300 then
    match Json.decodeText decoder reply.content with
    | .ok value => .ok (some value)
    | .error .malformed => .error (.parse "malformed JSON")
    | .error .mistyped => .error (.parse "unexpected JSON")
  else
    .error (.response reply.status reply.content)

/-- Sends a request and reads the reply. -/
def call (connection : Connection σ) (request : Request) (decoder : Json.Decoder β) :
    StoreCall σ (Option β) := do
  let sent : Except String Reply ← ExceptT.lift (connection request)
  match sent with
  | .error detail => throw (.request detail)
  | .ok reply => ExceptT.mk (pure (reply.read decoder))

def documentUrl (base : String) (document : DocumentId) : String :=
  base ++ "/diagrams/" ++ document.uuid.toText

/-- Asks for something below a document that may not be there. -/
def ask (connection : Connection σ) (base : String) (document : DocumentId) (method : Method)
    (path : String) (body : Option Json) (decoder : Json.Decoder β) : StoreCall σ (Option β) :=
  call connection ⟨method, documentUrl base document ++ path, body⟩ decoder

/-- Sends a change to which a document must be the answer. -/
def change (connection : Connection σ) (base : String) (document : DocumentId) (path : String)
    (body : Json) : StoreCall σ (Document Float) := do
  match ← ask connection base document .post path (some body) Document.record.decoder with
  | some answer => pure answer
  | none => throw (.documentNotFound document)

/-- The store that a document service keeps at an address. -/
def store (base : String) (connection : Connection σ) : DocumentStore Float σ :=
  let base := String.ofList (Text.dropEndWhile (· == '/') base.toList)
  let shapePath (shape : ShapeId) : String := "/shapes/" ++ shape.uuid.toText
  let connectorPath (connector : ConnectorId) : String :=
    "/connectors/" ++ connector.uuid.toText
  let document := Document.record.decoder
  { document? := fun id => ask connection base id .get "" none document
    addShape := fun id draft => change connection base id "/shapes" draft.toJson
    updateShape := fun id shape patch =>
      ask connection base id .patch (shapePath shape) (some patch.toJson) document
    deleteShape := fun id shape =>
      ask connection base id .delete (shapePath shape) none document
    shape? := fun id shape =>
      ask connection base id .get (shapePath shape) none Shape.record.decoder
    restoreShapes := fun id shapes =>
      change connection base id "/shapes/restore"
        (.ofFields [("shapes", .ofList Shape.toJson shapes)])
    addConnector := fun id draft => change connection base id "/connectors" draft.toJson
    deleteConnector := fun id connector =>
      ask connection base id .delete (connectorPath connector) none document
    restoreConnectors := fun id connectors =>
      change connection base id "/connectors/restore"
        (.ofFields [("connectors", .ofList Connector.toJson connectors)])
    batches := true
    addShapes := fun id drafts =>
      change connection base id "/shapes/batch"
        (.ofFields [("shapes", .ofList ShapeDraft.toJson drafts)])
    deleteShapes := fun id ids =>
      ask connection base id .post "/shapes/delete"
        (some (.ofFields [("ids", .ofList ShapeId.toJson ids)])) document
    addConnectors := fun id drafts =>
      change connection base id "/connectors/batch"
        (.ofFields [("connectors", .ofList ConnectorDraft.toJson drafts)])
    deleteConnectors := fun id ids =>
      ask connection base id .post "/connectors/delete"
        (some (.ofFields [("ids", .ofList ConnectorId.toJson ids)])) document }

end TextDiagram.Remote
