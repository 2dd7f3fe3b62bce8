import TextDiagram.Api.MediaType
import TextDiagram.Api.Route
import TextDiagram.Wire.Request

/-!
# The HTTP interface

A session answers HTTP requests: layout previews, and imports, restores and undos on a document.
Faults are found in a fixed order: the path, the method, the id of the document, the content type,
the size of the body, and then the body from its start on.
-/
namespace TextDiagram

variable {σ : Type}

/-- A request as it comes in. -/
structure HttpRequest where
  method : String
  target : String
  contentType : Option String
  body : String

/-- An answer; its body is JSON where there is one. -/
structure HttpResponse where
  status : Nat
  body : Option Json

namespace HttpResponse

def bare (status : Nat) : HttpResponse :=
  ⟨status, none⟩

def ok (body : Json) : HttpResponse :=
  ⟨200, some body⟩

end HttpResponse

namespace CommandError

/-- The status that tells of an error: a refused text is the fault of the request, and a store
that fails is behind the server. -/
def status : CommandError → Nat
  | format _ => 400
  | store (.documentNotFound _) => 404
  | store _ => 502

def response (error : CommandError) : HttpResponse :=
  ⟨error.status, some error.report.toJson⟩

end CommandError

namespace HttpRequest

/-- Whether the request says that its body is JSON. -/
def saysJson (request : HttpRequest) : Bool :=
  match request.contentType.bind MediaType.parse? with
  | some mediaType => mediaType.isJson
  | none => false

/-- How many bytes a body may have. -/
def bodyLimit : Nat :=
  2097152

/-- Reads the body of the request, or gives the status that refuses it. -/
def read {β : Type} (request : HttpRequest) (record : Json.Record β) : Except Nat β :=
  if !request.saysJson then
    .error 415
  else if bodyLimit < request.body.utf8ByteSize then
    .error 413
  else
    match Json.decodeText record.decoder request.body with
    | .ok value => .ok value
    | .error .malformed => .error 400
    | .error .mistyped => .error 422

end HttpRequest

/-- The id of a document in a path. -/
def DocumentId.ofSegment? (segment : List Char) : Option DocumentId :=
  (Uuid.parse? (String.ofList (percentDecode segment))).map DocumentId.mk

namespace Session

def answerLayout (session : Session Float σ) (request : HttpRequest) : HttpResponse :=
  match request.read LayoutRequest.record with
  | .error status => .bare status
  | .ok body =>
    match Preview.ofText body.familyName body.source session.layout body.overrides with
    | .error error => (CommandError.format error).response
    | .ok preview => .ok (if body.center then preview.centered else preview).toJson

def answerImport (store : DocumentStore Float σ) (session : Session Float σ)
    (document : DocumentId) (request : HttpRequest) : HttpResponse × Session Float σ :=
  match request.read ImportRequest.record with
  | .error status => (.bare status, session)
  | .ok body =>
    match session.importText store document body with
    | (.error error, session) => (error.response, session)
    | (.ok created, session) => (.ok created.toJson, session)

def answerRestore (store : DocumentStore Float σ) (session : Session Float σ)
    (document : DocumentId) (request : HttpRequest) : HttpResponse × Session Float σ :=
  match request.read RestoreRequest.record with
  | .error status => (.bare status, session)
  | .ok body =>
    match session.restore store document body.shapes body.connectors with
    | (.error error, session) => (error.response, session)
    | (.ok (), session) => (.ok (.ofFields [("ok", .bool true)]), session)

def answerUndo (store : DocumentStore Float σ) (session : Session Float σ)
    (document : DocumentId) : HttpResponse × Session Float σ :=
  match session.undo store document with
  | (.error error, session) => (error.response, session)
  | (.ok undone, session) => (.ok (.ofFields [("undone", .ofText? undone)]), session)

/-- Answers on a document, if the segment of the path is an id. -/
def answerOn (session : Session Float σ) (segment : List Char)
    (answer : DocumentId → HttpResponse × Session Float σ) : HttpResponse × Session Float σ :=
  match DocumentId.ofSegment? segment with
  | none => (.bare 400, session)
  | some document => answer document

/-- Answers a request. A request for the options of a path is answered before the path is looked
at. -/
def answer (store : DocumentStore Float σ) (session : Session Float σ) (request : HttpRequest) :
    HttpResponse × Session Float σ :=
  if request.method = "OPTIONS" then
    (.bare 200, session)
  else
    match Route.ofTarget? request.target with
    | none => (.bare 404, session)
    | some route =>
      if !route.allows request.method then
        (.bare 405, session)
      else
        match route with
        | .health => (.bare 200, session)
        | .layout => (session.answerLayout request, session)
        | .importText segment =>
          session.answerOn segment fun document => session.answerImport store document request
        | .restore segment =>
          session.answerOn segment fun document => session.answerRestore store document request
        | .undo segment =>
          session.answerOn segment fun document => session.answerUndo store document

end Session

end TextDiagram
