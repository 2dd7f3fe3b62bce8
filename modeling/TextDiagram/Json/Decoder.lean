import TextDiagram.Json.Basic
import TextDiagram.Json.Outline

/-!
# Decoding JSON

A decoder reads a value of a type off an outline. It fails in one of two ways: the text is not
JSON as far as it had to be read, or it is JSON but not of the type. The fault that comes first in
the text decides. A record is read from an object, whatever the order of its fields and with
unknown fields passed over, or from an array of its fields in order.

A value of any type may also be embedded as a text: an object whose only field has a name kept for
this purpose stands for the value that its string writes.
-/
namespace TextDiagram.Json

/-- Why a text does not give a value. -/
inductive Fault where
  /-- The text is not well formed. -/
  | malformed
  /-- The text is well formed so far, but not of the type. -/
  | mistyped
deriving Repr, DecidableEq

/-- A way to read a value off an outline. -/
abbrev Decoder (β : Type) := Outline → Except Fault β

/-- Fails on a value of another type. A scalar is read to its end first, a container is not. -/
def wrongType {β : Type} : Decoder β
  | .number none | .text none | .broken => .error .malformed
  | _ => .error .mistyped

/-- Fails unless the text makes sense up to the end of a container. -/
def requireClosed : Bool → Except Fault Unit
  | true => .ok ()
  | false => .error .malformed

/-- Reads a whole text. -/
def decodeText {β : Type} (decoder : Decoder β) (text : String) : Except Fault β := do
  let (outline, ended) := outline text
  let value ← decoder outline
  requireClosed ended
  .ok value

/-- Fails on a container beyond the limit of nesting. -/
def requireShallow : Bool → Except Fault Unit
  | true => .error .malformed
  | false => .ok ()

namespace Decoder

/-! ## Scalars -/

def string : Decoder String
  | .text (some value) => .ok value
  | other => wrongType other

def bool : Decoder Bool
  | .bool value => .ok value
  | other => wrongType other

/-- Reads a number as a double. -/
def float : Decoder Float
  | .number (some (.float value)) => .ok value
  | .number (some (.int value)) => .ok (Float.ofInt value)
  | other => wrongType other

/-- Reads a natural number written as an integer. -/
def natural : Decoder Nat
  | .number (some (.int value)) => if 0 ≤ value then .ok value.toNat else .error .mistyped
  | other => wrongType other

/-- Reads null as no value, and anything else with the decoder of the value. -/
def optional {β : Type} (decoder : Decoder β) : Decoder (Option β)
  | .null => .ok none
  | other => (decoder other).map some

/-- Reads what a function makes of another value; where it makes nothing, the type is wrong. -/
def refine {β γ : Type} (decoder : Decoder β) (make : β → Option γ) : Decoder γ := fun outline => do
  match make (← decoder outline) with
  | some value => .ok value
  | none => .error .mistyped

/-! ## Containers -/

def list {β : Type} (decoder : Decoder β) : Decoder (List β)
  | .array deep items closed => do
    requireShallow deep
    let values ← items.mapM decoder
    requireClosed closed
    .ok values
  | other => wrongType other

mutual

/-- Passes over a value of any type, asking only that the text makes sense. -/
def skip : Outline → Except Fault Unit
  | .array _ items closed => do
    skipItems items
    requireClosed closed
  | .object _ fields closed => do
    skipFields fields
    requireClosed closed
  | .broken => .error .malformed
  | .null | .bool _ | .number _ | .text _ => .ok ()
termination_by structural outline => outline

def skipItems : List Outline → Except Fault Unit
  | [] => .ok ()
  | item :: rest => do
    skip item
    skipItems rest
termination_by structural items => items

def skipFields : List (Option String × Outline) → Except Fault Unit
  | [] => .ok ()
  | field :: rest => do
    skipField field
    skipFields rest
termination_by structural fields => fields

def skipField : Option String × Outline → Except Fault Unit
  | (_, value) => skip value
termination_by structural field => field

end

/-- The name of the only field of an object that embeds a text. -/
def embeddingName : String :=
  "$serde_json::private::RawValue"

/-- The value of the first field of an object, and whether it is the only one, if the object embeds
a text. -/
def embedding? : List (Option String × Outline) → Option (Outline × Bool)
  | (some name, value) :: rest =>
    if name = embeddingName then some (value, rest.isEmpty) else none
  | _ => none

mutual

/-- Reads any value as it is. Of a name that comes again the last value stands. What an embedded
text writes is left to `embedded?`. -/
def anyWith (embedded? : String → Option Json) : Outline → Except Fault Json
  | .null => .ok .null
  | .bool value => .ok (.bool value)
  | .number (some (.int value)) => .ok (.int value)
  | .number (some (.float value)) => .ok (.float value)
  | .text (some value) => .ok (.text value)
  | .array deep items closed => do
    requireShallow deep
    let items ← anyItems embedded? items
    requireClosed closed
    .ok (.array items)
  | .object deep fields closed => do
    requireShallow deep
    match embedding? fields with
    | some (value, alone) =>
      let value ← refine string embedded? value
      requireClosed (alone && closed)
      .ok value
    | none =>
      let fields ← anyFields embedded? fields
      requireClosed closed
      .ok (.ofFields fields)
  | .number none | .text none | .broken => .error .malformed
termination_by structural outline => outline

def anyItems (embedded? : String → Option Json) : List Outline → Except Fault (List Json)
  | [] => .ok []
  | item :: rest => do
    let item ← anyWith embedded? item
    let rest ← anyItems embedded? rest
    .ok (item :: rest)
termination_by structural items => items

def anyFields (embedded? : String → Option Json) :
    List (Option String × Outline) → Except Fault (List (String × Json))
  | [] => .ok []
  | field :: rest => do
    let field ← anyField embedded? field
    let rest ← anyFields embedded? rest
    .ok (field :: rest)
termination_by structural fields => fields

def anyField (embedded? : String → Option Json) :
    Option String × Outline → Except Fault (String × Json)
  | (some name, value) => (anyWith embedded? value).map fun value => (name, value)
  | (none, _) => .error .malformed
termination_by structural field => field

end

/-- The value that an embedded text writes; `bound` limits how deep texts embed each other. -/
def embeddedWithin? : Nat → String → Option Json
  | 0, _ => none
  | bound + 1, content => (decodeText (anyWith (embeddedWithin? bound)) content).toOption

/-- The value that an embedded text writes. A text is longer than those that it embeds, so its
length bounds how deep they are. -/
def embedded? (content : String) : Option Json :=
  embeddedWithin? (content.length + 1) content

def any : Decoder Json :=
  anyWith embedded?

/-- Reads one of a set of named choices: its name, or an object with the name as its only field
and null as its value. -/
def choice {β : Type} (ofName? : String → Option β) : Decoder β
  | .text (some name) => refine string ofName? (.text (some name))
  | .object deep fields closed => do
    requireShallow deep
    match fields with
    | (some name, value) :: rest =>
      match ofName? name with
      | none => .error .mistyped
      | some choice =>
        match value with
        | .null => if rest.isEmpty && closed then .ok choice else .error .malformed
        | other => wrongType other
    | _ => .error .malformed
  | _ => .error .malformed

end Decoder

/-! ## Records -/

/-- What a record says about one of its fields. -/
structure Field where
  name : String
  /-- Reads the field for its faults alone. -/
  check : Decoder Unit
  /-- Whether the field may be left out at the end of an array. -/
  hasDefault : Bool

/-- A record: its fields in order, and how a value is made of them once they have been checked. -/
structure Record (β : Type) where
  fields : List Field
  make : (String → Option Outline) → Except Fault β

namespace Record

def of {β : Type} (value : β) : Record β :=
  ⟨[], fun _ => .ok value⟩

/-- Gives a function that a record makes one more argument from another record. -/
def and {β γ : Type} (record : Record (β → γ)) (argument : Record β) : Record γ :=
  ⟨record.fields ++ argument.fields, fun field? => do
    let make ← record.make field?
    let value ← argument.make field?
    .ok (make value)⟩

def required {β : Type} (name : String) (decoder : Decoder β) : Record β :=
  ⟨[⟨name, fun outline => (decoder outline).map fun _ => (), false⟩], fun field? =>
    match field? name with
    | some outline => decoder outline
    | none => .error .mistyped⟩

/-- A field that may be left out, and then has a default. -/
def withDefault {β : Type} (name : String) (decoder : Decoder β) (default : β) : Record β :=
  ⟨[⟨name, fun outline => (decoder outline).map fun _ => (), true⟩], fun field? =>
    match field? name with
    | some outline => decoder outline
    | none => .ok default⟩

/-- An optional field that may be left out of an object. -/
def optional {β : Type} (name : String) (decoder : Decoder β) : Record (Option β) :=
  ⟨[⟨name, fun outline => (decoder.optional outline).map fun _ => (), false⟩], fun field? =>
    match field? name with
    | some outline => decoder.optional outline
    | none => .ok none⟩

/-- Checks the fields of an object in the order of the text and gathers those that the record
knows. A field that comes again is refused. -/
def gather (known : List Field) (gathered : List (String × Outline)) :
    List (Option String × Outline) → Except Fault (List (String × Outline))
  | [] => .ok gathered
  | (none, _) :: _ => .error .malformed
  | (some name, value) :: rest =>
    match known.find? (·.name == name) with
    | none => do
      Decoder.skip value
      gather known gathered rest
    | some field =>
      if gathered.any (·.1 == name) then
        .error .mistyped
      else do
        field.check value
        gather known ((name, value) :: gathered) rest

/-- Checks the items of an array as the fields of the record in order. -/
def position : List Field → List Outline → Bool → Except Fault (List (String × Outline))
  | [], [], closed => do
    requireClosed closed
    .ok []
  | [], _ :: _, _ => .error .malformed
  | field :: fields, [], closed => do
    requireClosed closed
    if field.hasDefault then position fields [] closed else .error .mistyped
  | field :: fields, item :: items, closed => do
    field.check item
    let rest ← position fields items closed
    .ok ((field.name, item) :: rest)

def decoder {β : Type} (record : Record β) : Decoder β
  | .object deep fields closed => do
    requireShallow deep
    let gathered ← gather record.fields [] fields
    requireClosed closed
    record.make fun name => gathered.lookup name
  | .array deep items closed => do
    requireShallow deep
    let placed ← position record.fields items closed
    record.make fun name => placed.lookup name
  | other => wrongType other

end Record

/-! ## Values and texts -/

mutual

def toOutline : Json → Outline
  | null => .null
  | bool value => .bool value
  | int value => .number (some (.int value))
  | float value => .number (some (.float value))
  | text value => .text (some value)
  | array items => .array false (outlineItems items) true
  | object fields => .object false (outlineFields fields) true
termination_by structural value => value

def outlineItems : List Json → List Outline
  | [] => []
  | item :: rest => item.toOutline :: outlineItems rest
termination_by structural items => items

def outlineFields : List (String × Json) → List (Option String × Outline)
  | [] => []
  | field :: rest => outlineField field :: outlineFields rest
termination_by structural fields => fields

def outlineField : String × Json → Option String × Outline
  | (name, value) => (some name, value.toOutline)
termination_by structural field => field

end

/-- Reads a value of a type off a JSON value. -/
def decode? {β : Type} (decoder : Decoder β) (value : Json) : Option β :=
  (decoder value.toOutline).toOption

/-- Reads a whole text as it is. -/
def parse? (text : String) : Option Json :=
  (decodeText Decoder.any text).toOption

end TextDiagram.Json
