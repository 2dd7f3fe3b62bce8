import TextDiagram.Json.Token

/-!
# The outline of a JSON text

An outline holds all that can be read of a JSON text in order. Where the text stops making sense
the outline ends: an array or an object is then not closed, and a value that should have come is
broken. Whoever decodes an outline meets the faults of the text and the faults of its content in
the order in which they stand, and the first one decides.
-/
namespace TextDiagram.Json

/-- What can be read of a JSON value. -/
inductive Outline where
  | null
  | bool (value : Bool)
  /-- A number; without a value when it is beyond the range of the doubles. -/
  | number (value : Option Number)
  /-- A string; without a value when it holds one half of a surrogate pair. -/
  | text (value : Option String)
  /-- An array. It is deep when its nesting is beyond the limit, and closed when the text makes
  sense up to its closing bracket. -/
  | array (deep : Bool) (items : List Outline) (closed : Bool)
  /-- An object. It is deep when its nesting is beyond the limit, and closed when the text makes
  sense up to its closing brace. -/
  | object (deep : Bool) (fields : List (Option String × Outline)) (closed : Bool)
  /-- A value that should have come where the text stops making sense. -/
  | broken
deriving Repr, Inhabited

/-- An array or object that is being read, its content with the newest item first. -/
inductive Frame where
  | array (items : List Outline)
  | object (fields : List (Option String × Outline))
  /-- An object with a name whose value is still to come. -/
  | named (fields : List (Option String × Outline)) (name : Option String)
deriving Repr

/-- What may come next in a text. -/
inductive Expected where
  | value
  /-- A value or the end of an array. -/
  | firstItem
  /-- A name or the end of an object. -/
  | firstName
  | name
  | colon
  /-- A comma or the end of the innermost array or object. -/
  | separator
deriving Repr, DecidableEq

/-- How far the reading of a text has come. -/
inductive Progress where
  | reading (frames : List Frame) (expected : Expected)
  /-- A whole value has been read; `ended` says that nothing came after it. -/
  | done (outline : Outline) (ended : Bool)
deriving Repr

namespace Frame

/-- Containers nested this deep are beyond the limit. -/
def depthLimit : Nat :=
  128

/-- The outline of a frame that has `outer` frames around it. -/
def toOutline (frame : Frame) (outer : Nat) (closed : Bool) : Outline :=
  let deep : Bool := depthLimit ≤ outer + 1
  match frame with
  | array items => .array deep items.reverse closed
  | object fields => .object deep fields.reverse closed
  | named fields name => .object deep ((name, .broken) :: fields).reverse closed

/-- Puts a value into the frame where it is expected. -/
def put (frame : Frame) (value : Outline) : Frame :=
  match frame with
  | array items => array (value :: items)
  | object fields => object fields
  | named fields name => object ((name, value) :: fields)

end Frame

/-- The outline of a text that stops making sense inside of these frames. -/
def unclosed : List Frame → Outline → Outline
  | [], value => value
  | frame :: outer, value => unclosed outer ((frame.put value).toOutline outer.length false)

namespace Progress

/-- Goes on behind a complete value. -/
def complete (frames : List Frame) (value : Outline) : Progress :=
  match frames with
  | [] => done value true
  | frame :: outer => reading (frame.put value :: outer) .separator

def close (frames : List Frame) : Progress :=
  match frames with
  | [] => done .broken false
  | frame :: outer => complete outer (frame.toOutline outer.length true)

/-- Stops where the text no longer makes sense. -/
def stop (frames : List Frame) : Progress :=
  match frames with
  | [] => done .broken false
  | frame :: outer => done (unclosed outer (frame.toOutline outer.length false)) false

/-- Reads a token where a value is expected. -/
def value (frames : List Frame) : Token → Progress
  | .null => complete frames .null
  | .bool value => complete frames (.bool value)
  | .number value => complete frames (.number value)
  | .text value => complete frames (.text value)
  | .openArray => reading (.array [] :: frames) .firstItem
  | .openObject => reading (.object [] :: frames) .firstName
  | _ => stop frames

/-- Reads a token where a name is expected. -/
def name (frames : List Frame) : Token → Progress
  | .text name =>
    match frames with
    | .object fields :: outer => reading (.named fields name :: outer) .colon
    | frames => stop frames
  | _ => stop frames

/-- Reads a token behind an item or a field. -/
def separator (frames : List Frame) (token : Token) : Progress :=
  match frames, token with
  | .array _ :: _, .comma => reading frames .value
  | .array _ :: _, .closeArray => close frames
  | .object _ :: _, .comma => reading frames .name
  | .object _ :: _, .closeObject => close frames
  | _, _ => stop frames

/-- Reads one more token. -/
def step (progress : Progress) (token : Token) : Progress :=
  match progress with
  | done outline _ => done outline false
  | reading frames expected =>
    match expected, token with
    | .value, token => value frames token
    | .firstItem, .closeArray => close frames
    | .firstItem, token => value frames token
    | .firstName, .closeObject => close frames
    | .firstName, token => name frames token
    | .name, token => name frames token
    | .colon, .colon => reading frames .value
    | .colon, _ => stop frames
    | .separator, token => separator frames token

/-- Ends the reading: a value that is not complete stays open. -/
def finish : Progress → Outline × Bool
  | done outline ended => (outline, ended)
  | reading frames _ =>
    match stop frames with
    | done outline ended => (outline, ended)
    | reading _ _ => (.broken, false)

end Progress

/-- The outline of a text, and whether the text ends with the value. -/
def outline (text : String) : Outline × Bool :=
  ((tokens text.toList).foldl Progress.step (.reading [] .value)).finish

end TextDiagram.Json
