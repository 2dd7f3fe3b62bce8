import TextDiagram.Json.Basic
import TextDiagram.Text.Hex

/-!
# Writing JSON

The text of a JSON value on one line, in ASCII: every other character is escaped by its UTF-16
units. A number that is not finite has no JSON form and is written as null.
-/
namespace TextDiagram.Json

/-- The escape of one UTF-16 unit. -/
def escapeUnit (unit : Nat) : List Char :=
  '\\' :: 'u' :: Text.hexDigits 4 unit

/-- The characters that write one character inside of a string. -/
def escape (c : Char) : List Char :=
  let code := c.toNat
  if c = '"' then ['\\', '"']
  else if c = '\\' then ['\\', '\\']
  else if c = '\n' then ['\\', 'n']
  else if c = '\r' then ['\\', 'r']
  else if c = '\t' then ['\\', 't']
  else if 0x20 ≤ code ∧ code < 0x7F then [c]
  else if code < 0x10000 then escapeUnit code
  else
    let offset := code - 0x10000
    escapeUnit (0xD800 + offset / 1024) ++ escapeUnit (0xDC00 + offset % 1024)

/-- A string between quotation marks. -/
def quote (text : String) : String :=
  "\"" ++ String.ofList (text.toList.flatMap escape) ++ "\""

/-- A double, or null for one that is not finite. -/
def renderNumber (value : Float) : String :=
  if value.isFinite then renderFloat value else "null"

mutual

def render : Json → String
  | null => "null"
  | bool true => "true"
  | bool false => "false"
  | int value => toString value
  | float value => renderNumber value
  | text value => quote value
  | array items => "[" ++ renderItems items ++ "]"
  | object fields => "\x7b" ++ renderFields fields ++ "\x7d"
termination_by structural value => value

def renderItems : List Json → String
  | [] => ""
  | [item] => item.render
  | item :: rest => item.render ++ "," ++ renderItems rest
termination_by structural items => items

def renderFields : List (String × Json) → String
  | [] => ""
  | [field] => renderField field
  | field :: rest => renderField field ++ "," ++ renderFields rest
termination_by structural fields => fields

def renderField : String × Json → String
  | (name, value) => quote name ++ ":" ++ value.render
termination_by structural field => field

end

end TextDiagram.Json
