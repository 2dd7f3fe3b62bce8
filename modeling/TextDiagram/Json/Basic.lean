import TextDiagram.Number.Notation

/-!
# JSON values

The values that JSON texts write. An object keeps its fields sorted by name and holds a name once,
so two values are equal when they say the same. Integers of up to 64 bits stay integers; all other
numbers are doubles.
-/
namespace TextDiagram

inductive Json where
  | null
  | bool (value : Bool)
  | int (value : Int)
  | float (value : Float)
  | text (value : String)
  | array (items : List Json)
  | object (fields : List (String × Json))
deriving Repr, Inhabited

namespace Json

/-- Sets a field among fields sorted by name; an earlier value of the field is replaced. -/
def insertField (name : String) (value : Json) : List (String × Json) → List (String × Json)
  | [] => [(name, value)]
  | (first, held) :: rest =>
    if name = first then
      (name, value) :: rest
    else if name < first then
      (name, value) :: (first, held) :: rest
    else
      (first, held) :: insertField name value rest

/-- The object with these fields. The last value of a name stands. -/
def ofFields (fields : List (String × Json)) : Json :=
  object (fields.foldl (fun sorted (name, value) => insertField name value sorted) [])

/-- The value of a field of an object. -/
def field? (name : String) : Json → Option Json
  | object fields => fields.lookup name
  | _ => none

/-- A number of items or a position. -/
def ofNat (n : Nat) : Json :=
  int n

/-- An optional value, where none is null. -/
def ofOption {β : Type} (encode : β → Json) : Option β → Json
  | none => null
  | some value => encode value

def ofList {β : Type} (encode : β → Json) (items : List β) : Json :=
  array (items.map encode)

end Json

end TextDiagram
