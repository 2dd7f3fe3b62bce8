import TextDiagram.Text.Hex

/-!
# Universally unique identifiers

A UUID is a number of 128 bits. It is written as 32 lowercase hexadecimal digits in groups of 8, 4,
4, 4 and 12 with hyphens between them. It is read from that form in any case of its letters, alone,
in braces or behind `urn:uuid:`, and from the 32 digits without hyphens.
-/
namespace TextDiagram

/-- An identifier of 128 bits. -/
structure Uuid where
  value : Nat
  value_lt : value < Nat.pow 2 128
deriving Repr, DecidableEq

namespace Uuid

def groupLengths : List Nat :=
  [8, 4, 4, 4, 12]

/-- Splits digits into groups with hyphens between them; without a trailing hyphen. -/
def hyphenate : List Nat → List Char → List Char
  | [], digits => digits
  | [_], digits => digits
  | length :: rest, digits => digits.take length ++ '-' :: hyphenate rest (digits.drop length)

/-- The digits of a hyphenated text, if its hyphens stand between the groups. -/
def unhyphenate? : List Nat → List Char → Option (List Char)
  | [], [] => some []
  | [], _ => none
  | [length], text => if text.length = length then some text else none
  | length :: rest, text =>
    match text.drop length with
    | '-' :: others => (unhyphenate? rest others).map (text.take length ++ ·)
    | _ => none

def unbrace? : List Char → Option (List Char)
  | '{' :: rest =>
    match rest.reverse with
    | '}' :: inner => some inner.reverse
    | _ => none
  | _ => none

/-- What follows the mark `urn:uuid:`. -/
def afterUrn? : List Char → Option (List Char)
  | 'u' :: 'r' :: 'n' :: ':' :: 'u' :: 'u' :: 'i' :: 'd' :: ':' :: rest => some rest
  | _ => none

/-- The UUID with a value, if the value has no more than 128 bits. -/
def ofNat? (value : Nat) : Option Uuid :=
  if value_lt : value < Nat.pow 2 128 then some ⟨value, value_lt⟩ else none

/-- Reads a UUID in any of its forms. -/
def parse? (text : String) : Option Uuid :=
  let chars := text.toList
  let digits? :=
    if chars.length = 32 then
      some chars
    else
      let bare := ((unbrace? chars).or (afterUrn? chars)).getD chars
      unhyphenate? groupLengths bare
  (digits?.bind (Text.hexValue? 0)).bind ofNat?

def toText (uuid : Uuid) : String :=
  String.ofList (hyphenate groupLengths (Text.hexDigits 32 uuid.value))

/-- The random-version UUID that carries a number, in one of several series. -/
def numbered (series number : Nat) : Uuid where
  value :=
    0x40000000000000000000 + (0x8 + series % 4) * 0x1000000000000000 + number % 0x1000000000000000
  value_lt := by
    have bound : Nat.pow 2 128 = 0x100000000000000000000000000000000 := rfl
    omega

end Uuid

end TextDiagram
