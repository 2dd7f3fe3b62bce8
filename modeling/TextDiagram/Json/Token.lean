import TextDiagram.Number.Notation
import TextDiagram.Text.Hex

/-!
# The tokens of a JSON text

A JSON text is a sequence of tokens with blanks between them. Reading stops at the first stretch
that is no token; the sequence then ends in `broken`, so a fault keeps its place in the order of
the text. Two faults are left to whoever needs the value of a token: a number beyond the range of
the doubles, and a string with one half of a surrogate pair.
-/
namespace TextDiagram.Json

/-- The value of a JSON number. -/
inductive Number where
  | int (value : Int)
  | float (value : Float)
deriving Repr

/-- The smallest piece of a JSON text that means something. -/
inductive Token where
  | openArray
  | closeArray
  | openObject
  | closeObject
  | comma
  | colon
  | null
  | bool (value : Bool)
  /-- A number; without a value when it is beyond the range of the doubles. -/
  | number (value : Option Number)
  /-- A string; without a value when it holds one half of a surrogate pair. -/
  | text (value : Option String)
  /-- What is no token. -/
  | broken
deriving Repr

/-! ## Numbers -/

/-- Appends digits to a number while it has 64 bits, and gives back the digits that no longer
fit. -/
def appendDigits (value : Nat) : List Char → Nat × List Char
  | [] => (value, [])
  | c :: rest =>
    let longer := value * 10 + (c.toNat - '0'.toNat)
    if longer ≤ wordMax then appendDigits longer rest else (value, c :: rest)

/-- `value · 10 ^ exponent` in double arithmetic, by one multiplication or division with a power
of ten where one is a double; none beyond the range of the doubles. -/
def scaleFloat (value : Float) (exponent : Int) : Option Float :=
  if exponent.natAbs ≤ 308 then
    let power := Float.ofScientific 1 false exponent.natAbs
    if exponent < 0 then
      some (value / power)
    else
      let scaled := value * power
      if scaled.isInf then none else some scaled
  else if value == 0.0 then
    some value
  else if 0 ≤ exponent then
    none
  else
    scaleFloat (value / 1e308) (exponent + 308)
termination_by exponent.natAbs
decreasing_by omega

/-- A number as it is written. -/
structure Numeral where
  negative : Bool
  whole : List Char
  /-- The digits behind the point; empty without a point. -/
  fraction : List Char
  exponent : Option Int
deriving Repr, DecidableEq

namespace Numeral

/-- The value of a numeral: an integer where it is written as one and fits in 64 bits, and
otherwise a double made of the leading digits that fit in 64 bits. -/
def value (numeral : Numeral) : Option Number :=
  let (leading, dropped) := appendDigits 0 numeral.whole
  let float (magnitude : Float) : Number :=
    .float (if numeral.negative then -magnitude else magnitude)
  if dropped.isEmpty && numeral.fraction.isEmpty && numeral.exponent.isNone then
    if !numeral.negative then
      some (.int leading)
    else if leading = 0 ∨ twoTo 63 < leading then
      some (float (Float.ofNat leading))
    else
      some (.int (-leading))
  else
    let (significand, cut) := appendDigits leading numeral.fraction
    let places : Int := (numeral.fraction.length : Int) - cut.length
    let exponent := dropped.length - places + numeral.exponent.getD 0
    (scaleFloat (Float.ofNat significand) exponent).map float

end Numeral

/-- The whole part that a text starts with: a single zero, or digits that do not start with one. -/
def cutWhole (text : List Char) : Option (List Char × List Char) :=
  match text.span Char.isDigit with
  | ([], _) => none
  | ('0' :: _ :: _, _) => none
  | (digits, rest) => some (digits, rest)

/-- The fraction that a text may start with: a point and digits. -/
def cutFraction : List Char → Option (List Char × List Char)
  | '.' :: rest =>
    match rest.span Char.isDigit with
    | ([], _) => none
    | (digits, rest) => some (digits, rest)
  | whole => some ([], whole)

/-- The exponent that a text may start with: a letter `e`, a sign if any, and digits. -/
def cutExponent : List Char → Option (Option Int × List Char)
  | [] => some (none, [])
  | c :: rest =>
    if c = 'e' ∨ c = 'E' then
      let (negative, rest) := cutSign rest
      match rest.span Char.isDigit with
      | ([], _) => none
      | (digits, rest) =>
        let size : Int := digitsValue digits
        some (some (if negative then -size else size), rest)
    else
      some (none, c :: rest)

/-- The numeral that a text starts with, and what follows it. -/
def cutNumeral (text : List Char) : Option (Numeral × List Char) := do
  let (negative, rest) := match text with
    | '-' :: rest => (true, rest)
    | unsigned => (false, unsigned)
  let (whole, rest) ← cutWhole rest
  let (fraction, rest) ← cutFraction rest
  let (exponent, rest) ← cutExponent rest
  some (⟨negative, whole, fraction, exponent⟩, rest)

/-! ## Strings -/

/-- A piece of a string: a character written as itself or by a short escape, or a UTF-16 unit
written by its number. -/
inductive Piece where
  | char (c : Char)
  | unit (code : Nat)
deriving Repr, DecidableEq

/-- The character that a short escape writes. -/
def shortEscape? : Char → Option Char
  | '"' => some '"'
  | '\\' => some '\\'
  | '/' => some '/'
  | 'b' => some '\x08'
  | 'f' => some '\x0c'
  | 'n' => some '\n'
  | 'r' => some '\r'
  | 't' => some '\t'
  | _ => none

/-- The pieces of a string up to its closing quotation mark, and what follows it. -/
def cutString : List Char → Option (List Piece × List Char)
  | [] => none
  | '"' :: rest => some ([], rest)
  | '\\' :: 'u' :: a :: b :: c :: d :: rest => do
    let code ← Text.hexValue? 0 [a, b, c, d]
    let (pieces, after) ← cutString rest
    some (.unit code :: pieces, after)
  | '\\' :: c :: rest => do
    let c ← shortEscape? c
    let (pieces, after) ← cutString rest
    some (.char c :: pieces, after)
  | c :: rest =>
    if c.toNat < 0x20 then
      none
    else
      (cutString rest).map fun (pieces, after) => (.char c :: pieces, after)

/-- The text that pieces write, unless one half of a surrogate pair stands alone. -/
def joinPieces : List Piece → Option (List Char)
  | [] => some []
  | .char c :: rest => (joinPieces rest).map (c :: ·)
  | .unit high :: .unit low :: rest =>
    if 0xD800 ≤ high ∧ high < 0xDC00 then
      if 0xDC00 ≤ low ∧ low < 0xE000 then
        let code := 0x10000 + (high - 0xD800) * 1024 + (low - 0xDC00)
        (joinPieces rest).map (Char.ofNat code :: ·)
      else
        none
    else if 0xDC00 ≤ high ∧ high < 0xE000 then
      none
    else
      (joinPieces (.unit low :: rest)).map (Char.ofNat high :: ·)
  | .unit code :: rest =>
    if 0xD800 ≤ code ∧ code < 0xE000 then none else (joinPieces rest).map (Char.ofNat code :: ·)

/-! ## Tokens -/

/-- The characters that may stand between tokens. -/
def isGap (c : Char) : Bool :=
  c == ' ' || c == '\t' || c == '\n' || c == '\r'

/-- The word token that a text starts with, and what follows it. -/
def cutWord : List Char → Option (Token × List Char)
  | 'n' :: 'u' :: 'l' :: 'l' :: rest => some (.null, rest)
  | 't' :: 'r' :: 'u' :: 'e' :: rest => some (.bool true, rest)
  | 'f' :: 'a' :: 'l' :: 's' :: 'e' :: rest => some (.bool false, rest)
  | _ => none

/-- The token that a text starts with, and what follows it. -/
def cutToken (text : List Char) : Option (Token × List Char) :=
  match text with
  | '[' :: rest => some (.openArray, rest)
  | ']' :: rest => some (.closeArray, rest)
  | '{' :: rest => some (.openObject, rest)
  | '}' :: rest => some (.closeObject, rest)
  | ',' :: rest => some (.comma, rest)
  | ':' :: rest => some (.colon, rest)
  | '"' :: rest =>
    (cutString rest).map fun (pieces, after) =>
      (.text ((joinPieces pieces).map String.ofList), after)
  | other =>
    match cutWord other with
    | some cut => some cut
    | none => (cutNumeral other).map fun (numeral, after) => (.number numeral.value, after)

/-- The first tokens of a text, `bound` of them at most. A token takes up at least one character,
so the length of the text bounds their number. -/
def tokensWithin : Nat → List Char → List Token
  | 0, _ => []
  | bound + 1, remaining =>
    match remaining.dropWhile isGap with
    | [] => []
    | solid =>
      match cutToken solid with
      | some (token, rest) => token :: tokensWithin bound rest
      | none => [.broken]

/-- The tokens of a text, up to the first stretch that is none. -/
def tokens (text : List Char) : List Token :=
  tokensWithin text.length text

end TextDiagram.Json
