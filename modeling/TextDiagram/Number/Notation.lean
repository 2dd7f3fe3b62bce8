import TextDiagram.Number.Decimal

/-!
# Writing and reading numbers

A finite double is written with the fewest digits that read back: positionally from `1e-5` up to
below `1e16`, with `.0` for a whole value, and with an exponent outside of that range. Settings
are read from text with the wider grammar that people type: a sign, a missing whole or fractional
part, and words for what is not finite.
-/
namespace TextDiagram

namespace Decimal

/-- A positive decimal in positional or exponent notation. -/
def render (decimal : Decimal) : List Char :=
  let digits := Nat.toDigits 10 decimal.digits
  let point : Int := digits.length + decimal.exponent
  if 0 ≤ decimal.exponent ∧ point ≤ 16 then
    digits ++ List.replicate decimal.exponent.toNat '0' ++ ['.', '0']
  else if 0 < point ∧ point ≤ 16 then
    digits.take point.toNat ++ '.' :: digits.drop point.toNat
  else if -5 < point ∧ point ≤ 0 then
    '0' :: '.' :: List.replicate (-point).toNat '0' ++ digits
  else
    let fraction := match digits with
      | first :: second :: rest => first :: '.' :: second :: rest
      | short => short
    let exponent := point - 1
    let sign := if exponent < 0 then '-' else '+'
    fraction ++ 'e' :: sign :: Nat.toDigits 10 exponent.natAbs

end Decimal

/-- A finite double in the fewest digits that read back as it. -/
def renderFloat (value : Float) : String :=
  let bits := value.toBits
  let sign := if bits >>> 63 = 0 then [] else ['-']
  String.ofList (sign ++ (Decimal.shortest (.ofBits bits)).render)

/-- The number that a run of digits writes. -/
def digitsValue (digits : List Char) : Nat :=
  digits.foldl (fun value c => value * 10 + (c.toNat - '0'.toNat)) 0

/-- The sign that a text starts with, if any, and what follows it. -/
def cutSign : List Char → Bool × List Char
  | '-' :: rest => (true, rest)
  | '+' :: rest => (false, rest)
  | text => (false, text)

def wordMax : Nat :=
  18446744073709551615

/-- Reads a natural number: digits, after an optional `+`. -/
def readNat? (text : List Char) : Option Nat :=
  let digits := match text with
    | '+' :: rest => rest
    | text => text
  if digits.isEmpty || !digits.all Char.isDigit then none else some (digitsValue digits)

/-- Reads the exponent behind the fraction of a number. -/
def readExponent? : List Char → Option Int
  | [] => some 0
  | e :: rest =>
    let (negative, digits) := cutSign rest
    if (e = 'e' ∨ e = 'E') ∧ digits ≠ [] ∧ digits.all Char.isDigit then
      let size := digitsValue digits
      some (if negative then -size else size)
    else
      none

/-- Reads digits with an optional point among them and an optional exponent. -/
def readDecimal? (text : List Char) : Option Decimal :=
  let (whole, rest) := text.span Char.isDigit
  let (fraction, rest) := match rest with
    | '.' :: rest => rest.span Char.isDigit
    | rest => ([], rest)
  if whole.isEmpty && fraction.isEmpty then
    none
  else
    (readExponent? rest).map fun exponent =>
      ⟨digitsValue (whole ++ fraction), exponent - fraction.length⟩

/-- Reads a floating point number: after an optional sign a decimal, or a word for infinity or for
what is not a number, in any case of its letters. -/
def readFloat? (text : List Char) : Option Float :=
  let (negative, unsigned) := cutSign text
  let word := String.ofList (unsigned.map Char.toLower)
  let size? :=
    if word = "inf" ∨ word = "infinity" then
      some (1.0 / 0.0)
    else if word = "nan" then
      some (0.0 / 0.0)
    else
      (readDecimal? unsigned).map Decimal.toFloat
  size?.map fun size => if negative then -size else size

end TextDiagram
