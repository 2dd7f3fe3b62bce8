/-!
# Decimals and floating point numbers

A decimal is a natural number times a power of ten. `Decimal.toFloat` is the double nearest to it.
`Decimal.shortest` goes the other way: of all decimals that read back as a given double it has the
fewest digits, and of those it is the nearest to the double. Everything is computed exactly in
natural numbers; no intermediate result is rounded.
-/
namespace TextDiagram

/-- The number `digits · 10 ^ exponent`. -/
structure Decimal where
  digits : Nat
  exponent : Int
deriving Repr, DecidableEq

def twoTo (exponent : Nat) : Nat :=
  Nat.pow 2 exponent

def tenTo (exponent : Nat) : Nat :=
  Nat.pow 10 exponent

/-- The number of decimal digits of a natural number; one for zero. -/
def decimalLength (n : Nat) : Nat :=
  (Nat.toDigits 10 n).length

/-- The finite double `significand · 2 ^ exponent`, which is not negative. -/
structure Binary where
  significand : Nat
  exponent : Int
  /-- Whether the gap to the double below is half the gap to the double above. -/
  narrowBelow : Bool
deriving Repr, DecidableEq

namespace Binary

/-- The absolute value of the finite double with these bits. -/
def ofBits (bits : UInt64) : Binary :=
  let exponent := ((bits >>> 52) &&& 0x7FF).toNat
  let fraction := (bits &&& 0xFFFFFFFFFFFFF).toNat
  if exponent = 0 then
    ⟨fraction, -1074, false⟩
  else
    ⟨twoTo 52 + fraction, (exponent : Int) - 1075, fraction = 0 ∧ 1 < exponent⟩

/-- Compares `a · 10 ^ i` with `b · 2 ^ j`. -/
def compareScaled (a : Nat) (i : Int) (b : Nat) (j : Int) : Ordering :=
  compare (a * tenTo i.toNat * twoTo (-j).toNat) (b * twoTo j.toNat * tenTo (-i).toNat)

/-- Whether a decimal lies among the reals that round to the double: between the midpoints to its
two neighbours, where the midpoints belong to an even significand. -/
def readsBack (binary : Binary) (decimal : Decimal) : Bool :=
  let quarters := 4 * binary.significand
  let low := if binary.narrowBelow then quarters - 1 else quarters - 2
  let atLow := compareScaled decimal.digits decimal.exponent low (binary.exponent - 2)
  let atHigh := compareScaled decimal.digits decimal.exponent (quarters + 2) (binary.exponent - 2)
  let closed := binary.significand % 2 = 0
  (atLow = .gt ∨ (closed ∧ atLow = .eq)) ∧ (atHigh = .lt ∨ (closed ∧ atHigh = .eq))

/-- The greatest multiple of `10 ^ exponent` that is at most the double. -/
def floorAt (binary : Binary) (exponent : Int) : Decimal :=
  let numerator := binary.significand * twoTo binary.exponent.toNat * tenTo (-exponent).toNat
  let denominator := twoTo (-binary.exponent).toNat * tenTo exponent.toNat
  ⟨numerator / denominator, exponent⟩

/-- The exponent of the power of ten just above the double. -/
def scale (binary : Binary) : Int :=
  let places : Nat := 330
  (decimalLength (binary.floorAt (-places)).digits : Int) - places

/-- Of a double's two neighbours on the grid of the decimals with this exponent, the nearest one
that reads back; of two equally near ones, the even one. -/
def nearestAt? (binary : Binary) (exponent : Int) : Option Decimal :=
  let below := binary.floorAt exponent
  let above : Decimal := ⟨below.digits + 1, exponent⟩
  match binary.readsBack below, binary.readsBack above with
  | true, true =>
    match compareScaled (2 * below.digits + 1) exponent (2 * binary.significand)
      binary.exponent with
    | .gt => some below
    | .lt => some above
    | .eq => if below.digits % 2 = 0 then some below else some above
  | true, false => some below
  | false, true => some above
  | false, false => none

/-- The double itself as a decimal. -/
def exact (binary : Binary) : Decimal :=
  if 0 ≤ binary.exponent then
    ⟨binary.significand * twoTo binary.exponent.toNat, 0⟩
  else
    ⟨binary.significand * Nat.pow 5 (-binary.exponent).toNat, binary.exponent⟩

end Binary

namespace Decimal

/-- The decimal with its trailing zeros moved into the exponent; `bound` limits how many. -/
def stripZeros : Nat → Decimal → Decimal
  | 0, decimal => decimal
  | bound + 1, decimal =>
    if decimal.digits ≠ 0 ∧ decimal.digits % 10 = 0 then
      stripZeros bound ⟨decimal.digits / 10, decimal.exponent + 1⟩
    else
      decimal

/-- The decimal of fewest digits that reads back as the double, and of those the nearest. -/
def shortest (binary : Binary) : Decimal :=
  if binary.significand = 0 then
    ⟨0, 0⟩
  else
    let top := binary.scale
    let found := (List.range 17).findSome? fun n => binary.nearestAt? (top - (n + 1 : Nat))
    let decimal := found.getD binary.exact
    stripZeros (decimalLength decimal.digits) decimal

/-- The double nearest to a decimal; infinite beyond the range of the doubles. -/
def toFloat (decimal : Decimal) : Float :=
  let magnitude := (decimalLength decimal.digits : Int) + decimal.exponent
  if decimal.digits = 0 then
    0.0
  else if 310 < magnitude then
    1.0 / 0.0
  else if magnitude < -330 then
    0.0
  else
    Float.ofScientific decimal.digits (decimal.exponent < 0) decimal.exponent.natAbs

end Decimal

end TextDiagram
