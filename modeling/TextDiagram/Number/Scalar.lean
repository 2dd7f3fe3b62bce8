/-!
# Scalars

Boxes are measured in a type of scalars. The arithmetic of layouts is written once over the
operations collected here and run with floating point numbers; read over the rational numbers the
same definitions are exact, and their geometry can be reasoned about without rounding.
-/
namespace TextDiagram

/-- The arithmetic that layouts and boxes are computed with. -/
class Scalar (α : Type) extends Add α, Sub α, Mul α, Div α, Neg α where
  ofNat : Nat → α
  /-- The greater of two scalars; if one is no number, the other. -/
  max : α → α → α
  /-- The smaller of two scalars; if one is no number, the other. -/
  min : α → α → α
  /-- Whether the first scalar is at most the second. -/
  le : α → α → Bool
  /-- How far a box may reach beyond another and still count as inside it. -/
  slack : α

namespace Scalar

variable {α : Type} [Scalar α]

abbrev zero : α :=
  ofNat 0

def half (a : α) : α :=
  a / ofNat 2

/-- The sum of a list, taken from the left. -/
def sum (items : List α) : α :=
  items.foldl (· + ·) zero

/-- The greatest of a list of sizes, and at least zero. -/
def greatest (items : List α) : α :=
  items.foldl max zero

end Scalar

/-- Floating point numbers. The extremes of two numbers pass over an operand that is not a
number. -/
instance : Scalar Float where
  ofNat := Float.ofNat
  max a b := if a.isNaN then b else if a < b then b else a
  min a b := if a.isNaN then b else if b < a then b else a
  le a b := a ≤ b
  slack := 1e-6

/-- Rational numbers, exactly. -/
instance : Scalar Rat where
  ofNat n := (n : Rat)
  max a b := if a ≤ b then b else a
  min a b := if a ≤ b then a else b
  le a b := a ≤ b
  slack := 1 / 1000000

end TextDiagram
