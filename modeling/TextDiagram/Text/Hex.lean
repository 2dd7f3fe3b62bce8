/-!
# Hexadecimal digits

Identifiers, escapes in strings and percent-encodings are all written with hexadecimal digits, of
which letters may be of either case.
-/
namespace TextDiagram.Text

/-- The value of a hexadecimal digit. -/
def hexDigit? (c : Char) : Option Nat :=
  if '0' ≤ c ∧ c ≤ '9' then some (c.toNat - '0'.toNat)
  else if 'a' ≤ c ∧ c ≤ 'f' then some (c.toNat - 'a'.toNat + 10)
  else if 'A' ≤ c ∧ c ≤ 'F' then some (c.toNat - 'A'.toNat + 10)
  else none

/-- The number that hexadecimal digits write behind those already read. -/
def hexValue? (value : Nat) : List Char → Option Nat
  | [] => some value
  | c :: rest => (hexDigit? c).bind fun digit => hexValue? (value * 16 + digit) rest

/-- The last `count` hexadecimal digits of a number, in lower case. -/
def hexDigits : Nat → Nat → List Char
  | 0, _ => []
  | count + 1, value => hexDigits count (value / 16) ++ [Nat.digitChar (value % 16)]

theorem hexDigits_length (count value : Nat) : (hexDigits count value).length = count := by
  induction count generalizing value with
  | zero => rfl
  | succ count ih => simp [hexDigits, ih]

end TextDiagram.Text
