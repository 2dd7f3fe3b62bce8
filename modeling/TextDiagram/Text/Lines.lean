import TextDiagram.Text.Split

/-!
# The lines of a text

A line ends at a line feed. A carriage return before it is blank, hence gone once the line is
trimmed. Lines are numbered from one. A line is significant when it is not blank and is no
comment; only significant lines carry meaning, and they keep the numbers they have in the text.
-/
namespace TextDiagram.Text

/-- A trimmed line and its number in the text, counted from one. -/
structure Line where
  number : Nat
  text : List Char
deriving Repr, DecidableEq

/-- A trimmed line that is neither empty nor opened by the comment mark `%%`. -/
def isSignificant : List Char → Bool
  | [] => false
  | '%' :: '%' :: _ => false
  | _ => true

/-- The lines from number `first` on, trimmed. -/
def numbered (first : Nat) : List (List Char) → List Line
  | [] => []
  | line :: rest => ⟨first, trim line⟩ :: numbered (first + 1) rest

/-- The lines of a text that are neither blank nor comments, in order. -/
def significantLines (text : List Char) : List Line :=
  (numbered 1 (pieces (· == '\n') text)).filter fun line => isSignificant line.text

end TextDiagram.Text
