/-!
# Blank characters

A character is blank when Unicode gives it the property `White_Space`. Trimming, the words of a
line and the rule "this line says nothing" all go by this one class, so text pasted from any
editor is read alike. Main statements: what core calls white space is blank, and the start of a
text is trimmed up to the first character that is not.
-/
namespace TextDiagram.Text

/-- The characters with the Unicode property `White_Space`. -/
def isBlank (c : Char) : Bool :=
  let code := c.toNat
  (0x09 ≤ code && code ≤ 0x0D) || code == 0x20 || code == 0x85 || code == 0xA0 ||
    code == 0x1680 || (0x2000 ≤ code && code ≤ 0x200A) || code == 0x2028 || code == 0x2029 ||
    code == 0x202F || code == 0x205F || code == 0x3000

def trimStart (text : List Char) : List Char :=
  text.dropWhile isBlank

/-- The text without the characters of one class at its end. -/
def dropEndWhile (drops : Char → Bool) (text : List Char) : List Char :=
  (text.reverse.dropWhile drops).reverse

def trimEnd (text : List Char) : List Char :=
  dropEndWhile isBlank text

def trim (text : List Char) : List Char :=
  trimEnd (trimStart text)

def trimString (text : String) : String :=
  String.ofList (trim text.toList)

theorem trimStart_nil : trimStart [] = [] := rfl

theorem trimEnd_nil : trimEnd [] = [] := rfl

theorem trim_nil : trim [] = [] := rfl

theorem trimStart_cons_of_blank {c : Char} (blank : isBlank c = true) (rest : List Char) :
    trimStart (c :: rest) = trimStart rest := by
  simp [trimStart, blank]

theorem trimStart_cons_of_not_blank {c : Char} (solid : isBlank c = false) (rest : List Char) :
    trimStart (c :: rest) = c :: rest := by
  simp [trimStart, solid]

/-- What core calls white space is blank here as well. -/
theorem isBlank_of_isWhitespace {c : Char} (white : c.isWhitespace = true) : isBlank c = true := by
  simp only [Char.isWhitespace, Bool.or_eq_true, decide_eq_true_eq] at white
  rcases white with ((rfl | rfl) | rfl) | rfl <;> decide

end TextDiagram.Text
