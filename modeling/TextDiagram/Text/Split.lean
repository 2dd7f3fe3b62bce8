import TextDiagram.Text.Blank

/-!
# Cutting texts

Every grammar of this library reads a text by cutting it: at each separator (`pieces`), at the
first separator (`cutAt`), at the first arrow (`cutAtArrow`), or after a leading run of characters
of one class (`List.span`). A cut loses nothing but the separator itself.
-/
namespace TextDiagram.Text

/-- The stretches of a text between the characters that separate; one more than there are
separators. -/
def pieces (separates : Char → Bool) : List Char → List (List Char)
  | [] => [[]]
  | c :: rest =>
    if separates c then
      [] :: pieces separates rest
    else
      match pieces separates rest with
      | [] => [[c]]
      | first :: others => (c :: first) :: others

/-- The non-empty stretches between blanks. -/
def words (text : List Char) : List (List Char) :=
  (pieces isBlank text).filter fun word => !word.isEmpty

/-- What stands before and after the first character that separates. -/
def cutAt (separates : Char → Bool) : List Char → Option (List Char × List Char)
  | [] => none
  | c :: rest =>
    if separates c then
      some ([], rest)
    else
      (cutAt separates rest).map fun (before, after) => (c :: before, after)

/-- What stands before and after the first arrow `-->`. -/
def cutAtArrow : List Char → Option (List Char × List Char)
  | '-' :: '-' :: '>' :: rest => some ([], rest)
  | c :: rest => (cutAtArrow rest).map fun (before, after) => (c :: before, after)
  | [] => none

/-- The inside of a text that opens with `opening`, up to the first `closing`, and what follows. -/
def cutEnclosed (opening closing : Char) : List Char → Option (List Char × List Char)
  | [] => none
  | c :: rest => if c = opening then cutAt (· == closing) rest else none

theorem pieces_ne_nil (separates : Char → Bool) (text : List Char) :
    pieces separates text ≠ [] := by
  cases text with
  | nil => simp [pieces]
  | cons c rest =>
    rw [pieces]
    split
    · simp
    · split <;> simp

/-- A cut loses nothing but the separator, which does not occur before it. -/
theorem cutAt_eq_some {separates : Char → Bool} {text before after : List Char}
    (cut : cutAt separates text = some (before, after)) :
    ∃ c, separates c = true ∧ text = before ++ c :: after ∧ ∀ d ∈ before, separates d = false := by
  induction text generalizing before with
  | nil => simp [cutAt] at cut
  | cons c rest ih =>
    rw [cutAt] at cut
    split at cut
    · next hit =>
      cases cut
      exact ⟨c, hit, rfl, by simp⟩
    · next miss =>
      obtain ⟨⟨start, tail⟩, found, equal⟩ := Option.map_eq_some_iff.mp cut
      cases equal
      obtain ⟨sep, isSep, shape, clean⟩ := ih found
      refine ⟨sep, isSep, by simp [shape], ?_⟩
      intro d member
      rcases List.mem_cons.mp member with rfl | member
      · simpa using miss
      · exact clean d member

/-- A text is not cut exactly when no character of it separates. -/
theorem cutAt_eq_none_iff {separates : Char → Bool} {text : List Char} :
    cutAt separates text = none ↔ ∀ c ∈ text, separates c = false := by
  induction text with
  | nil => simp [cutAt]
  | cons c rest ih =>
    rw [cutAt]
    split
    · next hit => simp [hit]
    · next miss => simp [ih, miss]

end TextDiagram.Text
