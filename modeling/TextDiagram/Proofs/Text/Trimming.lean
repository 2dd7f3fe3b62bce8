import Mathlib.Data.List.DropRight
import TextDiagram.Text.Blank

/-!
# Trimming

Main statements: trimming takes blanks from both ends and nothing else, blanks around a text do not
matter to it, and a text without blanks at its ends is left as it is.
-/
namespace TextDiagram.Text

/-- Nothing but blanks. -/
def Blank (text : List Char) : Prop :=
  ∀ c ∈ text, isBlank c = true

theorem blank_nil : Blank [] := by
  simp [Blank]

theorem Blank.append {first rest : List Char} (first_blank : Blank first)
    (rest_blank : Blank rest) : Blank (first ++ rest) := by
  intro c member
  exact (List.mem_append.mp member).elim (first_blank c) (rest_blank c)

theorem Blank.not_mem {text : List Char} (blank : Blank text) {c : Char}
    (solid : isBlank c = false) : c ∉ text := by
  intro member
  simp [blank c member] at solid

theorem Blank.head_ne {text : List Char} (blank : Blank text) {c : Char}
    (solid : isBlank c = false) : ∀ d ∈ text.head?, d ≠ c := by
  rintro d first rfl
  exact blank.not_mem solid (List.mem_of_mem_head? first)

theorem Blank.head?_append {text : List Char} (blank : Blank text) (c : Char) (rest : List Char) :
    ∀ d ∈ (text ++ c :: rest).head?, isBlank d = true ∨ d = c := by
  intro d first
  cases text with
  | nil => exact .inr (Option.some.inj first).symm
  | cons e others =>
    obtain rfl : e = d := Option.some.inj first
    exact .inl (blank e List.mem_cons_self)

theorem all_isBlank_iff {text : List Char} : text.all isBlank = true ↔ Blank text :=
  List.all_eq_true

theorem not_blank_of_all {text : List Char} (solid : text.all (fun c => !isBlank c) = true) :
    ∀ c ∈ text, isBlank c = false := by
  simpa using solid

/-! ### The start -/

theorem trimStart_append {front : List Char} (front_blank : Blank front) (text : List Char) :
    trimStart (front ++ text) = trimStart text :=
  List.dropWhile_append_of_pos front_blank

theorem trimStart_of_blank {text : List Char} (blank : Blank text) : trimStart text = [] :=
  List.dropWhile_eq_nil_iff.mpr blank

/-- A text is its blanks in front and what is left of it. -/
theorem trimStart_parts (text : List Char) :
    ∃ front, Blank front ∧ text = front ++ trimStart text :=
  ⟨text.takeWhile isBlank, fun _ => List.mem_takeWhile_imp, List.takeWhile_append_dropWhile.symm⟩

theorem head_trimStart {text rest : List Char} {c : Char} (starts : trimStart text = c :: rest) :
    isBlank c = false := by
  have stopped := List.head?_dropWhile_not isBlank text
  rw [show text.dropWhile isBlank = c :: rest from starts] at stopped
  exact stopped

/-! ### The end -/

theorem trimEnd_eq_rdropWhile (text : List Char) : trimEnd text = text.rdropWhile isBlank :=
  rfl

theorem trimEnd_append {back : List Char} (back_blank : Blank back) (text : List Char) :
    trimEnd (text ++ back) = trimEnd text := by
  have back_reversed : ∀ c ∈ back.reverse, isBlank c = true := by
    simpa [Blank] using back_blank
  simp only [trimEnd, dropEndWhile, List.reverse_append,
    List.dropWhile_append_of_pos back_reversed]

theorem trimEnd_parts (text : List Char) : ∃ back, Blank back ∧ text = trimEnd text ++ back :=
  ⟨text.rtakeWhile isBlank, fun _ => List.mem_rtakeWhile_imp,
    (List.rdropWhile_append_rtakeWhile ..).symm⟩

/-! ### Both ends -/

/-- A text is what is left of it between its blanks. -/
theorem trim_parts (text : List Char) :
    ∃ front back, Blank front ∧ Blank back ∧ text = front ++ trim text ++ back := by
  obtain ⟨front, front_blank, from_start⟩ := trimStart_parts text
  obtain ⟨back, back_blank, from_end⟩ := trimEnd_parts (trimStart text)
  refine ⟨front, back, front_blank, back_blank, ?_⟩
  rw [List.append_assoc, trim, ← from_end, ← from_start]

theorem trim_part (text : List Char) : trim text <:+: text := by
  obtain ⟨front, back, -, -, shape⟩ := trim_parts text
  exact ⟨front, back, shape.symm⟩

theorem mem_of_mem_trim {text : List Char} {c : Char} (member : c ∈ trim text) : c ∈ text :=
  (trim_part text).subset member

theorem trim_of_blank {text : List Char} (blank : Blank text) : trim text = [] := by
  rw [trim, trimStart_of_blank blank, trimEnd_nil]

theorem trim_eq_nil_iff {text : List Char} : trim text = [] ↔ Blank text := by
  constructor
  · intro nothing
    obtain ⟨front, back, front_blank, back_blank, shape⟩ := trim_parts text
    rw [nothing, List.append_nil] at shape
    exact shape ▸ front_blank.append back_blank
  · exact trim_of_blank

/-- Blanks around a text do not matter. -/
theorem trim_append {front back : List Char} (front_blank : Blank front) (back_blank : Blank back)
    (text : List Char) : trim (front ++ text ++ back) = trim text := by
  rw [List.append_assoc, trim, trimStart_append front_blank]
  -- A blank text leaves nothing that would keep the trimming of the start from what is behind it.
  by_cases blank : Blank text
  · rw [trimStart_of_blank (blank.append back_blank), trim_of_blank blank, trimEnd_nil]
  · have some_left : ¬ (text.dropWhile isBlank).isEmpty = true := by
      simpa [List.isEmpty_iff, Blank] using blank
    have after_text : trimStart (text ++ back) = trimStart text ++ back := by
      simp only [trimStart, List.dropWhile_append, if_neg some_left]
    rw [after_text, trimEnd_append back_blank, trim]

/-! ### Trimmed texts -/

/-- A text without a blank at either end. -/
theorem trim_of_ends {text : List Char} (first : ∀ c ∈ text.head?, isBlank c = false)
    (last : ∀ c ∈ text.getLast?, isBlank c = false) : trim text = text := by
  have from_start : trimStart text = text := by
    cases text with
    | nil => rfl
    | cons c rest => exact trimStart_cons_of_not_blank (first c rfl) rest
  rw [trim, from_start, trimEnd_eq_rdropWhile, List.rdropWhile_eq_self_iff]
  intro some_text blank
  have solid := last _ (List.getLast?_eq_getLast_of_ne_nil some_text)
  simp [blank] at solid

theorem trim_of_no_blank {text : List Char} (solid : ∀ c ∈ text, isBlank c = false) :
    trim text = text :=
  trim_of_ends (fun c first => solid c (List.mem_of_mem_head? first))
    fun c last => solid c (List.mem_of_mem_getLast? last)

/-- A text that starts and ends with stretches without blanks. -/
theorem trim_between {first last : List Char} (some_first : first ≠ []) (some_last : last ≠ [])
    (first_solid : ∀ c ∈ first, isBlank c = false) (last_solid : ∀ c ∈ last, isBlank c = false)
    (middle : List Char) : trim (first ++ middle ++ last) = first ++ middle ++ last := by
  apply trim_of_ends
  · intro c starts
    rw [List.append_assoc, List.head?_append_of_ne_nil first some_first] at starts
    exact first_solid c (List.mem_of_mem_head? starts)
  · intro c ends
    rw [List.getLast?_append_of_ne_nil _ some_last] at ends
    exact last_solid c (List.mem_of_mem_getLast? ends)

/-- The first character left is the one at which the trimming of the start has stopped. -/
theorem head?_trim {text rest : List Char} {c : Char} (starts : trimStart text = c :: rest) :
    (trim text).head? = some c := by
  obtain ⟨back, back_blank, shape⟩ := trimEnd_parts (trimStart text)
  rw [starts] at shape
  rw [trim, starts]
  cases left : trimEnd (c :: rest) with
  | nil =>
    rw [left, List.nil_append] at shape
    have blank := back_blank c (shape ▸ List.mem_cons_self)
    rw [head_trimStart starts] at blank
    cases blank
  | cons d others =>
    rw [left, List.cons_append] at shape
    rw [List.head?_cons, (List.cons.inj shape).1]

/-- What stands behind a text that is not blank does not matter to the first character left. -/
theorem head?_trim_append {text : List Char} (some_left : trim text ≠ []) (rest : List Char) :
    (trim (text ++ rest)).head? = (trim text).head? := by
  obtain ⟨front, front_blank, shape⟩ := trimStart_parts text
  cases starts : trimStart text with
  | nil =>
    rw [trim, starts] at some_left
    exact absurd trimEnd_nil some_left
  | cons c others =>
    have solid := head_trimStart starts
    rw [starts] at shape
    have longer : trimStart (text ++ rest) = c :: (others ++ rest) := by
      rw [shape, List.append_assoc, trimStart_append front_blank, List.cons_append,
        trimStart_cons_of_not_blank solid]
    rw [head?_trim longer, head?_trim starts]

/-- A trimmed text has no blanks behind it. -/
theorem eq_nil_of_trim_append {text back : List Char} (back_blank : Blank back)
    (trimmed : trim (text ++ back) = text ++ back) : back = [] := by
  have shorter := (trim_part text).length_le
  have same := trim_append blank_nil back_blank text
  rw [List.nil_append, trimmed] at same
  rw [← same, List.length_append] at shorter
  exact List.length_eq_zero_iff.mp (by omega)

theorem trim_trim (text : List Char) : trim (trim text) = trim text := by
  apply trim_of_ends
  · intro c first
    cases starts : trimStart text with
    | nil =>
      rw [trim, starts] at first
      cases first
    | cons d rest =>
      rw [head?_trim starts] at first
      cases first
      exact head_trimStart starts
  · intro c last
    have some_left : trim text ≠ [] := by
      intro nothing
      simp [nothing] at last
    have stopped := List.rdropWhile_last_not isBlank (trimStart text) some_left
    have same : (trim text).getLast some_left = c := by
      rw [List.getLast?_eq_getLast_of_ne_nil some_left] at last
      exact Option.some.inj (Option.mem_def.mp last)
    exact same ▸ Bool.eq_false_iff.mpr stopped

end TextDiagram.Text
