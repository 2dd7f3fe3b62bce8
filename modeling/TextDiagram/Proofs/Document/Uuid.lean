import Mathlib.Algebra.Ring.Nat
import Mathlib.Data.List.Basic
import TextDiagram.Document.Uuid

/-!
# Reading back what is written of a UUID

Main statement: a UUID is read from its own text.
-/
namespace TextDiagram

namespace Text

theorem hexDigit?_digitChar : ∀ digit < 16, hexDigit? (Nat.digitChar digit) = some digit := by
  decide

theorem hexValue?_append (value : Nat) (front : List Char) (last : Char) :
    hexValue? value (front ++ [last]) =
      (hexValue? value front).bind fun high => (hexDigit? last).map (high * 16 + ·) := by
  induction front generalizing value with
  | nil => cases found : hexDigit? last <;> simp [hexValue?, found]
  | cons first front ih =>
    simp only [List.cons_append, hexValue?]
    cases hexDigit? first with
    | none => rfl
    | some digit => exact ih _

/-- Only as much of a number is read as has been written. -/
theorem hexValue?_hexDigits (count value : Nat) :
    hexValue? 0 (hexDigits count value) = some (value % 16 ^ count) := by
  induction count generalizing value with
  | zero => simp [hexDigits, hexValue?, Nat.mod_one]
  | succ count ih =>
    -- The last digit is the remainder by 16, and those before it write the quotient.
    have digit := hexDigit?_digitChar (value % 16) (Nat.mod_lt _ (by decide))
    rw [hexDigits, hexValue?_append, ih, Option.bind_some, digit, Option.map_some, Nat.pow_succ,
      Nat.mul_comm (16 ^ count), Nat.mod_mul, Nat.add_comm, Nat.mul_comm 16]

theorem mem_hexDigits {count value : Nat} {c : Char} (member : c ∈ hexDigits count value) :
    ∃ digit < 16, c = Nat.digitChar digit := by
  induction count generalizing value with
  | zero => cases member
  | succ count ih =>
    rcases List.mem_append.mp member with high | low
    · exact ih high
    · exact ⟨value % 16, Nat.mod_lt _ (by decide), List.mem_singleton.mp low⟩

end Text

namespace Uuid

theorem length_hyphenate (lengths : List Nat) (digits : List Char)
    (sum : lengths.sum = digits.length) :
    (hyphenate lengths digits).length = digits.length + (lengths.length - 1) := by
  induction lengths generalizing digits with
  | nil => simp [hyphenate]
  | cons first rest ih =>
    cases rest with
    | nil => simp [hyphenate]
    | cons second rest =>
      -- The first group takes its digits, and one hyphen stands behind it.
      have sum_rest : (second :: rest).sum = (digits.drop first).length := by
        rw [List.sum_cons] at sum
        rw [List.length_drop]
        omega
      rw [List.sum_cons] at sum
      have taken : (digits.take first).length = first := by simp; omega
      rw [hyphenate, List.length_append, List.length_cons, ih _ sum_rest, List.length_drop, taken]
      · simp only [List.length_cons]
        omega
      · nofun

theorem unhyphenate?_hyphenate (lengths : List Nat) (digits : List Char)
    (sum : lengths.sum = digits.length) (some_group : lengths ≠ []) :
    unhyphenate? lengths (hyphenate lengths digits) = some digits := by
  induction lengths generalizing digits with
  | nil => exact absurd rfl some_group
  | cons first rest ih =>
    cases rest with
    -- The last group has no hyphen behind it.
    | nil =>
      have whole : digits.length = first := by simpa using sum.symm
      simp [hyphenate, unhyphenate?, whole]
    | cons second rest =>
      rw [List.sum_cons] at sum
      have taken : (digits.take first).length = first := by simp; omega
      have sum_rest : (second :: rest).sum = (digits.drop first).length := by
        rw [List.length_drop]
        omega
      rw [hyphenate, unhyphenate?, List.drop_left' taken, List.take_left' taken]
      · simp only [ih _ sum_rest (by simp), Option.map_some, List.take_append_drop]
      · simp
      · simp

/-- A text that starts with a digit stands neither in braces nor behind a mark. -/
theorem bare_of_digit {digit : Nat} (small : digit < 16) (rest : List Char) :
    unbrace? (Nat.digitChar digit :: rest) = none ∧
      afterUrn? (Nat.digitChar digit :: rest) = none := by
  have no_mark : ∀ digit < 16, Nat.digitChar digit ≠ '\x7b' ∧ Nat.digitChar digit ≠ 'u' := by
    decide
  obtain ⟨no_brace, no_urn⟩ := no_mark digit small
  constructor
  · unfold unbrace?
    split
    next same => exact absurd (List.cons.inj same).1 no_brace
    next => rfl
  · unfold afterUrn?
    split
    next same => exact absurd (List.cons.inj same).1 no_urn
    next => rfl

/-- A UUID is read back from the text that it is written as. -/
theorem parse?_toText (uuid : Uuid) : parse? uuid.toText = some uuid := by
  let digits := Text.hexDigits 32 uuid.value
  have digits_length : digits.length = 32 := Text.hexDigits_length 32 uuid.value
  have sum : groupLengths.sum = digits.length := digits_length.symm
  have length : (hyphenate groupLengths digits).length = 36 := by
    rw [length_hyphenate groupLengths digits sum, digits_length]
    rfl
  -- The text opens with a digit, so that all of it is read as the hyphenated form.
  have bare : ((unbrace? (hyphenate groupLengths digits)).or
      (afterUrn? (hyphenate groupLengths digits))).getD (hyphenate groupLengths digits) =
        hyphenate groupLengths digits := by
    cases cut : digits with
    | nil => simp [cut] at digits_length
    | cons first rest =>
      obtain ⟨digit, small, rfl⟩ := Text.mem_hexDigits (cut ▸ List.mem_cons_self)
      have marks := bare_of_digit small
        (rest.take 7 ++ '-' :: hyphenate [4, 4, 4, 12] (rest.drop 7))
      have opened : hyphenate groupLengths (Nat.digitChar digit :: rest) = Nat.digitChar digit ::
          (rest.take 7 ++ '-' :: hyphenate [4, 4, 4, 12] (rest.drop 7)) := rfl
      rw [opened, marks.1, marks.2]
      rfl
  have value : Text.hexValue? 0 digits = some uuid.value := by
    rw [Text.hexValue?_hexDigits, Nat.mod_eq_of_lt]
    exact uuid.value_lt
  have unhyphenated := unhyphenate?_hyphenate groupLengths digits sum (by decide)
  have text : uuid.toText.toList = hyphenate groupLengths digits := String.toList_ofList
  have made : ofNat? uuid.value = some uuid := dif_pos uuid.value_lt
  simp [parse?, text, length, bare, unhyphenated, value, made]

end Uuid

end TextDiagram
