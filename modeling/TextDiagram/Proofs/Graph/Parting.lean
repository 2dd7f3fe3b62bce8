import TextDiagram.Proofs.Graph.Splitting

/-!
# The pieces of a flow line

A flow line is split at the semicolons at which the scan is outside of brackets and bars. Main
statement: the line is made up of the pieces, of blanks around them, and of these semicolons between
stretches that have one piece or none; and splitting a piece again leaves it as it is. For at each
cut the scan stands where it stood at the start of the line, so that it goes over a piece on its own
as it has gone over it within the line.
-/
namespace TextDiagram

open Text

namespace Nesting

/-! ### Passing over parts of a text -/

theorem isOutside_iff {nesting : Nesting} : nesting.isOutside = true ↔ nesting = .outside := by
  obtain ⟨depth, inBars⟩ := nesting
  simp [isOutside, outside]

variable {nesting after other : Nesting} {text rest : List Char}

namespace Passes

theorem unique (first : Passes nesting text after) (second : Passes nesting text other) :
    after = other := by
  induction first with
  | nil =>
    cases second
    rfl
  | cons _ _ ih =>
    obtain - | ⟨-, second_rest⟩ := second
    exact ih second_rest

theorem of_append (passes : Passes nesting (text ++ rest) after) :
    ∃ between, Passes nesting text between ∧ Passes between rest after := by
  induction text generalizing nesting with
  | nil => exact ⟨nesting, .nil, passes⟩
  | cons c text ih =>
    obtain - | ⟨uncut, behind⟩ := passes
    obtain ⟨between, first, second⟩ := ih behind
    exact ⟨between, .cons uncut first, second⟩

/-- Blanks around a text do not matter to where the scan stands behind it. -/
theorem trim (passes : Passes nesting text after) : Passes nesting (trim text) after := by
  obtain ⟨front, back, front_blank, back_blank, shape⟩ := trim_parts text
  rw [shape] at passes
  obtain ⟨behind, passes_both, passes_back⟩ := passes.of_append
  obtain ⟨between, passes_front, passes_text⟩ := passes_both.of_append
  obtain rfl := passes_front.unique ((plain_of_blank front_blank).passes nesting)
  obtain rfl := passes_back.unique ((plain_of_blank back_blank).passes behind)
  exact passes_text

end Passes

/-- The scan passes over a whole line, or it comes to a first semicolon that cuts. -/
theorem passes_or_cut (nesting : Nesting) (line : List Char) :
    (∃ after, Passes nesting line after) ∨
      ∃ text after rest, line = text ++ ';' :: rest ∧ Passes nesting text after ∧
        after.isOutside = true := by
  induction line generalizing nesting with
  | nil => exact .inl ⟨nesting, .nil⟩
  | cons c rest ih =>
    by_cases cuts : c = ';' ∧ nesting.isOutside = true
    · obtain ⟨rfl, outside⟩ := cuts
      exact .inr ⟨[], nesting, rest, rfl, .nil, outside⟩
    · have uncut : c = ';' → nesting.isOutside = false := by simpa using cuts
      rcases ih (nesting.next c) with
        ⟨after, passes⟩ | ⟨text, after, behind, shape, passes, outside⟩
      · exact .inl ⟨after, .cons uncut passes⟩
      · exact .inr ⟨c :: text, after, behind, by rw [shape, List.cons_append],
          .cons uncut passes, outside⟩

end Nesting

open Nesting

/-! ### Pieces -/

/-- A stretch of a line in which nothing is cut: blanks, or blanks around one piece. The scan stands
at `nesting` in front of it and at `after` behind it. -/
inductive Stretch (nesting : Nesting) :
    (text : List Char) → (pieces : List (List Char)) → (after : Nesting) → Prop where
  | blank {text : List Char} (blank : Blank text) : Stretch nesting text [] nesting
  | piece {after : Nesting} {front piece back : List Char} (front_blank : Blank front)
      (back_blank : Blank back) (some_text : piece ≠ []) (trimmed : trim piece = piece)
      (passes : Passes nesting piece after) :
      Stretch nesting (front ++ piece ++ back) [piece] after

/-- The line is made up of stretches with semicolons in between, at which the scan is outside of
brackets and bars, and these are the pieces of the stretches. -/
inductive Parted : Nesting → (line : List Char) → (pieces : List (List Char)) → Prop where
  | last {nesting after : Nesting} {text : List Char} {pieces : List (List Char)}
      (stretch : Stretch nesting text pieces after) : Parted nesting text pieces
  | cut {nesting after : Nesting} {text rest : List Char} {pieces more : List (List Char)}
      (stretch : Stretch nesting text pieces after) (outside : after.isOutside = true)
      (others : Parted after rest more) : Parted nesting (text ++ ';' :: rest) (pieces ++ more)

/-- The stretches trimmed, without those of which nothing is left. -/
def trimmedStretches (stretches : List (List Char)) : List (List Char) :=
  (stretches.map trim).filter fun text => !text.isEmpty

theorem trimmedStretches_cons (text : List Char) (rest : List (List Char)) :
    trimmedStretches (text :: rest) = trimmedStretches [text] ++ trimmedStretches rest := by
  rw [← List.singleton_append]
  simp only [trimmedStretches, List.map_append, List.filter_append]

namespace Stretch

variable {nesting after : Nesting} {text : List Char} {pieces : List (List Char)}

theorem passes (stretch : Stretch nesting text pieces after) : Passes nesting text after := by
  cases stretch with
  | blank blank => exact (plain_of_blank blank).passes nesting
  | piece front_blank back_blank _ _ passes =>
    exact (((plain_of_blank front_blank).passes nesting).append passes).append
      ((plain_of_blank back_blank).passes after)

theorem pieces_eq (stretch : Stretch nesting text pieces after) :
    pieces = trimmedStretches [text] := by
  cases stretch with
  | blank blank => simp [trimmedStretches, trim_of_blank blank]
  | piece front_blank back_blank some_text trimmed _ =>
    rw [trimmedStretches, List.map_singleton, trim_append front_blank back_blank, trimmed]
    simp [some_text]

theorem of_passes (passes : Passes nesting text after) :
    Stretch nesting text (trimmedStretches [text]) after := by
  by_cases nothing : trim text = []
  · have blank := trim_eq_nil_iff.mp nothing
    obtain rfl := passes.unique ((plain_of_blank blank).passes nesting)
    simpa [trimmedStretches, nothing] using Stretch.blank blank
  · obtain ⟨front, back, front_blank, back_blank, shape⟩ := trim_parts text
    have stretch := Stretch.piece front_blank back_blank nothing (trim_trim text) passes.trim
    rw [← shape] at stretch
    simpa [trimmedStretches, nothing] using stretch

end Stretch

namespace Parted

variable {nesting : Nesting} {line : List Char} {pieces : List (List Char)}

theorem pieces_eq (parted : Parted nesting line pieces) :
    pieces = trimmedStretches (statementStretches nesting line) := by
  induction parted with
  | last stretch => rw [stretch.passes.whole, stretch.pieces_eq]
  | cut stretch outside _ ih =>
    rw [stretch.passes.cut outside, trimmedStretches_cons, ← stretch.pieces_eq, ih]

theorem of_stretches (nesting : Nesting) (line : List Char) :
    Parted nesting line (trimmedStretches (statementStretches nesting line)) := by
  rcases passes_or_cut nesting line with
    ⟨after, passes⟩ | ⟨text, after, rest, shape, passes, outside⟩
  · rw [passes.whole]
    exact .last (.of_passes passes)
  -- What is behind the semicolon is shorter, and the scan goes on there from where it stands.
  · have behind := of_stretches after rest
    rw [shape, passes.cut outside, trimmedStretches_cons]
    exact .cut (.of_passes passes) outside behind
termination_by line.length
decreasing_by
  rw [shape, List.length_append, List.length_cons]
  omega

/-- At the start of each stretch the scan is outside, so it passes over a piece on its own. -/
theorem solid (parted : Parted nesting line pieces) (outside : nesting.isOutside = true) :
    ∀ piece ∈ pieces, piece ≠ [] ∧ trim piece = piece ∧ ∃ after, Passes .outside piece after := by
  have of_stretch {nesting after : Nesting} {text : List Char} {pieces : List (List Char)}
      (stretch : Stretch nesting text pieces after) (outside : nesting.isOutside = true) :
      ∀ piece ∈ pieces,
        piece ≠ [] ∧ trim piece = piece ∧ ∃ after, Passes .outside piece after := by
    obtain rfl := isOutside_iff.mp outside
    cases stretch with
    | blank => simp
    | piece _ _ some_text trimmed passes => simpa using ⟨some_text, trimmed, _, passes⟩
  induction parted with
  | last stretch => exact of_stretch stretch outside
  | cut stretch outside_behind _ ih =>
    intro piece among
    rcases List.mem_append.mp among with here | behind
    · exact of_stretch stretch outside piece here
    · exact ih outside_behind piece behind

end Parted

/-- A line is parted into the pieces that it is split into, and in no other way. They are parts of
the line, trimmed and not empty, and each is split into itself. -/
theorem splitStatements_parted (line : List Char) :
    (∀ pieces, Parted .outside line pieces ↔ pieces = splitStatements line) ∧
      ∀ piece ∈ splitStatements line, piece ≠ [] ∧ trim piece = piece ∧ piece <:+: line ∧
        splitStatements piece = [piece] := by
  have parted : Parted .outside line (splitStatements line) := .of_stretches .outside line
  refine ⟨fun pieces => ⟨fun other => other.pieces_eq, fun same => same ▸ parted⟩, ?_⟩
  intro piece among
  obtain ⟨some_text, trimmed, after, passes⟩ := parted.solid rfl piece among
  exact ⟨some_text, trimmed, part_of_mem_splitStatements among,
    splitStatements_of_passes passes some_text trimmed⟩

/-- Brackets hide bars and bars hide brackets, a bracket that nothing has opened is ignored, and one
that is never closed keeps the rest of the line together. -/
theorem splitStatements_parted_of_unbalanced :
    let line := "é[;|;] ; x|;[;|] ;; ]y ; z[ ; w\t".toList
    let pieces := ["é[;|;]".toList, "x|;[;|]".toList, "]y".toList, "z[ ; w".toList]
    Parted .outside line pieces ∧ ∀ piece ∈ pieces, splitStatements piece = [piece] := by
  intro line pieces
  have same : pieces = splitStatements line := by decide +kernel
  obtain ⟨parted_iff, stays⟩ := splitStatements_parted line
  refine ⟨(parted_iff pieces).mpr same, fun piece among => ?_⟩
  rw [same] at among
  exact (stays piece among).2.2.2

end TextDiagram
