import TextDiagram.Graph.Reading
import TextDiagram.Proofs.Graph.ArchitectureGrammar

/-!
# Splitting flow lines

Where the scan of a flow line cuts, and where it does not. Main statements: it cuts no flow
statement, so that a line that is a statement is split into that statement and nothing else, and
what it splits off is a part of the line. Semicolons of a statement stand in a label, and labels
stand in brackets or between bars.
-/
namespace TextDiagram

open Text

theorem statementStretches_ne_nil (nesting : Nesting) (line : List Char) :
    statementStretches nesting line ≠ [] := by
  cases line with
  | nil => simp [statementStretches]
  | cons c rest =>
    rw [statementStretches]
    split
    · simp
    · split <;> simp

namespace Nesting

/-- The scan passes over a text without a cut, and stands at the second nesting behind it. -/
inductive Passes : Nesting → List Char → Nesting → Prop where
  | nil {nesting : Nesting} : Passes nesting [] nesting
  | cons {nesting after : Nesting} {c : Char} {text : List Char}
      (uncut : c = ';' → nesting.isOutside = false) (rest : Passes (nesting.next c) text after) :
      Passes nesting (c :: text) after

namespace Passes

variable {nesting between after : Nesting} {text rest : List Char}

theorem append (passes : Passes nesting text between) (passes_rest : Passes between rest after) :
    Passes nesting (text ++ rest) after := by
  induction passes with
  | nil => exact passes_rest
  | cons uncut _ ih => exact .cons uncut (ih passes_rest)

/-- What has been passed over is the start of the first stretch. -/
theorem stretches (passes : Passes nesting text after) (rest : List Char) :
    statementStretches nesting (text ++ rest) =
      (statementStretches after rest).modifyHead (text ++ ·) := by
  induction passes with
  | nil => exact (congrFun List.modifyHead_id _).symm
  | @cons nesting after c text uncut _ ih =>
    have not_cut : ¬ (c = ';' ∧ nesting.isOutside = true) := by
      rintro ⟨semicolon, outside⟩
      simp [uncut semicolon] at outside
    rw [List.cons_append, statementStretches, if_neg not_cut, ih]
    cases cut : statementStretches after rest with
    | nil => exact absurd cut (statementStretches_ne_nil after rest)
    | cons first others => rfl

/-- A line that is passed over is one stretch. -/
theorem whole (passes : Passes nesting text after) : statementStretches nesting text = [text] := by
  simpa [statementStretches] using passes.stretches []

/-- A semicolon cuts where it finds the scan outside of brackets and bars. -/
theorem cut (passes : Passes nesting text after) (outside : after.isOutside = true)
    (rest : List Char) :
    statementStretches nesting (text ++ ';' :: rest) = text :: statementStretches after rest := by
  rw [passes.stretches, statementStretches, if_pos ⟨rfl, outside⟩]
  simp

end Passes

/-! ### Texts without a cut -/

/-- Without a character that separates, opens or closes. -/
def Plain (text : List Char) : Prop :=
  ∀ c ∈ text, c ∉ [';', '[', ']', '|']

theorem Plain.append {first rest : List Char} (first_plain : Plain first)
    (rest_plain : Plain rest) : Plain (first ++ rest) := by
  intro c member
  exact (List.mem_append.mp member).elim (first_plain c) (rest_plain c)

theorem plain_of_blank {text : List Char} (blank : Blank text) : Plain text := by
  intro c member special
  have c_blank := blank c member
  simp only [List.mem_cons, List.not_mem_nil, or_false] at special
  rcases special with rfl | rfl | rfl | rfl <;> exact absurd c_blank (by decide)

theorem plain_of_isName {name : List Char} (named : isName name = true) : Plain name := by
  intro c member special
  have name_char := (isName_iff.mp named).2 c member
  simp only [List.mem_cons, List.not_mem_nil, or_false] at special
  rcases special with rfl | rfl | rfl | rfl <;> exact absurd name_char (by decide)

theorem Plain.passes {text : List Char} (plain : Plain text) (nesting : Nesting) :
    Passes nesting text nesting := by
  induction text with
  | nil => exact .nil
  | cons c rest ih =>
    have c_plain := plain c List.mem_cons_self
    simp only [List.mem_cons, List.not_mem_nil, or_false, not_or] at c_plain
    obtain ⟨not_semicolon, not_opening, not_closing, not_bar⟩ := c_plain
    refine .cons (fun semicolon => absurd semicolon not_semicolon) ?_
    rw [next, if_neg not_opening, if_neg not_closing, if_neg not_bar]
    exact ih fun d member => plain d (List.mem_cons_of_mem c member)

/-- In brackets that are not closed, the scan goes one level deeper at each that is opened. -/
theorem passes_bracketed {label : List Char} (unclosed : ']' ∉ label) (depth : Nat) :
    Passes ⟨depth + 1, false⟩ label ⟨depth + label.count '[' + 1, false⟩ := by
  induction label generalizing depth with
  | nil => exact .nil
  | cons c rest ih =>
    have not_closing : c ≠ ']' := fun same => unclosed (same ▸ List.mem_cons_self)
    have rest_unclosed : ']' ∉ rest := fun member => unclosed (List.mem_cons_of_mem c member)
    refine .cons (fun _ => rfl) ?_
    by_cases opening : c = '['
    · have deeper : depth + (c :: rest).count '[' = depth + 1 + rest.count '[' := by
        rw [opening, List.count_cons_self]
        omega
      rw [deeper]
      simpa [next, opening] using ih rest_unclosed (depth + 1)
    · simpa [next, opening, not_closing, List.count_cons] using ih rest_unclosed depth

/-- Between bars that are not closed, the scan stays between bars. -/
theorem passes_barred {label : List Char} (unbarred : '|' ∉ label) :
    Passes ⟨0, true⟩ label ⟨0, true⟩ := by
  induction label with
  | nil => exact .nil
  | cons c rest ih =>
    have not_bar : c ≠ '|' := fun same => unbarred (same ▸ List.mem_cons_self)
    refine .cons (fun _ => rfl) ?_
    have kept : next ⟨0, true⟩ c = ⟨0, true⟩ := by simp [next, not_bar]
    rw [kept]
    exact ih fun member => unbarred (List.mem_cons_of_mem c member)

end Nesting

/-! ### Statements without a cut -/

open Nesting

namespace Grammar

/-- Trimming a label, or taking the id for it, changes none of the other characters. -/
theorem count_labelOr {id label : List Char} (id_named : isName id = true) {c : Char}
    (other : isNameChar c = false) (solid : isBlank c = false) :
    (labelOr id label).toList.count c = label.count c := by
  obtain ⟨front, back, front_blank, back_blank, shape⟩ := trim_parts label
  have trimmed : (trim label).count c = label.count c := by
    conv_rhs => rw [shape]
    simp [List.count_eq_zero.mpr (front_blank.not_mem solid),
      List.count_eq_zero.mpr (back_blank.not_mem solid)]
  rw [← trimmed, labelOr]
  split
  next nothing =>
    rw [nothing, String.toList_ofList, List.count_nil]
    exact List.count_eq_zero.mpr (not_mem_of_isName id_named other)
  next => rw [String.toList_ofList]

theorem Bars.passes {label : Option String} {bars : List Char} (barred : Bars label bars) :
    Passes .outside bars .outside := by
  cases barred with
  | absent blank => exact (plain_of_blank blank).passes _
  | present blank unbarred behind_blank =>
    have opened : Passes .outside ['|'] ⟨0, true⟩ :=
      .cons (fun same => absurd same (by decide)) .nil
    have closed : Passes ⟨0, true⟩ ['|'] .outside := .cons (fun _ => rfl) .nil
    have passes := ((plain_of_blank blank).passes _).append (opened.append
      ((passes_barred unbarred).append (closed.append ((plain_of_blank behind_blank).passes _))))
    simpa using passes

theorem FlowArrow.passes {connection : Connection} {text : List Char}
    (arrow : FlowArrow connection text) : Passes .outside text .outside := by
  obtain ⟨front_blank, source_named, gap_blank, barred, target_named, back_blank⟩ := arrow
  have before := ((plain_of_blank front_blank).append (plain_of_isName source_named)).append
    (plain_of_blank gap_blank)
  have point : Plain ['-', '-', '>'] := by simp [Plain]
  have behind := (plain_of_isName target_named).append (plain_of_blank back_blank)
  have passes := ((before.append point).passes _).append
    (barred.passes.append (behind.passes .outside))
  simpa using passes

theorem Brackets.passes {label brackets : List Char} (bracketed : Brackets label brackets) :
    Passes .outside brackets ⟨label.count '[', false⟩ := by
  cases bracketed with
  | absent => exact .nil
  | present unclosed =>
    have opened : Passes .outside ['['] ⟨0 + 1, false⟩ :=
      .cons (fun same => absurd same (by decide)) .nil
    have inside := passes_bracketed unclosed 0
    have closed : Passes ⟨0 + label.count '[' + 1, false⟩ [']'] ⟨label.count '[', false⟩ := by
      refine .cons (fun _ => rfl) ?_
      have deeper : next ⟨0 + label.count '[' + 1, false⟩ ']' = ⟨label.count '[', false⟩ := by
        simp [next]
      exact deeper ▸ .nil
    simpa using opened.append (inside.append closed)

/-- Behind a node, the scan is in as many brackets as its label has opened on its own. -/
theorem FlowNode.passes {node : Node} {text : List Char} (declares : FlowNode node text) :
    Passes .outside text ⟨node.label.toList.count '[', false⟩ := by
  obtain ⟨-, blank, gap_blank, id_named, bracketed, back_blank⟩ := declares
  next kind c gap id label brackets back =>
  have gap_plain : Plain (c :: gap) := plain_of_blank (by simpa [Blank, blank] using gap_blank)
  have before := ((plain_of_isName (isName_keyword kind)).append gap_plain).append
    (plain_of_isName id_named)
  have passes := (before.passes .outside).append
    (bracketed.passes.append ((plain_of_blank back_blank).passes _))
  rw [count_labelOr id_named (by decide) (by decide)]
  simpa using passes

end Grammar

theorem splitStatements_of_passes {text : List Char} {after : Nesting}
    (passes : Passes .outside text after) (some_text : text ≠ []) (trimmed : trim text = text) :
    splitStatements text = [text] := by
  simp [splitStatements, passes.whole, trimmed, some_text]

/-- A flow statement is not cut. -/
theorem splitStatements_of_form {text : List Char} {statement : Statement}
    (form : Grammar.Form .flow statement text) (some_text : text ≠ [])
    (trimmed : trim text = text) : splitStatements text = [text] := by
  cases statement with
  | arrow connection =>
    exact splitStatements_of_passes (Grammar.FlowArrow.passes form) some_text trimmed
  | declare node =>
    exact splitStatements_of_passes (Grammar.FlowNode.passes form) some_text trimmed

/-! ### Blanks around a line -/

/-- Blanks behind a line stand behind its last stretch. -/
theorem statementStretches_append_blank (nesting : Nesting) (line : List Char) {back : List Char}
    (blank : Blank back) :
    ∃ stretches last, statementStretches nesting line = stretches ++ [last] ∧
      statementStretches nesting (line ++ back) = stretches ++ [last ++ back] := by
  induction line generalizing nesting with
  | nil =>
    have passes := (plain_of_blank blank).passes nesting
    exact ⟨[], [], rfl, passes.whole⟩
  | cons c rest ih =>
    by_cases cuts : c = ';' ∧ nesting.isOutside = true
    · obtain ⟨stretches, last, whole, longer⟩ := ih nesting
      exact ⟨[] :: stretches, last, by simp [statementStretches, cuts, whole],
        by simp [statementStretches, cuts, longer]⟩
    · obtain ⟨stretches, last, whole, longer⟩ := ih (nesting.next c)
      rw [List.cons_append, statementStretches, statementStretches, if_neg cuts, if_neg cuts, whole,
        longer]
      cases stretches with
      | nil => exact ⟨[], c :: last, rfl, rfl⟩
      | cons first others => exact ⟨(c :: first) :: others, last, rfl, rfl⟩

/-- Blanks around a line do not matter to its statements. -/
theorem splitStatements_trim (line : List Char) :
    splitStatements (trim line) = splitStatements line := by
  obtain ⟨front, back, front_blank, back_blank, shape⟩ := trim_parts line
  have whole : (statementStretches .outside (front ++ trim line ++ back)).map trim =
      (statementStretches .outside (trim line)).map trim := by
    obtain ⟨stretches, last, trimmed, longer⟩ :=
      statementStretches_append_blank .outside (trim line) back_blank
    have passes := (plain_of_blank front_blank).passes .outside
    have last_trimmed : trim (last ++ back) = trim last := trim_append blank_nil back_blank last
    rw [List.append_assoc, passes.stretches, longer, trimmed]
    -- The blanks in front belong to the first stretch, which may be the last one too.
    cases stretches with
    | nil => simpa using (trim_append front_blank blank_nil (last ++ back)).trans last_trimmed
    | cons first others =>
      have first_trimmed : trim (front ++ first) = trim first := by
        simpa using trim_append front_blank blank_nil first
      simp [first_trimmed, last_trimmed]
  rw [splitStatements, ← whole, ← shape]
  rfl

/-! ### What is split off -/

/-- The first stretch starts where the line does. -/
theorem statementStretches_parts {nesting : Nesting} {line first : List Char}
    {others : List (List Char)} (cut : statementStretches nesting line = first :: others) :
    first <+: line ∧ ∀ stretch ∈ others, stretch <:+: line := by
  induction line generalizing nesting first others with
  | nil =>
    cases cut
    simp
  | cons c rest ih =>
    have behind : rest <:+: c :: rest := (List.suffix_cons c rest).isInfix
    rw [statementStretches] at cut
    split at cut
    · cases cut
      have empty_first : [] <+: c :: rest := List.nil_prefix
      refine ⟨empty_first, fun stretch among => ?_⟩
      obtain ⟨first, others, rest_cut⟩ :=
        List.exists_cons_of_ne_nil (statementStretches_ne_nil nesting rest)
      have parts := ih rest_cut
      rw [rest_cut] at among
      rcases List.mem_cons.mp among with rfl | among_others
      · exact parts.1.isInfix.trans behind
      · exact (parts.2 stretch among_others).trans behind
    · split at cut
      next nothing => exact absurd nothing (statementStretches_ne_nil _ _)
      next first others rest_cut =>
        cases cut
        have parts := ih rest_cut
        refine ⟨(List.prefix_cons_inj c).mpr parts.1, fun stretch among => ?_⟩
        exact (parts.2 stretch among).trans behind

theorem part_of_mem_splitStatements {line statement : List Char}
    (among : statement ∈ splitStatements line) : statement <:+: line := by
  obtain ⟨stretch, held, rfl⟩ := List.mem_map.mp (List.mem_filter.mp among).1
  obtain ⟨first, others, cut⟩ :=
    List.exists_cons_of_ne_nil (statementStretches_ne_nil .outside line)
  have parts := statementStretches_parts cut
  rw [cut] at held
  refine (trim_part stretch).trans ?_
  rcases List.mem_cons.mp held with rfl | behind
  · exact parts.1.isInfix
  · exact parts.2 stretch behind

theorem mem_of_mem_splitStatements {line statement : List Char}
    (among : statement ∈ splitStatements line) : ∀ c ∈ statement, c ∈ line :=
  fun _ member => (part_of_mem_splitStatements among).subset member

end TextDiagram
