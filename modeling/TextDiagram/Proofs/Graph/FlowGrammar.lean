import Mathlib.Data.List.TakeDrop
import TextDiagram.Graph.Statement
import TextDiagram.Proofs.Text.Cutting

/-!
# The grammar of flow statements

Which texts are flow statements, without saying how they are read. Main statements: an arrow is read
from exactly the texts that have the form of one, a node is read from exactly the texts that have
the form of one, and no text has both forms.
-/
namespace TextDiagram

open Text

/-! ### Names -/

theorem isName_iff {name : List Char} :
    isName name = true ↔ name ≠ [] ∧ ∀ c ∈ name, isNameChar c = true := by
  simp [isName]

/-- The printed characters of ASCII are not blank. -/
theorem isBlank_of_printed {c : Char} (above : 0x21 ≤ c.toNat) (below : c.toNat ≤ 0x7E) :
    isBlank c = false := by
  simp only [isBlank, Bool.or_eq_false_iff, Bool.and_eq_false_iff, decide_eq_false_iff_not,
    beq_eq_false_iff_ne]
  omega

theorem isBlank_of_isNameChar {c : Char} (name_char : isNameChar c = true) :
    isBlank c = false := by
  delta isNameChar Char.isAlphanum Char.isAlpha Char.isUpper Char.isLower Char.isDigit at name_char
  simp only [Bool.or_eq_true, decide_eq_true_eq, Bool.and_eq_true, beq_iff_eq] at name_char
  rcases name_char with (((upper | lower) | digit) | rfl) | rfl
  case inl.inl.inl.inl =>
    exact isBlank_of_printed (Nat.le_trans (by decide) upper.1) (Nat.le_trans upper.2 (by decide))
  case inl.inl.inl.inr =>
    exact isBlank_of_printed (Nat.le_trans (by decide) lower.1) (Nat.le_trans lower.2 (by decide))
  case inl.inl.inr =>
    exact isBlank_of_printed (Nat.le_trans (by decide) digit.1) (Nat.le_trans digit.2 (by decide))
  all_goals decide

/-- A name in front of blanks ends there. -/
theorem isNameChar_of_blank_head {blanks : List Char} (blank : Blank blanks) :
    ∀ c ∈ blanks.head?, isNameChar c = false := by
  intro c first
  by_contra name_char
  have solid := isBlank_of_isNameChar (Bool.not_eq_false _ ▸ name_char)
  exact blank.head_ne solid c first rfl

section

variable {name : List Char} (named : isName name = true)

include named

theorem ne_nil_of_isName : name ≠ [] :=
  (isName_iff.mp named).1

theorem not_blank_of_isName : ∀ c ∈ name, isBlank c = false := by
  intro c member
  exact isBlank_of_isNameChar ((isName_iff.mp named).2 c member)

/-- Names have none of the characters that the grammars give a meaning to. -/
theorem not_mem_of_isName {c : Char} (other : isNameChar c = false) : c ∉ name := by
  intro member
  simp [(isName_iff.mp named).2 c member] at other

theorem trim_of_isName : trim name = name :=
  trim_of_no_blank (not_blank_of_isName named)

theorem trim_around_isName {front back : List Char} (front_blank : Blank front)
    (back_blank : Blank back) : trim (front ++ name ++ back) = name := by
  rw [trim_append front_blank back_blank, trim_of_isName named]

theorem mem_around_isName {front back : List Char} (front_blank : Blank front)
    (back_blank : Blank back) :
    ∀ c ∈ front ++ name ++ back, isBlank c = true ∨ isNameChar c = true := by
  intro c member
  simp only [List.mem_append] at member
  rcases member with (in_front | in_name) | in_back
  · exact .inl (front_blank c in_front)
  · exact .inr ((isName_iff.mp named).2 c in_name)
  · exact .inl (back_blank c in_back)

/-- The blanks in front of a name end with it. -/
theorem trimStart_before_isName {front : List Char} (front_blank : Blank front)
    (rest : List Char) : trimStart (front ++ (name ++ rest)) = name ++ rest := by
  obtain ⟨c, others, rfl⟩ := List.exists_cons_of_ne_nil (ne_nil_of_isName named)
  rw [trimStart_append front_blank]
  exact trimStart_cons_of_not_blank (not_blank_of_isName named c List.mem_cons_self) _

end

/-- A name is cut off where the first character stands that it cannot have. -/
theorem cutName_iff {text name rest : List Char} :
    cutName text = some (name, rest) ↔
      text = name ++ rest ∧ isName name = true ∧ ∀ c ∈ rest.head?, isNameChar c = false := by
  have cut : cutName text =
      if text.takeWhile isNameChar = [] then none
      else some (text.takeWhile isNameChar, text.dropWhile isNameChar) := by
    rw [cutName, List.span_eq_takeWhile_dropWhile]
    split <;> simp_all
  rw [cut]
  constructor
  · intro found
    split at found
    · cases found
    next some_name =>
      cases found
      refine ⟨List.takeWhile_append_dropWhile.symm,
        isName_iff.mpr ⟨some_name, fun c => List.mem_takeWhile_imp⟩, ?_⟩
      intro c first
      have stopped := List.head?_dropWhile_not isNameChar text
      rw [Option.mem_def.mp first] at stopped
      exact stopped
  · rintro ⟨rfl, named, stops⟩
    have name_chars := (isName_iff.mp named).2
    have rest_kept : rest.takeWhile isNameChar = [] ∧ rest.dropWhile isNameChar = rest := by
      cases rest with
      | nil => simp
      | cons c others => simp [stops c rfl]
    rw [List.takeWhile_append_of_pos name_chars, List.dropWhile_append_of_pos name_chars,
      rest_kept.1, rest_kept.2, List.append_nil, if_neg (ne_nil_of_isName named)]

namespace Grammar

/-! ### Arrows -/

/-- The label that stands between bars; none if that is blank. -/
def barLabel (inside : List Char) : Option String :=
  match trim inside with
  | [] => none
  | solid => some (String.ofList solid)

/-- What stands between an arrow and its target: blanks, and among them possibly a label between
bars. -/
inductive Bars : Option String → List Char → Prop where
  | absent {gap : List Char} (blank : Blank gap) : Bars none gap
  | present {gap inside behind : List Char} (blank : Blank gap) (unbarred : '|' ∉ inside)
      (behind_blank : Blank behind) :
      Bars (barLabel inside) (gap ++ '|' :: inside ++ '|' :: behind)

/-- Two names with an arrow in between, and blanks anywhere around them. -/
inductive FlowArrow : Connection → List Char → Prop where
  | drawn {front source gap bars target back : List Char} {label : Option String}
      (front_blank : Blank front) (source_named : isName source = true) (gap_blank : Blank gap)
      (barred : Bars label bars) (target_named : isName target = true)
      (back_blank : Blank back) :
      FlowArrow ⟨String.ofList source, String.ofList target, none, none, false, label⟩
        (front ++ source ++ gap ++ '-' :: '-' :: '>' :: (bars ++ target ++ back))

theorem cutBarLabel_cons (rest : List Char) :
    cutBarLabel ('|' :: rest) =
      (cutAt (· == '|') rest).map fun (inside, after) => (barLabel inside, after) := by
  rw [cutBarLabel]
  congr
  funext ⟨inside, after⟩
  simp only [barLabel]
  split <;> simp_all

theorem cutBarLabel_of_ne {text : List Char} (unbarred : ∀ c ∈ text.head?, c ≠ '|') :
    cutBarLabel text = some (none, text) := by
  unfold cutBarLabel
  split
  · simp at unbarred
  · rfl

/-- What is read behind an arrow: bars or none, and then the target. -/
theorem cutBarLabel_iff {right target : List Char} {label : Option String}
    (target_named : isName target = true) :
    (∃ after, cutBarLabel (trimStart right) = some (label, after) ∧ trim after = target) ↔
      ∃ bars back, Bars label bars ∧ Blank back ∧ right = bars ++ target ++ back := by
  constructor
  · rintro ⟨after, cut, rfl⟩
    obtain ⟨gap, gap_blank, right_shape⟩ := trimStart_parts right
    obtain ⟨front, back, front_blank, back_blank, after_shape⟩ := trim_parts after
    -- Without bars the blanks before and after the trimming are one gap.
    by_cases opens : ∀ c ∈ (trimStart right).head?, c ≠ '|'
    · rw [cutBarLabel_of_ne opens] at cut
      cases cut
      refine ⟨gap ++ front, back, .absent (gap_blank.append front_blank), back_blank, ?_⟩
      conv_lhs => rw [right_shape, after_shape]
      simp only [List.append_assoc]
    · obtain ⟨rest, starts⟩ : ∃ rest, trimStart right = '|' :: rest := by
        simpa [List.head?_eq_some_iff] using opens
      rw [starts, cutBarLabel_cons] at cut
      obtain ⟨⟨inside, behind⟩, closed, same⟩ := Option.map_eq_some_iff.mp cut
      cases same
      obtain ⟨rest_shape, unbarred⟩ := cutAt_char_iff.mp closed
      refine ⟨_, back, .present gap_blank unbarred front_blank, back_blank, ?_⟩
      conv_lhs => rw [right_shape, starts, rest_shape, after_shape]
      simp only [List.append_assoc, List.cons_append]
  · rintro ⟨bars, back, barred, back_blank, rfl⟩
    cases barred with
    | absent gap_blank =>
      rw [List.append_assoc, trimStart_before_isName target_named gap_blank]
      refine ⟨target ++ back, cutBarLabel_of_ne ?_, ?_⟩
      · obtain ⟨c, others, rfl⟩ := List.exists_cons_of_ne_nil (ne_nil_of_isName target_named)
        rintro d ⟨⟩ rfl
        exact not_mem_of_isName target_named (by decide) List.mem_cons_self
      · exact trim_around_isName target_named blank_nil back_blank
    | present gap_blank unbarred behind_blank =>
      refine ⟨_, ?_, trim_around_isName target_named behind_blank back_blank⟩
      simp only [List.append_assoc, List.cons_append]
      rw [trimStart_append gap_blank, trimStart_cons_of_not_blank (by decide), cutBarLabel_cons,
        cutAt_char_iff.mpr ⟨rfl, unbarred⟩]
      rfl

/-- An arrow is read from the texts that have the form of one. -/
theorem flowArrow?_iff {text : List Char} {connection : Connection} :
    Statement.flowArrow? text = some connection ↔ FlowArrow connection text := by
  constructor
  · intro read
    simp only [Statement.flowArrow?, Option.bind_eq_bind, Option.bind_eq_some_iff] at read
    obtain ⟨⟨left, right⟩, cut, ⟨label, after⟩, bars_cut, read⟩ := read
    split at read
    next named =>
      cases read
      obtain ⟨source_named, target_named⟩ := Bool.and_eq_true_iff.mp named
      obtain ⟨front, gap, front_blank, gap_blank, left_shape⟩ := trim_parts left
      obtain ⟨bars, back, barred, back_blank, right_shape⟩ :=
        (cutBarLabel_iff target_named).mp ⟨after, bars_cut, rfl⟩
      have form := FlowArrow.drawn front_blank source_named gap_blank barred target_named back_blank
      rw [← left_shape, ← right_shape] at form
      rwa [cutAtArrow_eq_some cut]
    · cases read
  · rintro ⟨front_blank, source_named, gap_blank, barred, target_named, back_blank⟩
    next front source gap bars target back label =>
    -- The arrow is the first one, since no `>` stands before it.
    have unpointed : '>' ∉ front ++ source ++ gap := fun member =>
      absurd (mem_around_isName source_named front_blank gap_blank _ member) (by decide)
    obtain ⟨after, bars_cut, target_left⟩ :=
      (cutBarLabel_iff target_named).mpr ⟨bars, back, barred, back_blank, rfl⟩
    have source_left := trim_around_isName source_named front_blank gap_blank
    simp only [Statement.flowArrow?, cutAtArrow_append unpointed, Option.bind_eq_bind,
      Option.bind_some, bars_cut, target_left, source_left, source_named, target_named,
      Bool.and_self, if_true]

/-! ### Nodes -/

/-- The label in square brackets that may follow the id of a node, and how it is written. -/
inductive Brackets : List Char → List Char → Prop where
  | absent : Brackets [] []
  | present {label : List Char} (unclosed : ']' ∉ label) :
      Brackets label ('[' :: label ++ [']'])

/-- The name in front of a label in brackets, or of blanks, ends there. -/
theorem Brackets.stops {label brackets back : List Char} (bracketed : Brackets label brackets)
    (back_blank : Blank back) : ∀ c ∈ (brackets ++ back).head?, isNameChar c = false := by
  cases bracketed with
  | absent => exact isNameChar_of_blank_head back_blank
  | present =>
    rintro c ⟨⟩
    decide

def flowKinds : List NodeKind :=
  [.start, .finish, .task, .gateway]

/-- A keyword and a name, which a label may follow. -/
inductive FlowNode : Node → List Char → Prop where
  | declared {kind : NodeKind} {c : Char} {gap id label brackets back : List Char}
      (flow_kind : kind ∈ flowKinds) (blank : isBlank c = true) (gap_blank : Blank gap)
      (id_named : isName id = true) (bracketed : Brackets label brackets)
      (back_blank : Blank back) :
      FlowNode ⟨String.ofList id, labelOr id label, kind, none, none⟩
        (kind.keyword.toList ++ c :: (gap ++ (id ++ (brackets ++ back))))

theorem keyword_injective {kind other : NodeKind}
    (same : kind.keyword.toList = other.keyword.toList) : kind = other := by
  cases kind <;> cases other <;> first | rfl | exact absurd same (by decide)

theorem isName_keyword (kind : NodeKind) : isName kind.keyword.toList = true := by
  cases kind <;> decide

theorem find?_keyword_iff {kinds : List NodeKind} {kind : NodeKind} {keyword : List Char} :
    kinds.find? (·.keyword.toList = keyword) = some kind ↔
      kind ∈ kinds ∧ keyword = kind.keyword.toList := by
  constructor
  · intro found
    exact ⟨List.mem_of_find?_eq_some found, by simpa [eq_comm] using List.find?_some found⟩
  · rintro ⟨among, rfl⟩
    cases found : kinds.find? (·.keyword.toList = kind.keyword.toList) with
    | none => simpa using List.find?_eq_none.mp found kind among
    | some other =>
      have same : other.keyword.toList = kind.keyword.toList := by
        simpa using List.find?_some found
      rw [keyword_injective same]

theorem cutFlowLabel_iff {text label rest : List Char}
    (stops : ∀ c ∈ rest.head?, c ≠ '[') :
    Statement.cutFlowLabel text = some (label, rest) ↔
      ∃ brackets, Brackets label brackets ∧ text = brackets ++ rest := by
  constructor
  · intro cut
    unfold Statement.cutFlowLabel at cut
    split at cut
    · obtain ⟨rfl, unclosed⟩ := cutAt_char_iff.mp cut
      exact ⟨_, .present unclosed, by simp⟩
    · cases cut
      exact ⟨[], .absent, rfl⟩
  · rintro ⟨brackets, bracketed, rfl⟩
    cases bracketed with
    | absent =>
      unfold Statement.cutFlowLabel
      split
      next opens => simp_all
      · rfl
    | present unclosed =>
      simp only [List.cons_append, List.append_assoc, List.nil_append, Statement.cutFlowLabel]
      exact cutAt_char_iff.mpr ⟨rfl, unclosed⟩

/-- What a text that starts like a node is read as depends on what is left of it. -/
theorem flowNode?_eq {kind : NodeKind} {c : Char} {gap id label brackets rest : List Char}
    (flow_kind : kind ∈ flowKinds) (blank : isBlank c = true) (gap_blank : Blank gap)
    (id_named : isName id = true) (bracketed : Brackets label brackets)
    (stops : ∀ d ∈ (brackets ++ rest).head?, isNameChar d = false)
    (unopened : ∀ d ∈ rest.head?, d ≠ '[') :
    Statement.flowNode? (kind.keyword.toList ++ c :: (gap ++ (id ++ (brackets ++ rest)))) =
      if rest.all isBlank then
        some ⟨String.ofList id, labelOr id label, kind, none, none⟩
      else none := by
  have cut := cutAt_append (not_blank_of_isName (isName_keyword kind)) blank
    (gap ++ (id ++ (brackets ++ rest)))
  have found : NodeKind.ofFlowKeyword? kind.keyword.toList = some kind :=
    find?_keyword_iff.mpr ⟨flow_kind, rfl⟩
  have label_cut := (cutFlowLabel_iff unopened).mpr ⟨brackets, bracketed, rfl⟩
  have id_cut : cutName (id ++ (brackets ++ rest)) = some (id, brackets ++ rest) :=
    cutName_iff.mpr ⟨rfl, id_named, stops⟩
  have gap_trimmed := trimStart_before_isName id_named gap_blank (brackets ++ rest)
  simp only [Statement.flowNode?, cut, found, gap_trimmed, id_cut, label_cut,
    Option.bind_eq_bind, Option.bind_some]

/-- A node is read from the texts that have the form of one. -/
theorem flowNode?_iff {text : List Char} {node : Node} :
    Statement.flowNode? text = some node ↔ FlowNode node text := by
  constructor
  · intro read
    simp only [Statement.flowNode?, Option.bind_eq_bind, Option.bind_eq_some_iff] at read
    obtain ⟨⟨keyword, rest⟩, cut, kind, found, ⟨id, behind⟩, id_cut, ⟨label, back⟩, label_cut,
      read⟩ := read
    split at read
    next back_blank =>
      cases read
      obtain ⟨c, blank, rfl, -⟩ := cutAt_eq_some cut
      obtain ⟨flow_kind, rfl⟩ := find?_keyword_iff.mp found
      obtain ⟨gap, gap_blank, rest_shape⟩ := trimStart_parts rest
      obtain ⟨id_shape, id_named, -⟩ := cutName_iff.mp id_cut
      have back_blank : Blank back := all_isBlank_iff.mp back_blank
      obtain ⟨brackets, bracketed, rfl⟩ :=
        (cutFlowLabel_iff (back_blank.head_ne (by decide))).mp label_cut
      rw [rest_shape, id_shape]
      exact .declared flow_kind blank gap_blank id_named bracketed back_blank
    · cases read
  · rintro ⟨flow_kind, blank, gap_blank, id_named, bracketed, back_blank⟩
    rw [flowNode?_eq flow_kind blank gap_blank id_named bracketed (bracketed.stops back_blank)
      (back_blank.head_ne (by decide)), if_pos (all_isBlank_iff.mpr back_blank)]

/-- Before its first arrow, an arrow statement has only blanks and the characters of names. -/
theorem FlowArrow.cut {connection : Connection} {text : List Char}
    (arrow : FlowArrow connection text) :
    ∃ left right, cutAtArrow text = some (left, right) ∧
      ∀ c ∈ left, isBlank c = true ∨ isNameChar c = true := by
  obtain ⟨front_blank, source_named, gap_blank, barred, target_named, back_blank⟩ := arrow
  next front source gap bars target back label =>
  have clean := mem_around_isName source_named front_blank gap_blank
  have unpointed : '>' ∉ front ++ source ++ gap :=
    fun member => absurd (clean _ member) (by decide)
  exact ⟨_, _, cutAtArrow_append unpointed _, clean⟩

/-- No bracket stands before the first `>` of an arrow statement. -/
theorem not_flowArrow_of_bracket {connection : Connection} {front rest : List Char}
    (unpointed : '>' ∉ front) : ¬ FlowArrow connection (front ++ '[' :: rest) := by
  intro arrow
  obtain ⟨left, right, cut, clean⟩ := arrow.cut
  have inside := mem_of_cutAtArrow unpointed (by decide) (by decide) cut
  exact absurd (clean _ inside) (by decide)

/-- A node has no `>` before its label. -/
theorem unpointed_before_label {kind : NodeKind} {c : Char} {gap id : List Char}
    (blank : isBlank c = true) (gap_blank : Blank gap) (id_named : isName id = true) :
    '>' ∉ kind.keyword.toList ++ c :: (gap ++ id) := by
  have keyword_unpointed : '>' ∉ kind.keyword.toList :=
    not_mem_of_isName (isName_keyword kind) (by decide)
  have gap_unpointed : '>' ∉ c :: gap :=
    Blank.not_mem (by simpa [Blank, blank] using gap_blank) (by decide)
  have id_unpointed : '>' ∉ id := not_mem_of_isName id_named (by decide)
  simp_all

/-- No text has both forms: a `>` in a node stands behind an opening bracket, which no arrow has
before its `>`. -/
theorem FlowNode.not_arrow {node : Node} {connection : Connection} {text : List Char}
    (declares : FlowNode node text) : ¬ FlowArrow connection text := by
  intro arrow
  obtain ⟨-, blank, gap_blank, id_named, bracketed, back_blank⟩ := declares
  next kind c gap id label brackets back =>
  have unpointed : '>' ∉ kind.keyword.toList ++ c :: (gap ++ id) :=
    unpointed_before_label blank gap_blank id_named
  cases bracketed with
  | absent =>
    obtain ⟨left, right, cut, -⟩ := arrow.cut
    have pointed : '>' ∈ kind.keyword.toList ++ c :: (gap ++ (id ++ ([] ++ back))) := by
      rw [cutAtArrow_eq_some cut]
      simp
    have back_unpointed : '>' ∉ back := back_blank.not_mem (by decide)
    simp_all
  | present =>
    have shape : kind.keyword.toList ++ c :: (gap ++ (id ++ ('[' :: label ++ [']'] ++ back))) =
        (kind.keyword.toList ++ c :: (gap ++ id)) ++ '[' :: (label ++ ']' :: back) := by simp
    exact not_flowArrow_of_bracket unpointed (shape ▸ arrow)

end Grammar

end TextDiagram
