import TextDiagram.Proofs.Graph.Skipping

/-!
# Statements on one line

Flow statements may stand on lines of their own, or on one line with semicolons in between. Main
statement: both are read alike, with nothing skipped, exactly if no label in brackets has a further
opening bracket, that of the last statement apart. The grammar ends such a label at its first
closing bracket, and the scan of the line does not.
-/
namespace TextDiagram

open Text Nesting

/-- The line with the statements one behind the other. -/
def joinStatements (statements : List (List Char)) : List Char :=
  [';'].intercalate statements

/-- Alone on a line, the text is one statement, and it is accepted. -/
structure StandsAlone (text : List Char) : Prop where
  one_line : '\n' ∉ text
  whole : Family.flow.statementsBehind (joinLines [Family.flow.header.toList, text]) =
    [⟨2, trim text⟩]
  accepted : ∃ graph, Graph.readWithDiagnostics .flow
    (String.ofList (joinLines [Family.flow.header.toList, text])) = .ok ⟨graph, []⟩

/-- The text declares a node, and its label has an opening bracket of its own. -/
def OpensBracket (text : List Char) : Prop :=
  ∃ node ∈ (Statement.read? .flow (trim text)).bind Statement.node?, '[' ∈ node.label.toList

instance (text : List Char) : Decidable (OpensBracket text) :=
  inferInstanceAs (Decidable (∃ node ∈ (Statement.read? .flow (trim text)).bind Statement.node?, _))

/-! ### Statements between blanks -/

namespace Grammar

variable {statement : Statement} {text : List Char}

theorem Form.ne_nil (form : Form .flow statement text) : text ≠ [] := by
  cases statement with
  | arrow connection =>
    obtain ⟨-, -, -, -, -, -⟩ := form
    simp
  | declare node =>
    obtain ⟨-, -, -, -, -, -⟩ := form
    simp

/-- A statement may have more blanks behind it. -/
theorem Form.append_blank (form : Form .flow statement text) {back : List Char}
    (blank : Blank back) : Form .flow statement (text ++ back) := by
  cases statement with
  | arrow connection =>
    obtain ⟨front_blank, source_named, gap_blank, barred, target_named, back_blank⟩ := form
    have longer := FlowArrow.drawn front_blank source_named gap_blank barred target_named
      (back_blank.append blank)
    simpa [Form] using longer
  | declare node =>
    obtain ⟨flow_kind, c_blank, gap_blank, id_named, bracketed, back_blank⟩ := form
    have longer := FlowNode.declared flow_kind c_blank gap_blank id_named bracketed
      (back_blank.append blank)
    simpa [Form] using longer

/-- The brackets that are open where the scan has passed over a statement. -/
def openings : Statement → Nat
  | .arrow _ => 0
  | .declare node => node.label.toList.count '['

theorem Form.passes (form : Form .flow statement text) :
    Passes .outside text ⟨openings statement, false⟩ := by
  cases statement with
  | arrow connection => exact FlowArrow.passes form
  | declare node => exact FlowNode.passes form

/-- Blanks around a statement do not matter to the scan. -/
theorem Form.passes_around (form : Form .flow statement (trim text)) :
    Passes .outside text ⟨openings statement, false⟩ := by
  obtain ⟨front, back, front_blank, back_blank, shape⟩ := trim_parts text
  have passes := (((plain_of_blank front_blank).passes _).append form.passes).append
    ((plain_of_blank back_blank).passes _)
  rwa [← shape] at passes

theorem Form.passes_closed (form : Form .flow statement (trim text))
    (closed : openings statement = 0) : Passes .outside text .outside := by
  have passes := form.passes_around
  rwa [closed] at passes

theorem openings_ne_zero_iff (form : Form .flow statement (trim text)) :
    openings statement ≠ 0 ↔ OpensBracket text := by
  rw [OpensBracket, read?_iff.mpr form]
  cases statement with
  | arrow connection => simp [openings, Statement.node?]
  | declare node => simp [openings, Statement.node?, List.count_eq_zero]

/-- A node with a label in brackets and a semicolon behind it is no statement. -/
theorem not_form_of_bracket {kind : NodeKind} {c : Char} {gap id label blanks rest : List Char}
    (flow_kind : kind ∈ flowKinds) (blank : isBlank c = true) (gap_blank : Blank gap)
    (id_named : isName id = true) (unclosed : ']' ∉ label) (blanks_blank : Blank blanks)
    (statement : Statement) :
    ¬ Form .flow statement (kind.keyword.toList ++
      c :: (gap ++ (id ++ (('[' :: label ++ [']']) ++ (blanks ++ ';' :: rest))))) := by
  intro form
  cases statement with
  | arrow connection =>
    have shape : kind.keyword.toList ++
        c :: (gap ++ (id ++ (('[' :: label ++ [']']) ++ (blanks ++ ';' :: rest)))) =
          (kind.keyword.toList ++ c :: (gap ++ id)) ++
            '[' :: (label ++ ']' :: (blanks ++ ';' :: rest)) := by simp
    exact not_flowArrow_of_bracket (unpointed_before_label blank gap_blank id_named) (shape ▸ form)
  | declare node =>
    have stops : ∀ d ∈ (('[' :: label ++ [']']) ++ (blanks ++ ';' :: rest)).head?,
        isNameChar d = false := by
      rintro d ⟨⟩
      decide
    have unopened : ∀ d ∈ (blanks ++ ';' :: rest).head?, d ≠ '[' := by
      rintro d first rfl
      have lead := blanks_blank.head?_append _ _ _ first
      exact absurd lead (by decide)
    have solid : ¬ (blanks ++ ';' :: rest).all isBlank = true := by
      intro all
      exact absurd (all_isBlank_iff.mp all ';' (by simp)) (by decide)
    have read := flowNode?_iff.mpr form
    rw [flowNode?_eq flow_kind blank gap_blank id_named (.present unclosed) stops unopened,
      if_neg solid] at read
    cases read

/-- Of a text that starts with no blank, only blanks at its end are trimmed. -/
theorem Form.of_trim (starts : trimStart text = text) (form : Form .flow statement (trim text)) :
    Form .flow statement text := by
  obtain ⟨back, back_blank, ends⟩ := trimEnd_parts (trimStart text)
  have longer := form.append_blank back_blank
  rwa [trim, ← ends, starts] at longer

/-- A statement that leaves a bracket open takes in what the semicolon behind it should have cut
off, and the two make no statement. -/
theorem Form.not_form_joined (form : Form .flow statement (trim text))
    (opens : openings statement ≠ 0) (rest : List Char) (other : Statement) :
    ¬ Form .flow other (trim (text ++ ';' :: rest)) := by
  intro joined
  obtain ⟨front, back, front_blank, back_blank, shape⟩ := trim_parts text
  generalize trim text = inner at form shape
  cases statement with
  | arrow connection => exact opens rfl
  | declare node =>
    obtain ⟨flow_kind, blank, gap_blank, id_named, bracketed, behind_blank⟩ := form
    next kind c gap id label brackets behind =>
    cases bracketed with
    | absent =>
      rw [openings, count_labelOr id_named (by decide) (by decide)] at opens
      exact opens rfl
    | present unclosed =>
      let bracketed := '[' :: label ++ [']']
      -- Behind the label the grammar expects the end, and finds the semicolon.
      let whole := kind.keyword.toList ++
        c :: (gap ++ (id ++ (bracketed ++ ((behind ++ back) ++ ';' :: rest))))
      have starts : trimStart whole = whole :=
        trimStart_before_isName (isName_keyword kind) blank_nil _
      have joined_shape : text ++ ';' :: rest = front ++ whole := by
        rw [shape]
        simp [whole, bracketed]
      have joined_trim : trim (text ++ ';' :: rest) = trim whole := by
        rw [joined_shape]
        simpa using trim_append front_blank blank_nil whole
      rw [joined_trim] at joined
      exact not_form_of_bracket flow_kind blank gap_blank id_named unclosed
        (behind_blank.append back_blank) other (joined.of_trim starts)

end Grammar

/-! ### What stands alone -/

theorem isLine_trim_of_form {text : List Char} {statement : Statement} (one_line : '\n' ∉ text)
    (form : Grammar.Form .flow statement (trim text)) : IsLine (trim text) where
  one_line := fun member => one_line (mem_of_mem_trim member)
  trimmed := trim_trim text
  significant := isSignificant_of_head form.ne_nil form.head_ne

theorem numbered_map_trim (first : Nat) (lines : List (List Char)) :
    numbered first (lines.map trim) = numbered first lines := by
  induction lines generalizing first with
  | nil => rfl
  | cons line rest ih => rw [List.map_cons, numbered, numbered, trim_trim, ih]

/-- Lines that are all statements are all accepted. -/
theorem read_of_body {text : List Char} {lines : List Line}
    (opened : Family.flow.body text = .ok lines)
    (formed : ∀ line ∈ lines, ∃ statement, Grammar.Form .flow statement line.text) :
    ∃ graph, Reading.Sorts (.empty .flow) lines graph lines [] ∧
      Graph.readWithDiagnostics .flow (String.ofList text) = .ok ⟨graph, []⟩ := by
  have flow : (Graph.empty .flow).family = .flow := rfl
  obtain ⟨graph, sorts⟩ := Reading.Sorts.of_forms flow formed
  refine ⟨graph, sorts, ?_⟩
  rw [Graph.readWithDiagnostics, String.toList_ofList, opened, Except.map, Reading.ofStatements,
    sorts.foldl_step]
  rfl

section

variable {texts : List (List Char)} (one_line : ∀ text ∈ texts, '\n' ∉ text)
  (formed : ∀ text ∈ texts, ∃ statement, Grammar.Form .flow statement (trim text))

include one_line formed

theorem isLine_of_forms : ∀ line ∈ texts.map trim,
    IsLine line ∧ ∃ statement, Grammar.Form .flow statement line := by
  intro line among
  obtain ⟨text, held, rfl⟩ := List.mem_map.mp among
  obtain ⟨statement, form⟩ := formed text held
  exact ⟨isLine_trim_of_form (one_line text held) form, statement, form⟩

/-- On lines of their own, statements between blanks are the statements of their text. -/
theorem body_of_forms :
    Family.flow.body (joinLines (Family.flow.header.toList :: texts)) = .ok (numbered 2 texts) := by
  have are_lines := isLine_of_forms one_line formed
  have significant : ∀ text ∈ texts, isSignificant (trim text) = true :=
    fun text held => (are_lines _ (List.mem_map_of_mem held)).1.significant
  rw [body_joinLines_of_significant one_line significant, ← numbered_map_trim,
    flatMap_statements_of_form are_lines]

theorem text_of_forms : (numbered 2 texts).map Line.text = texts.map trim := by
  rw [← numbered_map_trim]
  exact text_of_numbered (fun line among => (isLine_of_forms one_line formed line among).1) 2

end

theorem standsAlone_iff {text : List Char} :
    StandsAlone text ↔ '\n' ∉ text ∧ ∃ statement, Grammar.Form .flow statement (trim text) := by
  constructor
  · rintro ⟨one_line, whole, graph, read⟩
    obtain ⟨accepted, skipped, sorts, none_skipped⟩ := Reading.exists_sorts_of_read read
    obtain rfl := List.map_eq_nil_iff.mp none_skipped.symm
    rw [String.toList_ofList, whole] at sorts
    have among : ⟨2, trim text⟩ ∈ accepted := by
      simpa using sorts.perm.mem_iff.mpr List.mem_cons_self
    exact ⟨one_line, sorts.form _ among⟩
  · rintro ⟨one_line, formed⟩
    have opened := body_of_forms (List.forall_mem_singleton.mpr one_line)
      (List.forall_mem_singleton.mpr formed)
    obtain ⟨graph, -, read⟩ := read_of_body opened (List.forall_mem_singleton.mpr formed)
    exact ⟨one_line, (Family.body_eq opened).symm, graph, read⟩

theorem standsAlone_iff_read {text : List Char} :
    StandsAlone text ↔ '\n' ∉ text ∧ (Statement.read? .flow (trim text)).isSome = true := by
  simp only [standsAlone_iff, Option.isSome_iff_exists, Grammar.read?_iff]

instance (text : List Char) : Decidable (StandsAlone text) :=
  decidable_of_iff _ standsAlone_iff_read.symm

/-! ### The joined line -/

theorem joinStatements_cons_cons (text second : List Char) (rest : List (List Char)) :
    joinStatements (text :: second :: rest) = text ++ ';' :: joinStatements (second :: rest) := by
  simp [joinStatements, List.intercalate_cons_cons]

theorem joinStatements_singleton (text : List Char) : joinStatements [text] = text := by
  simp [joinStatements]

theorem one_line_joinStatements {texts : List (List Char)}
    (one_line : ∀ text ∈ texts, '\n' ∉ text) : '\n' ∉ joinStatements texts := by
  match texts with
  | [] => simp [joinStatements]
  | [text] => simpa [joinStatements_singleton] using one_line
  | text :: second :: rest =>
    have behind := one_line_joinStatements fun other member =>
      one_line other (List.mem_cons_of_mem text member)
    simp [joinStatements_cons_cons, behind, one_line text List.mem_cons_self]

/-- If only the last statement may leave a bracket open, the line is cut where it was joined. -/
theorem statementStretches_joinStatements {texts : List (List Char)} (some_texts : texts ≠ [])
    (formed : ∀ text ∈ texts, ∃ statement, Grammar.Form .flow statement (trim text))
    (closed : ∀ text ∈ texts.dropLast, ¬ OpensBracket text) :
    statementStretches .outside (joinStatements texts) = texts := by
  match texts with
  | [] => exact absurd rfl some_texts
  | [text] =>
    obtain ⟨statement, form⟩ := formed text List.mem_cons_self
    rw [joinStatements_singleton, form.passes_around.whole]
  | text :: second :: rest =>
    obtain ⟨statement, form⟩ := formed text List.mem_cons_self
    have text_closed : Grammar.openings statement = 0 := by
      by_contra opens
      exact closed text (by simp) ((Grammar.openings_ne_zero_iff form).mp opens)
    have behind := statementStretches_joinStatements (List.cons_ne_nil second rest)
      (fun other member => formed other (List.mem_cons_of_mem text member))
      fun other member => closed other (List.mem_cons_of_mem text member)
    rw [joinStatements_cons_cons, (form.passes_closed text_closed).cut rfl, behind]

/-- If another statement than the last leaves a bracket open, a stretch of the line is no
statement. -/
theorem exists_refused_of_opensBracket {texts : List (List Char)}
    (formed : ∀ text ∈ texts, ∃ statement, Grammar.Form .flow statement (trim text))
    (opens : ∃ text ∈ texts.dropLast, OpensBracket text) :
    ∃ stretch ∈ statementStretches .outside (joinStatements texts), trim stretch ≠ [] ∧
      ∀ statement, ¬ Grammar.Form .flow statement (trim stretch) := by
  match texts with
  | [] => simp at opens
  | [text] => simp at opens
  | text :: second :: rest =>
    obtain ⟨statement, form⟩ := formed text List.mem_cons_self
    rw [joinStatements_cons_cons]
    by_cases closed : Grammar.openings statement = 0
    -- The line is cut behind the first statement, and the culprit is further on.
    · have behind_opens : ∃ other ∈ (second :: rest).dropLast, OpensBracket other := by
        obtain ⟨other, among, other_opens⟩ := opens
        rcases List.mem_cons.mp among with rfl | behind
        · exact absurd closed ((Grammar.openings_ne_zero_iff form).mpr other_opens)
        · exact ⟨other, behind, other_opens⟩
      obtain ⟨stretch, among, refused⟩ := exists_refused_of_opensBracket
        (fun other member => formed other (List.mem_cons_of_mem text member)) behind_opens
      refine ⟨stretch, ?_, refused⟩
      rw [(form.passes_closed closed).cut rfl]
      exact List.mem_cons_of_mem _ among
    · -- The semicolon belongs to the stretch that the statement begins.
      let nesting : Nesting := ⟨Grammar.openings statement, false⟩
      have inside : ¬ (';' = ';' ∧ nesting.isOutside = true) := by
        simp [nesting, isOutside, closed]
      rw [form.passes_around.stretches, statementStretches, if_neg inside]
      cases cut : statementStretches (nesting.next ';')
        (joinStatements (second :: rest)) with
      | nil => exact absurd cut (statementStretches_ne_nil _ _)
      | cons first others =>
        refine ⟨text ++ ';' :: first, List.mem_cons_self, ?_, form.not_form_joined closed first⟩
        intro nothing
        have same_head := head?_trim_append form.ne_nil (';' :: first)
        rw [nothing] at same_head
        exact form.ne_nil (List.head?_eq_none_iff.mp same_head.symm)

/-- The joined line is cut into the statements of the text that consists of it. -/
theorem body_joinStatements {texts : List (List Char)} (one_line : ∀ text ∈ texts, '\n' ∉ text)
    (formed : ∀ text ∈ texts, ∃ statement, Grammar.Form .flow statement (trim text)) :
    Family.flow.body (joinLines [Family.flow.header.toList, joinStatements texts]) =
      .ok ((splitStatements (joinStatements texts)).map fun text => ⟨2, text⟩) := by
  match texts with
  | [] => rfl
  | text :: rest =>
    obtain ⟨statement, form⟩ := formed text List.mem_cons_self
    obtain ⟨behind, shape⟩ : ∃ behind, joinStatements (text :: rest) = text ++ behind := by
      cases rest with
      | nil => exact ⟨[], by simp [joinStatements_singleton]⟩
      | cons second others => exact ⟨_, joinStatements_cons_cons text second others⟩
    have same_head := head?_trim_append form.ne_nil behind
    have significant : isSignificant (trim (joinStatements (text :: rest))) = true := by
      rw [shape]
      refine isSignificant_of_head (fun nothing => ?_) (same_head ▸ form.head_ne)
      rw [nothing] at same_head
      exact form.ne_nil (List.head?_eq_none_iff.mp same_head.symm)
    rw [body_joinLines_of_significant (by simpa using one_line_joinStatements one_line)
      (by simpa using significant)]
    simp [numbered, Family.statements, splitStatements_trim]

theorem splitStatements_joinStatements {texts : List (List Char)}
    (formed : ∀ text ∈ texts, ∃ statement, Grammar.Form .flow statement (trim text))
    (closed : ∀ text ∈ texts.dropLast, ¬ OpensBracket text) :
    splitStatements (joinStatements texts) = texts.map trim := by
  match texts with
  | [] => rfl
  | text :: rest =>
    rw [splitStatements, statementStretches_joinStatements (List.cons_ne_nil _ _) formed closed]
    apply List.filter_eq_self.mpr
    intro line among
    obtain ⟨raw, held, rfl⟩ := List.mem_map.mp among
    obtain ⟨statement, form⟩ := formed raw held
    simpa using form.ne_nil

/-- Where something is no statement, something is reported. -/
theorem Reading.skipped_ne_nil {lines : List Line} {line : Line} (among : line ∈ lines)
    (refused : ∀ statement, ¬ Grammar.Form .flow statement line.text) :
    (Reading.ofStatements .flow lines).skipped ≠ [] := by
  obtain ⟨final, accepted, skipped, sorts⟩ := Reading.exists_sorts (.empty .flow) lines
  rw [Reading.ofStatements, sorts.foldl_step]
  intro nothing
  obtain rfl := List.map_eq_nil_iff.mp nothing
  have is_accepted : line ∈ accepted := by simpa using sorts.perm.mem_iff.mpr among
  obtain ⟨statement, form⟩ := sorts.form line is_accepted
  exact refused statement form

/-- Statements that are accepted on lines of their own are read alike on one line, with nothing
skipped, if none but the last has an opening bracket in its label in brackets. If one has, something
is skipped. -/
theorem Graph.read_joinStatements {statements : List (List Char)}
    (alone : ∀ text ∈ statements, StandsAlone text) :
    ∃ graph reading,
      Graph.readWithDiagnostics .flow
        (String.ofList (joinLines (Family.flow.header.toList :: statements))) = .ok ⟨graph, []⟩ ∧
      Graph.readWithDiagnostics .flow
        (String.ofList (joinLines [Family.flow.header.toList, joinStatements statements])) =
          .ok reading ∧
      ((∀ text ∈ statements.dropLast, ¬ OpensBracket text) → reading = ⟨graph, []⟩) ∧
      ((∃ text ∈ statements.dropLast, OpensBracket text) → reading.skipped ≠ []) := by
  have one_line : ∀ text ∈ statements, '\n' ∉ text := fun text among => (alone text among).one_line
  have formed : ∀ text ∈ statements, ∃ statement, Grammar.Form .flow statement (trim text) :=
    fun text among => (standsAlone_iff.mp (alone text among)).2
  have lines_formed : ∀ line ∈ numbered 2 statements,
      ∃ statement, Grammar.Form .flow statement line.text := by
    intro line among
    obtain ⟨text, held, same⟩ := exists_of_mem_numbered among
    exact same ▸ formed text held
  obtain ⟨graph, sorts, apart⟩ := read_of_body (body_of_forms one_line formed) lines_formed
  let joined : List Line := (splitStatements (joinStatements statements)).map fun text => ⟨2, text⟩
  refine ⟨graph, Reading.ofStatements .flow joined, apart, ?_, fun closed => ?_, ?_⟩
  · rw [Graph.readWithDiagnostics, String.toList_ofList, body_joinStatements one_line formed]
    rfl
  · have same_texts : joined.map Line.text = (numbered 2 statements).map Line.text := by
      rw [text_of_forms one_line formed, ← splitStatements_joinStatements formed closed]
      simp [joined, Function.comp_def]
    rw [Reading.ofStatements, (sorts.replay same_texts).foldl_step]
    rfl
  · intro opens
    obtain ⟨stretch, among, some_left, refused⟩ := exists_refused_of_opensBracket formed opens
    have split_off : trim stretch ∈ splitStatements (joinStatements statements) :=
      List.mem_filter.mpr ⟨List.mem_map_of_mem among, by simpa using some_left⟩
    exact Reading.skipped_ne_nil (List.mem_map_of_mem split_off) refused

/-- Labels with semicolons, bars and closed brackets, and one with an open bracket at the end. -/
theorem Graph.read_joinStatements_open_last :
    let statements := [" a -->|x[; y| b".toList, "task a[p | q; r]".toList, "end b[x[y]\t".toList]
    let graph : Graph := {
      family := .flow
      nodes := [⟨"a", "p | q; r", .task, none, none⟩, ⟨"b", "x[y", .finish, none, none⟩]
      connections := [⟨"a", "b", none, none, false, some "x[; y"⟩] }
    (∀ text ∈ statements, StandsAlone text) ∧
      (∀ text ∈ statements.dropLast, ¬ OpensBracket text) ∧
      Graph.readWithDiagnostics .flow
        (String.ofList (joinLines [Family.flow.header.toList, joinStatements statements])) =
          .ok ⟨graph, []⟩ := by
  intro statements graph
  have alone : ∀ text ∈ statements, StandsAlone text := by decide +kernel
  have closed : ∀ text ∈ statements.dropLast, ¬ OpensBracket text := by decide +kernel
  obtain ⟨built, reading, apart, joined, alike, -⟩ := Graph.read_joinStatements alone
  have built_eq : Graph.readWithDiagnostics .flow
      (String.ofList (joinLines (Family.flow.header.toList :: statements))) = .ok ⟨graph, []⟩ := by
    decide +kernel
  rw [apart, Except.ok.injEq] at built_eq
  rw [alike closed, built_eq] at joined
  exact ⟨alone, closed, joined⟩

/-- Two nodes on one line, the first with an opening bracket in its label: both are lost. On lines
of their own, both are read. -/
theorem Graph.joinStatements_loses_nodes :
    let first := "task a[x[y]".toList
    let second := "task b".toList
    let graph : Graph := {
      family := .flow
      nodes := [⟨"a", "x[y", .task, none, none⟩, ⟨"b", "b", .task, none, none⟩]
      connections := [] }
    StandsAlone first ∧ StandsAlone second ∧
      Graph.readWithDiagnostics .flow
        (String.ofList (joinLines [Family.flow.header.toList, first, second])) = .ok ⟨graph, []⟩ ∧
      Graph.readWithDiagnostics .flow
        (String.ofList (joinLines [Family.flow.header.toList, joinStatements [first, second]])) =
          .ok ⟨.empty .flow, [⟨2, "task a[x[y];task b"⟩]⟩ := by
  intro first second graph
  have first_alone : StandsAlone first := by decide +kernel
  have second_alone : StandsAlone second := by decide +kernel
  refine ⟨first_alone, second_alone, ?_, ?_⟩ <;> decide +kernel

end TextDiagram
