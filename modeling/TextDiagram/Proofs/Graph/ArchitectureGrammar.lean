import TextDiagram.Proofs.Graph.FlowGrammar

/-!
# The grammar of architecture statements

Which lines are architecture statements, without saying how they are read. Main statements: an arrow
is read from exactly the lines that are made of its three words, a node is read from exactly the
lines that have the form of one, and no line has both forms. With the grammar of flows this says,
for either family, what is read as a statement.
-/
namespace TextDiagram

open Text

namespace Grammar

/-! ### Arrows -/

/-- The left end of an arrow and its word; a side stands behind the name. -/
inductive LeftEnd : List Char × Option Side → List Char → Prop where
  | bare {name : List Char} (named : isName name = true) : LeftEnd (name, none) name
  | sided {name : List Char} {side : Side} (named : isName name = true) :
      LeftEnd (name, some side) (name ++ [':', side.letter])

/-- The right end of an arrow and its word; a side stands before the name. -/
inductive RightEnd : List Char × Option Side → List Char → Prop where
  | bare {name : List Char} (named : isName name = true) : RightEnd (name, none) name
  | sided {name : List Char} {side : Side} (named : isName name = true) :
      RightEnd (name, some side) (side.letter :: ':' :: name)

def arrowWord : Statement.Arrow → List Char
  | .rightward => ['-', '-', '>']
  | .leftward => ['<', '-', '-']
  | .both => ['<', '-', '-', '>']

/-- Two ends with an arrow in between, all apart from one another. -/
inductive ArchitectureArrow : Connection → List Char → Prop where
  | drawn {arrow : Statement.Arrow} {left right : List Char × Option Side}
      {leftWord rightWord text : List Char} (left_end : LeftEnd left leftWord)
      (right_end : RightEnd right rightWord)
      (words : words text = [leftWord, arrowWord arrow, rightWord]) :
      ArchitectureArrow (arrow.connect left right) text

theorem side?_iff {text : List Char} {side : Side} :
    Statement.side? text = some side ↔ text = [side.letter] := by
  constructor
  · intro read
    unfold Statement.side? at read
    split at read
    · rw [Side.letter_of_ofLetter? read]
    · cases read
  · rintro rfl
    exact Side.ofLetter?_letter side

@[simp] theorem side?_letter (side : Side) : Statement.side? [side.letter] = some side :=
  side?_iff.mpr rfl

theorem ofWord?_iff {word : List Char} {arrow : Statement.Arrow} :
    Statement.Arrow.ofWord? word = some arrow ↔ word = arrowWord arrow := by
  constructor
  · intro read
    unfold Statement.Arrow.ofWord? at read
    split at read <;> cases read <;> rfl
  · rintro rfl
    cases arrow <;> rfl

@[simp] theorem ofWord?_arrowWord (arrow : Statement.Arrow) :
    Statement.Arrow.ofWord? (arrowWord arrow) = some arrow :=
  ofWord?_iff.mpr rfl

theorem cutAt_colon_of_isName {name : List Char} (named : isName name = true) :
    cutAt (· == ':') name = none := by
  apply cutAt_eq_none_iff.mpr
  rintro c member
  have apart : c ≠ ':' := fun same =>
    not_mem_of_isName named (by decide) (same ▸ member)
  simpa using apart

theorem leftEnd?_iff {word : List Char} {left : List Char × Option Side} :
    Statement.leftEnd? word = some left ∧ isName left.1 = true ↔ LeftEnd left word := by
  constructor
  · rintro ⟨read, named⟩
    unfold Statement.leftEnd? at read
    split at read
    · cases read
      exact .bare named
    next name letter cut =>
      obtain ⟨side, side_read, rfl⟩ := Option.map_eq_some_iff.mp read
      obtain ⟨rfl, -⟩ := cutAt_char_iff.mp cut
      obtain rfl := side?_iff.mp side_read
      exact .sided named
  · rintro (named | named)
    · exact ⟨by rw [Statement.leftEnd?, cutAt_colon_of_isName named], named⟩
    next name side =>
      have cut : cutAt (· == ':') (name ++ [':', side.letter]) = some (name, [side.letter]) :=
        cutAt_char_iff.mpr ⟨rfl, not_mem_of_isName named (by decide)⟩
      exact ⟨by simp only [Statement.leftEnd?, cut, side?_letter, Option.map_some], named⟩

theorem rightEnd?_iff {word : List Char} {right : List Char × Option Side} :
    Statement.rightEnd? word = some right ∧ isName right.1 = true ↔ RightEnd right word := by
  constructor
  · rintro ⟨read, named⟩
    unfold Statement.rightEnd? at read
    split at read
    · cases read
      exact .bare named
    next letter name cut =>
      obtain ⟨side, side_read, rfl⟩ := Option.map_eq_some_iff.mp read
      obtain ⟨rfl, -⟩ := cutAt_char_iff.mp cut
      obtain rfl := side?_iff.mp side_read
      exact .sided named
  · rintro (named | named)
    · exact ⟨by rw [Statement.rightEnd?, cutAt_colon_of_isName named], named⟩
    next name side =>
      have not_colon : ':' ∉ [side.letter] := by cases side <;> decide
      have cut : cutAt (· == ':') (side.letter :: ':' :: name) = some ([side.letter], name) :=
        cutAt_char_iff.mpr ⟨rfl, not_colon⟩
      exact ⟨by simp only [Statement.rightEnd?, cut, side?_letter, Option.map_some], named⟩

/-- An arrow is read from the lines that are made of its three words. -/
theorem architectureArrow?_iff {text : List Char} {connection : Connection} :
    Statement.architectureArrow? text = some connection ↔ ArchitectureArrow connection text := by
  constructor
  · intro read
    unfold Statement.architectureArrow? at read
    split at read
    next leftWord middle rightWord three =>
      simp only [Option.bind_eq_bind, Option.bind_eq_some_iff] at read
      obtain ⟨left, left_read, right, right_read, read⟩ := read
      split at read
      next named =>
        obtain ⟨left_named, right_named⟩ := Bool.and_eq_true_iff.mp named
        obtain ⟨arrow, arrow_read, rfl⟩ := Option.map_eq_some_iff.mp read
        obtain rfl := ofWord?_iff.mp arrow_read
        exact .drawn (leftEnd?_iff.mp ⟨left_read, left_named⟩)
          (rightEnd?_iff.mp ⟨right_read, right_named⟩) three
      · cases read
    · cases read
  · rintro ⟨left_end, right_end, three⟩
    obtain ⟨left_read, left_named⟩ := leftEnd?_iff.mpr left_end
    obtain ⟨right_read, right_named⟩ := rightEnd?_iff.mpr right_end
    simp only [Statement.architectureArrow?, three, left_read, right_read, Option.bind_eq_bind,
      Option.bind_some, left_named, right_named, Bool.and_self, if_true, ofWord?_arrowWord,
      Option.map_some]

/-! ### Nodes -/

/-- What may follow the label of a node: blanks, and among them possibly `in` and the name of the
parent. -/
inductive ParentClause : Option String → List Char → Prop where
  | absent {gap : List Char} (blank : Blank gap) : ParentClause none gap
  | present {gap between parent back : List Char} {c : Char} (gap_blank : Blank gap)
      (blank : isBlank c = true) (between_blank : Blank between)
      (parent_named : isName parent = true) (back_blank : Blank back) :
      ParentClause (some (String.ofList parent))
        (gap ++ ('i' :: 'n' :: c :: (between ++ parent)) ++ back)

def architectureKinds : List NodeKind :=
  [.group, .service]

/-- A keyword, a name, and at once an icon and a label; then possibly a parent. -/
inductive ArchitectureNode : Node → List Char → Prop where
  | declared {kind : NodeKind} {c : Char} {gap id icon label tail : List Char}
      {parent : Option String} (architecture_kind : kind ∈ architectureKinds)
      (blank : isBlank c = true) (gap_blank : Blank gap) (id_named : isName id = true)
      (icon_open : ')' ∉ icon) (icon_solid : trim icon ≠ []) (label_open : ']' ∉ label)
      (clause : ParentClause parent tail) :
      ArchitectureNode
        ⟨String.ofList id, labelOr id label, kind, some (String.ofList (trim icon)), parent⟩
        (kind.keyword.toList ++ c ::
          (gap ++ (id ++ ('(' :: icon ++ ')' :: ('[' :: label ++ ']' :: tail)))))

theorem parentClause?_iff {text : List Char} {parent : Option String} :
    Statement.parentClause? text = some parent ↔ ParentClause parent text := by
  constructor
  · intro read
    unfold Statement.parentClause? at read
    split at read
    next nothing =>
      cases read
      exact .absent (trim_eq_nil_iff.mp nothing)
    next c rest clause =>
      dsimp only at read
      split at read
      next named =>
        cases read
        obtain ⟨blank, parent_named⟩ := Bool.and_eq_true_iff.mp named
        obtain ⟨gap, back, gap_blank, back_blank, shape⟩ := trim_parts text
        obtain ⟨front, behind, front_blank, behind_blank, rest_shape⟩ := trim_parts (c :: rest)
        -- The blank behind `in` is not a part of the name.
        obtain ⟨between, rfl⟩ : ∃ between, front = c :: between := by
          cases front with
          | cons d between => exact ⟨between, by rw [(List.cons.inj rest_shape).1]⟩
          | nil =>
            obtain ⟨d, others, starts⟩ := List.exists_cons_of_ne_nil (ne_nil_of_isName parent_named)
            have solid := not_blank_of_isName parent_named d (starts ▸ List.mem_cons_self)
            rw [starts, List.nil_append, List.cons_append] at rest_shape
            simp [← (List.cons.inj rest_shape).1, blank] at solid
        have form := ParentClause.present gap_blank blank
          (fun d member => front_blank d (List.mem_cons_of_mem c member)) parent_named
          (behind_blank.append back_blank)
        have same : text = gap ++ ('i' :: 'n' :: c :: (between ++ trim (c :: rest))) ++
            (behind ++ back) := by
          rw [clause, rest_shape] at shape
          simpa using shape
        exact same ▸ form
      · cases read
    · cases read
  · rintro (blank | ⟨gap_blank, blank, between_blank, parent_named, back_blank⟩)
    · rw [Statement.parentClause?, trim_of_blank blank]
    next gap between parent back c =>
      have clause_trimmed : trim (['i', 'n'] ++ c :: between ++ parent) =
          ['i', 'n'] ++ c :: between ++ parent :=
        trim_between (by simp) (ne_nil_of_isName parent_named) (not_blank_of_all rfl)
          (not_blank_of_isName parent_named) _
      have clause : trim (gap ++ ('i' :: 'n' :: c :: (between ++ parent)) ++ back) =
          'i' :: 'n' :: c :: (between ++ parent) :=
        (trim_append gap_blank back_blank _).trans clause_trimmed
      have gap_before : Blank (c :: between) := by simpa [Blank, blank] using between_blank
      have parent_left := trim_around_isName parent_named gap_before blank_nil
      rw [List.append_nil, List.cons_append] at parent_left
      simp only [Statement.parentClause?, clause, parent_left, blank, parent_named, Bool.and_self,
        if_true]

/-- A node is read from the lines that have the form of one. -/
theorem architectureNode?_iff {text : List Char} {node : Node} :
    Statement.architectureNode? text = some node ↔ ArchitectureNode node text := by
  constructor
  · intro read
    simp only [Statement.architectureNode?, Option.bind_eq_bind, Option.bind_eq_some_iff] at read
    obtain ⟨⟨keyword, rest⟩, cut, kind, found, ⟨id, behind⟩, id_cut, ⟨icon, after⟩, icon_cut,
      ⟨label, tail⟩, label_cut, parent, clause, read⟩ := read
    split at read
    · cases read
    next icon_solid =>
      cases read
      dsimp only at found id_cut icon_cut label_cut clause icon_solid ⊢
      obtain ⟨c, blank, rfl, -⟩ := cutAt_eq_some cut
      obtain ⟨architecture_kind, rfl⟩ := find?_keyword_iff.mp found
      obtain ⟨gap, gap_blank, rest_shape⟩ := trimStart_parts rest
      obtain ⟨id_shape, id_named, -⟩ := cutName_iff.mp id_cut
      obtain ⟨icon_shape, icon_open⟩ := cutEnclosed_iff.mp icon_cut
      obtain ⟨label_shape, label_open⟩ := cutEnclosed_iff.mp label_cut
      rw [rest_shape, id_shape, icon_shape, label_shape]
      exact .declared architecture_kind blank gap_blank id_named icon_open icon_solid label_open
        (parentClause?_iff.mp clause)
  · rintro ⟨architecture_kind, blank, gap_blank, id_named, icon_open, icon_solid, label_open,
      clause⟩
    next kind c gap id icon label tail parent =>
    have cut := cutAt_append (not_blank_of_isName (isName_keyword kind)) blank
      (gap ++ (id ++ ('(' :: icon ++ ')' :: ('[' :: label ++ ']' :: tail))))
    have found : NodeKind.ofArchitectureKeyword? kind.keyword.toList = some kind :=
      find?_keyword_iff.mpr ⟨architecture_kind, rfl⟩
    have id_cut : cutName (id ++ ('(' :: icon ++ ')' :: ('[' :: label ++ ']' :: tail))) =
        some (id, '(' :: icon ++ ')' :: ('[' :: label ++ ']' :: tail)) :=
      cutName_iff.mpr ⟨rfl, id_named, by rintro c ⟨⟩; decide⟩
    have icon_cut : cutEnclosed '(' ')' ('(' :: icon ++ ')' :: ('[' :: label ++ ']' :: tail)) =
        some (icon, '[' :: label ++ ']' :: tail) := cutEnclosed_iff.mpr ⟨rfl, icon_open⟩
    have label_cut : cutEnclosed '[' ']' ('[' :: label ++ ']' :: tail) = some (label, tail) :=
      cutEnclosed_iff.mpr ⟨rfl, label_open⟩
    simp only [Statement.architectureNode?, cut, Option.bind_eq_bind, Option.bind_some, found,
      trimStart_before_isName id_named gap_blank, id_cut, icon_cut, label_cut,
      parentClause?_iff.mpr clause]

/-- No line has both forms: the second word of a node has an opening bracket, and no arrow has. -/
theorem ArchitectureNode.not_arrow {node : Node} {connection : Connection} {text : List Char}
    (declares : ArchitectureNode node text) : ¬ ArchitectureArrow connection text := by
  intro drawn
  obtain ⟨-, blank, gap_blank, id_named, -, -, -, -⟩ := declares
  next kind c gap id icon label tail parent =>
  obtain ⟨-, -, three⟩ := drawn
  next arrow left right leftWord rightWord =>
  have keyword_named := isName_keyword kind
  rw [words_append (ne_nil_of_isName keyword_named) (not_blank_of_isName keyword_named) blank,
    words_blank_append gap_blank] at three
  have opened_solid : ∀ d ∈ id ++ ['('], isBlank d = false := by
    intro d member
    rcases List.mem_append.mp member with in_id | bracket
    · exact not_blank_of_isName id_named d in_id
    · obtain rfl := List.mem_singleton.mp bracket
      decide
  obtain ⟨behind, others, second⟩ := words_solid_append (by simp) opened_solid
    (icon ++ ')' :: ('[' :: label ++ ']' :: tail))
  rw [List.append_assoc, List.singleton_append, ← List.cons_append] at second
  rw [second] at three
  have middle : id ++ ['('] ++ behind = arrowWord arrow := by
    simp only [List.cons.injEq] at three
    exact three.2.1
  have bracket : '(' ∈ arrowWord arrow := middle ▸ by simp
  cases arrow <;> exact absurd bracket (by decide)

/-! ### Statements of either family -/

/-- The text has the form of the statement in the grammar of the family. -/
def Form : Family → Statement → List Char → Prop
  | .flow, .arrow connection => FlowArrow connection
  | .flow, .declare node => FlowNode node
  | .architecture, .arrow connection => ArchitectureArrow connection
  | .architecture, .declare node => ArchitectureNode node

/-- A statement is read from the texts that have its form. That arrows are tried before nodes makes
no difference, since no text has both forms. -/
theorem read?_iff {family : Family} {text : List Char} {statement : Statement} :
    Statement.read? family text = some statement ↔ Form family statement text := by
  cases family with
  | flow =>
    simp only [Statement.read?, Statement.ofFlow?]
    cases arrow : Statement.flowArrow? text with
    | some connection =>
      have drawn := flowArrow?_iff.mp arrow
      cases statement with
      | arrow other => simp [Form, ← flowArrow?_iff, arrow]
      | declare node => simpa [Form] using fun declares => FlowNode.not_arrow declares drawn
    | none => cases statement <;> simp [Form, ← flowArrow?_iff, ← flowNode?_iff, arrow]
  | architecture =>
    simp only [Statement.read?, Statement.ofArchitecture?]
    cases arrow : Statement.architectureArrow? text with
    | some connection =>
      have drawn := architectureArrow?_iff.mp arrow
      cases statement with
      | arrow other => simp [Form, ← architectureArrow?_iff, arrow]
      | declare node => simpa [Form] using fun declares => ArchitectureNode.not_arrow declares drawn
    | none =>
      cases statement <;> simp [Form, ← architectureArrow?_iff, ← architectureNode?_iff, arrow]

end Grammar

end TextDiagram
