import TextDiagram.Graph.Writing
import TextDiagram.Proofs.Graph.Reading

/-!
# Writing graphs

Main statement: the text of a well-formed graph is read as this graph, with nothing skipped. Each
line has the form of the statement that it writes, the text is cut into its lines again, and the
statements of a graph rebuild it.
-/
namespace TextDiagram

open Text

namespace Statement

/-- The line that writes a statement. -/
def line (family : Family) : Statement → List Char
  | arrow connection => connection.line family
  | declare node => node.line family

end Statement

/-! ### Lines have the form of their statements -/

theorem IsLabel.labelOr {closing : Char} {label : String} (is_label : IsLabel closing label)
    (id : List Char) : labelOr id label.toList = label := by
  unfold TextDiagram.labelOr
  rw [is_label.trimmed]
  split
  next nothing => exact absurd nothing is_label.nonempty
  next => exact String.ofList_toList

namespace Grammar

theorem barLabel_of_isLabel {label : String} (is_label : IsLabel '|' label) :
    barLabel label.toList = some label := by
  unfold barLabel
  rw [is_label.trimmed]
  split
  next nothing => exact absurd nothing is_label.nonempty
  next => rw [String.ofList_toList]

theorem blank_space : Blank [' '] :=
  all_isBlank_iff.mp rfl

theorem flowArrow_line {connection : Connection} (well : connection.WellFormed .flow) :
    FlowArrow connection (connection.line .flow) := by
  obtain ⟨source_named, target_named, source_side, target_side, one_way, labelled⟩ := well
  obtain ⟨source, target, sourceSide, targetSide, bidirectional, label⟩ := connection
  dsimp only at source_named target_named source_side target_side one_way labelled
  subst source_side target_side one_way
  have written {bars : List Char} (barred : Bars label bars) :=
    FlowArrow.drawn blank_nil source_named blank_space barred target_named blank_nil
  cases label with
  | none => simpa [Connection.line] using written (.absent blank_space)
  | some label =>
    have is_label := labelled label rfl
    have barred := Bars.present blank_nil is_label.unclosed blank_space
    rw [barLabel_of_isLabel is_label] at barred
    simpa [Connection.line] using written barred

theorem flowNode_line {node : Node} (well : node.WellFormed .flow) :
    FlowNode node (node.line .flow) := by
  obtain ⟨id_named, is_label, flow_kind, no_icon, no_parent⟩ := well
  obtain ⟨id, label, kind, icon, parent⟩ := node
  dsimp only at id_named is_label flow_kind no_icon no_parent
  subst no_icon no_parent
  have written := FlowNode.declared (c := ' ') flow_kind (by decide) blank_nil id_named
    (.present is_label.unclosed) blank_nil
  rw [is_label.labelOr] at written
  simpa [Node.line] using written

/-- What stands in an end of an arrow belongs to one word. -/
theorem LeftEnd.word {left : List Char × Option Side} {word : List Char}
    (left_end : LeftEnd left word) : word ≠ [] ∧ ∀ c ∈ word, isBlank c = false := by
  cases left_end with
  | bare named => exact ⟨ne_nil_of_isName named, not_blank_of_isName named⟩
  | @sided name side named =>
    have side_solid : ∀ c ∈ [':', side.letter], isBlank c = false := by
      cases side <;> exact not_blank_of_all rfl
    refine ⟨by simp, fun c member => ?_⟩
    exact (List.mem_append.mp member).elim (not_blank_of_isName named c) (side_solid c)

theorem RightEnd.word {right : List Char × Option Side} {word : List Char}
    (right_end : RightEnd right word) : word ≠ [] ∧ ∀ c ∈ word, isBlank c = false := by
  cases right_end with
  | bare named => exact ⟨ne_nil_of_isName named, not_blank_of_isName named⟩
  | @sided name side named =>
    have side_solid : ∀ c ∈ [side.letter, ':'], isBlank c = false := by
      cases side <;> exact not_blank_of_all rfl
    refine ⟨by simp, fun c member => ?_⟩
    exact (List.mem_append.mp (List.append_assoc [side.letter] [':'] name ▸ member)).elim
      (side_solid c) (not_blank_of_isName named c)

theorem arrowWord_word (arrow : Statement.Arrow) :
    arrowWord arrow ≠ [] ∧ ∀ c ∈ arrowWord arrow, isBlank c = false := by
  cases arrow <;> exact ⟨by simp [arrowWord], not_blank_of_all rfl⟩

/-- Two ends with an arrow and single spaces in between. -/
theorem architectureArrow_spaced (arrow : Statement.Arrow) {left right : List Char × Option Side}
    {leftWord rightWord : List Char} (left_end : LeftEnd left leftWord)
    (right_end : RightEnd right rightWord) :
    ArchitectureArrow (arrow.connect left right)
      (leftWord ++ ' ' :: (arrowWord arrow ++ ' ' :: rightWord)) := by
  have space : isBlank ' ' = true := by decide
  have arrow_word := arrowWord_word arrow
  refine .drawn left_end right_end ?_
  rw [words_append left_end.word.1 left_end.word.2 space,
    words_append arrow_word.1 arrow_word.2 space,
    words_of_solid right_end.word.1 right_end.word.2]

/-- The word that writes a left end. -/
def leftWord (name : List Char) : Option Side → List Char
  | none => name
  | some side => name ++ [':', side.letter]

/-- The word that writes a right end. -/
def rightWord (name : List Char) : Option Side → List Char
  | none => name
  | some side => side.letter :: ':' :: name

theorem leftEnd_leftWord {name : List Char} (named : isName name = true) (side : Option Side) :
    LeftEnd (name, side) (leftWord name side) := by
  cases side with
  | none => exact .bare named
  | some side => exact .sided named

theorem rightEnd_rightWord {name : List Char} (named : isName name = true) (side : Option Side) :
    RightEnd (name, side) (rightWord name side) := by
  cases side with
  | none => exact .bare named
  | some side => exact .sided named

/-- The arrow that writes a connection. -/
def writtenArrow (bidirectional : Bool) : Statement.Arrow :=
  if bidirectional then .both else .rightward

theorem line_architecture (connection : Connection) :
    connection.line .architecture =
      leftWord connection.source.toList connection.sourceSide ++ ' ' ::
        (arrowWord (writtenArrow connection.bidirectional) ++ ' ' ::
          rightWord connection.target.toList connection.targetSide) := by
  obtain ⟨source, target, sourceSide, targetSide, bidirectional, label⟩ := connection
  cases sourceSide <;> cases targetSide <;> cases bidirectional <;>
    simp [Connection.line, leftWord, rightWord, writtenArrow, arrowWord]

theorem architectureArrow_line {connection : Connection}
    (well : connection.WellFormed .architecture) :
    ArchitectureArrow connection (connection.line .architecture) := by
  obtain ⟨source_named, target_named, no_label⟩ := well
  obtain ⟨source, target, sourceSide, targetSide, bidirectional, label⟩ := connection
  dsimp only [Connection.Fits] at source_named target_named no_label
  subst no_label
  have drawn : (writtenArrow bidirectional).connect (source.toList, sourceSide)
      (target.toList, targetSide) =
        ⟨source, target, sourceSide, targetSide, bidirectional, none⟩ := by
    cases bidirectional <;> simp [writtenArrow, Statement.Arrow.connect]
  have written := architectureArrow_spaced (writtenArrow bidirectional)
    (leftEnd_leftWord source_named sourceSide) (rightEnd_rightWord target_named targetSide)
  rw [drawn] at written
  rw [line_architecture]
  exact written

theorem architectureNode_line {node : Node} (well : node.WellFormed .architecture) :
    ArchitectureNode node (node.line .architecture) := by
  obtain ⟨id_named, is_label, architecture_kind, ⟨icon, has_icon, icon_label⟩, parent_named⟩ := well
  obtain ⟨id, label, kind, icon?, parent⟩ := node
  dsimp only at id_named is_label architecture_kind has_icon parent_named
  cases has_icon
  have icon_solid : trim icon.toList ≠ [] := by
    rw [icon_label.trimmed]
    exact icon_label.nonempty
  have written {tail : List Char} (clause : ParentClause parent tail) :=
    ArchitectureNode.declared (c := ' ') architecture_kind (by decide) blank_nil id_named
      icon_label.unclosed icon_solid is_label.unclosed clause
  simp only [is_label.labelOr, icon_label.trimmed, String.ofList_toList] at written
  cases parent with
  | none => simpa [Node.line] using written (.absent blank_nil)
  | some parent =>
    have clause := ParentClause.present (c := ' ') blank_space (by decide) blank_nil
      (parent_named parent rfl) blank_nil
    rw [String.ofList_toList] at clause
    simpa [Node.line] using written clause

/-- A well-formed statement is written in its form. -/
theorem form_line {family : Family} {statement : Statement}
    (well : statement.WellFormed family) : Form family statement (statement.line family) := by
  match family, statement, well with
  | .flow, .arrow _, well => exact flowArrow_line well
  | .flow, .declare _, well => exact flowNode_line well
  | .architecture, .arrow _, well => exact architectureArrow_line well
  | .architecture, .declare _, well => exact architectureNode_line well

end Grammar

/-! ### The lines of a text -/

/-- A line that stands in a text as it is: nothing is trimmed from it, and it is neither empty nor a
comment. -/
structure IsLine (line : List Char) : Prop where
  one_line : '\n' ∉ line
  trimmed : trim line = line
  significant : isSignificant line = true

theorem IsLine.ne_nil {line : List Char} (is_line : IsLine line) : line ≠ [] := by
  rintro rfl
  exact absurd is_line.significant (by decide)

theorem isSignificant_of_head {line : List Char} (some_line : line ≠ [])
    (uncommented : ∀ c ∈ line.head?, c ≠ '%') : isSignificant line = true := by
  unfold isSignificant
  split
  · exact absurd rfl some_line
  · exact absurd rfl (uncommented '%' rfl)
  · rfl

/-- A line that starts with a name, and does not end with a blank. -/
theorem isLine_between {name middle last : List Char} (named : isName name = true)
    (one_line : '\n' ∉ middle) (some_last : last ≠ [])
    (last_solid : ∀ c ∈ last, isBlank c = false) : IsLine (name ++ middle ++ last) where
  one_line := by
    have name_one_line : '\n' ∉ name := not_mem_of_isName named (by decide)
    have last_one_line : '\n' ∉ last := fun member => absurd (last_solid _ member) (by decide)
    simp [name_one_line, one_line, last_one_line]
  trimmed :=
    trim_between (ne_nil_of_isName named) some_last (not_blank_of_isName named) last_solid _
  significant := by
    have uncommented : '%' ∉ name := not_mem_of_isName named (by decide)
    obtain ⟨c, rest, rfl⟩ := List.exists_cons_of_ne_nil (ne_nil_of_isName named)
    refine isSignificant_of_head (by simp) fun d first same => ?_
    obtain rfl : c = d := by simpa using first
    exact uncommented (same ▸ List.mem_cons_self)

theorem isLine_between_names {name middle last : List Char} (named : isName name = true)
    (one_line : '\n' ∉ middle) (last_named : isName last = true) :
    IsLine (name ++ middle ++ last) :=
  isLine_between named one_line (ne_nil_of_isName last_named) (not_blank_of_isName last_named)

theorem isLine_before_bracket {name middle : List Char} (named : isName name = true)
    (one_line : '\n' ∉ middle) : IsLine (name ++ middle ++ [']']) :=
  isLine_between named one_line (by simp) (not_blank_of_all rfl)

theorem isLine_connection {family : Family} {connection : Connection}
    (well : connection.WellFormed family) : IsLine (connection.line family) := by
  have line {middle : List Char} (one_line : '\n' ∉ middle) :=
    isLine_between_names well.source_named one_line well.target_named
  cases family with
  | flow =>
    cases labelled : connection.label with
    | none => simpa [Connection.line, labelled] using line (by decide : '\n' ∉ " --> ".toList)
    | some label =>
      have label_one_line := (well.fits.2.2.2 label labelled).one_line
      have middle : '\n' ∉ " -->|".toList ++ label.toList ++ ['|', ' '] := by simp [label_one_line]
      simpa [Connection.line, labelled] using line middle
  | architecture =>
    have arrow_one_line :
        '\n' ∉ Grammar.arrowWord (Grammar.writtenArrow connection.bidirectional) := by
      cases connection.bidirectional <;> decide
    have letter_one_line (side : Side) : '\n' ≠ side.letter := by cases side <;> decide
    have middle : '\n' ∉ Grammar.leftWord [] connection.sourceSide ++ ' ' ::
        (Grammar.arrowWord (Grammar.writtenArrow connection.bidirectional) ++ ' ' ::
          Grammar.rightWord [] connection.targetSide) := by
      cases connection.sourceSide <;> cases connection.targetSide <;>
        simp [Grammar.leftWord, Grammar.rightWord, arrow_one_line, letter_one_line]
    rw [Grammar.line_architecture]
    cases source_side : connection.sourceSide <;> cases target_side : connection.targetSide <;>
      simpa [Grammar.leftWord, Grammar.rightWord, source_side, target_side] using line middle

theorem isLine_node {family : Family} {node : Node} (well : node.WellFormed family) :
    IsLine (node.line family) := by
  have keyword_named := Grammar.isName_keyword node.kind
  have id_one_line : '\n' ∉ node.id.toList := not_mem_of_isName well.id_named (by decide)
  have label_one_line := well.label.one_line
  cases family with
  | flow =>
    have middle : '\n' ∉ ' ' :: node.id.toList ++ '[' :: node.label.toList := by
      simp [id_one_line, label_one_line]
    simpa [Node.line] using isLine_before_bracket keyword_named middle
  | architecture =>
    obtain ⟨-, ⟨icon, has_icon, icon_label⟩, parent_named⟩ := well.fits
    have icon_one_line := icon_label.one_line
    cases parent : node.parent with
    | none =>
      have middle : '\n' ∉ ' ' :: node.id.toList ++ '(' :: icon.toList ++ ")[".toList ++
          node.label.toList := by simp [id_one_line, icon_one_line, label_one_line]
      simpa [Node.line, Option.mem_def.mp has_icon, parent] using
        isLine_before_bracket keyword_named middle
    | some name =>
      have middle : '\n' ∉ ' ' :: node.id.toList ++ '(' :: icon.toList ++ ")[".toList ++
          node.label.toList ++ "] in ".toList := by
        simp [id_one_line, icon_one_line, label_one_line]
      simpa [Node.line, Option.mem_def.mp has_icon, parent] using
        isLine_between_names keyword_named middle (parent_named name parent)

theorem isLine_line {family : Family} {statement : Statement}
    (well : statement.WellFormed family) : IsLine (statement.line family) := by
  cases statement with
  | arrow connection => exact isLine_connection well
  | declare node => exact isLine_node well

theorem isLine_header (family : Family) : IsLine family.header.toList := by
  cases family <;> constructor <;> decide

/-! ### A text is cut into its lines -/

theorem joinLines_eq_intercalate (lines : List (List Char)) :
    joinLines lines = ['\n'].intercalate lines := by
  match lines with
  | [] => rfl
  | [line] => simp [joinLines, List.intercalate]
  | line :: next :: rest =>
    rw [joinLines, joinLines_eq_intercalate (next :: rest)]
    · simp [List.intercalate]
    · simp

theorem pieces_joinLines {lines : List (List Char)} (some_lines : lines ≠ [])
    (one_line : ∀ line ∈ lines, '\n' ∉ line) : pieces (· == '\n') (joinLines lines) = lines := by
  rw [pieces_eq_splitOnP, joinLines_eq_intercalate, ← List.splitOn_eq_splitOnP]
  exact List.splitOn_intercalate '\n' one_line some_lines

/-- All lines are kept that are neither empty nor comments once they are trimmed. -/
theorem numbered_filter {lines : List (List Char)}
    (significant : ∀ line ∈ lines, isSignificant (trim line) = true) (first : Nat) :
    (numbered first lines).filter (fun line => isSignificant line.text) = numbered first lines := by
  apply List.filter_eq_self.mpr
  intro line member
  obtain ⟨raw, among, same⟩ := exists_of_mem_numbered member
  rw [same]
  exact significant raw among

theorem body_joinLines_of_significant {family : Family} {lines : List (List Char)}
    (one_line : ∀ line ∈ lines, '\n' ∉ line)
    (significant : ∀ line ∈ lines, isSignificant (trim line) = true) :
    family.body (joinLines (family.header.toList :: lines)) =
      .ok ((numbered 2 lines).flatMap family.statements) := by
  have header := isLine_header family
  have cut := pieces_joinLines (List.cons_ne_nil family.header.toList lines)
    (List.forall_mem_cons.mpr ⟨header.one_line, one_line⟩)
  have header_significant : isSignificant (trim family.header.toList) = true := by
    rw [header.trimmed]
    exact header.significant
  have all_significant : ∀ line ∈ family.header.toList :: lines,
      isSignificant (trim line) = true :=
    List.forall_mem_cons.mpr ⟨header_significant, significant⟩
  have lines_kept : significantLines (joinLines (family.header.toList :: lines)) =
      ⟨1, family.header.toList⟩ :: numbered 2 lines := by
    rw [significantLines, cut, numbered_filter all_significant, numbered, header.trimmed]
  rw [Family.body, lines_kept]
  simp

theorem body_joinLines {family : Family} {lines : List (List Char)}
    (are_lines : ∀ line ∈ lines, IsLine line) :
    family.body (joinLines (family.header.toList :: lines)) =
      .ok ((numbered 2 lines).flatMap family.statements) := by
  refine body_joinLines_of_significant (fun line among => (are_lines line among).one_line) ?_
  intro line among
  rw [(are_lines line among).trimmed]
  exact (are_lines line among).significant

/-- A line that has the form of a statement holds that statement alone. -/
theorem statements_of_form {family : Family} {statement : Statement} {line : List Char}
    (is_line : IsLine line) (form : Grammar.Form family statement line) (number : Nat) :
    family.statements ⟨number, line⟩ = [⟨number, line⟩] := by
  cases family with
  | flow =>
    have whole := splitStatements_of_form form is_line.ne_nil is_line.trimmed
    simp [Family.statements, whole]
  | architecture => rfl

theorem flatMap_statements_of_form {family : Family} {lines : List (List Char)}
    (formed : ∀ line ∈ lines, IsLine line ∧ ∃ statement, Grammar.Form family statement line)
    (first : Nat) : (numbered first lines).flatMap family.statements = numbered first lines := by
  induction lines generalizing first with
  | nil => rfl
  | cons line rest ih =>
    obtain ⟨is_line, statement, form⟩ := formed line List.mem_cons_self
    have rest_uncut := ih fun other behind => formed other (List.mem_cons_of_mem line behind)
    rw [numbered, is_line.trimmed, List.flatMap_cons, statements_of_form is_line form, rest_uncut,
      List.singleton_append]

/-- Each line that is written for a statement holds that statement alone. -/
theorem flatMap_statements {family : Family} {statements : List Statement}
    (well : ∀ statement ∈ statements, statement.WellFormed family) (first : Nat) :
    (numbered first (statements.map (Statement.line family))).flatMap family.statements =
      numbered first (statements.map (Statement.line family)) := by
  refine flatMap_statements_of_form (fun line among => ?_) first
  obtain ⟨statement, held, rfl⟩ := List.mem_map.mp among
  exact ⟨isLine_line (well statement held), statement, Grammar.form_line (well statement held)⟩

/-! ### Statements rebuild a graph -/

namespace Graph

/-- The statements that say what a graph holds. -/
def statements (graph : Graph) : List Statement :=
  graph.nodes.map .declare ++ graph.connections.map .arrow

theorem lines_eq (graph : Graph) :
    graph.lines = graph.family.header.toList ::
      graph.statements.map (Statement.line graph.family) := by
  simp [lines, statements, Function.comp_def, Statement.line]

theorem WellFormed.statements {graph : Graph} (well : graph.WellFormed) :
    ∀ statement ∈ graph.statements, statement.WellFormed graph.family := by
  intro statement among
  rcases List.mem_append.mp among with declares | draws
  · obtain ⟨node, held, rfl⟩ := List.mem_map.mp declares
    exact well.nodes node held
  · obtain ⟨connection, held, rfl⟩ := List.mem_map.mp draws
    exact well.connections connection held

theorem add?_declare {graph : Graph} {node : Node} (new : node.id ∉ graph.ids) :
    graph.add? (.declare node) = some (graph.declare node) := by
  cases family : graph.family with
  | flow => exact refine_of_not_mem new ▸ add?_iff.mpr (.flowNode family)
  | architecture => exact add?_iff.mpr (.architectureNode family new)

theorem add?_arrow {graph : Graph} {connection : Connection}
    (declared : graph.family = .flow →
      connection.source ∈ graph.ids ∧ connection.target ∈ graph.ids) :
    graph.add? (.arrow connection) = some (graph.connect connection) := by
  cases family : graph.family with
  | flow =>
    obtain ⟨source_declared, target_declared⟩ := declared family
    have mentioned : (graph.mention connection.source).mention connection.target = graph := by
      rw [mention_of_mem source_declared, mention_of_mem target_declared]
    have adds : graph.Adds (.arrow connection) _ := .flowArrow family
    rw [mentioned] at adds
    exact add?_iff.mpr adds
  | architecture => exact add?_iff.mpr (.architectureArrow family)

theorem foldlM_declare {graph : Graph} {nodes : List Node}
    (distinct : (graph.ids ++ nodes.map Node.id).Nodup) :
    (nodes.map Statement.declare).foldlM add? graph =
      some { graph with nodes := graph.nodes ++ nodes } := by
  induction nodes generalizing graph with
  | nil => simp
  | cons node rest ih =>
    have new : node.id ∉ graph.ids := by
      intro declared
      exact (List.nodup_append.mp distinct).2.2 _ declared _ (by simp) rfl
    have rest_distinct : ((graph.declare node).ids ++ rest.map Node.id).Nodup := by
      simpa using distinct
    rw [List.map_cons, List.foldlM_cons, add?_declare new, Option.bind_eq_bind, Option.bind_some,
      ih rest_distinct]
    simp [declare]

theorem foldlM_connect {graph : Graph} {connections : List Connection}
    (declared : graph.family = .flow → ∀ connection ∈ connections,
      connection.source ∈ graph.ids ∧ connection.target ∈ graph.ids) :
    (connections.map Statement.arrow).foldlM add? graph =
      some { graph with connections := graph.connections ++ connections } := by
  induction connections generalizing graph with
  | nil => simp
  | cons connection rest ih =>
    have first_declared := fun flow => declared flow connection List.mem_cons_self
    have rest_declared : (graph.connect connection).family = .flow → ∀ other ∈ rest,
        other.source ∈ (graph.connect connection).ids ∧
          other.target ∈ (graph.connect connection).ids :=
      fun flow other behind => declared flow other (List.mem_cons_of_mem connection behind)
    rw [List.map_cons, List.foldlM_cons, add?_arrow first_declared, Option.bind_eq_bind,
      Option.bind_some, ih rest_declared]
    simp [connect]

/-- The statements of a well-formed graph make it out of an empty one. -/
theorem WellFormed.rebuilt {graph : Graph} (well : graph.WellFormed) :
    graph.statements.foldlM add? (empty graph.family) = some graph := by
  let declared : Graph := ⟨graph.family, graph.nodes, []⟩
  have nodes_declared : (graph.nodes.map Statement.declare).foldlM add? (empty graph.family) =
      some declared := foldlM_declare well.distinct
  have connected : (graph.connections.map Statement.arrow).foldlM add? declared = some graph :=
    foldlM_connect well.declared
  rw [Graph.statements, List.foldlM_append, nodes_declared]
  exact connected

end Graph

/-! ### The text of a graph -/

namespace Reading

/-- The lines of statements are read one after the other, and none is skipped. -/
theorem foldl_step_line {family : Family} {statements : List Statement} {graph built : Graph}
    (same_family : graph.family = family)
    (well : ∀ statement ∈ statements, statement.WellFormed family)
    (builds : statements.foldlM Graph.add? graph = some built) (first : Nat) :
    (numbered first (statements.map (Statement.line family))).foldl step ⟨graph, []⟩ =
      ⟨built, []⟩ := by
  -- The graph grows from statement to statement, but its family, and so the grammar, stays.
  induction statements generalizing graph first with
  | nil =>
    cases builds
    rfl
  | cons statement rest ih =>
    obtain ⟨next, adds, builds_rest⟩ := Option.bind_eq_some_iff.mp builds
    have statement_well := well statement List.mem_cons_self
    have reads : graph.readStatement? (statement.line family) = some next := by
      rw [Graph.readStatement?, same_family,
        Grammar.read?_iff.mpr (Grammar.form_line statement_well)]
      exact adds
    have stepped : step ⟨graph, []⟩ ⟨first, statement.line family⟩ = ⟨next, []⟩ := by
      simp only [step, reads]
    rw [List.map_cons, numbered, (isLine_line statement_well).trimmed, List.foldl_cons, stepped]
    exact ih ((Graph.add?_iff.mp adds).family.trans same_family)
      (fun other behind => well other (List.mem_cons_of_mem statement behind)) builds_rest _

end Reading

/-- The text of a well-formed graph is read as the graph, and nothing in it is skipped. -/
theorem Graph.readWithDiagnostics_toText {graph : Graph} (well : graph.WellFormed) :
    Graph.readWithDiagnostics graph.family graph.toText = .ok ⟨graph, []⟩ := by
  have statements_well := well.statements
  have are_lines : ∀ line ∈ graph.statements.map (Statement.line graph.family), IsLine line := by
    intro line member
    obtain ⟨statement, among, rfl⟩ := List.mem_map.mp member
    exact isLine_line (statements_well statement among)
  have uncut := flatMap_statements statements_well 2
  have empty_family : (empty graph.family).family = graph.family := rfl
  have read := Reading.foldl_step_line empty_family statements_well well.rebuilt 2
  rw [readWithDiagnostics, toText, String.toList_ofList, lines_eq, body_joinLines are_lines, uncut]
  exact congrArg Except.ok read

/-- Labels that hold semicolons, bars, open brackets and arrows, and ids that look like them. -/
theorem Graph.readWithDiagnostics_toText_clashing :
    let graph : Graph := {
      family := .flow
      nodes := [⟨"start", "a; b --> c", .start, none, none⟩,
        ⟨"-", "task x[y | z", .task, none, none⟩]
      connections := [⟨"start", "-", none, none, false, some "end; [-->"⟩,
        ⟨"-", "-", none, none, false, none⟩] }
    graph.WellFormed ∧
      Graph.readWithDiagnostics graph.family graph.toText = .ok ⟨graph, []⟩ := by
  intro graph
  have well : graph.WellFormed := by decide +kernel
  exact ⟨well, Graph.readWithDiagnostics_toText well⟩

end TextDiagram
