import TextDiagram.Proofs.Graph.Skipping

/-!
# The parts of architecture statements

What an architecture line is put together from. Main statement: a trimmed line is read as an arrow
or as a node exactly if it can be put together as one, an arrow to the left draws what the mirrored
arrow to the right does, and a line that is neither, or that declares an id again, leaves the graph
as it is and is reported.
-/
namespace TextDiagram

open Text

namespace Grammar

/-! ### Arrows -/

/-- The parts of `a --> b`: two ends, possibly with their sides, an arrow of one of the three
shapes, and blanks before and behind it. -/
structure ArchitectureArrowParts where
  left : List Char
  leftSide : Option Side
  before : List Char
  arrow : Statement.Arrow
  behind : List Char
  right : List Char
  rightSide : Option Side
  left_named : isName left = true
  before_blank : Blank before
  some_before : before ≠ []
  behind_blank : Blank behind
  some_behind : behind ≠ []
  right_named : isName right = true

namespace ArchitectureArrowParts

def text (parts : ArchitectureArrowParts) : List Char :=
  leftWord parts.left parts.leftSide ++ parts.before ++ arrowWord parts.arrow ++ parts.behind ++
    rightWord parts.right parts.rightSide

def connection (parts : ArchitectureArrowParts) : Connection :=
  parts.arrow.connect (parts.left, parts.leftSide) (parts.right, parts.rightSide)

/-- The arrow to the right with the ends exchanged, each with its side. -/
def mirrored (parts : ArchitectureArrowParts) : ArchitectureArrowParts :=
  { parts with
    left := parts.right
    leftSide := parts.rightSide
    arrow := .rightward
    right := parts.left
    rightSide := parts.leftSide
    left_named := parts.right_named
    right_named := parts.left_named }

theorem mirrored_connection {parts : ArchitectureArrowParts} (leftward : parts.arrow = .leftward) :
    parts.mirrored.connection = parts.connection := by
  simp [connection, mirrored, leftward, Statement.Arrow.connect]

theorem words_text (parts : ArchitectureArrowParts) :
    words parts.text = [leftWord parts.left parts.leftSide, arrowWord parts.arrow,
      rightWord parts.right parts.rightSide] := by
  have left_word := (leftEnd_leftWord parts.left_named parts.leftSide).word
  have arrow_word := arrowWord_word parts.arrow
  have right_word := (rightEnd_rightWord parts.right_named parts.rightSide).word
  simp only [text, List.append_assoc]
  rw [words_gap left_word.1 left_word.2 parts.before_blank parts.some_before,
    words_gap arrow_word.1 arrow_word.2 parts.behind_blank parts.some_behind,
    words_of_solid right_word.1 right_word.2]

theorem drawn (parts : ArchitectureArrowParts) :
    ArchitectureArrow parts.connection parts.text :=
  .drawn (leftEnd_leftWord parts.left_named parts.leftSide)
    (rightEnd_rightWord parts.right_named parts.rightSide) parts.words_text

end ArchitectureArrowParts

theorem LeftEnd.eq_leftWord {left : List Char × Option Side} {word : List Char}
    (left_end : LeftEnd left word) : word = leftWord left.1 left.2 := by
  cases left_end <;> rfl

theorem RightEnd.eq_rightWord {right : List Char × Option Side} {word : List Char}
    (right_end : RightEnd right word) : word = rightWord right.1 right.2 := by
  cases right_end <;> rfl

theorem architectureArrow_iff_parts {text : List Char} (trimmed : trim text = text)
    {connection : Connection} :
    ArchitectureArrow connection text ↔
      ∃ parts : ArchitectureArrowParts, parts.text = text ∧ parts.connection = connection := by
  constructor
  · rintro ⟨left_end, right_end, three⟩
    next arrow left right leftWord rightWord =>
    obtain ⟨before, behind, before_blank, some_before, behind_blank, some_behind, shape⟩ :=
      words_eq_three trimmed three
    refine ⟨⟨left.1, left.2, before, arrow, behind, right.1, right.2, left_end.named, before_blank,
      some_before, behind_blank, some_behind, right_end.named⟩, ?_, rfl⟩
    rw [shape, ArchitectureArrowParts.text, ← left_end.eq_leftWord, ← right_end.eq_rightWord]
  · rintro ⟨parts, rfl, rfl⟩
    exact parts.drawn

/-! ### Nodes -/

/-- The parts of `in parent`. -/
structure ParentParts where
  gap : List Char
  name : List Char
  gap_blank : Blank gap
  some_gap : gap ≠ []
  named : isName name = true

def ParentParts.text (parts : ParentParts) : List Char :=
  'i' :: 'n' :: (parts.gap ++ parts.name)

/-- The parts of `keyword id(icon)[label]`, with or without a parent. -/
structure ArchitectureNodeParts where
  kind : NodeKind
  gap : List Char
  id : List Char
  icon : List Char
  label : List Char
  back : List Char
  parent : Option ParentParts
  architecture_kind : kind ∈ architectureKinds
  gap_blank : Blank gap
  some_gap : gap ≠ []
  id_named : isName id = true
  icon_open : ')' ∉ icon
  icon_solid : ¬ Blank icon
  label_open : ']' ∉ label
  back_blank : Blank back

namespace ArchitectureNodeParts

/-- What stands behind the label: blanks, and the parent if there is one. -/
def behindLabel (parts : ArchitectureNodeParts) : List Char :=
  match parts.parent with
  | none => parts.back
  | some parent => parts.back ++ parent.text

def text (parts : ArchitectureNodeParts) : List Char :=
  parts.kind.keyword.toList ++ (parts.gap ++ (parts.id ++
    ('(' :: parts.icon ++ ')' :: ('[' :: parts.label ++ ']' :: parts.behindLabel))))

/-- The node that is declared; with a blank label, its id is its label. -/
def node (parts : ArchitectureNodeParts) : Node where
  id := String.ofList parts.id
  label := labelOr parts.id parts.label
  kind := parts.kind
  icon := some (String.ofList (trim parts.icon))
  parent := parts.parent.map fun parent => String.ofList parent.name

theorem parentClause (parts : ArchitectureNodeParts) :
    ParentClause (parts.parent.map fun parent => String.ofList parent.name) parts.behindLabel := by
  unfold behindLabel
  cases parts.parent with
  | none => exact .absent parts.back_blank
  | some parent =>
    obtain ⟨c, between, lead⟩ := List.exists_cons_of_ne_nil parent.some_gap
    have lead_blank := parent.gap_blank
    rw [lead] at lead_blank
    have present := ParentClause.present parts.back_blank (lead_blank c List.mem_cons_self)
      (fun d member => lead_blank d (List.mem_cons_of_mem c member)) parent.named blank_nil
    simpa [ParentParts.text, lead] using present

end ArchitectureNodeParts

theorem architectureNode_iff_parts {text : List Char} (trimmed : trim text = text) {node : Node} :
    ArchitectureNode node text ↔
      ∃ parts : ArchitectureNodeParts, parts.text = text ∧ parts.node = node := by
  constructor
  · rintro
      ⟨architecture_kind, blank, gap_blank, id_named, icon_open, icon_solid, label_open, clause⟩
    next kind c gap id icon label tail parent =>
    -- All but what stands behind the label, which the two cases of the clause fill in.
    have declared {back : List Char} (back_blank : Blank back) (parent : Option ParentParts) :
        ∃ parts : ArchitectureNodeParts,
          (parts.back = back ∧ parts.parent = parent) ∧
          parts.text = kind.keyword.toList ++ c :: (gap ++ (id ++
            ('(' :: icon ++ ')' :: ('[' :: label ++ ']' :: parts.behindLabel)))) ∧
          parts.node = ⟨String.ofList id, labelOr id label, kind, some (String.ofList (trim icon)),
            parent.map fun parent => String.ofList parent.name⟩ := by
      have lead_blank : Blank (c :: gap) := by simpa [Blank, blank] using gap_blank
      have some_icon : ¬ Blank icon := fun blank => icon_solid (trim_of_blank blank)
      exact ⟨⟨kind, c :: gap, id, icon, label, back, parent, architecture_kind, lead_blank, by simp,
        id_named, icon_open, some_icon, label_open, back_blank⟩, ⟨rfl, rfl⟩, rfl, rfl⟩
    cases clause with
    | absent back_blank =>
      obtain ⟨parts, ⟨rfl, no_parent⟩, shape, same_node⟩ := declared back_blank none
      refine ⟨parts, ?_, same_node⟩
      rw [shape, ArchitectureNodeParts.behindLabel, no_parent]
    | @present back between name behind d back_blank blank between_blank named behind_blank =>
      have gap_blank : Blank (d :: between) := by simpa [Blank, blank] using between_blank
      obtain ⟨parts, ⟨rfl, has_parent⟩, shape, same_node⟩ :=
        declared back_blank (some ⟨d :: between, name, gap_blank, by simp, named⟩)
      refine ⟨parts, ?_, same_node⟩
      -- Nothing stands behind the parent, for the line is trimmed.
      have whole : kind.keyword.toList ++ c :: (gap ++ (id ++ ('(' :: icon ++ ')' ::
          ('[' :: label ++ ']' :: (parts.back ++ 'i' :: 'n' :: d :: (between ++ name) ++
            behind))))) =
            parts.text ++ behind := by
        rw [shape, ArchitectureNodeParts.behindLabel, has_parent]
        simp [ParentParts.text]
      rw [whole] at trimmed ⊢
      rw [eq_nil_of_trim_append behind_blank trimmed, List.append_nil]
  · rintro ⟨parts, rfl, rfl⟩
    obtain ⟨c, gap, lead⟩ := List.exists_cons_of_ne_nil parts.some_gap
    have lead_blank := parts.gap_blank
    rw [lead] at lead_blank
    have declared := ArchitectureNode.declared parts.architecture_kind
      (lead_blank c List.mem_cons_self)
      (fun d member => lead_blank d (List.mem_cons_of_mem c member)) parts.id_named parts.icon_open
      (fun nothing => parts.icon_solid (trim_eq_nil_iff.mp nothing)) parts.label_open
      parts.parentClause
    simpa [ArchitectureNodeParts.text, ArchitectureNodeParts.node, lead] using declared

end Grammar

/-! ### Reading a line -/

namespace Reading

open Grammar

/-- What the next line of an architecture comes to, after what has been read before it. -/
structure ReadsArchitecture (reading : Reading) (line : Line) : Prop where
  /-- An arrow is read from what can be put together as one. -/
  arrow_iff (connection : Connection) :
    Statement.architectureArrow? line.text = some connection ↔
      ∃ arrow : ArchitectureArrowParts, arrow.text = line.text ∧ arrow.connection = connection
  /-- An arrow to the left is read as the mirrored arrow to the right. -/
  leftward : ∀ arrow : ArchitectureArrowParts, arrow.text = line.text → arrow.arrow = .leftward →
    Statement.architectureArrow? line.text = Statement.architectureArrow? arrow.mirrored.text
  /-- A node is read from what can be put together as one. -/
  node_iff (node : Node) :
    Statement.architectureNode? line.text = some node ↔
      ∃ parts : ArchitectureNodeParts, parts.text = line.text ∧ parts.node = node
  /-- Nothing is both an arrow and a node. -/
  apart : Statement.architectureArrow? line.text = none ∨
    Statement.architectureNode? line.text = none
  arrow_added : ∀ arrow : ArchitectureArrowParts, arrow.text = line.text →
    reading.step line = { reading with graph := reading.graph.connect arrow.connection }
  node_added : ∀ parts : ArchitectureNodeParts, parts.text = line.text →
    String.ofList parts.id ∉ reading.graph.ids →
      reading.step line = { reading with graph := reading.graph.declare parts.node }
  /-- Anything else, and a node under an id that has been declared, is reported, and the graph stays
  as it is. -/
  refused : (∀ arrow : ArchitectureArrowParts, arrow.text ≠ line.text) →
    (∀ parts : ArchitectureNodeParts, parts.text = line.text →
      String.ofList parts.id ∈ reading.graph.ids) →
        reading.step line = { reading with skipped := reading.skipped ++ [line.diagnostic] }

/-- The grammar of architecture lines is accepted exactly: of a trimmed line, an arrow or a node is
read if and only if it can be put together as one. -/
theorem readsArchitecture {reading : Reading} {line : Line}
    (architecture : reading.graph.family = .architecture) (trimmed : trim line.text = line.text) :
    reading.ReadsArchitecture line := by
  have arrow_iff (connection : Connection) :
      Statement.architectureArrow? line.text = some connection ↔
        ∃ arrow : ArchitectureArrowParts, arrow.text = line.text ∧ arrow.connection = connection :=
    architectureArrow?_iff.trans (architectureArrow_iff_parts trimmed)
  have node_iff (node : Node) :
      Statement.architectureNode? line.text = some node ↔
        ∃ parts : ArchitectureNodeParts, parts.text = line.text ∧ parts.node = node :=
    architectureNode?_iff.trans (architectureNode_iff_parts trimmed)
  have reads (parsed : Statement) (form : Form .architecture parsed line.text) :
      reading.graph.readStatement? line.text = reading.graph.add? parsed := by
    rw [Graph.readStatement?, architecture, read?_iff.mpr form, Option.bind_some]
  constructor
  case arrow_iff => exact arrow_iff
  case leftward =>
    intro arrow drawn leftward
    rw [(arrow_iff _).mpr ⟨arrow, drawn, rfl⟩, architectureArrow?_iff.mpr arrow.mirrored.drawn,
      ArchitectureArrowParts.mirrored_connection leftward]
  case node_iff => exact node_iff
  case apart =>
    cases node_read : Statement.architectureNode? line.text with
    | none => exact .inr rfl
    | some node =>
      refine .inl (Option.eq_none_iff_forall_ne_some.mpr fun connection arrow_read => ?_)
      exact (architectureNode?_iff.mp node_read).not_arrow (architectureArrow?_iff.mp arrow_read)
  case arrow_added =>
    intro arrow drawn
    have form := (architectureArrow_iff_parts trimmed).mpr ⟨arrow, drawn, rfl⟩
    refine step_of_reads ((reads (.arrow arrow.connection) form).trans ?_)
    exact Graph.add?_iff.mpr (.architectureArrow architecture)
  case node_added =>
    intro parts declared new
    have form := (architectureNode_iff_parts trimmed).mpr ⟨parts, declared, rfl⟩
    refine step_of_reads ((reads (.declare parts.node) form).trans ?_)
    exact Graph.add?_iff.mpr (.architectureNode architecture new)
  case refused =>
    intro no_arrow all_declared
    refine step_of_refuses ?_
    rw [Graph.readStatement?, architecture]
    cases parses : Statement.read? .architecture line.text with
    | none => rfl
    | some parsed =>
      have form := read?_iff.mp parses
      cases parsed with
      | arrow connection =>
        obtain ⟨arrow, drawn, -⟩ := (architectureArrow_iff_parts trimmed).mp form
        exact absurd drawn (no_arrow arrow)
      | declare node =>
        obtain ⟨parts, declares, rfl⟩ := (architectureNode_iff_parts trimmed).mp form
        rw [Option.bind_some, Graph.add?, architecture]
        exact Graph.declareFirst?_of_mem (all_declared parts declares)

/-- An arrow to the left, with a wide blank, between sides. -/
theorem readsArchitecture_leftward :
    let graph : Graph := ⟨.architecture, [⟨"b", "B", .service, some "disk", none⟩], []⟩
    let reading : Reading := ⟨graph, []⟩
    let line : Line := ⟨3, "b:W\u3000<-- N:a-1".toList⟩
    let drawn : Connection := ⟨"a-1", "b", some .north, some .west, false, none⟩
    reading.graph.family = .architecture ∧ trim line.text = line.text ∧
      reading.ReadsArchitecture line ∧
      Statement.architectureArrow? "a-1:N\u3000--> W:b".toList = some drawn ∧
      reading.step line = ⟨graph.connect drawn, []⟩ := by
  intro graph reading line drawn
  have trimmed : trim line.text = line.text := by decide +kernel
  have reads : reading.ReadsArchitecture line := readsArchitecture rfl trimmed
  let arrow : ArchitectureArrowParts :=
    ⟨['b'], some .west, ['\u3000'], .leftward, [' '], "a-1".toList, some .north, by decide,
      all_isBlank_iff.mp rfl, by simp, all_isBlank_iff.mp rfl, by simp, by decide⟩
  have written : arrow.text = line.text := by decide +kernel
  have mirrored := (reads.leftward arrow written rfl).symm.trans
    ((reads.arrow_iff _).mpr ⟨arrow, written, rfl⟩)
  exact ⟨rfl, trimmed, reads, mirrored, reads.arrow_added arrow written⟩

end Reading

end TextDiagram
