import TextDiagram.Proofs.Graph.Skipping

/-!
# The parts of flow statements

What a flow statement is put together from: names, blanks, and labels without the character that
closes them. Main statement: a trimmed text is read as an arrow or as a node exactly if it can be
put together as one, and there is only one way to do so; any other text leaves the graph as it is.
-/
namespace TextDiagram

open Text

namespace Grammar

/-! ### Arrows -/

/-- A label between bars, and the blanks behind it. -/
@[ext]
structure BarLabel where
  inside : List Char
  behind : List Char
  unbarred : '|' ∉ inside
  behind_blank : Blank behind

/-- The parts of `A --> B` or `A -->|label| B`. -/
@[ext]
structure FlowArrowParts where
  source : List Char
  before : List Char
  behind : List Char
  bars : Option BarLabel
  target : List Char
  source_named : isName source = true
  before_blank : Blank before
  behind_blank : Blank behind
  target_named : isName target = true

namespace FlowArrowParts

/-- The target, with the label between bars in front of it if there is one. -/
def barredTarget (parts : FlowArrowParts) : List Char :=
  match parts.bars with
  | none => parts.target
  | some label => '|' :: label.inside ++ '|' :: (label.behind ++ parts.target)

def text (parts : FlowArrowParts) : List Char :=
  parts.source ++ parts.before ++ '-' :: '-' :: '>' :: (parts.behind ++ parts.barredTarget)

/-- The connection that is drawn; a blank label is none. -/
def connection (parts : FlowArrowParts) : Connection where
  source := String.ofList parts.source
  target := String.ofList parts.target
  sourceSide := none
  targetSide := none
  bidirectional := false
  label := parts.bars.bind fun label => barLabel label.inside

variable (parts : FlowArrowParts)

theorem cut_text :
    cutAtArrow parts.text =
      some (parts.source ++ parts.before, parts.behind ++ parts.barredTarget) := by
  refine cutAtArrow_append (fun member => ?_) _
  rcases List.mem_append.mp member with in_source | in_blanks
  · exact not_mem_of_isName parts.source_named (by decide) in_source
  · exact parts.before_blank.not_mem (by decide) in_blanks

theorem cut_source : cutName (parts.source ++ parts.before) = some (parts.source, parts.before) :=
  cutName_iff.mpr ⟨rfl, parts.source_named, isNameChar_of_blank_head parts.before_blank⟩

theorem trimStart_behind :
    trimStart (parts.behind ++ parts.barredTarget) = parts.barredTarget := by
  rw [trimStart_append parts.behind_blank]
  unfold barredTarget
  split
  · simpa using trimStart_before_isName parts.target_named blank_nil []
  · exact trimStart_cons_of_not_blank (by decide) _

/-- No name starts with a bar. -/
theorem target_ne (rest : List Char) : parts.target ≠ '|' :: rest := by
  intro starts
  exact not_mem_of_isName parts.target_named (by decide) (starts ▸ List.mem_cons_self)

theorem barredTarget_injective {first second : FlowArrowParts}
    (same : first.barredTarget = second.barredTarget) :
    first.bars = second.bars ∧ first.target = second.target := by
  unfold barredTarget at same
  cases first_bars : first.bars with
  | none =>
    cases second_bars : second.bars with
    | none => exact ⟨rfl, by simpa [first_bars, second_bars] using same⟩
    | some label =>
      simp only [first_bars, second_bars] at same
      exact absurd same (first.target_ne _)
  | some label =>
    cases second_bars : second.bars with
    | none =>
      simp only [first_bars, second_bars] at same
      exact absurd same.symm (second.target_ne _)
    | some other =>
      simp only [first_bars, second_bars, List.cons_append, List.cons.injEq, true_and] at same
      -- Both labels end at the first bar, and both targets are what is left behind the blanks.
      obtain ⟨same_inside, same_behind⟩ := parts_eq_of_notMem label.unbarred other.unbarred same
      have same_target : first.target = second.target := by
        have left := trimStart_before_isName first.target_named label.behind_blank []
        have other_left := trimStart_before_isName second.target_named other.behind_blank []
        rw [List.append_nil] at left other_left
        rw [← left, same_behind, other_left]
      rw [same_target] at same_behind
      have same_label := BarLabel.ext same_inside (List.append_cancel_right same_behind)
      exact ⟨congrArg some same_label, same_target⟩

/-- An arrow can be taken apart in one way only. -/
theorem text_injective : Function.Injective text := by
  intro first second same
  have cut := first.cut_text
  rw [same, second.cut_text] at cut
  simp only [Option.some.injEq, Prod.mk.injEq] at cut
  -- Left of the arrow the source ends at the first blank, right of it the blanks end at the rest.
  obtain ⟨left, right⟩ := cut
  have source_cut := first.cut_source
  rw [← left, second.cut_source] at source_cut
  simp only [Option.some.injEq, Prod.mk.injEq] at source_cut
  obtain ⟨same_source, same_before⟩ := source_cut
  have same_barred : second.barredTarget = first.barredTarget := by
    rw [← first.trimStart_behind, ← right, second.trimStart_behind]
  rw [same_barred] at right
  obtain ⟨same_bars, same_target⟩ := barredTarget_injective same_barred
  exact FlowArrowParts.ext same_source.symm same_before.symm (List.append_cancel_right right).symm
    same_bars.symm same_target.symm

end FlowArrowParts

/-- Trimmed, the form of an arrow has nothing around its names. -/
theorem flowArrow_iff_parts {text : List Char} (trimmed : trim text = text)
    {connection : Connection} :
    FlowArrow connection text ↔
      ∃ parts : FlowArrowParts, parts.text = text ∧ parts.connection = connection := by
  constructor
  · rintro ⟨front_blank, source_named, gap_blank, barred, target_named, back_blank⟩
    next front source gap bars target back label =>
    have inner : trim (source ++ (gap ++ '-' :: '-' :: '>' :: bars) ++ target) =
        source ++ (gap ++ '-' :: '-' :: '>' :: bars) ++ target :=
      trim_between (ne_nil_of_isName source_named) (ne_nil_of_isName target_named)
        (not_blank_of_isName source_named) (not_blank_of_isName target_named) _
    have shape : front ++ source ++ gap ++ '-' :: '-' :: '>' :: (bars ++ target ++ back) =
        front ++ (source ++ (gap ++ '-' :: '-' :: '>' :: bars) ++ target) ++ back := by simp
    rw [shape, trim_append front_blank back_blank, inner] at trimmed
    rw [shape, ← trimmed]
    cases barred with
    | absent blank =>
      exact ⟨⟨source, gap, bars, none, target, source_named, gap_blank, blank, target_named⟩,
        by simp [FlowArrowParts.text, FlowArrowParts.barredTarget], rfl⟩
    | @present lead inside behind blank unbarred behind_blank =>
      exact ⟨⟨source, gap, lead, some ⟨inside, behind, unbarred, behind_blank⟩, target,
        source_named, gap_blank, blank, target_named⟩,
        by simp [FlowArrowParts.text, FlowArrowParts.barredTarget], rfl⟩
  · rintro ⟨parts, rfl, rfl⟩
    have drawn {label : Option String} {bars : List Char} (barred : Bars label bars) :=
      FlowArrow.drawn blank_nil parts.source_named parts.before_blank barred parts.target_named
        blank_nil
    cases labelled : parts.bars with
    | none =>
      simpa [FlowArrowParts.text, FlowArrowParts.barredTarget, FlowArrowParts.connection, labelled]
        using drawn (.absent parts.behind_blank)
    | some label =>
      simpa [FlowArrowParts.text, FlowArrowParts.barredTarget, FlowArrowParts.connection, labelled]
        using drawn (.present parts.behind_blank label.unbarred label.behind_blank)

/-! ### Nodes -/

/-- The parts of `keyword id` or `keyword id[label]`. -/
@[ext]
structure FlowNodeParts where
  kind : NodeKind
  gap : List Char
  id : List Char
  label : Option (List Char)
  back : List Char
  flow_kind : kind ∈ flowKinds
  gap_blank : Blank gap
  some_gap : gap ≠ []
  id_named : isName id = true
  unclosed : ∀ inside ∈ label, ']' ∉ inside
  back_blank : Blank back

namespace FlowNodeParts

/-- What stands behind the id: the label in brackets if there is one, and blanks. -/
def behindId (parts : FlowNodeParts) : List Char :=
  match parts.label with
  | none => parts.back
  | some inside => '[' :: inside ++ ']' :: parts.back

def text (parts : FlowNodeParts) : List Char :=
  parts.kind.keyword.toList ++ (parts.gap ++ (parts.id ++ parts.behindId))

/-- The node that is declared; without a label, or with a blank one, its id is its label. -/
def node (parts : FlowNodeParts) : Node where
  id := String.ofList parts.id
  label := labelOr parts.id (parts.label.getD [])
  kind := parts.kind
  icon := none
  parent := none

variable (parts : FlowNodeParts)

theorem cut_keyword :
    cutName parts.text =
      some (parts.kind.keyword.toList, parts.gap ++ (parts.id ++ parts.behindId)) := by
  refine cutName_iff.mpr ⟨rfl, isName_keyword parts.kind, ?_⟩
  rw [List.head?_append_of_ne_nil _ parts.some_gap]
  exact isNameChar_of_blank_head parts.gap_blank

theorem cut_id : cutName (parts.id ++ parts.behindId) = some (parts.id, parts.behindId) := by
  refine cutName_iff.mpr ⟨rfl, parts.id_named, ?_⟩
  unfold behindId
  split
  · exact isNameChar_of_blank_head parts.back_blank
  · rintro c ⟨⟩
    decide

theorem back_ne (rest : List Char) : parts.back ≠ '[' :: rest := by
  intro starts
  exact parts.back_blank.not_mem (by decide) (starts ▸ List.mem_cons_self)

theorem behindId_injective {first second : FlowNodeParts}
    (same : first.behindId = second.behindId) :
    first.label = second.label ∧ first.back = second.back := by
  unfold behindId at same
  cases first_label : first.label with
  | none =>
    cases second_label : second.label with
    | none => exact ⟨rfl, by simpa [first_label, second_label] using same⟩
    | some inside =>
      simp only [first_label, second_label] at same
      exact absurd same (first.back_ne _)
  | some inside =>
    cases second_label : second.label with
    | none =>
      simp only [first_label, second_label] at same
      exact absurd same.symm (second.back_ne _)
    | some other =>
      simp only [first_label, second_label, List.cons_append, List.cons.injEq, true_and] at same
      -- Both labels end at the first closing bracket.
      obtain ⟨same_inside, same_back⟩ := parts_eq_of_notMem
        (first.unclosed inside first_label) (second.unclosed other second_label) same
      exact ⟨congrArg some same_inside, same_back⟩

/-- A node can be taken apart in one way only. -/
theorem text_injective : Function.Injective text := by
  intro first second same
  have cut := first.cut_keyword
  rw [same, second.cut_keyword] at cut
  simp only [Option.some.injEq, Prod.mk.injEq] at cut
  obtain ⟨same_keyword, rest⟩ := cut
  have same_named : second.id ++ second.behindId = first.id ++ first.behindId := by
    rw [← trimStart_before_isName first.id_named first.gap_blank, ← rest,
      trimStart_before_isName second.id_named second.gap_blank]
  rw [same_named] at rest
  have id_cut := first.cut_id
  rw [← same_named, second.cut_id] at id_cut
  simp only [Option.some.injEq, Prod.mk.injEq] at id_cut
  obtain ⟨same_label, same_back⟩ := behindId_injective id_cut.2
  exact FlowNodeParts.ext (keyword_injective same_keyword).symm
    (List.append_cancel_right rest).symm id_cut.1.symm same_label.symm same_back.symm

end FlowNodeParts

theorem flowNode_iff_parts {text : List Char} {node : Node} :
    FlowNode node text ↔ ∃ parts : FlowNodeParts, parts.text = text ∧ parts.node = node := by
  constructor
  · rintro ⟨flow_kind, blank, gap_blank, id_named, bracketed, back_blank⟩
    next kind c gap id label brackets back =>
    have lead_blank : Blank (c :: gap) := by simpa [Blank, blank] using gap_blank
    cases bracketed with
    | absent =>
      exact ⟨⟨kind, c :: gap, id, none, back, flow_kind, lead_blank, by simp, id_named, by simp,
        back_blank⟩, by simp [FlowNodeParts.text, FlowNodeParts.behindId], rfl⟩
    | present unclosed =>
      exact ⟨⟨kind, c :: gap, id, some label, back, flow_kind, lead_blank, by simp, id_named,
        by simpa using unclosed, back_blank⟩,
        by simp [FlowNodeParts.text, FlowNodeParts.behindId], rfl⟩
  · rintro ⟨parts, rfl, rfl⟩
    obtain ⟨c, gap, lead⟩ := List.exists_cons_of_ne_nil parts.some_gap
    have lead_blank := parts.gap_blank
    rw [lead] at lead_blank
    have declared {label brackets : List Char} (bracketed : Brackets label brackets) :=
      FlowNode.declared parts.flow_kind (lead_blank c List.mem_cons_self)
        (fun d member => lead_blank d (List.mem_cons_of_mem c member)) parts.id_named bracketed
        parts.back_blank
    cases labelled : parts.label with
    | none =>
      simpa [FlowNodeParts.text, FlowNodeParts.behindId, FlowNodeParts.node, labelled, lead]
        using declared .absent
    | some inside =>
      simpa [FlowNodeParts.text, FlowNodeParts.behindId, FlowNodeParts.node, labelled, lead]
        using declared (.present (parts.unclosed inside labelled))

end Grammar

/-! ### Reading a statement -/

namespace Reading

open Grammar

/-- What the next statement of a flow comes to, whatever has been read before it. -/
structure ReadsFlow (reading : Reading) (statement : Line) : Prop where
  /-- An arrow is read from what can be put together as one. -/
  arrow_iff (connection : Connection) :
    Statement.read? .flow statement.text = some (.arrow connection) ↔
      ∃ arrow : FlowArrowParts, arrow.text = statement.text ∧ arrow.connection = connection
  /-- A node is read from what can be put together as one. -/
  node_iff (node : Node) :
    Statement.read? .flow statement.text = some (.declare node) ↔
      ∃ parts : FlowNodeParts, parts.text = statement.text ∧ parts.node = node
  arrow_unique : ∀ first second : FlowArrowParts,
    first.text = statement.text → second.text = statement.text → first = second
  node_unique : ∀ first second : FlowNodeParts,
    first.text = statement.text → second.text = statement.text → first = second
  /-- Nothing is both an arrow and a node. -/
  apart : ∀ (arrow : FlowArrowParts) (node : FlowNodeParts),
    arrow.text = statement.text → node.text ≠ statement.text
  /-- Nodes might as well be tried before arrows. -/
  order : Statement.read? .flow statement.text =
    ((Statement.flowNode? statement.text).map .declare).or
      ((Statement.flowArrow? statement.text).map .arrow)
  arrow_added : ∀ arrow : FlowArrowParts, arrow.text = statement.text →
    reading.step statement = { reading with
      graph := ((reading.graph.mention (String.ofList arrow.source)).mention
        (String.ofList arrow.target)).connect arrow.connection }
  node_added : ∀ parts : FlowNodeParts, parts.text = statement.text →
    reading.step statement = { reading with graph := reading.graph.refine parts.node }
  /-- Anything else is refused, and the graph stays as it is. -/
  refused : (∀ arrow : FlowArrowParts, arrow.text ≠ statement.text) →
    (∀ node : FlowNodeParts, node.text ≠ statement.text) →
      reading.graph.readStatement? statement.text = none ∧
        reading.step statement =
          { reading with skipped := reading.skipped ++ [statement.diagnostic] }

/-- The grammar of flow statements is accepted exactly: of a trimmed text, an arrow or a node is
read if and only if it can be put together as one, which it can in one way at most. -/
theorem readsFlow {reading : Reading} {statement : Line} (flow : reading.graph.family = .flow)
    (trimmed : trim statement.text = statement.text) : reading.ReadsFlow statement := by
  have arrow_iff (connection : Connection) :
      Statement.read? .flow statement.text = some (.arrow connection) ↔
        ∃ arrow : FlowArrowParts, arrow.text = statement.text ∧ arrow.connection = connection :=
    read?_iff.trans (flowArrow_iff_parts trimmed)
  have node_iff (node : Node) :
      Statement.read? .flow statement.text = some (.declare node) ↔
        ∃ parts : FlowNodeParts, parts.text = statement.text ∧ parts.node = node :=
    read?_iff.trans flowNode_iff_parts
  have adds {parsed : Statement} {added : Graph}
      (parses : Statement.read? .flow statement.text = some parsed)
      (becomes : reading.graph.Adds parsed added) :
      reading.step statement = { reading with graph := added } := by
    refine step_of_reads ?_
    rw [Graph.readStatement?, flow, parses]
    exact Graph.add?_iff.mpr becomes
  constructor
  case arrow_iff => exact arrow_iff
  case node_iff => exact node_iff
  case arrow_unique => exact fun first second is_first is_second =>
    FlowArrowParts.text_injective (is_first.trans is_second.symm)
  case node_unique => exact fun first second is_first is_second =>
    FlowNodeParts.text_injective (is_first.trans is_second.symm)
  case apart =>
    intro arrow parts drawn declared
    have draws := (arrow_iff _).mpr ⟨arrow, drawn, rfl⟩
    rw [(node_iff _).mpr ⟨parts, declared, rfl⟩] at draws
    cases draws
  case order =>
    rw [Statement.read?, Statement.ofFlow?]
    cases node_read : Statement.flowNode? statement.text with
    | none => cases Statement.flowArrow? statement.text <;> rfl
    | some node =>
      have declares := flowNode?_iff.mp node_read
      cases arrow_read : Statement.flowArrow? statement.text with
      | none => rfl
      | some connection => exact absurd (flowArrow?_iff.mp arrow_read) declares.not_arrow
  case arrow_added =>
    exact fun arrow drawn => adds ((arrow_iff _).mpr ⟨arrow, drawn, rfl⟩) (.flowArrow flow)
  case node_added =>
    exact fun parts declared => adds ((node_iff _).mpr ⟨parts, declared, rfl⟩) (.flowNode flow)
  case refused =>
    intro no_arrow no_node
    have refuses : reading.graph.readStatement? statement.text = none := by
      rw [Graph.readStatement?, flow]
      cases parses : Statement.read? .flow statement.text with
      | none => rfl
      | some parsed =>
        cases parsed with
        | arrow connection =>
          obtain ⟨arrow, drawn, -⟩ := (arrow_iff connection).mp parses
          exact absurd drawn (no_arrow arrow)
        | declare node =>
          obtain ⟨parts, declared, -⟩ := (node_iff node).mp parses
          exact absurd declared (no_node parts)
    exact ⟨refuses, step_of_refuses refuses⟩

/-- A name that ends in dashes, in front of an arrow with a label that holds a node and an arrow. -/
theorem readsFlow_dashes :
    let graph : Graph := ⟨.flow, [⟨"end", "end", .finish, none, none⟩], []⟩
    let reading : Reading := ⟨graph, [⟨2, "wrong"⟩]⟩
    let statement : Line := ⟨3, "a---->| task x[ --> | end".toList⟩
    let read : Graph := {
      family := .flow
      nodes := [⟨"end", "end", .finish, none, none⟩, ⟨"a--", "a--", .task, none, none⟩]
      connections := [⟨"a--", "end", none, none, false, some "task x[ -->"⟩] }
    reading.graph.family = .flow ∧ trim statement.text = statement.text ∧
      reading.ReadsFlow statement ∧ reading.step statement = ⟨read, [⟨2, "wrong"⟩]⟩ := by
  intro graph reading statement read
  have trimmed : trim statement.text = statement.text := by decide +kernel
  have reads : reading.ReadsFlow statement := readsFlow rfl trimmed
  let label : BarLabel := ⟨" task x[ --> ".toList, [' '], by decide, all_isBlank_iff.mp rfl⟩
  let arrow : FlowArrowParts :=
    ⟨"a--".toList, [], [], some label, "end".toList, by decide, blank_nil, blank_nil, by decide⟩
  have added := reads.arrow_added arrow (by decide +kernel)
  refine ⟨rfl, trimmed, reads, added.trans ?_⟩
  decide +kernel

end Reading

end TextDiagram
