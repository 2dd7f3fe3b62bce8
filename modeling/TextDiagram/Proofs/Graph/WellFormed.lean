import Mathlib.Tactic.MkIffOfInductiveProp
import TextDiagram.Proofs.Graph.ArchitectureGrammar

/-!
# Well-formed graphs

What the grammars allow a graph to hold: ids, ends and parents are names, labels and icons are
trimmed and do not contain what would close them, and nodes and connections have the kinds and the
fields of their family. Main statement: every statement that is read has these properties.
-/
namespace TextDiagram

open Text

/-! ### Well-formed labels, nodes and connections -/

/-- A label as it may stand before the character that closes it: not empty, trimmed, and in one
line. -/
@[mk_iff]
structure IsLabel (closing : Char) (label : String) : Prop where
  nonempty : label.toList ≠ []
  trimmed : trim label.toList = label.toList
  unclosed : closing ∉ label.toList
  one_line : '\n' ∉ label.toList

instance (closing : Char) (label : String) : Decidable (IsLabel closing label) :=
  decidable_of_iff _ (isLabel_iff closing label).symm

/-- The kind and the fields are those of the family. -/
def Node.Fits (node : Node) : Family → Prop
  | .flow => node.kind ∈ Grammar.flowKinds ∧ node.icon = none ∧ node.parent = none
  | .architecture =>
    node.kind ∈ Grammar.architectureKinds ∧ (∃ icon ∈ node.icon, IsLabel ')' icon) ∧
      ∀ parent ∈ node.parent, isName parent.toList = true

instance (node : Node) (family : Family) : Decidable (node.Fits family) :=
  match family with
  | .flow => inferInstanceAs (Decidable (_ ∧ _ ∧ _))
  | .architecture => inferInstanceAs (Decidable (_ ∧ (∃ _ ∈ node.icon, _) ∧ ∀ _ ∈ node.parent, _))

@[mk_iff]
structure Node.WellFormed (family : Family) (node : Node) : Prop where
  id_named : isName node.id.toList = true
  label : IsLabel ']' node.label
  fits : node.Fits family

instance (family : Family) (node : Node) : Decidable (node.WellFormed family) :=
  decidable_of_iff _ (Node.wellFormed_iff family node).symm

/-- The fields are those of the family. -/
def Connection.Fits (connection : Connection) : Family → Prop
  | .flow =>
    connection.sourceSide = none ∧ connection.targetSide = none ∧
      connection.bidirectional = false ∧ ∀ label ∈ connection.label, IsLabel '|' label
  | .architecture => connection.label = none

instance (connection : Connection) (family : Family) : Decidable (connection.Fits family) :=
  match family with
  | .flow => inferInstanceAs (Decidable (_ ∧ _ ∧ _ ∧ ∀ _ ∈ connection.label, _))
  | .architecture => inferInstanceAs (Decidable (connection.label = none))

@[mk_iff]
structure Connection.WellFormed (family : Family) (connection : Connection) : Prop where
  source_named : isName connection.source.toList = true
  target_named : isName connection.target.toList = true
  fits : connection.Fits family

instance (family : Family) (connection : Connection) : Decidable (connection.WellFormed family) :=
  decidable_of_iff _ (Connection.wellFormed_iff family connection).symm

namespace Graph

def ids (graph : Graph) : List String :=
  graph.nodes.map Node.id

/-- Ids name one node each; nodes and connections are those of the family, and in a flow the
connections join declared nodes. -/
@[mk_iff]
structure WellFormed (graph : Graph) : Prop where
  distinct : graph.ids.Nodup
  nodes : ∀ node ∈ graph.nodes, node.WellFormed graph.family
  connections : ∀ connection ∈ graph.connections, connection.WellFormed graph.family
  declared : graph.family = .flow → ∀ connection ∈ graph.connections,
    connection.source ∈ graph.ids ∧ connection.target ∈ graph.ids

instance (graph : Graph) : Decidable graph.WellFormed :=
  decidable_of_iff _ (wellFormed_iff graph).symm

end Graph

def Statement.WellFormed (family : Family) : Statement → Prop
  | .arrow connection => connection.WellFormed family
  | .declare node => node.WellFormed family

/-! ### Statements -/

theorem isLabel_of_isName {name : List Char} {closing : Char} (named : isName name = true)
    (closes : isNameChar closing = false) : IsLabel closing (String.ofList name) where
  nonempty := by simpa using ne_nil_of_isName named
  trimmed := by simpa using trim_of_isName named
  unclosed := by simpa using not_mem_of_isName named closes
  one_line := by simpa using not_mem_of_isName named (by decide)

theorem isLabel_of_trim {inside : List Char} {closing : Char} (solid : trim inside ≠ [])
    (unclosed : closing ∉ inside) (one_line : '\n' ∉ inside) :
    IsLabel closing (String.ofList (trim inside)) where
  nonempty := by simpa using solid
  trimmed := by simpa using trim_trim inside
  unclosed := by simpa using fun member => unclosed (mem_of_mem_trim member)
  one_line := by simpa using fun member => one_line (mem_of_mem_trim member)

/-- A blank label is replaced by the id, which is a label as well. -/
theorem isLabel_labelOr {id inside : List Char} (id_named : isName id = true)
    (unclosed : ']' ∉ inside) (one_line : '\n' ∉ inside) : IsLabel ']' (labelOr id inside) := by
  unfold labelOr
  split
  · exact isLabel_of_isName id_named (by decide)
  next solid => exact isLabel_of_trim solid unclosed one_line

namespace Grammar

theorem Bars.isLabel {label : Option String} {bars : List Char} (barred : Bars label bars)
    (one_line : '\n' ∉ bars) : ∀ text ∈ label, IsLabel '|' text := by
  cases barred with
  | absent => simp
  | present _ unbarred _ =>
    intro text present
    unfold barLabel at present
    split at present
    · cases present
    next solid =>
      cases present
      exact isLabel_of_trim solid unbarred (by simp_all)

theorem FlowArrow.wellFormed {connection : Connection} {text : List Char}
    (arrow : FlowArrow connection text) (one_line : '\n' ∉ text) :
    connection.WellFormed .flow := by
  obtain ⟨-, source_named, -, barred, target_named, -⟩ := arrow
  exact {
    source_named := by simpa using source_named
    target_named := by simpa using target_named
    fits := ⟨rfl, rfl, rfl, barred.isLabel (by simp_all)⟩ }

theorem Brackets.unclosed {label brackets : List Char} (bracketed : Brackets label brackets) :
    ']' ∉ label := by
  cases bracketed with
  | absent => simp
  | present unclosed => exact unclosed

theorem Brackets.mem {label brackets : List Char} (bracketed : Brackets label brackets) {c : Char}
    (member : c ∈ label) : c ∈ brackets := by
  cases bracketed with
  | absent => cases member
  | present => simp [member]

theorem FlowNode.fits {node : Node} {text : List Char} (declares : FlowNode node text) :
    node.Fits .flow := by
  obtain ⟨flow_kind, -, -, -, -, -⟩ := declares
  exact ⟨flow_kind, rfl, rfl⟩

theorem FlowNode.wellFormed {node : Node} {text : List Char} (declares : FlowNode node text)
    (one_line : '\n' ∉ text) : node.WellFormed .flow := by
  have fits := declares.fits
  obtain ⟨-, -, -, id_named, bracketed, -⟩ := declares
  next kind c gap id label brackets back =>
  have label_one_line : '\n' ∉ label := fun member => one_line (by simp [bracketed.mem member])
  exact {
    id_named := by simpa using id_named
    label := isLabel_labelOr id_named bracketed.unclosed label_one_line
    fits }

theorem LeftEnd.named {left : List Char × Option Side} {word : List Char}
    (left_end : LeftEnd left word) : isName left.1 = true := by
  cases left_end <;> assumption

theorem RightEnd.named {right : List Char × Option Side} {word : List Char}
    (right_end : RightEnd right word) : isName right.1 = true := by
  cases right_end <;> assumption

theorem ArchitectureArrow.wellFormed {connection : Connection} {text : List Char}
    (drawn : ArchitectureArrow connection text) : connection.WellFormed .architecture := by
  obtain ⟨left_end, right_end, -⟩ := drawn
  next arrow left right leftWord rightWord =>
  have left_named := left_end.named
  have right_named := right_end.named
  -- The ends change places under an arrow to the left.
  cases arrow <;>
    exact ⟨by simpa [Statement.Arrow.connect], by simpa [Statement.Arrow.connect], rfl⟩

theorem ParentClause.named {parent : Option String} {text : List Char}
    (clause : ParentClause parent text) : ∀ name ∈ parent, isName name.toList = true := by
  cases clause with
  | absent => simp
  | present _ _ _ parent_named _ => simpa using parent_named

theorem ArchitectureNode.wellFormed {node : Node} {text : List Char}
    (declares : ArchitectureNode node text) (one_line : '\n' ∉ text) :
    node.WellFormed .architecture := by
  obtain ⟨architecture_kind, -, -, id_named, icon_open, icon_solid, label_open, clause⟩ := declares
  exact {
    id_named := by simpa using id_named
    label := isLabel_labelOr id_named label_open (by simp_all)
    fits := ⟨architecture_kind,
      ⟨_, rfl, isLabel_of_trim icon_solid icon_open (by simp_all)⟩, clause.named⟩ }

end Grammar

/-- What is read as a statement is well formed, if the text is in one line. -/
theorem Statement.wellFormed_of_read? {family : Family} {text : List Char} {statement : Statement}
    (one_line : '\n' ∉ text) (read : read? family text = some statement) :
    statement.WellFormed family := by
  have form := Grammar.read?_iff.mp read
  match family, statement, form with
  | .flow, .arrow _, drawn => exact Grammar.FlowArrow.wellFormed drawn one_line
  | .flow, .declare _, declares => exact Grammar.FlowNode.wellFormed declares one_line
  | .architecture, .arrow _, drawn => exact Grammar.ArchitectureArrow.wellFormed drawn
  | .architecture, .declare _, declares =>
    exact Grammar.ArchitectureNode.wellFormed declares one_line

end TextDiagram
