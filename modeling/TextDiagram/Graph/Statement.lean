import TextDiagram.Text.Split
import TextDiagram.Graph.Basic

/-!
# Statements

One statement of a diagram text either draws an arrow or declares a node. Each family has its own
grammar for both. An arrow is tried before a node; no text has both forms, so the order does not
matter.

Flow statements:

* `A --> B` and `A -->|label| B`,
* `keyword id` and `keyword id[label]` for `start`, `end`, `task` and `gateway`.

Architecture statements:

* `a --> b`, `a <-- b` and `a <--> b`, where the left end may be `a:S` and the right end `N:b` to
  name the sides,
* `group id(icon)[label]` and `service id(icon)[label]`, either with ` in parent` behind it.

Names are made of ASCII letters, digits, `_` and `-`.
-/
namespace TextDiagram

/-- Whether a name may hold the character. -/
def isNameChar (c : Char) : Bool :=
  c.isAlphanum || c == '_' || c == '-'

/-- Whether the text is a name: not empty, and made of name characters alone. -/
def isName (text : List Char) : Bool :=
  !text.isEmpty && text.all isNameChar

/-- The longest name that the text starts with, and what follows it. -/
def cutName (text : List Char) : Option (List Char × List Char) :=
  match text.span isNameChar with
  | ([], _) => none
  | (name, rest) => some (name, rest)

/-- A label between delimiters: trimmed, and replaced by the id when that leaves nothing. -/
def labelOr (id label : List Char) : String :=
  match Text.trim label with
  | [] => String.ofList id
  | solid => String.ofList solid

inductive Statement where
  | arrow (connection : Connection)
  | declare (node : Node)
deriving Repr, DecidableEq

/-! ## The flow family -/

namespace NodeKind

/-- The kind that a flow keyword declares. -/
def ofFlowKeyword? (keyword : List Char) : Option NodeKind :=
  [start, finish, task, gateway].find? (·.keyword.toList = keyword)

/-- The kind that an architecture keyword declares. -/
def ofArchitectureKeyword? (keyword : List Char) : Option NodeKind :=
  [group, service].find? (·.keyword.toList = keyword)

end NodeKind

/-- The label between bars that a text may start with, and what follows it. Without a leading bar
there is no label; a leading bar that is never closed refuses the text. -/
def cutBarLabel : List Char → Option (Option String × List Char)
  | '|' :: rest =>
    (Text.cutAt (· == '|') rest).map fun (label, after) =>
      match Text.trim label with
      | [] => (none, after)
      | solid => (some (String.ofList solid), after)
  | text => some (none, text)

namespace Statement

/-- Reads `A --> B` or `A -->|label| B`. -/
def flowArrow? (text : List Char) : Option Connection := do
  let (left, right) ← Text.cutAtArrow text
  let (label, right) ← cutBarLabel (Text.trimStart right)
  let source := Text.trim left
  let target := Text.trim right
  if isName source && isName target then
    some {
      source := String.ofList source
      target := String.ofList target
      sourceSide := none
      targetSide := none
      bidirectional := false
      label }
  else
    none

/-- The label in square brackets that may follow the id of a flow node, and what follows it. -/
def cutFlowLabel : List Char → Option (List Char × List Char)
  | '[' :: rest => Text.cutAt (· == ']') rest
  | text => some ([], text)

/-- Reads `keyword id` or `keyword id[label]`. -/
def flowNode? (text : List Char) : Option Node := do
  let (keyword, rest) ← Text.cutAt Text.isBlank text
  let kind ← NodeKind.ofFlowKeyword? keyword
  let (id, rest) ← cutName (Text.trimStart rest)
  let (label, rest) ← cutFlowLabel rest
  if rest.all Text.isBlank then
    some { id := String.ofList id, label := labelOr id label, kind, icon := none, parent := none }
  else
    none

def ofFlow? (text : List Char) : Option Statement :=
  match flowArrow? text with
  | some connection => some (arrow connection)
  | none => (flowNode? text).map declare

/-! ## The architecture family -/

/-- Reads a side written as its single letter. -/
def side? : List Char → Option Side
  | [letter] => Side.ofLetter? letter
  | _ => none

/-- Reads the left end of an arrow, `a` or `a:S`. -/
def leftEnd? (word : List Char) : Option (List Char × Option Side) :=
  match Text.cutAt (· == ':') word with
  | none => some (word, none)
  | some (name, side) => (side? side).map fun side => (name, some side)

/-- Reads the right end of an arrow, `b` or `N:b`. -/
def rightEnd? (word : List Char) : Option (List Char × Option Side) :=
  match Text.cutAt (· == ':') word with
  | none => some (word, none)
  | some (side, name) => (side? side).map fun side => (name, some side)

/-- The three ways to draw an arrow of the architecture family. -/
inductive Arrow where
  | rightward
  | leftward
  | both
deriving Repr, DecidableEq

def Arrow.ofWord? : List Char → Option Arrow
  | ['-', '-', '>'] => some .rightward
  | ['<', '-', '-'] => some .leftward
  | ['<', '-', '-', '>'] => some .both
  | _ => none

/-- The connection that an arrow draws between its left and its right end. An arrow to the left
starts at its right end. -/
def Arrow.connect (arrow : Arrow) (left right : List Char × Option Side) : Connection :=
  let (source, target) := if arrow = .leftward then (right, left) else (left, right)
  { source := String.ofList source.1
    target := String.ofList target.1
    sourceSide := source.2
    targetSide := target.2
    bidirectional := arrow = .both
    label := none }

/-- Reads a line of three words, an arrow between two ends. -/
def architectureArrow? (text : List Char) : Option Connection :=
  match Text.words text with
  | [left, middle, right] => do
    let left ← leftEnd? left
    let right ← rightEnd? right
    if isName left.1 && isName right.1 then
      (Arrow.ofWord? middle).map fun shape => shape.connect left right
    else
      none
  | _ => none

/-- Reads what may follow the label of an architecture node: nothing, or `in` and the name of the
parent. -/
def parentClause? (text : List Char) : Option (Option String) :=
  match Text.trim text with
  | [] => some none
  | 'i' :: 'n' :: c :: rest =>
    let parent := Text.trim (c :: rest)
    if Text.isBlank c && isName parent then some (some (String.ofList parent)) else none
  | _ => none

/-- Reads `group id(icon)[label]` or `service id(icon)[label]`, with or without a parent. -/
def architectureNode? (text : List Char) : Option Node := do
  let (keyword, rest) ← Text.cutAt Text.isBlank text
  let kind ← NodeKind.ofArchitectureKeyword? keyword
  let (id, rest) ← cutName (Text.trimStart rest)
  let (icon, rest) ← Text.cutEnclosed '(' ')' rest
  let (label, rest) ← Text.cutEnclosed '[' ']' rest
  let parent ← parentClause? rest
  match Text.trim icon with
  | [] => none
  | icon =>
    some {
      id := String.ofList id
      label := labelOr id label
      kind
      icon := some (String.ofList icon)
      parent }

def ofArchitecture? (text : List Char) : Option Statement :=
  match architectureArrow? text with
  | some connection => some (arrow connection)
  | none => (architectureNode? text).map declare

def read? : Family → List Char → Option Statement
  | .flow => ofFlow?
  | .architecture => ofArchitecture?

end Statement

/-! ## What a statement does to the graph -/

namespace Graph

/-- The kind of a flow node that is only ever mentioned. -/
def mentionedKind (id : String) : NodeKind :=
  if id = "start" then .start else if id = "end" then .finish else .task

/-- Declares a flow node where an arrow mentions its id for the first time. -/
def mention (graph : Graph) (id : String) : Graph :=
  if graph.nodes.any (·.id == id) then
    graph
  else
    let node : Node := { id, label := id, kind := mentionedKind id, icon := none, parent := none }
    { graph with nodes := graph.nodes ++ [node] }

/-- Gives the first node with the id of `node` the kind and the label of `node`. -/
def refineFirst (node : Node) : List Node → List Node
  | [] => []
  | first :: rest =>
    if first.id = node.id then
      { first with kind := node.kind, label := node.label } :: rest
    else
      first :: refineFirst node rest

/-- Declares a flow node, or refines it in place where it has been declared before. -/
def refine (graph : Graph) (node : Node) : Graph :=
  if graph.nodes.any (·.id == node.id) then
    { graph with nodes := refineFirst node graph.nodes }
  else
    { graph with nodes := graph.nodes ++ [node] }

/-- Declares an architecture node. The first declaration of an id stands; a further one is
refused. -/
def declareFirst? (graph : Graph) (node : Node) : Option Graph :=
  if graph.nodes.any (·.id == node.id) then
    none
  else
    some { graph with nodes := graph.nodes ++ [node] }

def connect (graph : Graph) (connection : Connection) : Graph :=
  { graph with connections := graph.connections ++ [connection] }

/-- Adds to the graph what a statement says, unless the statement is refused. The arrows of a flow
mention their source and then their target. -/
def add? (graph : Graph) : Statement → Option Graph
  | .arrow connection =>
    match graph.family with
    | .flow =>
      some (((graph.mention connection.source).mention connection.target).connect connection)
    | .architecture => some (graph.connect connection)
  | .declare node =>
    match graph.family with
    | .flow => some (graph.refine node)
    | .architecture => graph.declareFirst? node

/-- Reads a statement and adds to the graph what it says. -/
def readStatement? (graph : Graph) (text : List Char) : Option Graph :=
  (Statement.read? graph.family text).bind graph.add?

end Graph

end TextDiagram
