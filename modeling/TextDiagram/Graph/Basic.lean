import TextDiagram.Text.Blank

/-!
# Graphs

What a diagram text says: a family, nodes in the order of their declaration and connections in the
order of their lines. The position of a node in this order is its index; layout, plans and
the ids of a document all refer to nodes by it.
-/
namespace TextDiagram

/-- The two kinds of diagram. A family selects the grammar of the text and the way it is laid
out. -/
inductive Family where
  /-- Process flows: events, tasks and gateways joined by arrows. -/
  | flow
  /-- Containment diagrams: groups that hold services and further groups. -/
  | architecture
deriving Repr, DecidableEq

namespace Family

/-- The line that opens a text of the family. -/
def header : Family → String
  | flow => "bpmn"
  | architecture => "architecture-beta"

def name : Family → String
  | flow => "flow"
  | architecture => "architecture"

/-- The family that a name means: its own name or its header, in any case of the ASCII letters
and between blanks. -/
def ofName? (text : String) : Option Family :=
  let key := (Text.trimString text).map Char.toLower
  if key = flow.name ∨ key = flow.header then
    some flow
  else if key = architecture.name ∨ key = architecture.header then
    some architecture
  else
    none

end Family

/-- What a node stands for. -/
inductive NodeKind where
  | start
  | finish
  | task
  | gateway
  /-- A container that sizes itself around its members. -/
  | group
  | service
deriving Repr, DecidableEq

namespace NodeKind

def keyword : NodeKind → String
  | start => "start"
  | finish => "end"
  | task => "task"
  | gateway => "gateway"
  | group => "group"
  | service => "service"

def all : List NodeKind :=
  [start, finish, task, gateway, group, service]

def ofKeyword? (word : String) : Option NodeKind :=
  all.find? (·.keyword = word)

/-- Whether nodes of the kind hold other nodes. -/
def isContainer : NodeKind → Bool
  | group => true
  | _ => false

end NodeKind

/-- The side of a box that a connector attaches to. -/
inductive Side where
  | north
  | south
  | east
  | west
deriving Repr, DecidableEq

namespace Side

def letter : Side → Char
  | north => 'N'
  | south => 'S'
  | east => 'E'
  | west => 'W'

def ofLetter? : Char → Option Side
  | 'N' => some north
  | 'S' => some south
  | 'E' => some east
  | 'W' => some west
  | _ => none

/-- The side that a text of a single letter writes. -/
def ofText? (text : String) : Option Side :=
  match text.toList with
  | [letter] => ofLetter? letter
  | _ => none

theorem ofLetter?_letter (side : Side) : ofLetter? side.letter = some side := by
  cases side <;> rfl

theorem letter_of_ofLetter? {c : Char} {side : Side} (read : ofLetter? c = some side) :
    side.letter = c := by
  unfold ofLetter? at read
  split at read <;> cases read <;> rfl

end Side

structure Node where
  id : String
  label : String
  kind : NodeKind
  icon : Option String
  /-- The id of the group the node is declared in. -/
  parent : Option String
deriving Repr, DecidableEq

/-- An arrow from `source` to `target`. -/
structure Connection where
  source : String
  target : String
  sourceSide : Option Side
  targetSide : Option Side
  bidirectional : Bool
  label : Option String
deriving Repr, DecidableEq

structure Graph where
  family : Family
  nodes : List Node
  connections : List Connection
deriving Repr, DecidableEq

namespace Graph

/-- A graph of the family that says nothing yet. -/
def empty (family : Family) : Graph :=
  ⟨family, [], []⟩

/-- The index of the first node with this id. -/
def nodeIndex? (graph : Graph) (id : String) : Option Nat :=
  graph.nodes.findIdx? (·.id == id)

end Graph

end TextDiagram
