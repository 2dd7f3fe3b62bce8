import TextDiagram.Text.Lines
import TextDiagram.Graph.Statement

/-!
# Reading a diagram text

The first significant line must be the header of the family. Every statement after it is read on
its own; one that the grammar refuses is skipped and reported, so text that is only partly
understood still gives a diagram. An architecture line is one statement. A flow line holds
statements separated by semicolons, where a semicolon inside square brackets or between bars
belongs to a label.
-/
namespace TextDiagram

/-- Why a text or a family name was refused as a whole. -/
inductive FormatError where
  | empty (family : Family)
  /-- The first significant line is not the header. -/
  | missingHeader (family : Family) (found : String)
  | unknownFamily (name : String)
deriving Repr, DecidableEq

namespace FormatError

def code : FormatError → String
  | empty _ | missingHeader _ _ => "E_FORMAT_HEADER"
  | unknownFamily _ => "E_FORMAT_DIAGRAM_TYPE"

def message : FormatError → String
  | empty family => "empty input: expected `" ++ family.header ++ "` header"
  | missingHeader family found =>
    "expected `" ++ family.header ++ "` header, found `" ++ found ++ "`"
  | unknownFamily name => "unsupported diagram type: " ++ name

end FormatError

/-- The family that a name means, or the error that there is none. -/
def Family.resolve (name : String) : Except FormatError Family :=
  match ofName? name with
  | some family => .ok family
  | none => .error (.unknownFamily name)

/-- A statement that was skipped, and the number of its line. -/
structure Diagnostic where
  line : Nat
  text : String
deriving Repr, DecidableEq

/-! ## Statements of a line -/

/-- Where a scan of a flow line stands: how many square brackets are open, and whether it is
between bars. Bars hide brackets and brackets hide bars. -/
structure Nesting where
  depth : Nat
  inBars : Bool
deriving Repr, DecidableEq

namespace Nesting

def outside : Nesting :=
  ⟨0, false⟩

/-- Whether a semicolon separates statements here. -/
def isOutside (nesting : Nesting) : Bool :=
  nesting.depth == 0 && !nesting.inBars

/-- Where the scan stands behind a character. A closing bracket that nothing opened is ignored. -/
def next (nesting : Nesting) (c : Char) : Nesting :=
  if c = '[' then
    if nesting.inBars then nesting else { nesting with depth := nesting.depth + 1 }
  else if c = ']' then
    if nesting.inBars then nesting else { nesting with depth := nesting.depth - 1 }
  else if c = '|' then
    if nesting.depth = 0 then { nesting with inBars := !nesting.inBars } else nesting
  else
    nesting

end Nesting

/-- The stretches of a flow line between the semicolons that separate, when the scan stands at
`nesting`. -/
def statementStretches (nesting : Nesting) : List Char → List (List Char)
  | [] => [[]]
  | c :: rest =>
    if c = ';' ∧ nesting.isOutside = true then
      [] :: statementStretches nesting rest
    else
      match statementStretches (nesting.next c) rest with
      | [] => [[c]]
      | first :: others => (c :: first) :: others

/-- The statements of a flow line: its stretches trimmed, without the empty ones. -/
def splitStatements (line : List Char) : List (List Char) :=
  ((statementStretches .outside line).map Text.trim).filter fun text => !text.isEmpty

/-- The statements of a line, each with the number of the line. -/
def Family.statements (family : Family) (line : Text.Line) : List Text.Line :=
  match family with
  | .flow => (splitStatements line.text).map fun text => ⟨line.number, text⟩
  | .architecture => [line]

/-! ## Whole texts -/

/-- What has been read of a text so far: the graph, and the statements skipped on the way. -/
structure Reading where
  graph : Graph
  skipped : List Diagnostic
deriving Repr, DecidableEq

namespace Reading

def step (reading : Reading) (statement : Text.Line) : Reading :=
  match reading.graph.readStatement? statement.text with
  | some graph => { reading with graph }
  | none =>
    let diagnostic : Diagnostic := ⟨statement.number, String.ofList statement.text⟩
    { reading with skipped := reading.skipped ++ [diagnostic] }

/-- Reads the statements of a text of the family, in order. -/
def ofStatements (family : Family) (statements : List Text.Line) : Reading :=
  statements.foldl step ⟨.empty family, []⟩

end Reading

/-- The statements behind the header of a text, or the error that the text does not open with
it. -/
def Family.body (family : Family) (text : List Char) : Except FormatError (List Text.Line) :=
  match Text.significantLines text with
  | [] => .error (.empty family)
  | first :: rest =>
    if first.text = family.header.toList then
      .ok (rest.flatMap family.statements)
    else
      .error (.missingHeader family (String.ofList first.text))

/-- Reads a text of the family: its graph, and every statement that was skipped. -/
def Graph.readWithDiagnostics (family : Family) (text : String) : Except FormatError Reading :=
  (family.body text.toList).map (Reading.ofStatements family)

/-- Reads a text of the family, passing over what the grammar refuses. -/
def Graph.read (family : Family) (text : String) : Except FormatError Graph :=
  (readWithDiagnostics family text).map Reading.graph

end TextDiagram
