import TextDiagram.Graph.Reading
import TextDiagram.Plan

/-!
# Reports

What a caller is told about an error: a stable code, the error in words, and whether the same call
may succeed when it is made again.
-/
namespace TextDiagram

/-- What a caller is told about an error. -/
structure Report where
  code : String
  message : String
  retryable : Bool
deriving Repr, DecidableEq

/-- A refused text stays refused. -/
def FormatError.report (error : FormatError) : Report :=
  ⟨error.code, error.message, false⟩

/-- A reference that cannot be resolved stays so. -/
def ReferenceError.report (error : ReferenceError) : Report :=
  ⟨error.code, error.message, false⟩

end TextDiagram
