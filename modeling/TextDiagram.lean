import TextDiagram.Graph.Writing
import TextDiagram.Store.Memory
import TextDiagram.Store.Observed
import TextDiagram.Store.Address
import TextDiagram.Store.Remote
import TextDiagram.Api.Server
import TextDiagram.Proofs.Document.Keyed
import TextDiagram.Proofs.Document.Records
import TextDiagram.Proofs.Store.Calls
import TextDiagram.Proofs.Command.Addition
import TextDiagram.Proofs.Command.Content
import TextDiagram.Proofs.Command.Replacement
import TextDiagram.Proofs.Command.Reversal
import TextDiagram.Proofs.Command.Restoring
import TextDiagram.Proofs.Command.Change
import TextDiagram.Proofs.Session.Actions
import TextDiagram.Proofs.Session.Undoing
import TextDiagram.Proofs.Command.Container
import TextDiagram.Proofs.Command.Integrity
import TextDiagram.Proofs.Session.Integrity
import TextDiagram.Proofs.Session.Previewing
import TextDiagram.Proofs.Hierarchy.Ancestors
import TextDiagram.Proofs.Hierarchy.Unfolding
import TextDiagram.Proofs.Geometry.Exact
import TextDiagram.Proofs.Hierarchy.Cells
import TextDiagram.Proofs.Hierarchy.Places
import TextDiagram.Proofs.Hierarchy.Containment
import TextDiagram.Proofs.Hierarchy.Separation
import TextDiagram.Proofs.Flow.Laying
import TextDiagram.Proofs.Flow.Walking
import TextDiagram.Proofs.Flow.Placing
import TextDiagram.Proofs.Flow.Numbering
import TextDiagram.Proofs.Flow.Rows
import TextDiagram.Proofs.Flow.Spacing
import TextDiagram.Proofs.Flow.Coverage
import TextDiagram.Proofs.Command.Alike
import TextDiagram.Proofs.Session.Batching
import TextDiagram.Proofs.Text.Cutting
import TextDiagram.Proofs.Graph.FlowGrammar
import TextDiagram.Proofs.Graph.ArchitectureGrammar
import TextDiagram.Proofs.Graph.WellFormed
import TextDiagram.Proofs.Graph.Adding
import TextDiagram.Proofs.Graph.Reading
import TextDiagram.Proofs.Graph.Splitting
import TextDiagram.Proofs.Graph.Writing
import TextDiagram.Proofs.Graph.Skipping
import TextDiagram.Proofs.Graph.FlowParts
import TextDiagram.Proofs.Graph.Joining
import TextDiagram.Proofs.Graph.Declaring
import TextDiagram.Proofs.Graph.ArchitectureParts
import TextDiagram.Proofs.Session.Confinement
import TextDiagram.Proofs.Session.Isolation
import TextDiagram.Proofs.Store.Operations
import TextDiagram.Proofs.Hierarchy.Parents
import TextDiagram.Proofs.Flow.Branching
import TextDiagram.Proofs.Command.Updating
import TextDiagram.Proofs.Command.Checked
import TextDiagram.Proofs.Command.Retrying
import TextDiagram.Proofs.Command.PuttingBack
import TextDiagram.Proofs.Command.Alternating
import TextDiagram.Proofs.Store.OneByOne
import TextDiagram.Proofs.Session.Stacking
import TextDiagram.Proofs.Plan.Truncation
import TextDiagram.Proofs.Hierarchy.Placements
import TextDiagram.Proofs.Plan.Resolving
import TextDiagram.Proofs.Geometry.Bounding
import TextDiagram.Proofs.Plan.Moving
import TextDiagram.Proofs.Hierarchy.Tightness
import TextDiagram.Proofs.Command.Framing
import TextDiagram.Proofs.Graph.Reformatting
import TextDiagram.Proofs.Document.Overwriting
import TextDiagram.Proofs.Command.Overwriting
import TextDiagram.Proofs.Flow.Thinning
import TextDiagram.Proofs.Flow.Searching
import TextDiagram.Proofs.Graph.Parting
import TextDiagram.Proofs.Hierarchy.Indexing
