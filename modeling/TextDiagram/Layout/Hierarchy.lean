import TextDiagram.Layout.Hierarchy.Forest

/-!
# The layout of a hierarchy

Top-level groups stand side by side, each around a grid of its members. The nodes outside of all
groups stand in a grid below them.
-/
namespace TextDiagram.Hierarchy

variable {α : Type} [Scalar α]

/-- The boxes of top-level groups of these sizes, side by side from `x` on. -/
def groupRow (config : Config α) (x : α) : List (Size α) → List (Box α)
  | [] => []
  | size :: rest =>
    ⟨x, Scalar.zero, size.width, size.height⟩ ::
      groupRow config (x + (size.width + config.groupSpacing)) rest

/-- Where the grid of the nodes outside of all groups starts. -/
def orphanTop (config : Config α) (groups : List (Size α)) : α :=
  if groups.isEmpty then
    Scalar.zero
  else
    Scalar.greatest (groups.map Size.height) + config.orphanRowSpacing

/-- The forest of some top-level nodes with the sizes of all nodes in it. -/
def measured (nodes : List Node) (config : Config α)
    (parent? : Fin nodes.length → Option (Fin nodes.length)) (tops : List (Fin nodes.length)) :
    Forest (Sized α nodes.length) :=
  measure config (fun i => (nodes.get i).kind.isContainer)
    (Forest.grow (children parent?) nodes.length tops)

/-- The box of every node, group by group and then the nodes outside of all groups. -/
def boxed (nodes : List Node) (config : Config α) : List (Boxed α nodes.length) :=
  let parents := parentTable nodes
  let (groups, orphans) := (roots parents.get).partition fun i => (nodes.get i).kind.isContainer
  let groupForest := measured nodes config parents.get groups
  let orphanForest := measured nodes config parents.get orphans
  let groupSizes := groupForest.tops.map Sized.size
  let orphanSizes := orphanForest.tops.map Sized.size
  let orphanBoxes := Grid.boxes config Scalar.zero (orphanTop config groupSizes) orphanSizes
  place config (groupRow config Scalar.zero groupSizes) groupForest ++
    place config orphanBoxes orphanForest

def boxOf {n : Nat} (boxed : List (Boxed α n)) (i : Fin n) : Box α :=
  match boxed.find? (·.index = i) with
  | none => ⟨Scalar.zero, Scalar.zero, Scalar.zero, Scalar.zero⟩
  | some found => found.box

/-- Lays out a hierarchy, in the order of the nodes. -/
def layout (nodes : List Node) (config : Config α) : List (Placed α) :=
  let boxed := boxed nodes config
  (List.finRange nodes.length).map fun i => ⟨nodes.get i, boxOf boxed i⟩

end TextDiagram.Hierarchy
