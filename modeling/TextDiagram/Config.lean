import TextDiagram.Number.Scalar
import TextDiagram.Number.Notation
import TextDiagram.Text.Blank

/-!
# Settings

The distances that layouts keep, and the settings of a server. Every setting has a default, may be
replaced by a variable of the environment, and each distance may be replaced again by a single
request. A variable that cannot be read counts as absent.
-/
namespace TextDiagram

variable {α : Type}

/-- The room that a group leaves between its edges and its members. -/
structure Padding (α : Type) where
  top : α
  right : α
  bottom : α
  left : α
deriving Repr, DecidableEq

namespace Padding

variable [Scalar α]

def horizontal (padding : Padding α) : α :=
  padding.left + padding.right

def vertical (padding : Padding α) : α :=
  padding.top + padding.bottom

end Padding

/-- The distances that layouts keep. -/
structure Config (α : Type) where
  /-- Between the nodes of a flow row and between the columns of a grid. -/
  horizontalSpacing : α
  /-- From one flow row to the next and between the rows of a grid. -/
  verticalSpacing : α
  /-- How many columns a grid has at most. -/
  maxColumns : Nat
  groupPadding : Padding α
  minContainerWidth : α
  minContainerHeight : α
  /-- Between top-level groups. -/
  groupSpacing : α
  /-- Between the top-level groups and the nodes outside of all groups below them. -/
  orphanRowSpacing : α
  /-- Between imported content and the container drawn around it. -/
  containerPadding : α
deriving Repr, DecidableEq

/-- The settings of a layout that one request replaces. -/
structure Overrides (α : Type) where
  horizontalSpacing : Option α := none
  verticalSpacing : Option α := none
  maxColumns : Option Nat := none
  groupPadding : Option (Padding α) := none
  minContainerWidth : Option α := none
  minContainerHeight : Option α := none
  groupSpacing : Option α := none
  orphanRowSpacing : Option α := none
  containerPadding : Option α := none
deriving Repr, DecidableEq

namespace Config

/-- The distances of a layout where nothing else is set. -/
def default [Scalar α] : Config α where
  horizontalSpacing := Scalar.ofNat 60
  verticalSpacing := Scalar.ofNat 120
  maxColumns := 3
  groupPadding :=
    { top := Scalar.ofNat 40
      right := Scalar.ofNat 20
      bottom := Scalar.ofNat 20
      left := Scalar.ofNat 20 }
  minContainerWidth := Scalar.ofNat 200
  minContainerHeight := Scalar.ofNat 120
  groupSpacing := Scalar.ofNat 80
  orphanRowSpacing := Scalar.ofNat 80
  containerPadding := Scalar.ofNat 40

/-- The settings with those of a request in place of some. A grid keeps at least one column. -/
def override (config : Config α) (overrides : Overrides α) : Config α where
  horizontalSpacing := overrides.horizontalSpacing.getD config.horizontalSpacing
  verticalSpacing := overrides.verticalSpacing.getD config.verticalSpacing
  maxColumns := (overrides.maxColumns.map (max · 1)).getD config.maxColumns
  groupPadding := overrides.groupPadding.getD config.groupPadding
  minContainerWidth := overrides.minContainerWidth.getD config.minContainerWidth
  minContainerHeight := overrides.minContainerHeight.getD config.minContainerHeight
  groupSpacing := overrides.groupSpacing.getD config.groupSpacing
  orphanRowSpacing := overrides.orphanRowSpacing.getD config.orphanRowSpacing
  containerPadding := overrides.containerPadding.getD config.containerPadding

/-- The settings with those of a request in place of some, if the request has any. -/
def override? (config : Config α) (overrides : Option (Overrides α)) : Config α :=
  match overrides with
  | none => config
  | some overrides => config.override overrides

end Config

/-! ## The environment -/

/-- The variables of an environment and their texts. -/
abbrev Environment := List (String × String)

namespace Environment

/-- What a reader makes of a variable once it is trimmed; the default when the variable is absent
or cannot be read. -/
def setting {β : Type} (environment : Environment) (name : String) (read : List Char → Option β)
    (default : β) : β :=
  ((environment.lookup name).bind fun text => read (Text.trim text.toList)).getD default

/-- Reads a natural number up to a greatest one. -/
def readNatUpTo? (greatest : Nat) (text : List Char) : Option Nat :=
  (readNat? text).filter (· ≤ greatest)

def float (environment : Environment) (name : String) (default : Float) : Float :=
  environment.setting name readFloat? default

def count (environment : Environment) (name : String) (greatest default : Nat) : Nat :=
  environment.setting name (readNatUpTo? greatest) default

end Environment

def Config.ofEnvironment (environment : Environment) : Config Float :=
  let default : Config Float := .default
  { horizontalSpacing :=
      environment.float "LAYOUT_HORIZONTAL_SPACING" default.horizontalSpacing
    verticalSpacing :=
      environment.float "LAYOUT_VERTICAL_SPACING" default.verticalSpacing
    maxColumns :=
      max (environment.count "LAYOUT_MAX_COLUMNS" wordMax default.maxColumns) 1
    groupPadding :=
      { top := environment.float "LAYOUT_GROUP_PADDING_TOP" default.groupPadding.top
        right := environment.float "LAYOUT_GROUP_PADDING_RIGHT" default.groupPadding.right
        bottom := environment.float "LAYOUT_GROUP_PADDING_BOTTOM" default.groupPadding.bottom
        left := environment.float "LAYOUT_GROUP_PADDING_LEFT" default.groupPadding.left }
    minContainerWidth :=
      environment.float "LAYOUT_MIN_CONTAINER_WIDTH" default.minContainerWidth
    minContainerHeight :=
      environment.float "LAYOUT_MIN_CONTAINER_HEIGHT" default.minContainerHeight
    groupSpacing :=
      environment.float "LAYOUT_GROUP_SPACING" default.groupSpacing
    orphanRowSpacing :=
      environment.float "LAYOUT_ORPHAN_ROW_SPACING" default.orphanRowSpacing
    containerPadding :=
      environment.float "LAYOUT_CONTAINER_PADDING" default.containerPadding }

structure ServerSettings where
  port : Nat
  /-- Where a remote document store answers; without one, documents are kept in memory. -/
  storeUrl : Option String
  storeTimeoutSeconds : Nat
  undoDepth : Nat
  layout : Config Float

namespace ServerSettings

def defaultUndoDepth : Nat :=
  50

/-- The address of a store: trimmed, without slashes at its end, and none if nothing is left. -/
def readStoreUrl? (text : String) : Option String :=
  match Text.dropEndWhile (· == '/') (Text.trim text.toList) with
  | [] => none
  | address => some (String.ofList address)

def ofEnvironment (environment : Environment) : ServerSettings where
  port := environment.count "PORT" 65535 3000
  storeUrl := (environment.lookup "DIAGRAM_STORE_URL").bind readStoreUrl?
  storeTimeoutSeconds := environment.count "DIAGRAM_STORE_TIMEOUT_SECS" wordMax 30
  undoDepth := max (environment.count "UNDO_DEPTH" wordMax defaultUndoDepth) 1
  layout := .ofEnvironment environment

end ServerSettings

end TextDiagram
