import Tiri.Layout.Floating
import Tiri.Layout.Output

/-!
# Workspaces

`struct Workspace` and its methods (`workspace.rs`, lines 44–1980): a scrolling space and a
floating space, one of which has the focus.  Rendering, shadows and the events to the clients
are left out.  What a window answers to `expected_size()`, and what geometry answers, are
arguments, as in `Scrolling` and `Floating`.
-/

namespace Tiri.Layout

abbrev WorkspaceId := ℕ

/-- `enum FloatingActive`: whether the floating space is active. -/
inductive FloatingActive
  | no
  /-- The scrolling space is active, but the floating windows stay on top. -/
  | noButRaised
  | yes
  deriving DecidableEq

/-- A named workspace of the configuration (`niri-config/src/workspace.rs`). -/
structure WorkspaceConfig where
  name : String
  openOnOutput : Option String
  layout : Option LayoutPart

inductive ActivateWindow
  | yes
  | smart
  | no

/-- `enum WorkspaceAddWindowTarget`: where to put a newly added window. -/
inductive WorkspaceAddWindowTarget (Id : Type)
  | auto
  | newColumnAt (colIdx : ℕ)
  | nextTo (window : Id)

/-- `struct Workspace` (`workspace.rs`, lines 44–110). -/
structure Workspace (Id : Type) where
  scrolling : ScrollingSpace Id
  floating : FloatingSpace Id
  floatingIsActive : FloatingActive
  originalOutput : OutputId
  output : Option Output
  scale : ℚ
  viewSize : Size
  workingArea : Rectangle
  baseOptions : Options
  options : Options
  name : Option String
  layoutConfig : Option LayoutPart
  id : WorkspaceId

variable {Id : Type}

def ActivateWindow.mapSmart (self : ActivateWindow) (f : Bool) : Bool :=
  match self with
  | .yes => true
  | .smart => f
  | .no => false

namespace Workspace

/-! ## New workspaces -/

/-- The options of a workspace: those it received, merged with its own, for its scale. -/
def resolveOptions (baseOptions : Options) (layoutConfig : Option LayoutPart) (scale : ℚ) :
    Options :=
  (baseOptions.withMergedLayout layoutConfig).adjustedForScale scale

variable (id : WorkspaceId)

/-- An empty workspace. -/
def newEmpty (originalOutput : OutputId) (output : Option Output) (geometry : OutputGeometry)
    (config : Option WorkspaceConfig) (baseOptions : Options) : Workspace Id :=
  let layoutConfig := config.bind (·.layout)
  let options := resolveOptions baseOptions layoutConfig geometry.scale
  { scrolling := .new geometry.viewSize geometry.workingArea geometry.scale options
    floating := .new geometry.viewSize geometry.workingArea geometry.scale options
    floatingIsActive := .no
    originalOutput := originalOutput
    output := output
    scale := geometry.scale
    viewSize := geometry.viewSize
    workingArea := geometry.workingArea
    baseOptions := baseOptions
    options := options
    name := config.map (·.name)
    layoutConfig := layoutConfig
    id := id }

/-- `new_with_config` (`workspace.rs`, lines 215–285). -/
def newWithConfig (geometry : Output → OutputGeometry) (output : Output)
    (config : Option WorkspaceConfig) (baseOptions : Options) : Workspace Id :=
  let originalOutput :=
    ((config.bind (·.openOnOutput)).map OutputId.mk).getD (OutputId.new output)
  newEmpty id originalOutput (some output) (geometry output) config baseOptions

def new (geometry : Output → OutputGeometry) (output : Output) (options : Options) : Workspace Id :=
  newWithConfig id geometry output none options

/-- The size of a workspace while there are no outputs. -/
def noOutputsGeometry : OutputGeometry := ⟨1, ⟨1280, 720⟩, ⟨0, 0, ⟨1280, 720⟩⟩⟩

/-- `new_with_config_no_outputs` (`workspace.rs`, lines 287–350). -/
def newWithConfigNoOutputs (config : Option WorkspaceConfig) (baseOptions : Options) :
    Workspace Id :=
  newEmpty id ⟨(config.bind (·.openOnOutput)).getD ""⟩ none noOutputsGeometry config baseOptions

def newNoOutputs (options : Options) : Workspace Id :=
  newWithConfigNoOutputs id none options

/-! ## Reading a workspace -/

variable (self : Workspace Id)

def tiles : List (Tile Id) := self.scrolling.tiles ++ self.floating.tiles

/-- The ids of the windows. -/
def ids : List Id := self.scrolling.ids ++ self.floating.ids

def hasWindows : Bool := !self.tiles.isEmpty

def hasWindow [DecidableEq Id] (self : Workspace Id) (window : Id) : Bool :=
  self.tiles.any (·.id = window)

def hasWindowsOrName : Bool := self.hasWindows || self.name.isSome

/-- `floating_is_active`. -/
def isFloatingActive : Bool := self.floatingIsActive = .yes

def activeWindow [DecidableEq Id] (self : Workspace Id) : Option (Window Id) :=
  if self.isFloatingActive then self.floating.activeWindow else self.scrolling.activeWindow

def unname : Workspace Id := { self with name := none }

/-! ## Configuration and output -/

/-- Both spaces take over the current sizes and these options. -/
def updateSpaces (options : Options) : Option (Workspace Id) := do
  let scrolling ← self.scrolling.updateConfig self.viewSize self.workingArea self.scale options
  return { self with
    scrolling := scrolling
    floating := self.floating.updateConfig self.viewSize self.workingArea self.scale options }

/-- `update_config` (`workspace.rs`, lines 392–427). -/
def updateConfig (baseOptions : Options) : Option (Workspace Id) := do
  let options := resolveOptions baseOptions self.layoutConfig self.scale
  let self ← self.updateSpaces options
  return { self with baseOptions := baseOptions, options := options }

def updateLayoutConfig (layoutConfig : Option LayoutPart) : Option (Workspace Id) :=
  if self.layoutConfig = layoutConfig then some self
  else ({ self with layoutConfig := layoutConfig } : Workspace Id).updateConfig self.baseOptions

/-- `set_view_size` (`workspace.rs`, lines 530–585); a transform alone changes nothing here. -/
def setViewSize (geometry : OutputGeometry) : Option (Workspace Id) :=
  if self.scale = geometry.scale ∧ self.viewSize = geometry.viewSize ∧
      self.workingArea = geometry.workingArea then
    some self
  else
    let resized : Workspace Id := { self with
      scale := geometry.scale
      viewSize := geometry.viewSize
      workingArea := geometry.workingArea }
    if self.scale ≠ geometry.scale then
      -- Options need to be recomputed for the new scale.
      resized.updateConfig self.baseOptions
    else
      resized.updateSpaces self.options

def updateOutputSize (geometry : Output → OutputGeometry) : Option (Workspace Id) := do
  let output ← self.output
  self.setViewSize (geometry output)

/-- `set_output` (`workspace.rs`, lines 490–515): the original output takes the form of its
name that `OutputId::new` gives. -/
def setOutput (geometry : Output → OutputGeometry) (output : Option Output) :
    Option (Workspace Id) :=
  if self.output = output then some self
  else
    match output with
    | none => some { self with output := none }
    | some output =>
      ({ self with
          output := some output
          originalOutput :=
            if self.originalOutput.matchesOutput output then OutputId.new output
            else self.originalOutput } : Workspace Id).updateOutputSize geometry

/-! ## Windows in and out -/

def makeTile (window : Window Id) : Tile Id :=
  Tile.new window self.viewSize self.scale self.options

/-- Add a tile to the scrolling space, which gets the focus with the tile. -/
def addToScrolling (activate : Bool) (scrolling : Option (ScrollingSpace Id)) :
    Option (Workspace Id) := do
  let scrolling ← scrolling
  return { self with
    scrolling := scrolling
    floatingIsActive := if activate then .no else self.floatingIsActive }

/-- Add a tile to the floating space, which gets the focus with the tile, or when it is the
only space with windows. -/
def addToFloating (activate : Bool) (floating : Option (FloatingSpace Id)) :
    Option (Workspace Id) := do
  let floating ← floating
  return { self with
    floating := floating
    floatingIsActive :=
      if activate || self.scrolling.isEmpty then .yes else self.floatingIsActive }

/-- `add_tile` (`workspace.rs`, lines 601–690). -/
def addTile [DecidableEq Id] (self : Workspace Id) (tile : Tile Id)
    (target : WorkspaceAddWindowTarget Id) (activate : ActivateWindow) (width : ColumnWidth)
    (isFullWidth isFloating : Bool) : Option (Workspace Id) := do
  let tile : Tile Id := { tile with restoreToFloating := isFloating }
  -- A tile that is pending maximized or fullscreen opens in the scrolling layout.
  let floats := isFloating && tile.window.pendingSizingMode = .normal
  match target with
  | .auto =>
    -- Don't steal focus from an active fullscreen window.
    let activate := activate.mapSmart !self.scrolling.isActivePendingFullscreen
    if floats then
      self.addToFloating activate (self.floating.addTile tile activate)
    else
      self.addToScrolling activate (self.scrolling.addTile none tile activate width isFullWidth)
  | .newColumnAt colIdx =>
    let activate := activate.mapSmart false
    self.addToScrolling activate
      (self.scrolling.addTile (some colIdx) tile activate width isFullWidth)
  | .nextTo nextTo =>
    let activate ← (match activate with
      | .yes => some true
      | .no => some false
      | .smart => self.activeWindow.map fun win => win.id = nextTo)
    let floatingHasWindow := self.floating.hasWindow nextTo
    if floats then
      if floatingHasWindow then
        self.addToFloating activate (self.floating.addTileAbove nextTo tile activate)
      else
        let _ ← self.scrolling.findTile nextTo
        self.addToFloating activate (self.floating.addTile tile activate)
    else if floatingHasWindow then
      self.addToScrolling activate (self.scrolling.addTile none tile activate width isFullWidth)
    else
      self.addToScrolling activate
        (self.scrolling.addTileRightOf nextTo tile activate width isFullWidth)

def addTileToColumn (colIdx : ℕ) (tileIdx : Option ℕ) (tile : Tile Id) (activate : Bool) :
    Option (Workspace Id) :=
  self.addToScrolling activate (self.scrolling.addTileToColumn colIdx tileIdx tile activate)

def addColumn (column : Column Id) (activate : Bool) : Option (Workspace Id) :=
  self.addToScrolling activate (self.scrolling.addColumn none column activate)

def updateFocusFloatingTilingAfterRemoving (removedFromFloating : Bool) : Workspace Id :=
  if removedFromFloating then
    if self.floating.isEmpty then { self with floatingIsActive := .no } else self
  else
    -- Scrolling should remain focused if both are empty.
    if self.scrolling.isEmpty && !self.floating.isEmpty then
      { self with floatingIsActive := .yes }
    else self

def removeTile [DecidableEq Id] (self : Workspace Id) (id : Id) (expected : Option ISize) :
    Option (RemovedTile Id × Workspace Id) :=
  if self.floating.hasWindow id then do
    let (removed, floating) ← self.floating.removeTile id expected
    return (removed,
      ({ self with floating := floating } : Workspace Id).updateFocusFloatingTilingAfterRemoving
        true)
  else do
    let (removed, scrolling) ← self.scrolling.removeTile id
    return (removed,
      ({ self with scrolling := scrolling } : Workspace Id).updateFocusFloatingTilingAfterRemoving
        false)

def removeActiveTile [DecidableEq Id] (self : Workspace Id) (expected : Option ISize) :
    Option (Option (RemovedTile Id) × Workspace Id) :=
  if self.isFloatingActive then do
    let (removed, floating) ← self.floating.removeActiveTile expected
    if removed.isNone then
      return (none, self)
    return (removed,
      ({ self with floating := floating } : Workspace Id).updateFocusFloatingTilingAfterRemoving
        true)
  else do
    let (removed, scrolling) ← self.scrolling.removeActiveTile
    if removed.isNone then
      return (none, self)
    return (removed,
      ({ self with scrolling := scrolling } : Workspace Id).updateFocusFloatingTilingAfterRemoving
        false)

def removeActiveColumn [DecidableEq Id] (self : Workspace Id) :
    Option (Option (Column Id) × Workspace Id) :=
  if self.isFloatingActive then some (none, self)
  else do
    let (column, scrolling) ← self.scrolling.removeActiveColumn
    if column.isNone then
      return (none, self)
    return (column,
      ({ self with scrolling := scrolling } : Workspace Id).updateFocusFloatingTilingAfterRemoving
        false)

/-! ## Operations on one of the spaces -/

/-- Change the scrolling space. -/
def onScrolling (f : ScrollingSpace Id → Option (ScrollingSpace Id)) : Option (Workspace Id) := do
  let scrolling ← f self.scrolling
  return { self with scrolling := scrolling }

/-- Change the floating space. -/
def onFloating (f : FloatingSpace Id → Option (FloatingSpace Id)) : Option (Workspace Id) := do
  let floating ← f self.floating
  return { self with floating := floating }

/-- Change the active space. -/
def onActive (f : FloatingSpace Id → Option (FloatingSpace Id))
    (g : ScrollingSpace Id → Option (ScrollingSpace Id)) : Option (Workspace Id) :=
  if self.isFloatingActive then self.onFloating f else self.onScrolling g

/-- Change the active space; the answer says whether anything was done. -/
def onActiveAnd (f : FloatingSpace Id → Option (FloatingSpace Id × Bool))
    (g : ScrollingSpace Id → Option (ScrollingSpace Id × Bool)) : Option (Workspace Id × Bool) :=
  if self.isFloatingActive then do
    let (floating, answer) ← f self.floating
    return ({ self with floating := floating }, answer)
  else do
    let (scrolling, answer) ← g self.scrolling
    return ({ self with scrolling := scrolling }, answer)

/-- Change the scrolling space, unless the floating space is active. -/
def onTiling (g : ScrollingSpace Id → Option (ScrollingSpace Id)) : Option (Workspace Id) :=
  self.onActive some g

/-- Whether the window an operation is about floats: the one named, or the active one. -/
def targetFloats [DecidableEq Id] (self : Workspace Id) : Option Id → Bool
  | some id => self.floating.hasWindow id
  | none => self.isFloatingActive

/-- Change the space that holds the window named, or the active one. -/
def onTarget [DecidableEq Id] (self : Workspace Id) (window : Option Id)
    (f : FloatingSpace Id → Option (FloatingSpace Id))
    (g : ScrollingSpace Id → Option (ScrollingSpace Id)) : Option (Workspace Id) :=
  if self.targetFloats window then self.onFloating f else self.onScrolling g

/-- Report that something was done. -/
def reporting {α : Type} (f : α → Option α) (a : α) : Option (α × Bool) :=
  (f a).map fun b => (b, true)

/-! ## Focus -/

section Focus

variable [DecidableEq Id]

variable (self : Workspace Id)

/-- `focus_left`; `nearest` is the closest floating tile in that direction, here and below. -/
def focusLeft (nearest : Option Id) : Option (Workspace Id × Bool) :=
  self.onActiveAnd (·.focusDirectional nearest) ScrollingSpace.focusLeft

def focusRight (nearest : Option Id) : Option (Workspace Id × Bool) :=
  self.onActiveAnd (·.focusDirectional nearest) ScrollingSpace.focusRight

def focusDown (nearest : Option Id) : Option (Workspace Id × Bool) :=
  self.onActiveAnd (·.focusDirectional nearest) ScrollingSpace.focusDown

def focusUp (nearest : Option Id) : Option (Workspace Id × Bool) :=
  self.onActiveAnd (·.focusDirectional nearest) ScrollingSpace.focusUp

/-- `focus_column_first`; `outermost` is the floating tile farthest in that direction, here and
below. -/
def focusColumnFirst (outermost : Option Id) : Option (Workspace Id) :=
  self.onActive (·.focusOutermost outermost) ScrollingSpace.focusColumnFirst

def focusColumnLast (outermost : Option Id) : Option (Workspace Id) :=
  self.onActive (·.focusOutermost outermost) ScrollingSpace.focusColumnLast

def focusWindowTop (outermost : Option Id) : Option (Workspace Id) :=
  self.onActive (·.focusOutermost outermost) ScrollingSpace.focusTop

def focusWindowBottom (outermost : Option Id) : Option (Workspace Id) :=
  self.onActive (·.focusOutermost outermost) ScrollingSpace.focusBottom

/-- In one direction if possible, else to the other end. -/
def focusOr (f : Workspace Id → Option (Workspace Id × Bool))
    (g : Workspace Id → Option (Workspace Id)) : Option (Workspace Id) := do
  let (self, moved) ← f self
  if moved then return self else g self

def focusColumnRightOrFirst (nearest outermost : Option Id) : Option (Workspace Id) :=
  self.focusOr (·.focusRight nearest) (·.focusColumnFirst outermost)

def focusColumnLeftOrLast (nearest outermost : Option Id) : Option (Workspace Id) :=
  self.focusOr (·.focusLeft nearest) (·.focusColumnLast outermost)

def focusWindowDownOrTop (nearest outermost : Option Id) : Option (Workspace Id) :=
  self.focusOr (·.focusDown nearest) (·.focusWindowTop outermost)

def focusWindowUpOrBottom (nearest outermost : Option Id) : Option (Workspace Id) :=
  self.focusOr (·.focusUp nearest) (·.focusWindowBottom outermost)

/-- Without the answer. -/
def quietly {α : Type} (f : α → Option (α × Bool)) (a : α) : Option α := (f a).map Prod.fst

def focusDownOrLeft (nearest : Option Id) : Option (Workspace Id) :=
  self.onActive (quietly (·.focusDirectional nearest)) ScrollingSpace.focusDownOrLeft

def focusDownOrRight (nearest : Option Id) : Option (Workspace Id) :=
  self.onActive (quietly (·.focusDirectional nearest)) ScrollingSpace.focusDownOrRight

def focusUpOrLeft (nearest : Option Id) : Option (Workspace Id) :=
  self.onActive (quietly (·.focusDirectional nearest)) ScrollingSpace.focusUpOrLeft

def focusUpOrRight (nearest : Option Id) : Option (Workspace Id) :=
  self.onActive (quietly (·.focusDirectional nearest)) ScrollingSpace.focusUpOrRight

/-- `switch_focus_floating_tiling`: only between two spaces that both have windows. -/
def switchFocusFloatingTiling : Workspace Id :=
  if self.floating.isEmpty then self
  else if self.scrolling.isEmpty then self
  else { self with floatingIsActive := if self.isFloatingActive then .no else .yes }

def focusFloating : Workspace Id :=
  if self.isFloatingActive then self else self.switchFocusFloatingTiling

def focusTiling : Workspace Id :=
  if self.isFloatingActive then self.switchFocusFloatingTiling else self

def focusColumn (index : ℕ) : Option (Workspace Id) :=
  self.focusTiling.onScrolling (·.focusColumn index)

def focusWindowInColumn (index : ℕ) : Option (Workspace Id) :=
  self.onTiling (·.focusWindowInColumn index)

def activateWindow (window : Id) : Option (Workspace Id × Bool) := do
  let (floating, found) ← self.floating.activateWindow window
  if found then
    return ({ self with floating := floating, floatingIsActive := .yes }, true)
  let (scrolling, found) ← self.scrolling.activateWindow window
  if found then
    return ({ self with scrolling := scrolling, floatingIsActive := .no }, true)
  return (self, false)

def activateWindowWithoutRaising (window : Id) : Option (Workspace Id × Bool) := do
  let (floating, found) := self.floating.activateWindowWithoutRaising window
  if found then
    return ({ self with floating := floating, floatingIsActive := .yes }, true)
  let (scrolling, found) ← self.scrolling.activateWindow window
  if found then
    return ({ self with
      scrolling := scrolling
      floatingIsActive :=
        if self.floatingIsActive = .yes then .noButRaised else self.floatingIsActive }, true)
  return (self, false)

end Focus

/-! ## Movement -/

section Movement

variable [DecidableEq Id]

variable (self : Workspace Id)

def moveLeft : Option (Workspace Id × Bool) :=
  self.onActiveAnd (reporting (·.moveWindow none)) ScrollingSpace.moveLeft

def moveRight : Option (Workspace Id × Bool) :=
  self.onActiveAnd (reporting (·.moveWindow none)) ScrollingSpace.moveRight

def moveDown : Option (Workspace Id × Bool) :=
  self.onActiveAnd (reporting (·.moveWindow none)) ScrollingSpace.moveDown

def moveUp : Option (Workspace Id × Bool) :=
  self.onActiveAnd (reporting (·.moveWindow none)) ScrollingSpace.moveUp

def moveColumnToFirst : Option (Workspace Id) :=
  self.onTiling ScrollingSpace.moveColumnToFirst

def moveColumnToLast : Option (Workspace Id) :=
  self.onTiling ScrollingSpace.moveColumnToLast

def moveColumnToIndex (index : ℕ) : Option (Workspace Id) :=
  self.onTiling (·.moveColumnToIndex index)

def consumeOrExpelWindowLeft (window : Option Id) : Option (Workspace Id) :=
  self.onTarget window some (·.consumeOrExpelWindowLeft window)

def consumeOrExpelWindowRight (window : Option Id) : Option (Workspace Id) :=
  self.onTarget window some (·.consumeOrExpelWindowRight window)

def consumeIntoColumn : Option (Workspace Id) :=
  self.onTiling ScrollingSpace.consumeIntoColumn

def expelFromColumn : Option (Workspace Id) :=
  self.onTiling ScrollingSpace.expelFromColumn

def swapWindowInDirection (direction : ScrollDirection) : Option (Workspace Id) :=
  self.onTiling (·.swapWindowInDirection direction)

def toggleColumnTabbedDisplay : Option (Workspace Id) :=
  self.onTiling ScrollingSpace.toggleColumnTabbedDisplay

def setColumnDisplay (display : ColumnDisplay) : Option (Workspace Id) :=
  self.onTiling (·.setColumnDisplay display)

def centerColumn : Option (Workspace Id) :=
  self.onActive (·.moveWindow none) ScrollingSpace.centerColumn

def centerWindow (window : Option Id) : Option (Workspace Id) :=
  self.onTarget window (·.moveWindow window) (·.centerWindow window)

/-- `center_visible_columns` and `align_visible_columns_left`. -/
def alignVisibleColumns (activeVisible : Bool) : Option (Workspace Id) :=
  self.onTiling (·.alignVisibleColumns activeVisible)

/-- `move_floating_window`: a window that does not float only remembers the position. -/
def moveFloatingWindow (window : Option Id) : Option (Workspace Id) :=
  self.onTarget window (·.moveWindow window) fun scrolling =>
    match window with
    | none => some scrolling
    | some id => do
      let _ ← scrolling.findTile id
      return scrolling

end Movement

/-! ## Sizes -/

section Sizes

variable [DecidableEq Id]

variable (self : Workspace Id)

def toggleWidth (forwards : Bool) (expected : Option ISize) : Option (Workspace Id) :=
  self.onActive (·.toggleWindowSize none) (·.toggleWidth forwards expected)

def toggleFullWidth : Option (Workspace Id) :=
  self.onTiling ScrollingSpace.toggleFullWidth

def setColumnWidth (change : SizeChange) : Option (Workspace Id) :=
  self.onActive (·.setWindowSize none) (·.setWindowWidth none change)

def setWindowWidth (window : Option Id) (change : SizeChange) : Option (Workspace Id) :=
  self.onTarget window (·.setWindowSize window) (·.setWindowWidth window change)

def setWindowHeight (window : Option Id) (change : SizeChange) : Option (Workspace Id) :=
  self.onTarget window (·.setWindowSize window) (·.setWindowHeight window change)

def resetWindowHeight (window : Option Id) : Option (Workspace Id) :=
  self.onTarget window some (·.resetWindowHeight window)

def toggleWindowWidth (window : Option Id) (forwards : Bool) (expected : Option ISize) :
    Option (Workspace Id) :=
  self.onTarget window (·.toggleWindowSize window) (·.toggleWindowWidth window forwards expected)

def toggleWindowHeight (window : Option Id) (forwards : Bool) : Option (Workspace Id) :=
  self.onTarget window (·.toggleWindowSize window) (·.toggleWindowHeight window forwards)

def expandColumnToAvailableWidth (view : ScrollingSpace.ExpandView) : Option (Workspace Id) :=
  self.onTiling (·.expandColumnToAvailableWidth view)

end Sizes

/-! ## Floating, fullscreen, maximized -/

section Modes

variable [DecidableEq Id]

variable (self : Workspace Id)

/-- `toggle_window_floating` (`workspace.rs`, lines 1375–1440). -/
def toggleWindowFloating (id : Option Id) (expected : Option ISize) : Option (Workspace Id) :=
  let activeId := self.activeWindow.map Window.id
  let targetIsActive := id.isNone || id = activeId
  match id.or activeId with
  | none => some self
  | some id => do
    let _ ← self.tiles.find? (·.id = id)
    if self.floating.hasWindow id then
      let (removed, floating) ← self.floating.removeTile id expected
      let scrolling ← self.scrolling.addTile none removed.tile targetIsActive removed.width
        removed.isFullWidth
      return { self with
        scrolling := scrolling
        floating := floating
        floatingIsActive := if targetIsActive then .no else self.floatingIsActive }
    else
      let (removed, scrolling) ← self.scrolling.removeTile id
      let floating ← self.floating.addTile removed.tile targetIsActive
      return { self with
        scrolling := scrolling
        floating := floating
        floatingIsActive := if targetIsActive then .yes else self.floatingIsActive }

def setWindowFloating (id : Option Id) (floating : Bool) (expected : Option ISize) :
    Option (Workspace Id) :=
  if self.targetFloats id = floating then some self else self.toggleWindowFloating id expected

/-- The end of `set_fullscreen` and `set_maximized`: `set` changes the mode of the window's
column, and a window that leaves normal sizing remembers whether to float again. -/
def setMode (set : ScrollingSpace Id → Option (ScrollingSpace Id × Bool)) (window : Id)
    (restoreToFloating : Bool) : Option (Workspace Id) := do
  let tile ← self.scrolling.findTile window
  let wasNormal := tile.window.pendingSizingMode = .normal
  let (scrolling, _) ← set self.scrolling
  let tile ← scrolling.findTile window
  if wasNormal ∧ tile.window.pendingSizingMode ≠ .normal then
    let scrolling ← scrolling.setRestoreToFloating window restoreToFloating
    return { self with scrolling := scrolling }
  else
    return { self with scrolling := scrolling }

/-- `set_fullscreen` (`workspace.rs`, lines 1265–1315). -/
def setFullscreen (window : Id) (isFullscreen : Bool) (expected : Option ISize) :
    Option (Workspace Id) := do
  if self.floating.hasWindow window then
    if isFullscreen then
      let self ← self.toggleWindowFloating (some window) expected
      self.setMode (·.setFullscreen window true) window true
    else
      -- Floating windows are never fullscreen.
      return self
  else if isFullscreen then
    self.setMode (·.setFullscreen window true) window false
  else
    let colIdx ← self.scrolling.columnOf window
    let col ← self.scrolling.columns[colIdx]?
    let tile ← col.tiles.find? (·.id = window)
    -- When going from fullscreen to maximized, `restore_to_floating` does not count yet.
    if col.isPendingFullscreen && !col.isPendingMaximized && tile.restoreToFloating then
      self.toggleWindowFloating (some window) expected
    else
      self.setMode (·.setFullscreen window false) window false

def toggleFullscreen (window : Id) (expected : Option ISize) : Option (Workspace Id) := do
  let tile ← self.tiles.find? (·.id = window)
  self.setFullscreen window (tile.window.pendingSizingMode ≠ .fullscreen) expected

/-- `set_maximized` (`workspace.rs`, lines 1327–1373). -/
def setMaximized (window : Id) (maximize : Bool) (expected : Option ISize) :
    Option (Workspace Id) := do
  if self.floating.hasWindow window then
    if maximize then
      let self ← self.toggleWindowFloating (some window) expected
      self.setMode (·.setMaximized window true) window true
    else
      -- Floating windows are never maximized.
      return self
  else if maximize then
    self.setMode (·.setMaximized window true) window false
  else
    let tile ← self.scrolling.findTile window
    -- A fullscreen tile cannot unmaximize: its mode is fullscreen, and not maximized.
    if tile.window.pendingSizingMode = .maximized ∧ tile.restoreToFloating then
      self.toggleWindowFloating (some window) expected
    else
      self.setMode (·.setMaximized window false) window false

/-- `toggle_maximized`: only the column knows whether it is maximized besides fullscreen. -/
def toggleMaximized (window : Id) (expected : Option ISize) : Option (Workspace Id) :=
  let current :=
    ((self.scrolling.columns.find? (·.contains window)).map (·.isPendingMaximized)).getD false
  self.setMaximized window (!current) expected

end Modes

/-! ## Commits, gestures and resizes -/

section Events

variable [DecidableEq Id]

variable (self : Workspace Id)

/-- `update_window`: the window commits `state`. -/
def updateWindow (window : Id) (state : WindowState) : Option (Workspace Id) := do
  let (floating, found) ← self.floating.updateWindow window state
  if found then
    return { self with floating := floating }
  else
    self.onScrolling (·.updateWindow window state)

def descendantsAdded (id : Id) : Option (Workspace Id × Bool) := do
  let (floating, found) ← self.floating.descendantsAdded id
  return ({ self with floating := floating }, found)

/-- `view_offset_gesture_end`: the view snaps to the column `newColIdx`. -/
def viewOffsetGestureEnd (newColIdx : ℕ) : Option (Workspace Id) :=
  self.onScrolling (·.viewOffsetGestureEnd newColIdx)

def dndScrollGestureBegin (ongoing : Bool) : Workspace Id :=
  { self with scrolling := self.scrolling.dndScrollGestureBegin ongoing }

def interactiveResizeBegin (window : Id) (edges : ResizeEdge) : Option (Workspace Id) :=
  self.onTarget (some window) (quietly (·.interactiveResizeBegin window edges))
    (quietly (·.interactiveResizeBegin window edges))

def interactiveResizeUpdate (window : Id) (dx dy : ℚ) : Option (Workspace Id) :=
  self.onTarget (some window) (quietly (·.interactiveResizeUpdate window))
    (quietly (·.interactiveResizeUpdate window dx dy))

def interactiveResizeEnd : Option Id → Workspace Id
  | some window =>
    if self.floating.hasWindow window then
      { self with floating := self.floating.interactiveResizeEnd (some window) }
    else
      { self with scrolling := self.scrolling.interactiveResizeEnd (some window) }
  | none =>
    { self with
      floating := self.floating.interactiveResizeEnd none
      scrolling := self.scrolling.interactiveResizeEnd none }

end Events

/-! ## The operations that stay inside a workspace -/

/-- The operations on a workspace that bring no window and take none away, with what geometry
and the clients answer. -/
inductive Op (Id : Type)
  | focusLeft (nearest : Option Id)
  | focusRight (nearest : Option Id)
  | focusDown (nearest : Option Id)
  | focusUp (nearest : Option Id)
  | focusColumnFirst (outermost : Option Id)
  | focusColumnLast (outermost : Option Id)
  | focusWindowTop (outermost : Option Id)
  | focusWindowBottom (outermost : Option Id)
  | focusColumnRightOrFirst (nearest outermost : Option Id)
  | focusColumnLeftOrLast (nearest outermost : Option Id)
  | focusWindowDownOrTop (nearest outermost : Option Id)
  | focusWindowUpOrBottom (nearest outermost : Option Id)
  | focusDownOrLeft (nearest : Option Id)
  | focusDownOrRight (nearest : Option Id)
  | focusUpOrLeft (nearest : Option Id)
  | focusUpOrRight (nearest : Option Id)
  | switchFocusFloatingTiling
  | focusFloating
  | focusTiling
  | focusColumn (index : ℕ)
  | focusWindowInColumn (index : ℕ)
  | activateWindow (window : Id)
  | activateWindowWithoutRaising (window : Id)
  | moveLeft
  | moveRight
  | moveDown
  | moveUp
  | moveColumnToFirst
  | moveColumnToLast
  | moveColumnToIndex (index : ℕ)
  | consumeOrExpelWindowLeft (window : Option Id)
  | consumeOrExpelWindowRight (window : Option Id)
  | consumeIntoColumn
  | expelFromColumn
  | swapWindowInDirection (direction : ScrollDirection)
  | toggleColumnTabbedDisplay
  | setColumnDisplay (display : ColumnDisplay)
  | centerColumn
  | centerWindow (window : Option Id)
  | alignVisibleColumns (activeVisible : Bool)
  | moveFloatingWindow (window : Option Id)
  | toggleWidth (forwards : Bool) (expected : Option ISize)
  | toggleFullWidth
  | setColumnWidth (change : SizeChange)
  | setWindowWidth (window : Option Id) (change : SizeChange)
  | setWindowHeight (window : Option Id) (change : SizeChange)
  | resetWindowHeight (window : Option Id)
  | toggleWindowWidth (window : Option Id) (forwards : Bool) (expected : Option ISize)
  | toggleWindowHeight (window : Option Id) (forwards : Bool)
  | expandColumnToAvailableWidth (view : ScrollingSpace.ExpandView)
  | toggleWindowFloating (window : Option Id) (expected : Option ISize)
  | setWindowFloating (window : Option Id) (floating : Bool) (expected : Option ISize)
  | setFullscreen (window : Id) (isFullscreen : Bool) (expected : Option ISize)
  | toggleFullscreen (window : Id) (expected : Option ISize)
  | setMaximized (window : Id) (maximize : Bool) (expected : Option ISize)
  | toggleMaximized (window : Id) (expected : Option ISize)
  | updateWindow (window : Id) (state : WindowState)
  | descendantsAdded (window : Id)
  | viewOffsetGestureEnd (newColIdx : ℕ)
  | dndScrollGestureBegin (ongoing : Bool)
  | interactiveResizeBegin (window : Id) (edges : ResizeEdge)
  | interactiveResizeUpdate (window : Id) (dx dy : ℚ)
  | interactiveResizeEnd (window : Option Id)
  | updateConfig (baseOptions : Options)
  | updateLayoutConfig (layoutConfig : Option LayoutPart)
  | updateOutputSize (geometry : Output → OutputGeometry)

/-- What an operation does to the workspace; what it returns besides is dropped. -/
def Op.run [DecidableEq Id] (w : Workspace Id) : Op Id → Option (Workspace Id)
  | focusLeft nearest => quietly (·.focusLeft nearest) w
  | focusRight nearest => quietly (·.focusRight nearest) w
  | focusDown nearest => quietly (·.focusDown nearest) w
  | focusUp nearest => quietly (·.focusUp nearest) w
  | focusColumnFirst outermost => w.focusColumnFirst outermost
  | focusColumnLast outermost => w.focusColumnLast outermost
  | focusWindowTop outermost => w.focusWindowTop outermost
  | focusWindowBottom outermost => w.focusWindowBottom outermost
  | focusColumnRightOrFirst nearest outermost => w.focusColumnRightOrFirst nearest outermost
  | focusColumnLeftOrLast nearest outermost => w.focusColumnLeftOrLast nearest outermost
  | focusWindowDownOrTop nearest outermost => w.focusWindowDownOrTop nearest outermost
  | focusWindowUpOrBottom nearest outermost => w.focusWindowUpOrBottom nearest outermost
  | focusDownOrLeft nearest => w.focusDownOrLeft nearest
  | focusDownOrRight nearest => w.focusDownOrRight nearest
  | focusUpOrLeft nearest => w.focusUpOrLeft nearest
  | focusUpOrRight nearest => w.focusUpOrRight nearest
  | switchFocusFloatingTiling => some w.switchFocusFloatingTiling
  | focusFloating => some w.focusFloating
  | focusTiling => some w.focusTiling
  | focusColumn index => w.focusColumn index
  | focusWindowInColumn index => w.focusWindowInColumn index
  | activateWindow window => quietly (·.activateWindow window) w
  | activateWindowWithoutRaising window => quietly (·.activateWindowWithoutRaising window) w
  | moveLeft => quietly Workspace.moveLeft w
  | moveRight => quietly Workspace.moveRight w
  | moveDown => quietly Workspace.moveDown w
  | moveUp => quietly Workspace.moveUp w
  | moveColumnToFirst => w.moveColumnToFirst
  | moveColumnToLast => w.moveColumnToLast
  | moveColumnToIndex index => w.moveColumnToIndex index
  | consumeOrExpelWindowLeft window => w.consumeOrExpelWindowLeft window
  | consumeOrExpelWindowRight window => w.consumeOrExpelWindowRight window
  | consumeIntoColumn => w.consumeIntoColumn
  | expelFromColumn => w.expelFromColumn
  | swapWindowInDirection direction => w.swapWindowInDirection direction
  | toggleColumnTabbedDisplay => w.toggleColumnTabbedDisplay
  | setColumnDisplay display => w.setColumnDisplay display
  | centerColumn => w.centerColumn
  | centerWindow window => w.centerWindow window
  | alignVisibleColumns activeVisible => w.alignVisibleColumns activeVisible
  | moveFloatingWindow window => w.moveFloatingWindow window
  | toggleWidth forwards expected => w.toggleWidth forwards expected
  | toggleFullWidth => w.toggleFullWidth
  | setColumnWidth change => w.setColumnWidth change
  | setWindowWidth window change => w.setWindowWidth window change
  | setWindowHeight window change => w.setWindowHeight window change
  | resetWindowHeight window => w.resetWindowHeight window
  | toggleWindowWidth window forwards expected => w.toggleWindowWidth window forwards expected
  | toggleWindowHeight window forwards => w.toggleWindowHeight window forwards
  | expandColumnToAvailableWidth view => w.expandColumnToAvailableWidth view
  | toggleWindowFloating window expected => w.toggleWindowFloating window expected
  | setWindowFloating window floating expected => w.setWindowFloating window floating expected
  | setFullscreen window isFullscreen expected => w.setFullscreen window isFullscreen expected
  | toggleFullscreen window expected => w.toggleFullscreen window expected
  | setMaximized window maximize expected => w.setMaximized window maximize expected
  | toggleMaximized window expected => w.toggleMaximized window expected
  | updateWindow window state => w.updateWindow window state
  | descendantsAdded window => quietly (·.descendantsAdded window) w
  | viewOffsetGestureEnd newColIdx => w.viewOffsetGestureEnd newColIdx
  | dndScrollGestureBegin ongoing => some (w.dndScrollGestureBegin ongoing)
  | interactiveResizeBegin window edges => w.interactiveResizeBegin window edges
  | interactiveResizeUpdate window dx dy => w.interactiveResizeUpdate window dx dy
  | interactiveResizeEnd window => some (w.interactiveResizeEnd window)
  | updateConfig baseOptions => w.updateConfig baseOptions
  | updateLayoutConfig layoutConfig => w.updateLayoutConfig layoutConfig
  | updateOutputSize geometry => w.updateOutputSize geometry

end Workspace

end Tiri.Layout
