import Tiri.Layout.Column

/-!
# The scrolling space

`struct ScrollingSpace` and its methods (`scrolling.rs`, lines 37–3800).  The view offset, the
animations and the closing windows are geometry over the columns and are left out; of
`activate_prev_column_on_removal` and `view_offset_to_restore` the model keeps whether they are
set.  Where a method lets geometry decide (the column a gesture snaps to, whether the active
column is on screen), what geometry answers is an argument.
-/

namespace Tiri.Layout

/-- `struct ColumnData`: the cached width of a column. -/
structure ColumnData where
  width : ℚ

structure InteractiveResize (Id : Type) where
  window : Id
  originalWindowSize : Size
  edges : ResizeEdge

/-- `struct ScrollingSpace` (`scrolling.rs`, lines 36–92). -/
structure ScrollingSpace (Id : Type) where
  columns : List (Column Id)
  data : List ColumnData
  activeColumnIdx : ℕ
  interactiveResize : Option (InteractiveResize Id)
  /-- Whether `activate_prev_column_on_removal` holds an offset. -/
  activatePrevColumnOnRemoval : Bool
  /-- Whether `view_offset_to_restore` holds an offset. -/
  viewOffsetToRestore : Bool
  viewSize : Size
  workingArea : Rectangle
  parentArea : Rectangle
  scale : ℚ
  options : Options

/-- `struct RemovedTile`: a tile on its way to another place. -/
structure RemovedTile (Id : Type) where
  tile : Tile Id
  width : ColumnWidth
  isFullWidth : Bool
  isFloating : Bool

variable {Id : Type}

/-- `ColumnData::new` and `ColumnData::update`. -/
def ColumnData.of (column : Column Id) : Option ColumnData := column.actualWidth.map ColumnData.mk

namespace ScrollingSpace

def new (viewSize : Size) (parentArea : Rectangle) (scale : ℚ) (options : Options) :
    ScrollingSpace Id where
  columns := []
  data := []
  activeColumnIdx := 0
  interactiveResize := none
  activatePrevColumnOnRemoval := false
  viewOffsetToRestore := false
  viewSize := viewSize
  workingArea := computeWorkingArea parentArea scale options.struts
  parentArea := parentArea
  scale := scale
  options := options

/-! ## Reading the space -/

variable (self : ScrollingSpace Id)

/-- The tiles, column by column. -/
def tiles : List (Tile Id) := self.columns.flatMap Column.tiles

/-- The ids of the windows, column by column. -/
def ids : List Id := self.columns.flatMap Column.ids

def isEmpty : Bool := self.columns.isEmpty

def activeWindow : Option (Window Id) := do
  let col ← self.columns[self.activeColumnIdx]?
  let tile ← col.tiles[col.activeTileIdx]?
  return tile.window

def isActivePendingFullscreen : Bool :=
  match self.columns[self.activeColumnIdx]? with
  | some col => col.pendingSizingMode = .fullscreen
  | none => false

def isCenteringFocusedColumn : Bool :=
  self.options.centerFocusedColumn = .always ||
    (self.options.alwaysCenterSingleColumn && self.columns.length ≤ 1)

/-- The column that holds `window`. -/
def columnOf [DecidableEq Id] (self : ScrollingSpace Id) (window : Id) : Option ℕ :=
  self.columns.findIdx? (·.contains window)

/-- Where `window` is: its column, and its position there. -/
def locate [DecidableEq Id] (self : ScrollingSpace Id) (window : Id) : Option (ℕ × ℕ) := do
  let colIdx ← self.columnOf window
  let col ← self.columns[colIdx]?
  let tileIdx ← col.position window
  return (colIdx, tileIdx)

/-! ## Updating columns and their data -/

/-- Change the column at `idx`; its cached data stays. -/
def modifyColumn (idx : ℕ) (f : Column Id → Option (Column Id)) : Option (ScrollingSpace Id) := do
  let columns ← Vec.modifyAt self.columns idx f
  return { self with columns := columns }

/-- `self.tiles().find(|tile| tile.window().id() == window)`. -/
def findTile [DecidableEq Id] (self : ScrollingSpace Id) (window : Id) : Option (Tile Id) :=
  self.tiles.find? (·.id = window)

/-- Write the flag of the tile that shows `window`; everything else stays. -/
def setRestoreToFloating [DecidableEq Id] (self : ScrollingSpace Id) (window : Id)
    (restoreToFloating : Bool) : Option (ScrollingSpace Id) := do
  let (colIdx, tileIdx) ← self.locate window
  self.modifyColumn colIdx fun col => do
    let tiles ← Vec.modifyAt col.tiles tileIdx fun tile =>
      some { tile with restoreToFloating := restoreToFloating }
    return { col with tiles := tiles }

/-- `self.data[idx].update(&self.columns[idx])`. -/
def updateData (idx : ℕ) : Option (ScrollingSpace Id) := do
  let column ← self.columns[idx]?
  let data ← Vec.modifyAt self.data idx fun _ => ColumnData.of column
  return { self with data := data }

/-- `cancel_resize_for_column` (`scrolling.rs`). -/
def cancelResizeForColumn [DecidableEq Id] (resize : Option (InteractiveResize Id))
    (column : Column Id) : Option (InteractiveResize Id) :=
  resize.filter fun r => !column.contains r.window

/-- End an interactive resize that refers to the column at `idx`. -/
def cancelResize [DecidableEq Id] (self : ScrollingSpace Id) (idx : ℕ) :
    Option (ScrollingSpace Id) := do
  let column ← self.columns[idx]?
  return { self with interactiveResize := cancelResizeForColumn self.interactiveResize column }

/-- Each column's `update_config`, followed by the update of its data. -/
def updateConfigColumns (f : Column Id → Option (Column Id)) :
    List (Column Id) → List ColumnData → Option (List (Column Id) × List ColumnData)
  | column :: columns, _ :: data => do
    let column ← f column
    let d ← ColumnData.of column
    let (columns, data) ← updateConfigColumns f columns data
    return (column :: columns, d :: data)
  | columns, data => some (columns, data)

/-- `update_config` (`scrolling.rs`, lines 352–379). -/
def updateConfig (viewSize : Size) (parentArea : Rectangle) (scale : ℚ) (options : Options) :
    Option (ScrollingSpace Id) := do
  let workingArea := computeWorkingArea parentArea scale options.struts
  let (columns, data) ← updateConfigColumns
    (·.updateConfig viewSize workingArea parentArea scale options) self.columns self.data
  return { self with
    columns := columns
    data := data
    viewSize := viewSize
    workingArea := workingArea
    parentArea := parentArea
    scale := scale
    options := options }

/-! ## Activating columns -/

/-- `activate_column` (`scrolling.rs`, lines 772–799): activating another column resets what
referred to the old one.  Scrolling the view to the column looks the column up. -/
def activateColumn (idx : ℕ) : Option (ScrollingSpace Id) :=
  if self.activeColumnIdx = idx then some self
  else if idx < self.columns.length then
    some { self with
      activeColumnIdx := idx
      activatePrevColumnOnRemoval := false
      viewOffsetToRestore := false
      interactiveResize := none }
  else none

def activateWindow [DecidableEq Id] (self : ScrollingSpace Id) (window : Id) :
    Option (ScrollingSpace Id × Bool) :=
  match self.columnOf window with
  | none => some (self, false)
  | some columnIdx => do
    let self ← self.modifyColumn columnIdx (·.activateWindow window)
    let self ← self.activateColumn columnIdx
    return (self, true)

/-! ## Adding -/

/-- `add_column` (`scrolling.rs`). -/
def addColumn (idx : Option ℕ) (column : Column Id) (activate : Bool) :
    Option (ScrollingSpace Id) := do
  let wasEmpty := self.columns.isEmpty
  let idx := idx.getD (if wasEmpty then 0 else self.activeColumnIdx + 1)
  let column ← column.updateConfig self.viewSize self.workingArea self.parentArea self.scale
    self.options
  let d ← ColumnData.of column
  let data ← Vec.insertAt self.data idx d
  let columns ← Vec.insertAt self.columns idx column
  let self : ScrollingSpace Id := { self with
    data := data
    columns := columns
    activeColumnIdx :=
      if !wasEmpty && idx ≤ self.activeColumnIdx then self.activeColumnIdx + 1
      else self.activeColumnIdx }
  if activate then do
    let prevOffset := !wasEmpty && idx = self.activeColumnIdx + 1
    let self ← self.activateColumn idx
    return { self with activatePrevColumnOnRemoval := prevOffset }
  else
    return self

def addTile (colIdx : Option ℕ) (tile : Tile Id) (activate : Bool) (width : ColumnWidth)
    (isFullWidth : Bool) : Option (ScrollingSpace Id) := do
  let column ← Column.newWithTile tile self.viewSize self.workingArea self.parentArea self.scale
    width isFullWidth
  self.addColumn colIdx column activate

/-- The change `add_tile_to_column` makes to the column itself. -/
def addTileToTarget (tileIdx : Option ℕ) (tile : Tile Id) (activate : Bool)
    (column : Column Id) : Option (Column Id) := do
  let tileIdx := tileIdx.getD column.tiles.length
  let prevActiveTileIdx := column.activeTileIdx
  let column ← column.addTileAt tileIdx tile
  let column : Column Id := { column with
    activeTileIdx :=
      if tileIdx ≤ prevActiveTileIdx then column.activeTileIdx + 1 else column.activeTileIdx }
  if activate then do
    let (column, _) ← column.activateIdx tileIdx
    return column
  else
    return column

def addTileToColumn (colIdx : ℕ) (tileIdx : Option ℕ) (tile : Tile Id) (activate : Bool) :
    Option (ScrollingSpace Id) := do
  let self ← self.modifyColumn colIdx (addTileToTarget tileIdx tile activate)
  let self ← self.updateData colIdx
  if activate then self.activateColumn colIdx else return self

def addTileRightOf [DecidableEq Id] (self : ScrollingSpace Id) (rightOf : Id) (tile : Tile Id)
    (activate : Bool) (width : ColumnWidth) (isFullWidth : Bool) :
    Option (ScrollingSpace Id) := do
  let rightOfIdx ← self.columnOf rightOf
  self.addTile (some (rightOfIdx + 1)) tile activate width isFullWidth

/-! ## Removing -/

def removeColumnByIdx [DecidableEq Id] (self : ScrollingSpace Id) (columnIdx : ℕ) :
    Option (Column Id × ScrollingSpace Id) := do
  let (column, columns) ← Vec.removeAt self.columns columnIdx
  let (_, data) ← Vec.removeAt self.data columnIdx
  let self : ScrollingSpace Id := { self with
    columns := columns
    data := data
    interactiveResize := cancelResizeForColumn self.interactiveResize column
    activatePrevColumnOnRemoval :=
      if columnIdx + 1 = self.activeColumnIdx then false else self.activatePrevColumnOnRemoval
    viewOffsetToRestore :=
      if columnIdx = self.activeColumnIdx then false else self.viewOffsetToRestore }
  if columns.isEmpty then
    return (column, self)
  if columnIdx < self.activeColumnIdx then
    return (column, { self with
      activeColumnIdx := self.activeColumnIdx - 1
      activatePrevColumnOnRemoval := false })
  else if columnIdx = self.activeColumnIdx ∧ self.activatePrevColumnOnRemoval then
    if 0 < columnIdx then do
      let self ← self.activateColumn (self.activeColumnIdx - 1)
      return (column, self)
    else
      return (column, self)
  else do
    let self ← self.activateColumn (min self.activeColumnIdx (self.columns.length - 1))
    return (column, self)

/-- `remove_tile_by_idx`: with the last tile of a column goes the column. -/
def removeTileByIdx [DecidableEq Id] (self : ScrollingSpace Id) (columnIdx tileIdx : ℕ) :
    Option (RemovedTile Id × ScrollingSpace Id) := do
  let source ← self.columns[columnIdx]?
  if source.tiles.length = 1 then
    let (column, self) ← self.removeColumnByIdx columnIdx
    let (tile, _) ← Vec.removeAt column.tiles tileIdx
    return (⟨tile, column.width, column.isFullWidth, false⟩, self)
  let wasNormal := source.sizingMode = .normal
  let (tile, column) ← source.removeTile tileIdx
  let self : ScrollingSpace Id := { self with
    columns := self.columns.set columnIdx column
    viewOffsetToRestore :=
      if columnIdx = self.activeColumnIdx ∧ ¬wasNormal ∧ column.sizingMode = .normal then false
      else self.viewOffsetToRestore
    interactiveResize := self.interactiveResize.filter (·.window ≠ tile.id) }
  let self ← self.updateData columnIdx
  return (⟨tile, column.width, column.isFullWidth, false⟩, self)

def removeActiveTile [DecidableEq Id] (self : ScrollingSpace Id) :
    Option (Option (RemovedTile Id) × ScrollingSpace Id) := do
  if self.columns.isEmpty then
    return (none, self)
  let column ← self.columns[self.activeColumnIdx]?
  let (removed, self) ← self.removeTileByIdx self.activeColumnIdx column.activeTileIdx
  return (some removed, self)

def removeTile [DecidableEq Id] (self : ScrollingSpace Id) (window : Id) :
    Option (RemovedTile Id × ScrollingSpace Id) := do
  let (columnIdx, tileIdx) ← self.locate window
  self.removeTileByIdx columnIdx tileIdx

def removeActiveColumn [DecidableEq Id] (self : ScrollingSpace Id) :
    Option (Option (Column Id) × ScrollingSpace Id) := do
  if self.columns.isEmpty then
    return (none, self)
  let (column, self) ← self.removeColumnByIdx self.activeColumnIdx
  return (some column, self)

/-! ## A window's commit -/

/-- `update_window`: the window commits `state`, its tile and column follow, and the view
offset is stored when the active column leaves normal sizing, taken when it returns. -/
def updateWindow [DecidableEq Id] (self : ScrollingSpace Id) (window : Id)
    (state : WindowState) : Option (ScrollingSpace Id) := do
  let (colIdx, tileIdx) ← self.locate window
  let column ← self.columns[colIdx]?
  let wasNormal := column.sizingMode = .normal
  let column ← column.commitWindow window tileIdx state
  let d ← ColumnData.of column
  let data ← Vec.modifyAt self.data colIdx fun _ => some d
  let column ← column.updateTileSizes
  let isNormal := column.sizingMode = .normal
  return { self with
    columns := self.columns.set colIdx column
    data := data
    viewOffsetToRestore :=
      if colIdx = self.activeColumnIdx then
        if wasNormal ∧ ¬isNormal then true
        else if ¬wasNormal ∧ isNormal then false
        else self.viewOffsetToRestore
      else self.viewOffsetToRestore }

/-! ## Focus -/

def focusLeft : Option (ScrollingSpace Id × Bool) := do
  if self.activeColumnIdx = 0 then
    return (self, false)
  let self ← self.activateColumn (self.activeColumnIdx - 1)
  return (self, true)

def focusRight : Option (ScrollingSpace Id × Bool) := do
  if self.columns.length ≤ self.activeColumnIdx + 1 then
    return (self, false)
  let self ← self.activateColumn (self.activeColumnIdx + 1)
  return (self, true)

/-- `focus_column_first`: on an empty space the first column is the active one already. -/
def focusColumnFirst : Option (ScrollingSpace Id) :=
  self.activateColumn 0

def focusColumnLast : Option (ScrollingSpace Id) :=
  if self.columns.isEmpty then some self else self.activateColumn (self.columns.length - 1)

/-- `focus_column`: counts from one. -/
def focusColumn (index : ℕ) : Option (ScrollingSpace Id) :=
  if self.columns.isEmpty then some self
  else self.activateColumn (min (index - 1) (self.columns.length - 1))

/-- An operation on the active column that answers whether it did anything. -/
def onActiveColumn (f : Column Id → Option (Column Id × Bool)) :
    Option (ScrollingSpace Id × Bool) := do
  if self.columns.isEmpty then
    return (self, false)
  let column ← self.columns[self.activeColumnIdx]?
  let (column, changed) ← f column
  return ({ self with columns := self.columns.set self.activeColumnIdx column }, changed)

/-- An operation on the active column. -/
def withActiveColumn (f : Column Id → Option (Column Id)) : Option (ScrollingSpace Id) :=
  if self.columns.isEmpty then some self else self.modifyColumn self.activeColumnIdx f

def focusWindowInColumn (index : ℕ) : Option (ScrollingSpace Id) :=
  self.withActiveColumn (·.focusIndex index)

def focusDown : Option (ScrollingSpace Id × Bool) :=
  self.onActiveColumn Column.focusDown

def focusUp : Option (ScrollingSpace Id × Bool) :=
  self.onActiveColumn Column.focusUp

/-- `focus_down_or_left`, `focus_up_or_left` and the like: inside the column if possible. -/
def focusOr (vertical : Column Id → Option (Column Id × Bool))
    (horizontal : ScrollingSpace Id → Option (ScrollingSpace Id × Bool)) :
    Option (ScrollingSpace Id) := do
  if self.columns.isEmpty then
    return self
  let (self, moved) ← self.onActiveColumn vertical
  if moved then
    return self
  let (self, _) ← horizontal self
  return self

def focusDownOrLeft : Option (ScrollingSpace Id) :=
  self.focusOr Column.focusDown focusLeft

def focusDownOrRight : Option (ScrollingSpace Id) :=
  self.focusOr Column.focusDown focusRight

def focusUpOrLeft : Option (ScrollingSpace Id) :=
  self.focusOr Column.focusUp focusLeft

def focusUpOrRight : Option (ScrollingSpace Id) :=
  self.focusOr Column.focusUp focusRight

def focusTop : Option (ScrollingSpace Id) :=
  self.withActiveColumn Column.focusTop

def focusBottom : Option (ScrollingSpace Id) :=
  self.withActiveColumn Column.focusBottom

/-! ## Movement of columns and tiles -/

def moveColumnTo [DecidableEq Id] (self : ScrollingSpace Id) (newIdx : ℕ) :
    Option (ScrollingSpace Id) := do
  if self.activeColumnIdx = newIdx then
    return self
  let (column, columns) ← Vec.removeAt self.columns self.activeColumnIdx
  let (d, data) ← Vec.removeAt self.data self.activeColumnIdx
  let columns ← Vec.insertAt columns newIdx column
  let data ← Vec.insertAt data newIdx d
  ({ self with
      columns := columns
      data := data
      interactiveResize := cancelResizeForColumn self.interactiveResize column } :
    ScrollingSpace Id).activateColumn newIdx

/-- `move_column_to_index`: counts from one. -/
def moveColumnToIndex [DecidableEq Id] (self : ScrollingSpace Id) (index : ℕ) :
    Option (ScrollingSpace Id) :=
  if self.columns.isEmpty then some self
  else self.moveColumnTo (min (index - 1) (self.columns.length - 1))

def moveLeft [DecidableEq Id] (self : ScrollingSpace Id) :
    Option (ScrollingSpace Id × Bool) := do
  if self.activeColumnIdx = 0 then
    return (self, false)
  let self ← self.moveColumnTo (self.activeColumnIdx - 1)
  return (self, true)

def moveRight [DecidableEq Id] (self : ScrollingSpace Id) :
    Option (ScrollingSpace Id × Bool) := do
  let newIdx := self.activeColumnIdx + 1
  if self.columns.length ≤ newIdx then
    return (self, false)
  let self ← self.moveColumnTo newIdx
  return (self, true)

def moveColumnToFirst [DecidableEq Id] (self : ScrollingSpace Id) :
    Option (ScrollingSpace Id) :=
  self.moveColumnTo 0

def moveColumnToLast [DecidableEq Id] (self : ScrollingSpace Id) :
    Option (ScrollingSpace Id) :=
  if self.columns.isEmpty then some self else self.moveColumnTo (self.columns.length - 1)

def moveDown : Option (ScrollingSpace Id × Bool) :=
  self.onActiveColumn Column.moveDown

def moveUp : Option (ScrollingSpace Id × Bool) :=
  self.onActiveColumn Column.moveUp

/-! ## Consuming, expelling, swapping -/

/-- The window an operation is about: the one named, or the active one. -/
def source [DecidableEq Id] (self : ScrollingSpace Id) : Option Id → Option (ℕ × ℕ)
  | some window => self.locate window
  | none => do
    let column ← self.columns[self.activeColumnIdx]?
    return (self.activeColumnIdx, column.activeTileIdx)

/-- `consume_or_expel_window_left` (`scrolling.rs`, lines 1765–1873). -/
def consumeOrExpelWindowLeft [DecidableEq Id] (self : ScrollingSpace Id) (window : Option Id) :
    Option (ScrollingSpace Id) := do
  if self.columns.isEmpty then
    return self
  let (sourceColIdx, sourceTileIdx) ← self.source window
  let sourceColumn ← self.columns[sourceColIdx]?
  let sourceTileWasActive :=
    self.activeColumnIdx = sourceColIdx ∧ sourceColumn.activeTileIdx = sourceTileIdx
  if sourceColumn.tiles.length = 1 then
    if sourceColIdx = 0 then
      return self
    -- Move into the adjacent column, which becomes active if this tile was.
    let self : ScrollingSpace Id :=
      if sourceTileWasActive then { self with activatePrevColumnOnRemoval := true } else self
    let (removed, self) ← self.removeTileByIdx sourceColIdx 0
    self.addTileToColumn (sourceColIdx - 1) none removed.tile sourceTileWasActive
  else
    -- Move out of the column, to the left of it.
    let (removed, self) ← self.removeTileByIdx sourceColIdx sourceTileIdx
    let self ← self.addTile (some sourceColIdx) removed.tile sourceTileWasActive removed.width
      removed.isFullWidth
    if sourceTileWasActive then
      return { self with activatePrevColumnOnRemoval := false }
    else
      return self

/-- `consume_or_expel_window_right` (`scrolling.rs`, lines 1875–1963). -/
def consumeOrExpelWindowRight [DecidableEq Id] (self : ScrollingSpace Id) (window : Option Id) :
    Option (ScrollingSpace Id) := do
  if self.columns.isEmpty then
    return self
  let (sourceColIdx, sourceTileIdx) ← self.source window
  let sourceColumn ← self.columns[sourceColIdx]?
  let sourceTileWasActive :=
    self.activeColumnIdx = sourceColIdx ∧ sourceColumn.activeTileIdx = sourceTileIdx
  if sourceColumn.tiles.length = 1 then
    if sourceColIdx + 1 = self.columns.length then
      return self
    let self : ScrollingSpace Id :=
      if sourceTileWasActive then { self with activatePrevColumnOnRemoval := false } else self
    let (removed, self) ← self.removeTileByIdx sourceColIdx 0
    -- The adjacent column has moved into the place of the source column.
    self.addTileToColumn sourceColIdx none removed.tile sourceTileWasActive
  else
    let (removed, self) ← self.removeTileByIdx sourceColIdx sourceTileIdx
    self.addTile (some (sourceColIdx + 1)) removed.tile sourceTileWasActive removed.width
      removed.isFullWidth

def consumeIntoColumn [DecidableEq Id] (self : ScrollingSpace Id) :
    Option (ScrollingSpace Id) := do
  if self.columns.length < 2 ∨ self.activeColumnIdx = self.columns.length - 1 then
    return self
  let target := self.activeColumnIdx
  let (removed, self) ← self.removeTileByIdx (target + 1) 0
  self.addTileToColumn target none removed.tile false

def expelFromColumn [DecidableEq Id] (self : ScrollingSpace Id) :
    Option (ScrollingSpace Id) := do
  if self.columns.isEmpty then
    return self
  let source := self.activeColumnIdx
  let column ← self.columns[source]?
  if column.tiles.length = 1 then
    return self
  let sourceTileIdx ← Vec.lastIdx column.tiles
  let (removed, self) ← self.removeTileByIdx source sourceTileIdx
  self.addTile (some (source + 1)) removed.tile false removed.width removed.isFullWidth

/-- Set the active tile of the column at `idx`. -/
def setActiveTile (idx tileIdx : ℕ) : Option (ScrollingSpace Id) :=
  self.modifyColumn idx fun column => some { column with activeTileIdx := tileIdx }

/-- Put the target tile where the source tile was: into a column of its own when the source
column is gone, else into the source column. -/
def putBack [DecidableEq Id] (self : ScrollingSpace Id) (drained : Bool)
    (sourceColumnIdx sourceTileIdx : ℕ) (tile : Tile Id) (removed : RemovedTile Id) :
    Option (ScrollingSpace Id) :=
  if drained then
    self.addTile (some sourceColumnIdx) tile true removed.width removed.isFullWidth
  else
    self.addTileToColumn sourceColumnIdx (some sourceTileIdx) tile false

/-- `swap_window_in_direction` (`scrolling.rs`, lines 2032–2158). -/
def swapWindowInDirection [DecidableEq Id] (self : ScrollingSpace Id)
    (direction : ScrollDirection) : Option (ScrollingSpace Id) := do
  if self.columns.isEmpty then
    return self
  let sourceColumnIdx := self.activeColumnIdx
  if (direction = .left ∧ sourceColumnIdx = 0) ∨
      (direction = .right ∧ sourceColumnIdx = self.columns.length - 1) then
    return self
  let targetColumnIdx := direction.neighbour sourceColumnIdx
  let sourceColumn ← self.columns[sourceColumnIdx]?
  let targetColumn ← self.columns[targetColumnIdx]?
  if sourceColumn.tiles.length = 1 ∧ targetColumn.tiles.length = 1 then
    self.moveColumnTo targetColumnIdx
  else
    let sourceTileIdx := sourceColumn.activeTileIdx
    let targetTileIdx := targetColumn.activeTileIdx
    let sourceColumnDrained := sourceColumn.tiles.length = 1
    let (sourceRemoved, self) ← self.removeTileByIdx sourceColumnIdx sourceTileIdx
    -- A drained column disappears, and shifts the target when it is on the right.
    let adjustedTargetColumnIdx :=
      if direction = .right ∧ sourceColumnDrained then targetColumnIdx - 1 else targetColumnIdx
    let self ← self.addTileToColumn adjustedTargetColumnIdx (some targetTileIdx)
      sourceRemoved.tile false
    let (targetRemoved, self) ← self.removeTileByIdx adjustedTargetColumnIdx (targetTileIdx + 1)
    let self ← self.putBack sourceColumnDrained sourceColumnIdx sourceTileIdx targetRemoved.tile
      sourceRemoved
    let self ← self.setActiveTile sourceColumnIdx sourceTileIdx
    let self ← self.setActiveTile targetColumnIdx targetTileIdx
    self.activateColumn targetColumnIdx

/-! ## Fullscreen and maximized -/

/-- Take `window` out of a normal column of several tiles, into a column of its own; the result
is the index of the column it is in afterwards. -/
def isolate [DecidableEq Id] (self : ScrollingSpace Id) (window : Id) (colIdx : ℕ) (leaving : Bool) :
    Option (ℕ × ScrollingSpace Id) := do
  let col ← self.columns[colIdx]?
  let self ← self.cancelResize colIdx
  if leaving ∧ 1 < col.tiles.length ∧ col.displayMode ≠ .tabbed then
    let self ← self.consumeOrExpelWindowRight (some window)
    return (colIdx + 1, self)
  else
    return (colIdx, self)

/-- `set_fullscreen` and `set_maximized` differ in the flag they set: a flag that is set already
is left alone, and a window that goes fullscreen or maximized is isolated first. -/
def setMode [DecidableEq Id] (isPending : Column Id → Bool)
    (set : Column Id → Bool → Option (Column Id)) (self : ScrollingSpace Id) (window : Id)
    (value : Bool) : Option (ScrollingSpace Id × Bool) := do
  let colIdx ← self.columnOf window
  let col ← self.columns[colIdx]?
  if value = isPending col then
    return (self, false)
  let (colIdx, self) ← self.isolate window colIdx value
  let self ← self.modifyColumn colIdx (set · value)
  let self ← self.updateData colIdx
  return (self, true)

/-- `set_fullscreen` (`scrolling.rs`, lines 2874–2903). -/
def setFullscreen [DecidableEq Id] (self : ScrollingSpace Id) (window : Id)
    (isFullscreen : Bool) : Option (ScrollingSpace Id × Bool) :=
  self.setMode (·.isPendingFullscreen) Column.setFullscreen window isFullscreen

/-- `set_maximized` (`scrolling.rs`, lines 2905–2934). -/
def setMaximized [DecidableEq Id] (self : ScrollingSpace Id) (window : Id)
    (maximize : Bool) : Option (ScrollingSpace Id × Bool) :=
  self.setMode (·.isPendingMaximized) Column.setMaximized window maximize

/-! ## Display mode -/

/-- `set_column_display` (`scrolling.rs`): a normal column of several tiles cannot stay
fullscreen or maximized. -/
def setColumnDisplay [DecidableEq Id] (self : ScrollingSpace Id) (display : ColumnDisplay) :
    Option (ScrollingSpace Id) := do
  if self.columns.isEmpty then
    return self
  let idx := self.activeColumnIdx
  let col ← self.columns[idx]?
  if col.displayMode = display then
    return self
  let self ← self.cancelResize idx
  let self ← self.modifyColumn idx (·.setColumnDisplay display)
  let self ← self.updateData idx
  let self ← self.modifyColumn idx Column.updateTileSizes
  let col ← self.columns[idx]?
  if col.displayMode ≠ .tabbed ∧ 1 < col.tiles.length then
    let tile ← col.tiles[col.activeTileIdx]?
    let (self, _) ← self.setFullscreen tile.id false
    let (self, _) ← self.setMaximized tile.id false
    return self
  else
    return self

def toggleColumnTabbedDisplay [DecidableEq Id] (self : ScrollingSpace Id) :
    Option (ScrollingSpace Id) := do
  if self.columns.isEmpty then
    return self
  let col ← self.columns[self.activeColumnIdx]?
  self.setColumnDisplay (match col.displayMode with
    | .normal => .tabbed
    | .tabbed => .normal)

/-! ## Centring and aligning: the view moves, the columns stay -/

def centerColumn [DecidableEq Id] (self : ScrollingSpace Id) : Option (ScrollingSpace Id) :=
  if self.columns.isEmpty then some self else self.cancelResize self.activeColumnIdx

/-- The column an operation is about: the named window's, or the active one. -/
def sourceColumn [DecidableEq Id] (self : ScrollingSpace Id) : Option Id → Option ℕ
  | some window => self.columnOf window
  | none => some self.activeColumnIdx

/-- `center_window`: only the active column can be centred. -/
def centerWindow [DecidableEq Id] (self : ScrollingSpace Id) (window : Option Id) :
    Option (ScrollingSpace Id) := do
  if self.columns.isEmpty then
    return self
  let colIdx ← self.sourceColumn window
  if colIdx = self.activeColumnIdx then self.centerColumn else return self

/-- `center_visible_columns` and `align_visible_columns_left`; `activeVisible` tells whether
the active column is entirely on screen. -/
def alignVisibleColumns [DecidableEq Id] (self : ScrollingSpace Id) (activeVisible : Bool) :
    Option (ScrollingSpace Id) :=
  if self.columns.isEmpty || self.isCenteringFocusedColumn || !activeVisible then some self
  else self.cancelResize self.activeColumnIdx

/-! ## Widths and heights -/

/-- The column a size change is about, and the tile if one is named. -/
def resizeTarget [DecidableEq Id] (self : ScrollingSpace Id) :
    Option Id → Option (ℕ × Option ℕ)
  | some window => (self.locate window).map fun p => (p.1, some p.2)
  | none => some (self.activeColumnIdx, none)

/-- A size change on a column: the named window's, or the active one; afterwards an interactive
resize in that column ends. -/
def resizeColumn [DecidableEq Id] (self : ScrollingSpace Id) (window : Option Id)
    (f : Option ℕ → Column Id → Option (Column Id)) : Option (ScrollingSpace Id) := do
  if self.columns.isEmpty then
    return self
  let (colIdx, tileIdx) ← self.resizeTarget window
  let self ← self.modifyColumn colIdx (f tileIdx)
  self.cancelResize colIdx

def toggleWidth [DecidableEq Id] (self : ScrollingSpace Id) (forwards : Bool)
    (expected : Option ISize) : Option (ScrollingSpace Id) :=
  self.resizeColumn none fun _ col => col.toggleWidth none forwards expected

def toggleFullWidth [DecidableEq Id] (self : ScrollingSpace Id) : Option (ScrollingSpace Id) :=
  self.resizeColumn none fun _ col => col.toggleFullWidth

def setWindowWidth [DecidableEq Id] (self : ScrollingSpace Id) (window : Option Id)
    (change : SizeChange) : Option (ScrollingSpace Id) :=
  self.resizeColumn window fun tileIdx col => col.setColumnWidth change tileIdx

def setWindowHeight [DecidableEq Id] (self : ScrollingSpace Id) (window : Option Id)
    (change : SizeChange) : Option (ScrollingSpace Id) :=
  self.resizeColumn window fun tileIdx col => col.setWindowHeight change tileIdx

def resetWindowHeight [DecidableEq Id] (self : ScrollingSpace Id) (window : Option Id) :
    Option (ScrollingSpace Id) :=
  self.resizeColumn window fun tileIdx col => col.resetWindowHeight tileIdx

def toggleWindowWidth [DecidableEq Id] (self : ScrollingSpace Id) (window : Option Id)
    (forwards : Bool) (expected : Option ISize) : Option (ScrollingSpace Id) :=
  self.resizeColumn window fun tileIdx col => col.toggleWidth tileIdx forwards expected

def toggleWindowHeight [DecidableEq Id] (self : ScrollingSpace Id) (window : Option Id)
    (forwards : Bool) : Option (ScrollingSpace Id) :=
  self.resizeColumn window fun tileIdx col => col.toggleWindowHeight tileIdx forwards

/-- What geometry tells `expand_column_to_available_width`. -/
structure ExpandView where
  /-- The active column is entirely on screen. -/
  activeVisible : Bool
  /-- Some other column is, too. -/
  countedNonActiveColumn : Bool
  availableWidth : ℚ

/-- `expand_column_to_available_width` (`scrolling.rs`, lines 2769–2872). -/
def expandColumnToAvailableWidth [DecidableEq Id] (self : ScrollingSpace Id)
    (view : ExpandView) : Option (ScrollingSpace Id) := do
  if self.columns.isEmpty then
    return self
  let idx := self.activeColumnIdx
  let col ← self.columns[idx]?
  if col.pendingSizingMode ≠ .normal ∨ col.isFullWidth then
    return self
  if self.isCenteringFocusedColumn then
    let self ← self.modifyColumn idx Column.toggleFullWidth
    self.cancelResize idx
  else if !view.activeVisible || view.availableWidth ≤ 0 then
    return self
  else
    let self ← self.cancelResize idx
    if !view.countedNonActiveColumn then
      self.modifyColumn idx Column.toggleFullWidth
    else
      let data ← self.data[idx]?
      self.modifyColumn idx fun col =>
        ({ col with
          width := .fixed (data.width + view.availableWidth)
          presetWidthIdx := none
          isFullWidth := false } : Column Id).updateTileSizes

/-! ## Gestures and interactive resize -/

/-- `view_offset_gesture_end`: the view snaps to the column `newColIdx`. -/
def viewOffsetGestureEnd (newColIdx : ℕ) : Option (ScrollingSpace Id) :=
  if self.columns.isEmpty then some self
  else if newColIdx < self.columns.length then
    some { self with
      activeColumnIdx := newColIdx
      viewOffsetToRestore :=
        if self.activeColumnIdx = newColIdx then self.viewOffsetToRestore else false }
  else none

/-- `dnd_scroll_gesture_begin`; `ongoing` tells whether such a gesture is on already. -/
def dndScrollGestureBegin (ongoing : Bool) : ScrollingSpace Id :=
  if ongoing then self else { self with interactiveResize := none }

def interactiveResizeBegin [DecidableEq Id] (self : ScrollingSpace Id) (window : Id)
    (edges : ResizeEdge) : Option (ScrollingSpace Id × Bool) := do
  if self.interactiveResize.isSome then
    return (self, false)
  let (colIdx, tileIdx) ← self.locate window
  let col ← self.columns[colIdx]?
  if col.pendingSizingMode ≠ .normal then
    return (self, false)
  let tile ← col.tiles[tileIdx]?
  return ({ self with interactiveResize := some ⟨window, tile.windowSize, edges⟩ }, true)

def interactiveResizeUpdate [DecidableEq Id] (self : ScrollingSpace Id) (window : Id)
    (dx dy : ℚ) : Option (ScrollingSpace Id × Bool) := do
  match self.interactiveResize with
  | none => return (self, false)
  | some resize =>
    if window ≠ resize.window then
      return (self, false)
    let isCentering := self.isCenteringFocusedColumn
    let (colIdx, tileIdx) ← self.locate window
    let dx := if resize.edges.left then -dx else dx
    let dx := if isCentering then dx * 2 else dx
    let dy := if resize.edges.top then -dy else dy
    let self ← self.modifyColumn colIdx fun col =>
      if resize.edges.left || resize.edges.right then
        col.setColumnWidth (.setFixed (roundHalfAway (resize.originalWindowSize.w + dx)))
          (some tileIdx)
      else some col
    -- The topmost window does not resize by its top edge.
    let self ← self.modifyColumn colIdx fun col =>
      if (resize.edges.top || resize.edges.bottom) && !(resize.edges.top && tileIdx = 0) then
        col.setWindowHeight (.setFixed (roundHalfAway (resize.originalWindowSize.h + dy)))
          (some tileIdx)
      else some col
    return (self, true)

def interactiveResizeEnd [DecidableEq Id] (self : ScrollingSpace Id) (window : Option Id) :
    ScrollingSpace Id :=
  match self.interactiveResize, window with
  | some resize, some window =>
    if window = resize.window then { self with interactiveResize := none } else self
  | _, _ => { self with interactiveResize := none }

end ScrollingSpace

end Tiri.Layout
