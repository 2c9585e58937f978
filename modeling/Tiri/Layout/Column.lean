import Mathlib.Data.List.Sort
import Tiri.Layout.Tile
import Tiri.Lib.Vec

/-!
# Columns

`struct Column` and its methods (`scrolling.rs`, lines 3980–5400), without animations and
without the distribution of heights: a column asks its windows for sizes, and what the layout
sees of a request at once is the sizing mode.  A method returns `none` where the code panics.
-/

namespace Tiri.Layout

open NiriConfig (TabIndicator)

/-- `struct TileData`: the requested height and the cached size of a tile. -/
structure TileData where
  height : WindowHeight
  size : Size

/-- `struct Column` (`scrolling.rs`, lines 147–210). -/
structure Column (Id : Type) where
  tiles : List (Tile Id)
  data : List TileData
  activeTileIdx : ℕ
  width : ColumnWidth
  presetWidthIdx : Option ℕ
  isFullWidth : Bool
  isPendingFullscreen : Bool
  isPendingMaximized : Bool
  displayMode : ColumnDisplay
  tabIndicator : TabIndicator
  viewSize : Size
  workingArea : Rectangle
  parentArea : Rectangle
  scale : ℚ
  options : Options

variable {Id : Type}

/-- `TileData::new`. -/
def TileData.new (tile : Tile Id) (height : WindowHeight) : TileData := ⟨height, tile.tileSize⟩

/-- `TileData::update`. -/
def TileData.update (self : TileData) (tile : Tile Id) : TileData :=
  { self with size := tile.tileSize }

/-- `resolve_preset_size` (`scrolling.rs`). -/
def resolvePresetSize (preset : PresetSize) (options : Options) (viewSize extraSize : ℚ) :
    ResolvedSize :=
  match preset with
  | .proportion p => .tile ((viewSize - options.gaps) * p - options.gaps - extraSize)
  | .fixed width => .window width

namespace Column

/-! ## Reading a column -/

variable (self : Column Id)

def pendingSizingMode : SizingMode :=
  if self.isPendingFullscreen then .fullscreen
  else if self.isPendingMaximized then .maximized
  else .normal

/-- `sizing_mode`: the largest mode that any tile of the column is still in. -/
def sizingMode : SizingMode :=
  if self.tiles.any (·.sizingMode = .fullscreen) then .fullscreen
  else if self.tiles.any (·.sizingMode = .maximized) then .maximized
  else .normal

/-- The ids of the column's windows, from top to bottom. -/
def ids : List Id := self.tiles.map Tile.id

def contains [DecidableEq Id] (self : Column Id) (window : Id) : Bool :=
  self.tiles.any (·.id = window)

def position [DecidableEq Id] (self : Column Id) (window : Id) : Option ℕ :=
  self.tiles.findIdx? (·.id = window)

/-- `extra_size`: what the tab indicator takes up. -/
def extraSize : Size :=
  match self.displayMode with
  | .tabbed => self.tabIndicator.extraSize self.tiles.length self.scale
  | .normal => ⟨0, 0⟩

/-- `width()`: the widest tile, and the tab indicator where it is shown. -/
def actualWidth : Option ℚ := do
  let tilesWidth ← (self.data.map (·.size.w)).max?
  if self.displayMode = .tabbed ∧ self.sizingMode = .normal then
    return tilesWidth + (self.tabIndicator.extraSize self.tiles.length self.scale).w
  else
    return tilesWidth

def resolvePresetWidth (preset : PresetSize) : ResolvedSize :=
  resolvePresetSize preset self.options self.workingArea.size.w self.extraSize.w

def resolvePresetHeight (preset : PresetSize) : ResolvedSize :=
  resolvePresetSize preset self.options self.workingArea.size.h self.extraSize.h

def resolveColumnWidth : ColumnWidth → ℚ
  | .proportion p =>
    (self.workingArea.size.w - self.options.gaps) * p - self.options.gaps - self.extraSize.w
  | .fixed width => width

/-! ## Requesting sizes -/

/-- `update_tile_sizes`: every tile is asked for the column's pending mode.  Computing the
normal sizes takes the largest minimum width, and looks up the preset heights. -/
def updateTileSizes : Option (Column Id) :=
  let requested := { self with tiles := self.tiles.map (·.request self.pendingSizingMode) }
  if self.pendingSizingMode ≠ .normal then
    some requested
  else if self.tiles = [] then
    none
  else if self.data.any fun data =>
      match data.height with
      | .preset idx => self.options.presetWindowHeights.length ≤ idx
      | _ => false then
    none
  else
    some requested

/-- `convert_heights_to_auto`: weights in proportion to the heights, the median weighing 1. -/
def convertHeightsToAuto : Option (Column Id) := do
  let heights := self.tiles.map (·.tileSize.h)
  let sorted := heights.mergeSort
  let median ← sorted[sorted.length / 2]?
  return { self with
    data := Vec.zipUpdate (fun data height => { data with height := .auto (height / median) })
      self.data heights }

/-! ## Configuration -/

/-- The start of `update_config`: a changed list of presets drops what refers to it. -/
def dropPresets (options : Options) : Option (Column Id) :=
  let self : Column Id :=
    if self.options.presetColumnWidths ≠ options.presetColumnWidths then
      { self with presetWidthIdx := none }
    else self
  if self.options.presetWindowHeights ≠ options.presetWindowHeights then
    self.convertHeightsToAuto
  else some self

/-- Whether `update_config` has to request sizes anew. -/
def needsSizes (viewSize : Size) (workingArea parentArea : Rectangle) (options : Options) : Bool :=
  self.viewSize ≠ viewSize || self.workingArea ≠ workingArea || self.parentArea ≠ parentArea ||
    self.options.presetWindowHeights ≠ options.presetWindowHeights ||
    self.options.gaps ≠ options.gaps || self.options.border ≠ options.border ||
    self.options.tabIndicator ≠ options.tabIndicator

/-- The middle of `update_config`: the tiles, their data and the column take the new values. -/
def applyConfig (viewSize : Size) (workingArea parentArea : Rectangle) (scale : ℚ)
    (options : Options) : Column Id :=
  let tiles :=
    Vec.zipUpdate (fun tile _ => tile.updateConfig viewSize scale options) self.tiles self.data
  { self with
    tiles := tiles
    data := Vec.zipUpdate (fun data tile => data.update tile) self.data tiles
    tabIndicator := options.tabIndicator
    viewSize := viewSize
    workingArea := workingArea
    parentArea := parentArea
    scale := scale
    options := options }

/-- `update_config` (`scrolling.rs`). -/
def updateConfig (viewSize : Size) (workingArea parentArea : Rectangle) (scale : ℚ)
    (options : Options) : Option (Column Id) := do
  let dropped ← self.dropPresets options
  let updated := dropped.applyConfig viewSize workingArea parentArea scale options
  if self.needsSizes viewSize workingArea parentArea options then updated.updateTileSizes
  else some updated

/-! ## Tiles in and out of the column -/

/-- `activate_idx`; the result says whether the active tile changed. -/
def activateIdx (idx : ℕ) : Option (Column Id × Bool) :=
  if self.activeTileIdx = idx then some (self, false)
  else if idx < self.tiles.length then some ({ self with activeTileIdx := idx }, true)
  else none

def activateWindow [DecidableEq Id] (self : Column Id) (window : Id) : Option (Column Id) := do
  let idx ← self.position window
  let (self, _) ← self.activateIdx idx
  return self

/-- `add_tile_at`: a normal column leaves fullscreen and maximized when a tile joins it. -/
def addTileAt (idx : ℕ) (tile : Tile Id) : Option (Column Id) := do
  let tile := tile.updateConfig self.viewSize self.scale self.options
  let isTabbed := self.displayMode = .tabbed
  let data ← Vec.insertAt self.data idx (TileData.new tile .auto1)
  let tiles ← Vec.insertAt self.tiles idx tile
  ({ self with
      isPendingFullscreen := if isTabbed then self.isPendingFullscreen else false
      isPendingMaximized := if isTabbed then self.isPendingMaximized else false
      data := data
      tiles := tiles } : Column Id).updateTileSizes

/-- A lone automatic height weighs 1. -/
def resetLoneWeight : List TileData → List TileData
  | [data] => [if data.height.isAuto then { data with height := .auto1 } else data]
  | data => data

/-- Which tile is active after the one at `tileIdx` is gone. -/
def activateAfterRemoval (tileIdx : ℕ) : Option (Column Id) :=
  if tileIdx < self.activeTileIdx then
    some { self with activeTileIdx := self.activeTileIdx - 1 }
  else if tileIdx = self.activeTileIdx ∧ tileIdx = self.tiles.length then
    -- The bottom tile was removed and it was active.
    (self.activateIdx (tileIdx - 1)).map Prod.fst
  else
    some self

/-- What `remove_tile_by_idx` does to a column of several tiles. -/
def removeTile (tileIdx : ℕ) : Option (Tile Id × Column Id) := do
  let (tile, tiles) ← Vec.removeAt self.tiles tileIdx
  let (_, data) ← Vec.removeAt self.data tileIdx
  let column ← ({ self with tiles := tiles, data := resetLoneWeight data } :
    Column Id).activateAfterRemoval tileIdx
  let column ← column.updateTileSizes
  return (tile, column)

/-- `set_fullscreen`: asserts that a column going fullscreen has one tile or is tabbed. -/
def setFullscreen (isFullscreen : Bool) : Option (Column Id) :=
  if self.isPendingFullscreen = isFullscreen then some self
  else if isFullscreen ∧ ¬(self.tiles.length = 1 ∨ self.displayMode = .tabbed) then none
  else ({ self with isPendingFullscreen := isFullscreen } : Column Id).updateTileSizes

/-- `set_maximized`: the same, for maximizing to the edges. -/
def setMaximized (maximize : Bool) : Option (Column Id) :=
  if self.isPendingMaximized = maximize then some self
  else if maximize ∧ ¬(self.tiles.length = 1 ∨ self.displayMode = .tabbed) then none
  else ({ self with isPendingMaximized := maximize } : Column Id).updateTileSizes

/-- The empty column that `new_with_tile` starts from. -/
def newEmpty (options : Options) (displayMode : ColumnDisplay) (viewSize : Size)
    (workingArea parentArea : Rectangle) (scale : ℚ) (width : ColumnWidth)
    (isFullWidth : Bool) : Column Id where
  tiles := []
  data := []
  activeTileIdx := 0
  width := width
  presetWidthIdx :=
    options.presetColumnWidths.findIdx? fun preset => width = ColumnWidth.ofPreset preset
  isFullWidth := isFullWidth
  isPendingFullscreen := false
  isPendingMaximized := false
  displayMode := displayMode
  tabIndicator := options.tabIndicator
  viewSize := viewSize
  workingArea := workingArea
  parentArea := parentArea
  scale := scale
  options := options

/-- `new_with_tile`: the column takes over the mode pending on its first tile. -/
def newWithTile (tile : Tile Id) (viewSize : Size) (workingArea parentArea : Rectangle)
    (scale : ℚ) (width : ColumnWidth) (isFullWidth : Bool) : Option (Column Id) := do
  let displayMode :=
    tile.window.state.rules.defaultColumnDisplay.getD tile.options.defaultColumnDisplay
  let rv := newEmpty tile.options displayMode viewSize workingArea parentArea scale width
    isFullWidth
  let pendingSizingMode := tile.window.pendingSizingMode
  let rv ← rv.addTileAt 0 tile
  match pendingSizingMode with
  | .normal => return rv
  | .maximized => rv.setMaximized true
  | .fullscreen => rv.setFullscreen true

/-- `update_window`: the tile that shows `window` follows its new state. -/
def updateWindow [DecidableEq Id] (self : Column Id) (window : Id) : Option (Column Id) := do
  let tileIdx ← self.position window
  let tiles ← Vec.modifyAt self.tiles tileIdx fun tile => some tile.updateWindow
  let tile ← tiles[tileIdx]?
  let data ← Vec.modifyAt self.data tileIdx fun data => some (data.update tile)
  return { self with tiles := tiles, data := data }

/-- The window at `tileIdx` commits `state`, and its tile follows (`ScrollingSpace::update_window`,
`scrolling.rs`). -/
def commitWindow [DecidableEq Id] (self : Column Id) (window : Id) (tileIdx : ℕ)
    (state : WindowState) : Option (Column Id) := do
  let tiles ← Vec.modifyAt self.tiles tileIdx fun tile => some (tile.commit state)
  ({ self with tiles := tiles } : Column Id).updateWindow window

/-! ## Focus and movement inside the column -/

/-- `focus_index`: counts from one. -/
def focusIndex (index : ℕ) : Option (Column Id) := do
  let last ← Vec.lastIdx self.tiles
  let (self, _) ← self.activateIdx (min (index - 1) last)
  return self

def focusUp : Option (Column Id × Bool) :=
  self.activateIdx (self.activeTileIdx - 1)

def focusDown : Option (Column Id × Bool) := do
  let last ← Vec.lastIdx self.tiles
  self.activateIdx (min (self.activeTileIdx + 1) last)

def focusTop : Option (Column Id) := do
  let (self, _) ← self.activateIdx 0
  return self

def focusBottom : Option (Column Id) := do
  let last ← Vec.lastIdx self.tiles
  let (self, _) ← self.activateIdx last
  return self

/-- Exchange the active tile with the one at `newIdx`; the result says whether it moved. -/
def moveTo (newIdx : ℕ) : Option (Column Id × Bool) := do
  if self.activeTileIdx = newIdx then
    return (self, false)
  let tiles ← Vec.swap self.tiles self.activeTileIdx newIdx
  let data ← Vec.swap self.data self.activeTileIdx newIdx
  return ({ self with tiles := tiles, data := data, activeTileIdx := newIdx }, true)

def moveUp : Option (Column Id × Bool) :=
  self.moveTo (self.activeTileIdx - 1)

def moveDown : Option (Column Id × Bool) := do
  let last ← Vec.lastIdx self.tiles
  self.moveTo (min (self.activeTileIdx + 1) last)

/-! ## Widths -/

/-- `MAX_PX` and `MAX_F` of `set_column_width`. -/
def maxPx : ℚ := 100000

def maxF : ℚ := 10000

/-- The width `set_column_width` arrives at. -/
def columnWidthFor (change : SizeChange) (tileIdx : Option ℕ) : Option ColumnWidth :=
  let current :=
    if self.isFullWidth || self.isPendingMaximized then ColumnWidth.proportion 1 else self.width
  let currentPx := self.resolveColumnWidth current
  match current, change with
  | _, .setFixed fixed => do
    let tile ← self.tiles[tileIdx.getD self.activeTileIdx]?
    return .fixed (clamp (tile.tileLengthForWindowLength fixed) 1 maxPx)
  | _, .setProportion proportion => some (.proportion (clamp (proportion / 100) 0 maxF))
  | _, .adjustFixed delta => some (.fixed (clamp (currentPx + delta) 1 maxPx))
  | .proportion current, .adjustProportion delta =>
    some (.proportion (clamp (current + delta / 100) 0 maxF))
  | .fixed _, .adjustProportion delta =>
    let full := self.workingArea.size.w - self.options.gaps
    let current :=
      if full = 0 then 1 else (currentPx + self.options.gaps + self.extraSize.w) / full
    some (.proportion (clamp (current + delta / 100) 0 maxF))

/-- `set_column_width`: any explicit width ends full width and maximization. -/
def setColumnWidth (change : SizeChange) (tileIdx : Option ℕ) : Option (Column Id) := do
  let width ← self.columnWidthFor change tileIdx
  ({ self with
      width := width
      presetWidthIdx := none
      isFullWidth := false
      isPendingMaximized := false } : Column Id).updateTileSizes

/-- The next preset in one direction, cycling. -/
def cyclePreset (len idx : ℕ) (forwards : Bool) : ℕ :=
  (idx + if forwards then 1 else len - 1) % len

/-- The first preset larger than the current size, or the last one smaller. -/
def nearestPreset (larger smaller : PresetSize → Bool) (presets : List PresetSize)
    (forwards : Bool) : ℕ :=
  if forwards then (presets.findIdx? larger).getD 0
  else (Vec.rposition smaller presets).getD (presets.length - 1)

/-- The preset width that `toggle_width` moves to. -/
def nextPresetWidth (tileIdx : ℕ) (forwards : Bool) (expected : Option ISize) : Option ℕ :=
  let presets := self.options.presetColumnWidths
  match if self.isFullWidth || self.isPendingMaximized then none else self.presetWidthIdx with
  | some idx => some (cyclePreset presets.length idx forwards)
  | none => do
    let tile ← self.tiles[tileIdx]?
    let currentWindow := (tile.windowExpectedOrCurrentSize expected).w
    let currentTile := (tile.tileExpectedOrCurrentSize expected).w
    return nearestPreset
      (fun preset => match self.resolvePresetWidth preset with
        | .tile resolved => currentTile + 1 < resolved
        | .window resolved => currentWindow + 1 < resolved)
      (fun preset => match self.resolvePresetWidth preset with
        | .tile resolved => resolved + 1 < currentTile
        | .window resolved => resolved + 1 < currentWindow)
      presets forwards

/-- `toggle_width`; `expected` is the answer of the tile's window to `expected_size()`. -/
def toggleWidth (tileIdx : Option ℕ) (forwards : Bool) (expected : Option ISize) :
    Option (Column Id) := do
  let tileIdx := tileIdx.getD self.activeTileIdx
  let presetIdx ← self.nextPresetWidth tileIdx forwards expected
  let preset ← self.options.presetColumnWidths[presetIdx]?
  let self ← self.setColumnWidth (.ofPreset preset) (some tileIdx)
  return { self with presetWidthIdx := some presetIdx }

/-- `toggle_full_width`: on a maximized column this means to unmaximize. -/
def toggleFullWidth : Option (Column Id) :=
  if self.isPendingMaximized then
    ({ self with isPendingMaximized := false, isFullWidth := false } : Column Id).updateTileSizes
  else
    ({ self with isFullWidth := !self.isFullWidth } : Column Id).updateTileSizes

/-! ## Heights -/

/-- Only one window of a column may have a height of its own: before one gets it, all heights
become automatic, unless the window has one already. -/
def prepareHeightChange (tileIdx : ℕ) : Option (Column Id) := do
  let data ← self.data[tileIdx]?
  if data.height.isAuto then self.convertHeightsToAuto else some self

/-- Give the tile at `tileIdx` this height and request the sizes anew; the column is no longer
maximized. -/
def assignHeight (tileIdx : ℕ) (height : WindowHeight) : Option (Column Id) := do
  let data ← Vec.modifyAt self.data tileIdx fun data => some { data with height := height }
  ({ self with data := data, isPendingMaximized := false } : Column Id).updateTileSizes

/-- The window height `set_window_height` arrives at. -/
def windowHeightFor (tile : Tile Id) (tileIdx : ℕ) (current : WindowHeight) (change : SizeChange) :
    ℚ :=
  let currentWindowPx := match current with
    | .fixed height => height
    | _ => tile.windowSize.h
  let currentTilePx := tile.tileLengthForWindowLength currentWindowPx
  let workingSize := self.workingArea.size.h
  let gaps := self.options.gaps
  let extraSize := self.extraSize.h
  let full := workingSize - gaps
  let currentProp := if full = 0 then 1 else (currentTilePx + gaps) / full
  let tileHeight (proportion : ℚ) := (workingSize - gaps) * proportion - gaps - extraSize
  let windowHeight : ℚ := match change with
    | .setFixed fixed => fixed
    | .setProportion proportion => tile.windowLengthForTileLength (tileHeight (proportion / 100))
    | .adjustFixed delta => currentWindowPx + delta
    | .adjustProportion delta =>
      tile.windowLengthForTileLength (tileHeight (currentProp + delta / 100))
  let minHeightTaken := match self.displayMode with
    | .tabbed => 0
    | .normal => ((self.tiles.eraseIdx tileIdx).map fun tile =>
        max 1 tile.minHeightNonfullscreen + gaps).sum
  let heightLeft := workingSize - extraSize - gaps - minHeightTaken - gaps
  let heightLeft := max 1 (tile.windowLengthForTileLength heightLeft)
  let windowHeight := min heightLeft windowHeight
  let minH := tile.window.state.minSize.h
  let maxH := tile.window.state.maxSize.h
  let windowHeight := if 0 < maxH then min windowHeight maxH else windowHeight
  let windowHeight := if 0 < minH then max windowHeight minH else windowHeight
  clamp windowHeight 1 maxPx

def setWindowHeight (change : SizeChange) (tileIdx : Option ℕ) : Option (Column Id) := do
  let tileIdx := tileIdx.getD self.activeTileIdx
  let self ← self.prepareHeightChange tileIdx
  let current ← self.data[tileIdx]?
  let tile ← self.tiles[tileIdx]?
  self.assignHeight tileIdx (.fixed (self.windowHeightFor tile tileIdx current.height change))

/-- `reset_window_height`: all heights of a tabbed column, one height of a normal one. -/
def resetWindowHeight (tileIdx : Option ℕ) : Option (Column Id) :=
  if self.displayMode = .tabbed then
    ({ self with data := self.data.map ({ · with height := .auto1 }) } :
      Column Id).updateTileSizes
  else do
    let data ← Vec.modifyAt self.data (tileIdx.getD self.activeTileIdx) fun data =>
      some { data with height := .auto1 }
    ({ self with data := data } : Column Id).updateTileSizes

/-- The tile height a preset stands for. -/
def presetTileHeight (tile : Tile Id) (preset : PresetSize) : ℚ :=
  let windowHeight := match self.resolvePresetHeight preset with
    | .tile h => tile.windowLengthForTileLength h
    | .window h => h
  tile.tileLengthForWindowLength (clamp (roundHalfAway windowHeight) 1 100000)

def toggleWindowHeight (tileIdx : Option ℕ) (forwards : Bool) : Option (Column Id) := do
  let tileIdx := tileIdx.getD self.activeTileIdx
  let self ← self.prepareHeightChange tileIdx
  let presets := self.options.presetWindowHeights
  let data ← self.data[tileIdx]?
  let tile ← self.tiles[tileIdx]?
  let nearest := nearestPreset
    (fun preset => data.size.h + 1 < self.presetTileHeight tile preset)
    (fun preset => self.presetTileHeight tile preset + 1 < data.size.h)
    presets forwards
  let presetIdx := match data.height with
    | .preset idx =>
      if self.isPendingMaximized then nearest else cyclePreset presets.length idx forwards
    | _ => nearest
  self.assignHeight tileIdx (.preset presetIdx)

def setColumnDisplay (display : ColumnDisplay) : Option (Column Id) :=
  if self.displayMode = display then some self
  else ({ self with displayMode := display } : Column Id).updateTileSizes

end Column

end Tiri.Layout
