import Tiri.Layout.Options

/-!
# Windows and tiles

A window is a client's toplevel, as the layout sees it: what the client has committed, and what
the compositor has asked of it.  A tile wraps one window; it carries the sizing mode it is
currently drawn in (which follows the window's only when the window commits), the effective
border, and the flag that remembers whether the tile floats again once it leaves fullscreen.
-/

namespace Tiri.Layout

open NiriConfig (Border BorderRule)

/-- The window rules the layout reads. -/
structure WindowRules where
  border : BorderRule := {}
  defaultColumnDisplay : Option ColumnDisplay := none

/-- What a client's commit, and the rules resolved after it, say about a window. -/
structure WindowState where
  size : ISize
  minSize : ISize
  maxSize : ISize
  sizingMode : SizingMode
  rules : WindowRules
  isUrgent : Bool

/-- A `LayoutElement`. -/
structure Window (Id : Type) where
  id : Id
  /-- The toplevel's parent, for `is_child_of`. -/
  parent : Option Id
  state : WindowState
  /-- `pending_sizing_mode()`: changes as soon as a size is requested. -/
  pendingSizingMode : SizingMode

/-- `resize_edge` of an interactive resize. -/
structure ResizeEdge where
  top : Bool
  bottom : Bool
  left : Bool
  right : Bool

/-- `struct Tile` (`tile.rs`, lines 40–120). -/
structure Tile (Id : Type) where
  window : Window Id
  border : Border
  sizingMode : SizingMode
  /-- Whether the tile should float upon unfullscreening. -/
  restoreToFloating : Bool
  viewSize : Size
  scale : ℚ
  options : Options

variable {Id : Type}

namespace Window

/-- `is_child_of`: the direct parent only. -/
def isChildOf [DecidableEq Id] (self other : Window Id) : Bool :=
  self.parent == some other.id

/-- Every `request_size` makes the requested mode pending at once. -/
def requestSize (self : Window Id) (mode : SizingMode) : Window Id :=
  { self with pendingSizingMode := mode }

/-- `on_commit`: the state the client has committed becomes current. -/
def onCommit (self : Window Id) (state : WindowState) : Window Id :=
  { self with state := state }

end Window

namespace Tile

variable (self : Tile Id)

/-- The identity of the tile's window. -/
def id : Id := self.window.id

/-- `Tile::new` (`tile.rs`, lines 177–214). -/
def new (window : Window Id) (viewSize : Size) (scale : ℚ) (options : Options) : Tile Id where
  window := window
  border := options.border.mergeWith window.state.rules.border
  sizingMode := window.state.sizingMode
  restoreToFloating := false
  viewSize := viewSize
  scale := scale
  options := options

/-- The border a tile draws, its width rounded to physical pixels (`tile.rs`, 240–244). -/
def borderConfig (options : Options) (scale : ℚ) (rules : WindowRules) : Border :=
  let config := options.border.mergeWith rules.border
  { config with width := roundLogicalInPhysicalMax1 scale config.width }

/-- `Tile::update_config` (`tile.rs`, lines 218–256). -/
def updateConfig (viewSize : Size) (scale : ℚ) (options : Options) : Tile Id :=
  { self with
    viewSize := viewSize
    scale := scale
    options := options
    border := borderConfig options scale self.window.state.rules }

/-- `Tile::update_window` (`tile.rs`, lines 264–409). -/
def updateWindow : Tile Id :=
  { self with
    sizingMode := self.window.state.sizingMode
    border := borderConfig self.options self.scale self.window.state.rules }

/-- `window_size`: rounded to physical pixels (`tile.rs`, lines 803–809). -/
def windowSize : Size where
  w := roundHalfAway (self.window.state.size.w * self.scale) / self.scale
  h := roundHalfAway (self.window.state.size.h * self.scale) / self.scale

/-- `window_expected_or_current_size` (`tile.rs`, lines 811–818); `expected` is what the window
answers to `expected_size()`, which depends on the requests still in flight to the client. -/
def windowExpectedOrCurrentSize (expected : Option ISize) : Size :=
  let size := expected.getD self.window.state.size
  ⟨roundHalfAway (size.w * self.scale) / self.scale,
    roundHalfAway (size.h * self.scale) / self.scale⟩

/-- `effective_border_width` (`tile.rs`, lines 708–718). -/
def effectiveBorderWidth : Option ℚ :=
  if self.sizingMode = .normal ∧ self.border.off = false then some self.border.width else none

/-- The size of a tile around a window of the given size (`tile.rs`, lines 765–804). -/
def tileSizeFor (size : Size) : Size :=
  if self.sizingMode = .fullscreen then
    ⟨max size.w self.viewSize.w, max size.h self.viewSize.h⟩
  else
    match self.effectiveBorderWidth with
    | some width => ⟨size.w + width * 2, size.h + width * 2⟩
    | none => size

/-- `tile_size` (`tile.rs`, lines 765–782). -/
def tileSize : Size := self.tileSizeFor self.windowSize

/-- `tile_expected_or_current_size` (`tile.rs`, lines 784–801). -/
def tileExpectedOrCurrentSize (expected : Option ISize) : Size :=
  self.tileSizeFor (self.windowExpectedOrCurrentSize expected)

/-- What the border adds to a window on both sides together. -/
def borderExtra : ℚ :=
  if self.border.off then 0 else self.border.width * 2

/-- `tile_width_for_window_width` and `tile_height_for_window_height` (`tile.rs`, 924–938). -/
def tileLengthForWindowLength (size : ℚ) : ℚ := size + self.borderExtra

/-- `window_width_for_tile_width` and `window_height_for_tile_height` (`tile.rs`, 940–954). -/
def windowLengthForTileLength (size : ℚ) : ℚ := size - self.borderExtra

/-- The height of `min_size_nonfullscreen` (`tile.rs`, lines 979–994). -/
def minHeightNonfullscreen : ℚ :=
  if self.border.off then self.window.state.minSize.h
  else max 1 (self.window.state.minSize.h : ℚ) + self.border.width * 2

/-- `request_fullscreen`, `request_maximized` and `request_tile_size`: the size requested goes
to the client; what the layout sees at once is the mode. -/
def request (mode : SizingMode) : Tile Id :=
  { self with window := self.window.requestSize mode }

/-- Commit a new window state to the tile's window. -/
def commit (state : WindowState) : Tile Id :=
  { self with window := self.window.onCommit state }

/-! ## Frame facts -/

variable (t : Tile Id) (v : Size) (s : ℚ) (o : Options)

@[simp] theorem id_updateConfig :
    (t.updateConfig v s o).id = t.id := rfl

variable (m : SizingMode)

@[simp] theorem id_request : (t.request m).id = t.id := rfl

@[simp] theorem id_commit (st : WindowState) : (t.commit st).id = t.id := rfl

@[simp] theorem sizingMode_request :
    (t.request m).sizingMode = t.sizingMode := rfl

@[simp] theorem sizingMode_updateConfig :
    (t.updateConfig v s o).sizingMode = t.sizingMode := rfl

/-- Asking for a size leaves the current size of the tile as it is. -/
@[simp] theorem tileSize_request :
    (t.request m).tileSize = t.tileSize := rfl

end Tile

end Tiri.Layout
