import Tiri.Layout.Scrolling

/-!
# The floating space

`struct FloatingSpace` and its methods (`floating.rs`, lines 30–1380).  The tiles are kept from
top to bottom.  Positions, animations and the closing windows are geometry over the tiles and
are left out; a size request reaches the client, and what the space sees of it is that the
window is in normal sizing afterwards.  Where a method lets positions decide (which tile lies
to the left), what geometry answers is an argument.
-/

namespace Tiri.Layout

/-- `struct FloatingSpace` (`floating.rs`, lines 34–71). -/
structure FloatingSpace (Id : Type) where
  tiles : List (Tile Id)
  activeWindowId : Option Id
  interactiveResize : Option (InteractiveResize Id)
  viewSize : Size
  workingArea : Rectangle
  scale : ℚ
  options : Options

variable {Id : Type}

namespace FloatingSpace

def new (viewSize : Size) (workingArea : Rectangle) (scale : ℚ) (options : Options) :
    FloatingSpace Id where
  tiles := []
  activeWindowId := none
  interactiveResize := none
  viewSize := viewSize
  workingArea := workingArea
  scale := scale
  options := options

variable (self : FloatingSpace Id)

/-- `update_config` (`floating.rs`, lines 223–242). -/
def updateConfig (viewSize : Size) (workingArea : Rectangle) (scale : ℚ) (options : Options) :
    FloatingSpace Id :=
  { self with
    tiles := self.tiles.map (·.updateConfig viewSize scale options)
    viewSize := viewSize
    workingArea := workingArea
    scale := scale
    options := options }

/-! ## Reading the space -/

/-- The ids of the windows, from top to bottom. -/
def ids : List Id := self.tiles.map Tile.id

def isEmpty : Bool := self.tiles.isEmpty

def idxOf [DecidableEq Id] (self : FloatingSpace Id) (id : Id) : Option ℕ :=
  self.tiles.findIdx? (·.id = id)

/-- `has_window` and `contains`. -/
def hasWindow [DecidableEq Id] (self : FloatingSpace Id) (id : Id) : Bool :=
  self.tiles.any (·.id = id)

def activeWindow [DecidableEq Id] (self : FloatingSpace Id) : Option (Window Id) := do
  let id ← self.activeWindowId
  let tile ← self.tiles.find? (·.id = id)
  return tile.window

/-! ## Stacking -/

/-- `raise_window` (`floating.rs`, lines 594–601): asserts that the tile moves up. -/
def raiseWindow (fromIdx toIdx : ℕ) : Option (FloatingSpace Id) :=
  if fromIdx < toIdx then none
  else do
    let (tile, tiles) ← Vec.removeAt self.tiles fromIdx
    let tiles ← Vec.insertAt tiles toIdx tile
    return { self with tiles := tiles }

/-- The tiles below `idx` that descend from the tile there, with their positions, walking from
back to front: a tile counts once its parent does. -/
def descendantsOf [DecidableEq Id] (tiles : List (Tile Id)) (window : Window Id) (idx : ℕ) :
    List (Tile Id × ℕ) :=
  ((tiles.zipIdx.drop (idx + 1)).reverse).foldl
    (fun descendants below =>
      if below.1.window.isChildOf window ||
          descendants.any fun d => below.1.window.isChildOf d.1.window then
        descendants ++ [below]
      else descendants)
    []

/-- Raise the tiles at these positions, one after another, to `idx` and the places below it. -/
def raiseAll (self : FloatingSpace Id) : List ℕ → ℕ → Option (FloatingSpace Id)
  | [], _ => some self
  | descendantIdx :: rest, idx => do
    let self ← self.raiseWindow descendantIdx idx
    self.raiseAll rest (idx + 1)

/-- `bring_up_descendants_of` (`floating.rs`, lines 485–511). -/
def bringUpDescendantsOf [DecidableEq Id] (self : FloatingSpace Id) (idx : ℕ) :
    Option (FloatingSpace Id) := do
  let tile ← self.tiles[idx]?
  -- Repositioning front to back keeps the positions of those still to come.
  self.raiseAll ((descendantsOf self.tiles tile.window idx).reverse.map Prod.snd) idx

def descendantsAdded [DecidableEq Id] (self : FloatingSpace Id) (id : Id) :
    Option (FloatingSpace Id × Bool) :=
  match self.idxOf id with
  | none => some (self, false)
  | some idx => do
    let self ← self.bringUpDescendantsOf idx
    return (self, true)

/-! ## Adding -/

/-- Where a tile goes so that it is not below its parent. -/
def aboveParent [DecidableEq Id] (self : FloatingSpace Id) (idx : ℕ) (window : Window Id) : ℕ :=
  ((self.tiles.take idx).findIdx? fun above => window.isChildOf above.window).getD idx

/-- `add_tile_at` (`floating.rs`, lines 419–470). -/
def addTileAt [DecidableEq Id] (self : FloatingSpace Id) (idx : ℕ) (tile : Tile Id)
    (activate : Bool) : Option (FloatingSpace Id) := do
  let tile := (tile.updateConfig self.viewSize self.scale self.options).request .normal
  let idx := self.aboveParent idx tile.window
  let tiles ← Vec.insertAt self.tiles idx tile
  ({ self with
      tiles := tiles
      activeWindowId :=
        if activate || self.tiles.isEmpty then some tile.id else self.activeWindowId } :
    FloatingSpace Id).bringUpDescendantsOf idx

/-- `add_tile`: on top. -/
def addTile [DecidableEq Id] (self : FloatingSpace Id) (tile : Tile Id) (activate : Bool) :
    Option (FloatingSpace Id) :=
  self.addTileAt 0 tile activate

def addTileAbove [DecidableEq Id] (self : FloatingSpace Id) (above : Id) (tile : Tile Id)
    (activate : Bool) : Option (FloatingSpace Id) := do
  let idx ← self.idxOf above
  self.addTileAt idx tile activate

/-! ## Removing -/

/-- `remove_tile_by_idx` (`floating.rs`, lines 523–559); `expected` is what the window answers
to `expected_size()`. -/
def removeTileByIdx [DecidableEq Id] (self : FloatingSpace Id) (idx : ℕ)
    (expected : Option ISize) : Option (RemovedTile Id × FloatingSpace Id) := do
  let (tile, tiles) ← Vec.removeAt self.tiles idx
  let self : FloatingSpace Id := { self with
    tiles := tiles
    activeWindowId :=
      match tiles with
      | [] => none
      | topmost :: _ =>
        if self.activeWindowId = some tile.id then some topmost.id else self.activeWindowId
    interactiveResize := self.interactiveResize.filter (·.window ≠ tile.id) }
  return (⟨tile, .fixed (tile.tileExpectedOrCurrentSize expected).w, false, true⟩, self)

def removeTile [DecidableEq Id] (self : FloatingSpace Id) (id : Id) (expected : Option ISize) :
    Option (RemovedTile Id × FloatingSpace Id) := do
  let idx ← self.idxOf id
  self.removeTileByIdx idx expected

def removeActiveTile [DecidableEq Id] (self : FloatingSpace Id) (expected : Option ISize) :
    Option (Option (RemovedTile Id) × FloatingSpace Id) :=
  match self.activeWindowId with
  | none => some (none, self)
  | some id => do
    let (removed, self) ← self.removeTile id expected
    return (some removed, self)

/-! ## Activating -/

def activateWindowWithoutRaising [DecidableEq Id] (self : FloatingSpace Id) (id : Id) :
    FloatingSpace Id × Bool :=
  if self.hasWindow id then ({ self with activeWindowId := some id }, true) else (self, false)

/-- `activate_window` (`floating.rs`, lines 580–592). -/
def activateWindow [DecidableEq Id] (self : FloatingSpace Id) (id : Id) :
    Option (FloatingSpace Id × Bool) :=
  match self.idxOf id with
  | none => some (self, false)
  | some idx => do
    let self ← self.raiseWindow idx 0
    let self ← ({ self with activeWindowId := some id } : FloatingSpace Id).bringUpDescendantsOf 0
    return (self, true)

/-- `focus_directional`, behind `focus_left` and the like: `nearest` is the closest tile in
that direction. -/
def focusDirectional [DecidableEq Id] (self : FloatingSpace Id) (nearest : Option Id) :
    Option (FloatingSpace Id × Bool) :=
  match self.activeWindowId with
  | none => some (self, false)
  | some activeId => do
    let _ ← self.idxOf activeId
    match nearest with
    | none => return (self, false)
    | some id =>
      let (self, _) ← self.activateWindow id
      return (self, true)

/-- `focus_leftmost` and the like: `outermost` is the tile farthest in that direction. -/
def focusOutermost [DecidableEq Id] (self : FloatingSpace Id) (outermost : Option Id) :
    Option (FloatingSpace Id) :=
  match outermost with
  | none => some self
  | some id => do
    let (self, _) ← self.activateWindow id
    return self

/-! ## Interactive resize -/

def interactiveResizeBegin [DecidableEq Id] (self : FloatingSpace Id) (window : Id)
    (edges : ResizeEdge) : Option (FloatingSpace Id × Bool) := do
  if self.interactiveResize.isSome then
    return (self, false)
  let tile ← self.tiles.find? (·.id = window)
  return ({ self with interactiveResize := some ⟨window, tile.windowSize, edges⟩ }, true)

def interactiveResizeEnd [DecidableEq Id] (self : FloatingSpace Id) (window : Option Id) :
    FloatingSpace Id :=
  match self.interactiveResize, window with
  | some resize, some window =>
    if window = resize.window then { self with interactiveResize := none } else self
  | _, _ => { self with interactiveResize := none }

/-! ## Moving and resizing a window -/

/-- The window an operation is about: the one named, or the active one. -/
def target (id : Option Id) : Option Id := id.or self.activeWindowId

/-- `move_by`, `move_window` and `center_window` change a position, and end a resize. -/
def moveWindow [DecidableEq Id] (self : FloatingSpace Id) (id : Option Id) :
    Option (FloatingSpace Id) :=
  match self.target id with
  | none => some self
  | some id => do
    let _ ← self.idxOf id
    return self.interactiveResizeEnd none

/-- `set_window_width` and `set_window_height`: the window is asked for another size. -/
def setWindowSize [DecidableEq Id] (self : FloatingSpace Id) (id : Option Id) :
    Option (FloatingSpace Id) :=
  match self.target id with
  | none => some self
  | some id => do
    let idx ← self.idxOf id
    let tiles ← Vec.modifyAt self.tiles idx fun tile => some (tile.request .normal)
    return { self with tiles := tiles }

/-- `toggle_window_width` and `toggle_window_height`: the next preset, and the end of a
resize. -/
def toggleWindowSize [DecidableEq Id] (self : FloatingSpace Id) (id : Option Id) :
    Option (FloatingSpace Id) :=
  match self.target id with
  | none => some self
  | some id => do
    let self ← self.setWindowSize (some id)
    return self.interactiveResizeEnd (some id)

def interactiveResizeUpdate [DecidableEq Id] (self : FloatingSpace Id) (window : Id) :
    Option (FloatingSpace Id × Bool) := do
  match self.interactiveResize with
  | none => return (self, false)
  | some resize =>
    if window ≠ resize.window then
      return (self, false)
    let self ←
      (if resize.edges.left || resize.edges.right then self.setWindowSize (some window)
        else some self)
    let self ←
      (if resize.edges.top || resize.edges.bottom then self.setWindowSize (some window)
        else some self)
    return (self, true)

/-! ## A window's commit -/

/-- `update_window`: the window commits `state`, and its tile follows. -/
def updateWindow [DecidableEq Id] (self : FloatingSpace Id) (id : Id) (state : WindowState) :
    Option (FloatingSpace Id × Bool) :=
  match self.idxOf id with
  | none => some (self, false)
  | some idx => do
    let tiles ← Vec.modifyAt self.tiles idx fun tile => some (tile.commit state).updateWindow
    return ({ self with tiles := tiles }, true)

end FloatingSpace

end Tiri.Layout
