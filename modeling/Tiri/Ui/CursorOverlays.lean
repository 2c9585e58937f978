import Tiri.Lib.HashMap
import Tiri.Lib.Sort
import Tiri.Utils.Geometry

/-!
# Cursor overlays

`src/ui/cursor_overlays.rs`: layer surfaces that are drawn beside a cursor instead of where the
layer shell puts them.

A logical length is an exact rational.  What the layout and the layer shell tell of an output, and
the tree of a surface, are arguments.
-/

namespace Tiri.Ui

open Utils (Point Size Rectangle)

/-! ## The registered overlays -/

inductive CursorOverlayAnchor
  | hardwarePointer
  | virtualCursor (cursorId : String)

inductive CursorOverlaySide
  | right
  | left
  | above
  | below

inductive CursorOverlayAlign
  | start
  | center
  | «end»

structure CursorOverlayPlacement where
  side : CursorOverlaySide
  align : CursorOverlayAlign
  gap : ℚ
  offsetX : ℚ
  offsetY : ℚ
  edgePadding : ℚ
  flip : Bool

/-- `CursorOverlayPlacement::default`. -/
def CursorOverlayPlacement.default : CursorOverlayPlacement where
  side := .right
  align := .start
  gap := 10
  offsetX := 0
  offsetY := 0
  edgePadding := 8
  flip := true

structure RegisteredCursorOverlay where
  overlayId : String
  layerNamespace : String
  anchor : CursorOverlayAnchor
  placement : CursorOverlayPlacement
  visible : Bool
  interactive : Bool
  keyboardFocus : Bool
  zIndex : ℤ

/-- `CursorOverlayUi`: each overlay is stored under its id. -/
structure CursorOverlayUi where
  overlays : HashMap String RegisteredCursorOverlay
  keyed : HashMap.Keyed RegisteredCursorOverlay.overlayId overlays

/-! ## Placement -/

def alignAxis (anchor size : ℚ) : CursorOverlayAlign → ℚ
  | .start => anchor
  | .center => anchor - size / 2
  | .end => anchor - size

def placeOnSide (anchor : Point ℚ) (size : Size ℚ) (placement : CursorOverlayPlacement)
    (side : CursorOverlaySide) : Rectangle ℚ :=
  let loc : Point ℚ :=
    match side with
    | .right => ⟨anchor.x + placement.gap, alignAxis anchor.y size.h placement.align⟩
    | .left => ⟨anchor.x - placement.gap - size.w, alignAxis anchor.y size.h placement.align⟩
    | .above => ⟨alignAxis anchor.x size.w placement.align, anchor.y - placement.gap - size.h⟩
    | .below => ⟨alignAxis anchor.x size.w placement.align, anchor.y + placement.gap⟩
  ⟨⟨loc.x + placement.offsetX, loc.y + placement.offsetY⟩, size⟩

def oppositeSide : CursorOverlaySide → CursorOverlaySide
  | .right => .left
  | .left => .right
  | .above => .below
  | .below => .above

variable (rect : Rectangle ℚ)

def fits (outputSize : Size ℚ) (edgePadding : ℚ) : Bool :=
  edgePadding ≤ rect.loc.x && edgePadding ≤ rect.loc.y &&
    rect.loc.x + rect.size.w ≤ outputSize.w - edgePadding &&
    rect.loc.y + rect.size.h ≤ outputSize.h - edgePadding

def rectContains (point : Point ℚ) : Bool :=
  rect.loc.x ≤ point.x && rect.loc.y ≤ point.y &&
    point.x < rect.loc.x + rect.size.w && point.y < rect.loc.y + rect.size.h

def clampRect (outputSize : Size ℚ) (edgePadding : ℚ) : Rectangle ℚ :=
  let maxX := max (outputSize.w - edgePadding - rect.size.w) edgePadding
  let maxY := max (outputSize.h - edgePadding - rect.size.h) edgePadding
  { rect with
    loc := ⟨Layout.clamp rect.loc.x edgePadding maxX, Layout.clamp rect.loc.y edgePadding maxY⟩ }

def RegisteredCursorOverlay.placementRect (overlay : RegisteredCursorOverlay) (anchor : Point ℚ)
    (size outputSize : Size ℚ) : Rectangle ℚ :=
  let placement := overlay.placement
  let preferred := placeOnSide anchor size placement placement.side
  let rect :=
    if placement.flip && !fits preferred outputSize placement.edgePadding then
      let flipped := placeOnSide anchor size placement (oppositeSide placement.side)
      if fits flipped outputSize placement.edgePadding then flipped else preferred
    else preferred
  clampRect rect outputSize placement.edgePadding

/-! ## What an output shows -/

/-- A tile of a workspace, as it is rendered. -/
structure TileView (WindowId : Type) where
  window : WindowId
  pos : Point ℚ
  visible : Bool
  windowLoc : Point ℚ
  bobOffset : Point ℚ

/-- `InteractiveMoveState::Moving`: the tile, at its `tile_render_location` for the zoom. -/
structure InteractiveMoveView (WindowId Output : Type) where
  output : Output
  tile : TileView WindowId
  overviewZoom : ℚ

/-- A monitor: its zoom, and the workspaces with where they are rendered. -/
structure MonitorView (WindowId : Type) where
  overviewZoom : ℚ
  workspacesWithRenderGeo : List (List (TileView WindowId) × Rectangle ℚ)

/-- `LayerSurface`, of the overlay layer. -/
structure LayerSurface where
  id : ℕ
  layerNamespace : String
  deriving DecidableEq

/-- `LayerMap`, as far as the overlay layer goes. -/
structure LayerMap where
  layersOnOverlay : List LayerSurface
  layerGeometry : LayerSurface → Option (Rectangle ℤ)

structure PinnedCursor (WindowId : Type) where
  windowId : WindowId
  visualPosition : Point ℚ

/-- What the overlays look at. -/
structure Niri (WindowId Output WlSurface : Type) where
  tabletCursorLocation : Option (Point ℚ)
  pointerLocation : Point ℚ
  outputGeometry : Output → Option (Rectangle ℤ)
  outputSize : Output → Size ℚ
  monitorForOutput : Output → Option (MonitorView WindowId)
  interactiveMove : Option (InteractiveMoveView WindowId Output)
  cursors : HashMap String (PinnedCursor WindowId)
  mappedLayerSurfaces : Finset LayerSurface
  /-- `MappedLayer::bob_offset`, at this time. -/
  bobOffset : LayerSurface → Point ℚ
  surfaceUnder : LayerSurface → Point ℚ → Option WlSurface
  /-- Where a surface is in the tree of a layer surface. -/
  surfaceOrigin : LayerSurface → WlSurface → Point ℤ

variable {WindowId Output WlSurface : Type} [DecidableEq WindowId]

namespace Niri

variable (niri : Niri WindowId Output WlSurface)

def windowRelativePointOnOutput (output : Output) (windowId : WindowId) (point : Point ℚ) :
    Option (Point ℚ) :=
  (niri.monitorForOutput output).bind fun mon =>
    mon.workspacesWithRenderGeo.findSome? fun (tiles, wsGeo) =>
      tiles.findSome? fun tile =>
        if tile.visible = false ∨ tile.window ≠ windowId then none
        else
          let windowPos := tile.pos + tile.windowLoc + point
          some (wsGeo.loc + windowPos.upscale mon.overviewZoom)

def visualPointOnOutput (output : Output) (cursorId : String) : Option (Point ℚ) :=
  (niri.cursors.lookup cursorId).bind fun cursor =>
    niri.windowRelativePointOnOutput output cursor.windowId cursor.visualPosition

def anchorPoint (output : Output) : CursorOverlayAnchor → Option (Point ℚ)
  | .hardwarePointer =>
    let pointerPos := niri.tabletCursorLocation.getD niri.pointerLocation
    (niri.outputGeometry output).bind fun outputGeo =>
      if outputGeo.contains pointerPos.toI32Round then some (pointerPos - outputGeo.loc.toF64)
      else none
  | .virtualCursor cursorId => niri.visualPointOnOutput output cursorId

/-- Smithay's `under_from_surface_tree`. -/
def underFromSurfaceTree (layerSurface : LayerSurface) (point : Point ℚ) :
    Option (WlSurface × Point ℤ) :=
  (niri.surfaceUnder layerSurface point).map fun surface =>
    (surface, niri.surfaceOrigin layerSurface surface)

/-- Where an overlay is, with a layer surface of the size. -/
def overlayRect (output : Output) (overlay : RegisteredCursorOverlay) (anchor : Point ℚ)
    (geo : Rectangle ℤ) : Rectangle ℚ :=
  overlay.placementRect anchor geo.size.toF64 (niri.outputSize output)

/-- Where `render_normal` and `render_popups` draw it. -/
def drawnRect (output : Output) (overlay : RegisteredCursorOverlay) (anchor : Point ℚ)
    (surface : LayerSurface) (geo : Rectangle ℤ) : Rectangle ℚ :=
  let rect := niri.overlayRect output overlay anchor geo
  { rect with loc := rect.loc + niri.bobOffset surface }

end Niri

/-! ## Hit testing and drawing -/

/-- Higher overlays come first. -/
def compareOverlays : RegisteredCursorOverlay → RegisteredCursorOverlay → Ordering :=
  compareLex (fun a b => compare b.zIndex a.zIndex) (compareOn RegisteredCursorOverlay.overlayId)

variable (ui : CursorOverlayUi)

/-- The overlays from the top down, with the order in which the hash map is iterated. -/
def CursorOverlayUi.sorted (order : List String) : List RegisteredCursorOverlay :=
  sortBy compareOverlays (HashMap.values ui.overlays order)

/-- The layer surface that the hit test finds for an overlay. -/
def hitSurface (layerMap : LayerMap) (overlay : RegisteredCursorOverlay) :
    Option (LayerSurface × Rectangle ℤ) :=
  layerMap.layersOnOverlay.findSome? fun s =>
    if s.layerNamespace ≠ overlay.layerNamespace then none
    else (layerMap.layerGeometry s).map fun geo => (s, geo)

/-- The layer surface that is drawn for an overlay. -/
def drawnSurface (niri : Niri WindowId Output WlSurface) (layerMap : LayerMap)
    (overlay : RegisteredCursorOverlay) : Option (LayerSurface × Rectangle ℤ) :=
  layerMap.layersOnOverlay.findSome? fun s =>
    if s.layerNamespace ≠ overlay.layerNamespace then none
    else if s ∈ niri.mappedLayerSurfaces then
      (layerMap.layerGeometry s).map fun geo => (s, geo)
    else none

/-- The loop of `surface_under`, with the namespaces that were looked at. -/
def surfaceUnderLoop (niri : Niri WindowId Output WlSurface) (output : Output)
    (layerMap : LayerMap) (posWithinOutput : Point ℚ) :
    Finset String → List RegisteredCursorOverlay →
    Option ((WlSurface × Point ℚ) × LayerSurface)
  | _, [] => none
  | checked, overlay :: overlays =>
    if overlay.visible = false ∨ overlay.interactive = false ∨
        overlay.layerNamespace ∈ checked then
      surfaceUnderLoop niri output layerMap posWithinOutput checked overlays
    else
      let checked := insert overlay.layerNamespace checked
      match hitSurface layerMap overlay with
      | none => surfaceUnderLoop niri output layerMap posWithinOutput checked overlays
      | some (layerSurface, geo) =>
        match niri.anchorPoint output overlay.anchor with
        -- The whole hit test ends here.
        | none => none
        | some anchor =>
          let rect := niri.overlayRect output overlay anchor geo
          if rectContains rect posWithinOutput then
            match niri.underFromSurfaceTree layerSurface (posWithinOutput - rect.loc) with
            | none => surfaceUnderLoop niri output layerMap posWithinOutput checked overlays
            | some (surface, surfaceOrigin) =>
              some ((surface, surfaceOrigin.toF64 + rect.loc), layerSurface)
          else surfaceUnderLoop niri output layerMap posWithinOutput checked overlays

/-- `surface_under`, with the order in which the overlays are iterated. -/
def CursorOverlayUi.surfaceUnder (niri : Niri WindowId Output WlSurface) (output : Output)
    (layerMap : LayerMap) (posWithinOutput : Point ℚ) (order : List String) :
    Option ((WlSurface × Point ℚ) × LayerSurface) :=
  surfaceUnderLoop niri output layerMap posWithinOutput ∅ (ui.sorted order)

/-- An overlay that is drawn: its layer surface, and where. -/
structure DrawnOverlay where
  overlay : RegisteredCursorOverlay
  surface : LayerSurface
  rect : Rectangle ℚ

/-- The loop of `render_output`, with the namespaces that were rendered.  What is pushed first is on
top. -/
def renderOutputLoop (niri : Niri WindowId Output WlSurface) (output : Output)
    (layerMap : LayerMap) : Finset String → List RegisteredCursorOverlay → List DrawnOverlay
  | _, [] => []
  | rendered, overlay :: overlays =>
    if overlay.visible = false ∨ overlay.layerNamespace ∈ rendered then
      renderOutputLoop niri output layerMap rendered overlays
    else
      let rendered := insert overlay.layerNamespace rendered
      match drawnSurface niri layerMap overlay with
      | none => renderOutputLoop niri output layerMap rendered overlays
      | some (mapped, geo) =>
        match niri.anchorPoint output overlay.anchor with
        | none => renderOutputLoop niri output layerMap rendered overlays
        | some anchor =>
          ⟨overlay, mapped, niri.drawnRect output overlay anchor mapped geo⟩ ::
            renderOutputLoop niri output layerMap rendered overlays

/-- `render_output`, with the order in which the overlays are iterated. -/
def CursorOverlayUi.renderOutput (niri : Niri WindowId Output WlSurface) (output : Output)
    (layerMap : LayerMap) (order : List String) : List DrawnOverlay :=
  renderOutputLoop niri output layerMap ∅ (ui.sorted order)

end Tiri.Ui
