import Tiri.Ui.LayerShell

/-!
# What is under a point

`window_under` and `contents_under` of `src/niri.rs`, with the checks that they make on the way.

The windows of the layout, and the input regions of the surfaces, are functions of the state.

Results:
* `isLayoutObscuredUnder_eq`, `isStickyObscuredUnder_eq`: the checks of `window_under`, next to the layers of
  `contents_under`;
* `windowUnder_eq_iff`: both find one window exactly where no claimed surface, no cursor overlay and
  no popup of the lower layers comes between them.
-/

namespace Tiri.Ui

open Utils (Point Size Rectangle)
open List
open Option
open Bool hiding and_assoc not_or true_and

/-! ## The state -/

inductive HitType
  | input (winPos : Point ℚ)
  | activate (isTabIndicator : Bool)

structure HotCorners where
  off : Bool
  topLeft : Bool
  topRight : Bool
  bottomLeft : Bool
  bottomRight : Bool

structure PointContents (WindowId Output WlSurface : Type) where
  output : Option Output
  surface : Option (WlSurface × Point ℚ)
  window : Option (WindowId × HitType)
  layer : Option LayerSurface
  hotCorner : Bool

/-- `PointContents::default`. -/
def PointContents.default {WindowId Output WlSurface : Type} :
    PointContents WindowId Output WlSurface :=
  ⟨none, none, none, none, false⟩

/-- What a hit test finds: a surface with its position, and the window or the layer surface that it
belongs to. -/
structure Under (WindowId WlSurface : Type) where
  surfaceAndPos : Option (WlSurface × Point ℚ)
  window : Option (WindowId × HitType)
  layer : Option LayerSurface

/-- What the hit tests look at. -/
structure PointState (WindowId Output WlSurface : Type) where
  niri : Niri WindowId Output WlSurface
  shell : LayerShell
  cursorOverlayUi : CursorOverlayUi
  spaceOutputUnder : Point ℚ → Option Output
  layerMapForOutput : Output → OutputLayers
  exitConfirmDialogOpen : Bool
  isLocked : Bool
  screenshotUiOpen : Bool
  windowMruUiOpen : Bool
  lockSurface : Output → Option WlSurface
  isOverviewOpen : Bool
  renderAboveTopLayer : Output → Bool
  interactiveMovedWindow : Output → Point ℚ → Option (WindowId × HitType)
  layoutWindow : Output → Point ℚ → Option (WindowId × HitType)
  outputHotCorners : Output → Option HotCorners
  gesturesHotCorners : HotCorners
  /-- `LayerSurface::surface_under`, of the popups or of the surface itself. -/
  underLayerSurface : LayerSurface → Bool → Point ℚ → Option (WlSurface × Point ℤ)
  /-- `Window::surface_under`. -/
  underWindow : WindowId → Point ℚ → Option (WlSurface × Point ℤ)
  /-- `under_from_surface_tree`, of a lock surface. -/
  underLockSurface : WlSurface → Point ℚ → Option (WlSurface × Point ℤ)

variable {WindowId Output WlSurface : Type} [DecidableEq WindowId]

namespace PointState

variable (st : PointState WindowId Output WlSurface) (output : Output) (pos : Point ℚ)

/-- The geometry of an output in the global space, which an output under a point has. -/
def outputGeometry : Rectangle ℤ :=
  (st.niri.outputGeometry output).getD ⟨⟨0, 0⟩, ⟨0, 0⟩⟩

def outputUnder : Option (Output × Point ℚ) :=
  (st.spaceOutputUnder pos).map fun output =>
    (output, pos - (st.outputGeometry output).loc.toF64)

/-- `Monitor::workspace_under`: the geometry of the workspace. -/
def workspaceUnder : Option (Rectangle ℚ) :=
  (st.niri.monitorForOutput output).bind fun mon =>
    (mon.workspacesWithRenderGeo.map Prod.snd).find? fun geo =>
      -- The width is that of the entire output.
      (Rectangle.mk ⟨0, geo.loc.y⟩ ⟨(st.niri.outputSize output).w, geo.size.h⟩).contains pos

def isInsideHotCorner : Bool :=
  let hotCorners := (st.outputHotCorners output).getD st.gesturesHotCorners
  if hotCorners.off then false
  else
    let size := (st.outputGeometry output).size.toF64
    let contains := fun corner : Point ℚ => (Rectangle.mk corner ⟨1, 1⟩).contains pos
    (hotCorners.topRight && contains ⟨size.w - 1, 0⟩) ||
      (hotCorners.bottomLeft && contains ⟨0, size.h - 1⟩) ||
      (hotCorners.bottomRight && contains ⟨size.w - 1, size.h - 1⟩) ||
      ((hotCorners.topLeft ||
          !(hotCorners.topRight || hotCorners.bottomRight || hotCorners.bottomLeft)) &&
        contains ⟨0, 0⟩)

variable (layer : Layer)

/-- The layer surfaces of an output on a layer, in the order of the hit tests. -/
def layersOnRev : List LayerSurface :=
  ((st.layerMapForOutput output).layersOn st.shell layer).reverse

/-- Where a layer surface is on its output. -/
def layerPosWithinOutput (surface : LayerSurface) : Point ℚ :=
  (((st.layerMapForOutput output).layerGeometry surface).getD ⟨⟨0, 0⟩, ⟨0, 0⟩⟩).loc.toF64 +
    st.niri.bobOffset surface

/-! ## `window_under` -/

/-- `layer_surface_under` of `is_sticky_obscured_under`. -/
def stickyLayerSurfaceUnder (popup : Bool) : Bool :=
  ((st.layersOnRev output layer).findSome? fun surface =>
    if surface ∈ st.niri.mappedLayerSurfaces then
      st.underLayerSurface surface popup (pos - st.layerPosWithinOutput output surface)
    else none).isSome

def isStickyObscuredUnder : Bool :=
  if st.stickyLayerSurfaceUnder output pos .overlay true ||
      st.stickyLayerSurfaceUnder output pos .overlay false then true
  else if st.renderAboveTopLayer output then false
  else if st.isInsideHotCorner output pos then true
  else st.stickyLayerSurfaceUnder output pos .top true ||
    st.stickyLayerSurfaceUnder output pos .top false

/-- `layer_popup_under` of `is_layout_obscured_under`. -/
def layoutLayerPopupUnder : Bool :=
  ((st.layersOnRev output layer).findSome? fun surface =>
    if surface ∉ st.niri.mappedLayerSurfaces then none
    else if st.shell.placeWithinBackdrop surface then none
    else
      -- Background and bottom layers move together with the workspaces.
      (st.workspaceUnder output pos).bind fun geo =>
        st.underLayerSurface surface true
          (pos - (st.layerPosWithinOutput output surface + geo.loc))).isSome

def isLayoutObscuredUnder : Bool :=
  if st.isOverviewOpen then false
  else st.layoutLayerPopupUnder output pos .bottom || st.layoutLayerPopupUnder output pos .background

def windowUnder : Option WindowId :=
  if st.exitConfirmDialogOpen || st.isLocked || st.screenshotUiOpen || st.windowMruUiOpen then none
  else
    (st.outputUnder pos).bind fun (output, posWithinOutput) =>
      if st.isStickyObscuredUnder output posWithinOutput then none
      else
        match st.interactiveMovedWindow output posWithinOutput with
        | some (window, _) => some window
        | none =>
          if st.isLayoutObscuredUnder output posWithinOutput then none
          else (st.layoutWindow output posWithinOutput).map Prod.fst

/-! ## `contents_under` -/

/-- `cursor_overlay_under`, with the order in which the overlays are iterated. -/
def cursorOverlayUnder (order : List String) : Option (Under WindowId WlSurface) :=
  (st.cursorOverlayUi.surfaceUnder st.niri output
    ((st.layerMapForOutput output).layerMap st.shell) pos order).map fun (surface, layer) =>
      ⟨some surface, none, some layer⟩

/-- Where `layer_surface_under` takes a layer surface to be. -/
def layerPosUnder (surface : LayerSurface) : Option (Point ℚ) :=
  -- Background and bottom layers move together with the workspaces.
  if layer = .background ∨ layer = .bottom then
    (st.workspaceUnder output pos).map fun geo => st.layerPosWithinOutput output surface + geo.loc
  else some (st.layerPosWithinOutput output surface)

/-- A layer surface, as `layer_surface_under` looks at it. -/
def underOn (popup : Bool) (surface : LayerSurface) : Option (Under WindowId WlSurface) :=
  if st.cursorOverlayUi.isClaimed st.shell surface then none
  else if surface ∉ st.niri.mappedLayerSurfaces then none
  else if st.shell.placeWithinBackdrop surface then none
  else
    (st.layerPosUnder output pos layer surface).bind fun layerPos =>
      (st.underLayerSurface surface popup (pos - layerPos)).map fun (s, posWithinLayer) =>
        ⟨some (s, posWithinLayer.toF64 + layerPos), none, some surface⟩

def layerSurfaceUnder (popup : Bool) : Option (Under WindowId WlSurface) :=
  (st.layersOnRev output layer).findSome? (st.underOn output pos layer popup)

def layerToplevelUnder : Option (Under WindowId WlSurface) :=
  st.layerSurfaceUnder output pos layer false

def layerPopupUnder : Option (Under WindowId WlSurface) :=
  st.layerSurfaceUnder output pos layer true

def mappedHitData : WindowId × HitType → Under WindowId WlSurface
  | (window, .input winPos) =>
    ⟨(st.underWindow window (pos - winPos)).map fun (s, posWithinWindow) =>
      (s, posWithinWindow.toF64 + winPos), some (window, .input winPos), none⟩
  | (window, .activate isTabIndicator) => ⟨none, some (window, .activate isTabIndicator), none⟩

def interactiveMovedWindowUnder : Option (Under WindowId WlSurface) :=
  (st.interactiveMovedWindow output pos).map (st.mappedHitData pos)

/-- The closure `window_under`. -/
def layoutWindowUnder : Option (Under WindowId WlSurface) :=
  (st.layoutWindow output pos).map (st.mappedHitData pos)

variable (under : Option (Under WindowId WlSurface))

/-- What is found below the overlay layer, when the windows render above the top layer. -/
def underAboveTop : Option (Under WindowId WlSurface) :=
  (((((((under.or (st.interactiveMovedWindowUnder output pos)).or
    (st.layoutWindowUnder output pos)).or
    (st.layerPopupUnder output pos .top)).or (st.layerToplevelUnder output pos .top)).or
    (st.layerPopupUnder output pos .bottom)).or (st.layerPopupUnder output pos .background)).or
    (st.layerToplevelUnder output pos .bottom)).or (st.layerToplevelUnder output pos .background)

/-- What is found below the overlay layer otherwise. -/
def underBelowTop : Option (Under WindowId WlSurface) :=
  let under := (under.or (st.layerPopupUnder output pos .top)).or
    (st.layerToplevelUnder output pos .top)
  let under := under.or (st.interactiveMovedWindowUnder output pos)
  let under :=
    if !st.isOverviewOpen then
      (under.or (st.layerPopupUnder output pos .bottom)).or
        (st.layerPopupUnder output pos .background)
    else under
  let under := under.or (st.layoutWindowUnder output pos)
  if !st.isOverviewOpen then
    (under.or (st.layerToplevelUnder output pos .bottom)).or
      (st.layerToplevelUnder output pos .background)
  else under

/-- What the contents take of what was found. -/
def found (rv : PointContents WindowId Output WlSurface) :
    Option (Under WindowId WlSurface) → PointContents WindowId Output WlSurface
  | none => rv
  | some under =>
    { rv with
      surface := under.surfaceAndPos.map fun (s, surfacePos) =>
        (s, surfacePos + (st.outputGeometry output).loc.toF64)
      window := under.window
      layer := under.layer }

/-- `contents_under`, with the order in which the overlays are iterated. -/
def contentsUnder (order : List String) : PointContents WindowId Output WlSurface :=
  match st.outputUnder pos with
  | none => PointContents.default
  | some (output, posWithinOutput) =>
    let rv : PointContents WindowId Output WlSurface :=
      { output := some output, surface := none, window := none, layer := none, hotCorner := false }
    if st.exitConfirmDialogOpen then rv
    else if st.isLocked then
      { rv with
        surface := (st.lockSurface output).bind fun surface =>
          (st.underLockSurface surface posWithinOutput).map fun (s, p) =>
            (s, p.toF64 + (st.outputGeometry output).loc.toF64) }
    else if st.screenshotUiOpen || st.windowMruUiOpen then rv
    else
      let under := ((st.cursorOverlayUnder output posWithinOutput order).or
        (st.layerPopupUnder output posWithinOutput .overlay)).or
        (st.layerToplevelUnder output posWithinOutput .overlay)
      if st.renderAboveTopLayer output then
        st.found output rv (st.underAboveTop output posWithinOutput under)
      else if st.isInsideHotCorner output posWithinOutput then { rv with hotCorner := true }
      else st.found output rv (st.underBelowTop output posWithinOutput under)

/-! ## The layers of the two -/

variable {st output pos} {layer : Layer} {popup : Bool} {surface : LayerSurface}

omit [DecidableEq WindowId] in
theorem layer_of_mem_layersOnRev (h : surface ∈ st.layersOnRev output layer) :
    st.shell.layer surface = layer :=
  OutputLayers.layer_of_mem_layersOn (mem_reverse.mp h)

omit [DecidableEq WindowId] in
theorem isSome_underOn :
    (st.underOn output pos layer popup surface).isSome = true ↔
      st.cursorOverlayUi.isClaimed st.shell surface = false ∧
        surface ∈ st.niri.mappedLayerSurfaces ∧ st.shell.placeWithinBackdrop surface = false ∧
        ((st.layerPosUnder output pos layer surface).bind fun layerPos =>
          st.underLayerSurface surface popup (pos - layerPos)).isSome = true := by
  unfold underOn
  split
  · rename_i hclaimed
    rw [hclaimed]
    exact iff_of_false nofun fun h => Bool.noConfusion h.1
  · rename_i hclaimed
    split
    · rename_i hmapped
      exact iff_of_false nofun fun h => hmapped h.2.1
    · rename_i hmapped
      split
      · rename_i hbackdrop
        rw [hbackdrop]
        exact iff_of_false nofun fun h => Bool.noConfusion h.2.2.1
      · rename_i hbackdrop
        have hunder : st.cursorOverlayUi.isClaimed st.shell surface = false ∧
            surface ∈ st.niri.mappedLayerSurfaces ∧
            st.shell.placeWithinBackdrop surface = false :=
          ⟨eq_false_iff.mpr hclaimed, not_not.mp hmapped, eq_false_iff.mpr hbackdrop⟩
        rw [← and_assoc, ← and_assoc, and_assoc (a := _ = false), and_iff_right hunder]
        cases st.layerPosUnder output pos layer surface with
        | none => rfl
        | some layerPos => rw [bind_some, bind_some, isSome_map]

/-- A layer surface of the overlay layer takes the point where the layer shell puts it. -/
structure Covers (st : PointState WindowId Output WlSurface) (output : Output) (pos : Point ℚ)
    (surface : LayerSurface) : Prop where
  mem : surface ∈ (st.layerMapForOutput output).layersOn st.shell .overlay
  mapped : surface ∈ st.niri.mappedLayerSurfaces
  under : ∃ popup, (st.underLayerSurface surface popup
    (pos - st.layerPosWithinOutput output surface)).isSome = true

section

omit [DecidableEq WindowId]

/-- The surfaces of the upper layers are where the layer shell puts them, and outside the
backdrop. -/
theorem isSome_underOn_upper (hlayer : layer = .overlay ∨ layer = .top)
    (hmem : surface ∈ st.layersOnRev output layer) :
    (st.underOn output pos layer popup surface).isSome = true ↔
      st.cursorOverlayUi.isClaimed st.shell surface = false ∧
        surface ∈ st.niri.mappedLayerSurfaces ∧
        (st.underLayerSurface surface popup
          (pos - st.layerPosWithinOutput output surface)).isSome = true := by
  have hpos : st.layerPosUnder output pos layer surface =
      some (st.layerPosWithinOutput output surface) := by
    unfold layerPosUnder
    rw [if_neg]
    rcases hlayer with rfl | rfl <;> decide
  have hbackdrop : st.shell.placeWithinBackdrop surface = false := by
    refine LayerShell.placeWithinBackdrop_eq_false ?_
    rw [layer_of_mem_layersOnRev hmem]
    rcases hlayer with rfl | rfl <;> decide
  rw [isSome_underOn, hpos, hbackdrop, bind_some]
  simp only [true_and]

theorem isSome_stickyLayerSurfaceUnder :
    st.stickyLayerSurfaceUnder output pos layer popup = true ↔
      ∃ surface ∈ st.layersOnRev output layer, surface ∈ st.niri.mappedLayerSurfaces ∧
        (st.underLayerSurface surface popup
          (pos - st.layerPosWithinOutput output surface)).isSome = true := by
  unfold stickyLayerSurfaceUnder
  rw [List.findSome?_isSome_iff]
  refine exists_congr fun surface => and_congr_right fun _ => ?_
  split
  · rename_i hmapped
    rw [and_iff_right hmapped]
  · rename_i hmapped
    exact iff_of_false nofun fun h => hmapped h.1

/-- Claimed or not, a surface of the overlay layer obscures a window. -/
theorem stickyOverlay_iff :
    (st.stickyLayerSurfaceUnder output pos .overlay true ||
      st.stickyLayerSurfaceUnder output pos .overlay false) = true ↔
      ∃ surface, st.Covers output pos surface := by
  rw [or_eq_true, isSome_stickyLayerSurfaceUnder, isSome_stickyLayerSurfaceUnder]
  constructor
  · rintro (⟨surface, hmem, hmapped, hunder⟩ | ⟨surface, hmem, hmapped, hunder⟩)
    · exact ⟨surface, mem_reverse.mp hmem, hmapped, true, hunder⟩
    · exact ⟨surface, mem_reverse.mp hmem, hmapped, false, hunder⟩
  · rintro ⟨surface, hmem, hmapped, popup, hunder⟩
    cases popup with
    | true => exact .inl ⟨surface, mem_reverse.mpr hmem, hmapped, hunder⟩
    | false => exact .inr ⟨surface, mem_reverse.mpr hmem, hmapped, hunder⟩

/-- The contents under a point pass the claimed ones. -/
theorem isSome_overlay_iff :
    ((st.layerPopupUnder output pos .overlay).or
      (st.layerToplevelUnder output pos .overlay)).isSome = true ↔
      ∃ surface, st.Covers output pos surface ∧
        st.cursorOverlayUi.isClaimed st.shell surface = false := by
  unfold layerPopupUnder layerToplevelUnder layerSurfaceUnder
  rw [isSome_or, or_eq_true, List.findSome?_isSome_iff, List.findSome?_isSome_iff]
  constructor
  · rintro (⟨surface, hmem, h⟩ | ⟨surface, hmem, h⟩)
    · obtain ⟨hclaimed, hmapped, hunder⟩ := (isSome_underOn_upper (.inl rfl) hmem).mp h
      exact ⟨surface, ⟨mem_reverse.mp hmem, hmapped, true, hunder⟩, hclaimed⟩
    · obtain ⟨hclaimed, hmapped, hunder⟩ := (isSome_underOn_upper (.inl rfl) hmem).mp h
      exact ⟨surface, ⟨mem_reverse.mp hmem, hmapped, false, hunder⟩, hclaimed⟩
  · rintro ⟨surface, ⟨hmem, hmapped, popup, hunder⟩, hclaimed⟩
    have hmem := mem_reverse.mpr hmem
    have h := (isSome_underOn_upper (.inl rfl) hmem).mpr ⟨hclaimed, hmapped, hunder⟩
    cases popup with
    | true => exact .inl ⟨surface, hmem, h⟩
    | false => exact .inr ⟨surface, hmem, h⟩

/-- Only the overlay layer has claimed surfaces. -/
theorem isClaimed_of_mem_layersOnRev (hlayer : layer ≠ .overlay)
    (hmem : surface ∈ st.layersOnRev output layer) :
    st.cursorOverlayUi.isClaimed st.shell surface = false := by
  refine eq_false_iff.mpr fun hclaimed => hlayer ?_
  exact (layer_of_mem_layersOnRev hmem).symm.trans (CursorOverlayUi.layer_of_isClaimed hclaimed)

/-- Both look at the top layer in one way. -/
theorem stickyLayerSurfaceUnder_top :
    st.stickyLayerSurfaceUnder output pos .top popup =
      (st.layerSurfaceUnder output pos .top popup).isSome := by
  rw [Bool.eq_iff_iff, isSome_stickyLayerSurfaceUnder]
  unfold layerSurfaceUnder
  rw [List.findSome?_isSome_iff]
  refine exists_congr fun surface => and_congr_right fun hmem => ?_
  rw [isSome_underOn_upper (.inr rfl) hmem, isClaimed_of_mem_layersOnRev (by decide) hmem]
  simp only [true_and]

/-- Both look at the popups of the lower layers in one way. -/
theorem layoutLayerPopupUnder_eq (hlayer : layer = .bottom ∨ layer = .background) :
    st.layoutLayerPopupUnder output pos layer = (st.layerPopupUnder output pos layer).isSome := by
  unfold layoutLayerPopupUnder layerPopupUnder layerSurfaceUnder
  rw [Bool.eq_iff_iff, List.findSome?_isSome_iff, List.findSome?_isSome_iff]
  refine exists_congr fun surface => and_congr_right fun hmem => ?_
  have hclaimed : st.cursorOverlayUi.isClaimed st.shell surface = false := by
    refine isClaimed_of_mem_layersOnRev ?_ hmem
    rcases hlayer with rfl | rfl <;> decide
  have hpos : st.layerPosUnder output pos layer surface =
      (st.workspaceUnder output pos).map fun geo =>
        st.layerPosWithinOutput output surface + geo.loc := by
    unfold layerPosUnder
    rw [if_pos hlayer.symm]
  rw [isSome_underOn, hclaimed, hpos, bind_map]
  split
  · rename_i hmapped
    exact iff_of_false nofun fun h => hmapped h.2.1
  · rename_i hmapped
    split
    · rename_i hbackdrop
      rw [hbackdrop]
      exact iff_of_false nofun fun h => Bool.noConfusion h.2.2.1
    · rename_i hbackdrop
      exact ⟨fun h => ⟨rfl, not_not.mp hmapped, eq_false_iff.mpr hbackdrop, h⟩, fun h => h.2.2.2⟩

end

/-! ## The windows of the two -/

omit [DecidableEq WindowId] in
/-- The window that was found. -/
def windowOf : Option WindowId :=
  under.bind fun u => u.window.map Prod.fst

section

omit [DecidableEq WindowId]

theorem windowOf_or (a b : Option (Under WindowId WlSurface)) :
    windowOf (a.or b) = if a.isSome then windowOf a else windowOf b := by
  cases a <;> rfl

/-- A layer surface has no window. -/
theorem windowOf_layerSurfaceUnder : windowOf (st.layerSurfaceUnder output pos layer popup) =
    none := by
  unfold windowOf
  rw [bind_eq_none_iff]
  intro under h
  obtain ⟨surface, -, hsurface⟩ := exists_of_findSome?_eq_some h
  obtain ⟨-, hsurface⟩ := ite_none_left_eq_some.mp hsurface
  obtain ⟨-, hsurface⟩ := ite_none_left_eq_some.mp hsurface
  obtain ⟨-, hsurface⟩ := ite_none_left_eq_some.mp hsurface
  obtain ⟨layerPos, -, hsurface⟩ := bind_eq_some_iff.mp hsurface
  obtain ⟨s, -, rfl⟩ := map_eq_some_iff.mp hsurface
  rfl

@[simp]
theorem windowOf_layerPopupUnder : windowOf (st.layerPopupUnder output pos layer) = none :=
  windowOf_layerSurfaceUnder

@[simp]
theorem windowOf_layerToplevelUnder : windowOf (st.layerToplevelUnder output pos layer) = none :=
  windowOf_layerSurfaceUnder

end

@[simp]
theorem windowOf_cursorOverlayUnder {order : List String} :
    windowOf (st.cursorOverlayUnder output pos order) = none := by
  unfold windowOf cursorOverlayUnder
  rw [bind_eq_none_iff]
  intro under h
  obtain ⟨s, -, rfl⟩ := map_eq_some_iff.mp h
  rfl

omit [DecidableEq WindowId] in
/-- A hit carries its window. -/
theorem windowOf_mappedHitData (hit : Option (WindowId × HitType)) :
    windowOf (hit.map (st.mappedHitData pos)) = hit.map Prod.fst := by
  rcases hit with _ | ⟨window, _ | _⟩ <;> rfl

omit [DecidableEq WindowId] in
variable (st : PointState WindowId Output WlSurface)

/-- The top layer takes the point. -/
def topCovers (output : Output) (pos : Point ℚ) : Bool :=
  (st.layerPopupUnder output pos .top).isSome || (st.layerToplevelUnder output pos .top).isSome

omit [DecidableEq WindowId] in
/-- A popup of the lower layers takes the point. -/
def lowerPopups (output : Output) (pos : Point ℚ) : Bool :=
  (st.layerPopupUnder output pos .bottom).isSome ||
    (st.layerPopupUnder output pos .background).isSome

omit [DecidableEq WindowId] in
/-- The windows are below a hot corner or the top layer. -/
def hidden (output : Output) (pos : Point ℚ) : Bool :=
  !st.renderAboveTopLayer output && (st.isInsideHotCorner output pos || st.topCovers output pos)

omit [DecidableEq WindowId] in
/-- The window under the point, with the popups of the lower layers above or below the layout. -/
def layoutShows (output : Output) (pos : Point ℚ) (popupsAbove : Bool) : Option WindowId :=
  ((st.interactiveMovedWindow output pos).map Prod.fst).or
    (if popupsAbove && !st.isOverviewOpen && st.lowerPopups output pos then none
    else (st.layoutWindow output pos).map Prod.fst)

omit [DecidableEq WindowId] in
/-- Nothing modal is open, and an output is under the point. -/
structure PointsAt (st : PointState WindowId Output WlSurface) (pos : Point ℚ) (output : Output)
    (posWithinOutput : Point ℚ) : Prop where
  under : st.outputUnder pos = some (output, posWithinOutput)
  dialog : st.exitConfirmDialogOpen = false
  unlocked : st.isLocked = false
  screenshot : st.screenshotUiOpen = false
  mru : st.windowMruUiOpen = false

variable {posWithinOutput : Point ℚ}

omit [DecidableEq WindowId] in
theorem isLayoutObscuredUnder_eq : st.isLayoutObscuredUnder output pos =
    (!st.isOverviewOpen && st.lowerPopups output pos) := by
  unfold isLayoutObscuredUnder lowerPopups
  rw [layoutLayerPopupUnder_eq (.inl rfl), layoutLayerPopupUnder_eq (.inr rfl)]
  cases st.isOverviewOpen <;> rfl

omit [DecidableEq WindowId] in
open Classical in
theorem isStickyObscuredUnder_eq : st.isStickyObscuredUnder output pos =
    (decide (∃ surface, st.Covers output pos surface) || st.hidden output pos) := by
  unfold isStickyObscuredUnder hidden topCovers layerPopupUnder layerToplevelUnder
  simp only [stickyOverlay_iff, stickyLayerSurfaceUnder_top]
  by_cases hcovers : ∃ surface, st.Covers output pos surface
  · rw [if_pos hcovers, decide_eq_true hcovers, Bool.true_or]
  · rw [if_neg hcovers, decide_eq_false hcovers, Bool.false_or]
    cases st.renderAboveTopLayer output <;> cases st.isInsideHotCorner output pos <;> rfl

section

omit [DecidableEq WindowId]

/-- `window_under` takes the popups of the lower layers to be above the layout. -/
theorem windowUnder_of_pointsAt (h : st.PointsAt pos output posWithinOutput) :
    st.windowUnder pos = if st.isStickyObscuredUnder output posWithinOutput then none
      else st.layoutShows output posWithinOutput true := by
  unfold windowUnder layoutShows
  rw [h.dialog, h.unlocked, h.screenshot, h.mru, h.under, bind_some]
  simp only [isLayoutObscuredUnder_eq, Bool.or_false, false_eq_true, if_false, Bool.true_and]
  cases st.interactiveMovedWindow output posWithinOutput <;> rfl

/-- What has no window hides the windows below it. -/
theorem windowOf_or_of_none {a : Option (Under WindowId WlSurface)} (ha : windowOf a = none)
    (b : Option (Under WindowId WlSurface)) :
    windowOf (a.or b) = if a.isSome then none else windowOf b := by
  rw [windowOf_or, ha]

theorem windowOf_hit_or (hit : Option (WindowId × HitType)) (b : Option (Under WindowId WlSurface)) :
    windowOf ((hit.map (st.mappedHitData pos)).or b) = (hit.map Prod.fst).or (windowOf b) := by
  rw [windowOf_or, windowOf_mappedHitData]
  cases hit <;> rfl

theorem ite_or_none (a b : Bool) (window : Option WindowId) :
    (if a || b then none else window) = if a then none else if b then none else window := by
  cases a <;> rfl

/-- The layers below the windows have none. -/
theorem windowOf_layers (a b : Layer) :
    windowOf ((st.layerToplevelUnder output pos a).or (st.layerToplevelUnder output pos b)) =
      none := by
  rw [windowOf_or_of_none windowOf_layerToplevelUnder, windowOf_layerToplevelUnder, ite_self]

theorem windowOf_underAboveTop {under : Option (Under WindowId WlSurface)}
    (hunder : windowOf under = none) :
    windowOf (st.underAboveTop output pos under) =
      if under.isSome then none else st.layoutShows output pos false := by
  unfold underAboveTop layoutShows interactiveMovedWindowUnder layoutWindowUnder
  simp only [Option.or_assoc, Bool.false_and, false_eq_true, if_false]
  rw [windowOf_or_of_none hunder, windowOf_hit_or, windowOf_hit_or,
    windowOf_or_of_none windowOf_layerPopupUnder, windowOf_or_of_none windowOf_layerToplevelUnder,
    windowOf_or_of_none windowOf_layerPopupUnder, windowOf_or_of_none windowOf_layerPopupUnder,
    windowOf_layers]
  simp only [ite_self, or_none]

theorem windowOf_underBelowTop {under : Option (Under WindowId WlSurface)}
    (hunder : windowOf under = none) :
    windowOf (st.underBelowTop output pos under) =
      if under.isSome || st.topCovers output pos then none
      else st.layoutShows output pos true := by
  unfold underBelowTop layoutShows topCovers lowerPopups interactiveMovedWindowUnder
    layoutWindowUnder
  cases hopen : st.isOverviewOpen with
  | true =>
    simp only [Bool.not_true, false_eq_true, if_false, Bool.true_and, Bool.false_and,
      Option.or_assoc]
    rw [windowOf_or_of_none hunder, windowOf_or_of_none windowOf_layerPopupUnder,
      windowOf_or_of_none windowOf_layerToplevelUnder, windowOf_hit_or, windowOf_mappedHitData,
      ite_or_none, ite_or_none]
  | false =>
    simp only [Bool.not_false, if_true, Bool.true_and, Option.or_assoc]
    rw [windowOf_or_of_none hunder, windowOf_or_of_none windowOf_layerPopupUnder,
      windowOf_or_of_none windowOf_layerToplevelUnder, windowOf_hit_or,
      windowOf_or_of_none windowOf_layerPopupUnder, windowOf_or_of_none windowOf_layerPopupUnder,
      windowOf_hit_or, windowOf_layers, or_none, ite_or_none, ite_or_none, ite_or_none]

theorem found_window (rv : PointContents WindowId Output WlSurface) (hrv : rv.window = none)
    (under : Option (Under WindowId WlSurface)) :
    (st.found output rv under).window.map Prod.fst = windowOf under := by
  cases under with
  | none => rw [found, hrv]; rfl
  | some under => rfl

end

/-- `contents_under` takes them to be below a layout that renders above the top layer. -/
theorem contentsUnder_of_pointsAt (h : st.PointsAt pos output posWithinOutput)
    (order : List String) :
    (st.contentsUnder pos order).window.map Prod.fst =
      if (((st.cursorOverlayUnder output posWithinOutput order).or
          (st.layerPopupUnder output posWithinOutput .overlay)).or
          (st.layerToplevelUnder output posWithinOutput .overlay)).isSome ||
        st.hidden output posWithinOutput then none
      else st.layoutShows output posWithinOutput (!st.renderAboveTopLayer output) := by
  have hnone : windowOf (((st.cursorOverlayUnder output posWithinOutput order).or
      (st.layerPopupUnder output posWithinOutput .overlay)).or
      (st.layerToplevelUnder output posWithinOutput .overlay)) = none := by
    simp only [windowOf_or, windowOf_cursorOverlayUnder, windowOf_layerPopupUnder,
      windowOf_layerToplevelUnder, ite_self]
  unfold contentsUnder hidden
  rw [h.under, h.dialog, h.unlocked, h.screenshot, h.mru]
  simp only [Bool.or_false, false_eq_true, if_false]
  cases habove : st.renderAboveTopLayer output with
  | true =>
    simp only [if_true, Bool.not_true, Bool.false_and, Bool.or_false]
    rw [found_window _ rfl, windowOf_underAboveTop hnone]
  | false =>
    simp only [false_eq_true, if_false, Bool.not_false, Bool.true_and]
    cases st.isInsideHotCorner output posWithinOutput with
    | true => simp
    | false =>
      simp only [false_eq_true, if_false, Bool.false_or]
      rw [found_window _ rfl, windowOf_underBelowTop hnone]

/-! ## Where the two agree -/

omit [DecidableEq WindowId] in
/-- No window is under the point, with the popups of the lower layers above or below the layout. -/
def NoWindow (output : Output) (pos : Point ℚ) (popupsAbove : Bool) : Prop :=
  st.interactiveMovedWindow output pos = none ∧
    (popupsAbove = true ∧ st.isOverviewOpen = false ∧ st.lowerPopups output pos = true ∨
      st.layoutWindow output pos = none)

/-- What `window_under` does not know of hides no window, and what it puts above the layout is
there. -/
structure HitsAgree (st : PointState WindowId Output WlSurface) (order : List String)
    (output : Output) (pos : Point ℚ) : Prop where
  /-- An overlay that has the point is drawn over no window. -/
  cursor : (st.cursorOverlayUnder output pos order).isSome = true →
    (¬ ∃ surface, st.Covers output pos surface) → st.hidden output pos = false →
    st.NoWindow output pos true
  /-- A claimed surface that would cover the point covers no window. -/
  claimed : (st.cursorOverlayUnder output pos order).isSome = false →
    (∃ surface, st.Covers output pos surface) →
    (∀ surface, st.Covers output pos surface →
      st.cursorOverlayUi.isClaimed st.shell surface = true) → st.hidden output pos = false →
    st.NoWindow output pos (!st.renderAboveTopLayer output)
  /-- A popup of the lower layers is over no window that renders above the top layer. -/
  popups : (st.cursorOverlayUnder output pos order).isSome = false →
    (¬ ∃ surface, st.Covers output pos surface) → st.renderAboveTopLayer output = true →
    st.isOverviewOpen = false → st.lowerPopups output pos = true →
    st.interactiveMovedWindow output pos = none → st.layoutWindow output pos = none

variable {order : List String} {popupsAbove : Bool}

omit [DecidableEq WindowId] in
theorem layoutShows_eq_none_iff :
    st.layoutShows output pos popupsAbove = none ↔ st.NoWindow output pos popupsAbove := by
  unfold layoutShows NoWindow
  rw [or_eq_none_iff, map_eq_none_iff]
  refine and_congr_right fun _ => ?_
  split
  · rename_i h
    simp only [and_eq_true, not_eq_true'] at h
    exact iff_of_true rfl (.inl ⟨h.1.1, h.1.2, h.2⟩)
  · rename_i h
    simp only [and_eq_true, not_eq_true'] at h
    rw [map_eq_none_iff, or_iff_right]
    rintro ⟨habove, hopen, hpopups⟩
    exact h ⟨⟨habove, hopen⟩, hpopups⟩

omit [DecidableEq WindowId] in
theorem layoutShows_eq_iff :
    st.layoutShows output pos true = st.layoutShows output pos popupsAbove ↔
      (popupsAbove = false → st.isOverviewOpen = false → st.lowerPopups output pos = true →
        st.interactiveMovedWindow output pos = none → st.layoutWindow output pos = none) := by
  unfold layoutShows
  cases popupsAbove <;> cases st.isOverviewOpen <;> cases st.lowerPopups output pos <;>
    cases st.interactiveMovedWindow output pos <;> cases st.layoutWindow output pos <;> simp

theorem isSome_under_iff :
    (((st.cursorOverlayUnder output pos order).or
      (st.layerPopupUnder output pos .overlay)).or
      (st.layerToplevelUnder output pos .overlay)).isSome = true ↔
      (st.cursorOverlayUnder output pos order).isSome = true ∨
        ∃ surface, st.Covers output pos surface ∧
          st.cursorOverlayUi.isClaimed st.shell surface = false := by
  rw [Option.or_assoc, isSome_or, or_eq_true, isSome_overlay_iff]

theorem windowUnder_eq_iff_of_pointsAt (h : st.PointsAt pos output posWithinOutput) :
    st.windowUnder pos = (st.contentsUnder pos order).window.map Prod.fst ↔
      st.HitsAgree order output posWithinOutput := by
  classical
  rw [windowUnder_of_pointsAt h, contentsUnder_of_pointsAt h, isStickyObscuredUnder_eq]
  cases hhidden : st.hidden output posWithinOutput with
  | true =>
    have hbelow : st.renderAboveTopLayer output ≠ true := by
      intro habove
      unfold hidden at hhidden
      rw [habove] at hhidden
      cases hhidden
    rw [Bool.or_true, Bool.or_true, if_pos rfl, if_pos rfl]
    exact iff_of_true rfl
      ⟨fun _ _ hshown => Bool.noConfusion (hhidden.symm.trans hshown),
        fun _ _ _ hshown => Bool.noConfusion (hhidden.symm.trans hshown),
        fun _ _ habove => absurd habove hbelow⟩
  | false =>
    simp only [Bool.or_false, decide_eq_true_eq, isSome_under_iff]
    by_cases hcovers : ∃ surface, st.Covers output posWithinOutput surface
    · -- Only the contents may find a window.
      rw [if_pos hcovers]
      by_cases hfound : (st.cursorOverlayUnder output posWithinOutput order).isSome = true ∨
          ∃ surface, st.Covers output posWithinOutput surface ∧
            st.cursorOverlayUi.isClaimed st.shell surface = false
      · rw [if_pos hfound]
        refine iff_of_true rfl ⟨fun _ hnot => absurd hcovers hnot, fun hcursor _ hclaimed => ?_,
          fun _ hnot => absurd hcovers hnot⟩
        rcases hfound with hfound | ⟨surface, hsurface, hunclaimed⟩
        · rw [hcursor] at hfound
          cases hfound
        · rw [hclaimed surface hsurface] at hunclaimed
          cases hunclaimed
      · rw [if_neg hfound, eq_comm, layoutShows_eq_none_iff]
        obtain ⟨hcursor, hclaimed⟩ := not_or.mp hfound
        refine ⟨fun hnone => ⟨fun _ hnot => absurd hcovers hnot, fun _ _ _ _ => hnone,
          fun _ hnot => absurd hcovers hnot⟩, fun hagree => ?_⟩
        refine hagree.claimed (eq_false_iff.mpr hcursor) hcovers (fun surface hsurface => ?_)
          hhidden
        by_contra hnot
        exact hclaimed ⟨surface, hsurface, eq_false_iff.mpr hnot⟩
    · have hunclaimed : ¬ ∃ surface, st.Covers output posWithinOutput surface ∧
          st.cursorOverlayUi.isClaimed st.shell surface = false := fun ⟨surface, hsurface, _⟩ =>
        hcovers ⟨surface, hsurface⟩
      rw [if_neg hcovers]
      simp only [or_iff_left hunclaimed]
      cases hcursor : (st.cursorOverlayUnder output posWithinOutput order).isSome with
      | true =>
        -- Only `window_under` may find a window.
        rw [if_pos rfl, layoutShows_eq_none_iff]
        exact ⟨fun hnone => ⟨fun _ _ _ => hnone, fun _ h => absurd h hcovers,
            fun hnot => Bool.noConfusion (hcursor.symm.trans hnot)⟩,
          fun hagree => hagree.cursor hcursor hcovers hhidden⟩
      | false =>
        rw [if_neg Bool.false_ne_true, layoutShows_eq_iff, not_eq_false']
        exact ⟨fun hpopups => ⟨fun hnot => Bool.noConfusion (hcursor.symm.trans hnot),
            fun _ h => absurd h hcovers, fun _ _ => hpopups⟩,
          fun hagree => hagree.popups hcursor hcovers⟩

/-- Nothing is found where something modal is open or there is no output. -/
theorem window_of_not_pointsAt (order : List String) (h : ∀ output posWithinOutput,
    ¬ st.PointsAt pos output posWithinOutput) :
    st.windowUnder pos = none ∧ (st.contentsUnder pos order).window = none := by
  unfold windowUnder contentsUnder
  cases hunder : st.outputUnder pos with
  | none => exact ⟨by rw [bind_none, ite_self], rfl⟩
  | some under =>
    obtain ⟨output, posWithinOutput⟩ := under
    have hmodal : st.exitConfirmDialogOpen = true ∨ st.isLocked = true ∨
        st.screenshotUiOpen = true ∨ st.windowMruUiOpen = true := by
      by_contra hnot
      simp only [not_or, not_eq_true] at hnot
      exact h output posWithinOutput ⟨hunder, hnot.1, hnot.2.1, hnot.2.2.1, hnot.2.2.2⟩
    cases hdialog : st.exitConfirmDialogOpen with
    | true => exact ⟨rfl, rfl⟩
    | false =>
      cases hlocked : st.isLocked with
      | true => exact ⟨rfl, rfl⟩
      | false =>
        have hui : (st.screenshotUiOpen || st.windowMruUiOpen) = true := by
          rw [hdialog, hlocked] at hmodal
          simpa using hmodal
        simp [hui]

end PointState

/-- **Both hit tests** find one window, exactly where, with nothing modal open and an output under
the point: a cursor overlay that has the point is over no window; where it has not, and only claimed
layer surfaces would cover the point, no window is there; and where neither is so, no popup of the
lower layers has the point over a window that renders above the top layer. -/
theorem windowUnder_eq_iff (st : PointState WindowId Output WlSurface) (pos : Point ℚ)
    (order : List String) :
    (∀ window, st.windowUnder pos = some window ↔
      (st.contentsUnder pos order).window.map Prod.fst = some window) ↔
    ∀ output posWithinOutput, st.PointsAt pos output posWithinOutput →
      st.HitsAgree order output posWithinOutput := by
  rw [← Option.ext_iff]
  by_cases h : ∃ output posWithinOutput, st.PointsAt pos output posWithinOutput
  · obtain ⟨output, posWithinOutput, hat⟩ := h
    rw [PointState.windowUnder_eq_iff_of_pointsAt hat]
    constructor
    · intro hagree output' posWithinOutput' hat'
      have heq := hat.under.symm.trans hat'.under
      obtain ⟨rfl, rfl⟩ := heq
      exact hagree
    · exact fun hagree => hagree output posWithinOutput hat
  · push Not at h
    obtain ⟨hwindow, hcontents⟩ := PointState.window_of_not_pointsAt order h
    rw [hwindow, hcontents]
    exact iff_of_true rfl fun output posWithinOutput hat => absurd hat (h output posWithinOutput)

/-! ### A window below a surface that is not drawn -/

/-- A window, and the layer surface of a launcher that is not shown, on all of an output. -/
def coveredState : PointState Unit Unit ℕ where
  niri := {
    tabletCursorLocation := none
    pointerLocation := ⟨50, 50⟩
    outputGeometry := fun _ => some ⟨⟨0, 0⟩, ⟨1000, 1000⟩⟩
    outputSize := fun _ => ⟨1000, 1000⟩
    monitorForOutput := fun _ => none
    interactiveMove := none
    cursors := ∅
    mappedLayerSurfaces := {⟨0, "launcher"⟩}
    bobOffset := fun _ => ⟨0, 0⟩
    surfaceUnder := fun surface _ => some surface.id
    surfaceOrigin := fun _ _ => ⟨0, 0⟩ }
  shell := {
    cachedState := fun _ => ⟨.overlay, .none, .dontCare⟩
    ruledWithinBackdrop := fun _ => false }
  cursorOverlayUi := hiddenUi
  spaceOutputUnder := fun _ => some ()
  layerMapForOutput := fun _ => ⟨[⟨0, "launcher"⟩], fun _ => some ⟨⟨0, 0⟩, ⟨1000, 1000⟩⟩⟩
  exitConfirmDialogOpen := false
  isLocked := false
  screenshotUiOpen := false
  windowMruUiOpen := false
  lockSurface := fun _ => none
  isOverviewOpen := false
  renderAboveTopLayer := fun _ => false
  interactiveMovedWindow := fun _ _ => none
  layoutWindow := fun _ _ => some ((), .input ⟨0, 0⟩)
  outputHotCorners := fun _ => none
  gesturesHotCorners := ⟨true, false, false, false, false⟩
  underLayerSurface := fun surface popup _ => if popup then none else some (surface.id, ⟨0, 0⟩)
  underWindow := fun _ _ => some (1, ⟨0, 0⟩)
  underLockSurface := fun _ _ => none

/-- The contents under the point are of the window, which `window_under` does not find. -/
theorem windowUnder_coveredState :
    ¬ ∀ window, coveredState.windowUnder ⟨50, 50⟩ = some window ↔
      (coveredState.contentsUnder ⟨50, 50⟩ ["launcher"]).window.map Prod.fst = some window := by
  intro h
  have hnone : coveredState.windowUnder ⟨50, 50⟩ = none := by decide +kernel
  have hsome := (h ()).mpr (by decide +kernel)
  cases hsome

end Tiri.Ui
