import Tiri.Ui.CursorOverlays

/-!
# Layer surfaces

The layer shell, and `src/layer/mapped.rs`: what the keyboard focus and the contents under the
pointer look at.
-/

namespace Tiri.Ui

open Utils (Point Size Rectangle)

inductive Layer
  | background
  | bottom
  | top
  | overlay
  deriving DecidableEq

inductive KeyboardInteractivity
  | none
  | exclusive
  | onDemand
  deriving DecidableEq

inductive ExclusiveZone
  | exclusive (size : ℕ)
  | neutral
  | dontCare
  deriving DecidableEq

structure LayerSurfaceCachedState where
  layer : Layer
  keyboardInteractivity : KeyboardInteractivity
  exclusiveZone : ExclusiveZone

/-- The layer surfaces of the clients. -/
structure LayerShell where
  cachedState : LayerSurface → LayerSurfaceCachedState
  /-- `place_within_backdrop` of the rules. -/
  ruledWithinBackdrop : LayerSurface → Bool

namespace LayerShell

variable (shell : LayerShell)

def layer (surface : LayerSurface) : Layer :=
  (shell.cachedState surface).layer

def keyboardInteractivity (surface : LayerSurface) : KeyboardInteractivity :=
  (shell.cachedState surface).keyboardInteractivity

/-- `MappedLayer::place_within_backdrop`. -/
def placeWithinBackdrop (surface : LayerSurface) : Bool :=
  shell.ruledWithinBackdrop surface && decide (shell.layer surface = .background) &&
    decide ((shell.cachedState surface).exclusiveZone = .dontCare)

theorem placeWithinBackdrop_eq_false {shell : LayerShell} {surface : LayerSurface}
    (h : shell.layer surface ≠ .background) : shell.placeWithinBackdrop surface = false := by
  unfold placeWithinBackdrop
  rw [decide_eq_false h, Bool.and_false, Bool.false_and]

end LayerShell

/-- `LayerMap`, with the surfaces of all layers. -/
structure OutputLayers where
  layers : List LayerSurface
  layerGeometry : LayerSurface → Option (Rectangle ℤ)

namespace OutputLayers

variable (outputLayers : OutputLayers)

def layersOn (shell : LayerShell) (layer : Layer) : List LayerSurface :=
  outputLayers.layers.filter fun surface => decide (shell.layer surface = layer)

theorem layer_of_mem_layersOn {outputLayers : OutputLayers} {shell : LayerShell} {layer : Layer}
    {surface : LayerSurface} (h : surface ∈ outputLayers.layersOn shell layer) :
    shell.layer surface = layer :=
  of_decide_eq_true (List.mem_filter.mp h).2

/-- What the cursor overlays look at. -/
def layerMap (shell : LayerShell) : LayerMap where
  layersOnOverlay := outputLayers.layersOn shell .overlay
  layerGeometry := outputLayers.layerGeometry

end OutputLayers

namespace CursorOverlayUi

def isClaimed (ui : CursorOverlayUi) (shell : LayerShell) (surface : LayerSurface) : Bool :=
  decide (shell.layer surface = .overlay) &&
    HashMap.anyValue (fun overlay => decide (overlay.layerNamespace = surface.layerNamespace))
      ui.overlays

def wantsKeyboardFocus (ui : CursorOverlayUi) (shell : LayerShell) (surface : LayerSurface) :
    Bool :=
  decide (shell.layer surface = .overlay) &&
    HashMap.anyValue (fun overlay => overlay.visible && overlay.keyboardFocus &&
      decide (overlay.layerNamespace = surface.layerNamespace)) ui.overlays

variable {ui : CursorOverlayUi} {shell : LayerShell} {surface : LayerSurface}

theorem layer_of_isClaimed (h : ui.isClaimed shell surface = true) :
    shell.layer surface = .overlay :=
  of_decide_eq_true (Bool.and_eq_true_iff.mp h).1

/-- A surface is claimed for as long as one overlay has its namespace. -/
theorem isClaimed_iff :
    ui.isClaimed shell surface = true ↔ shell.layer surface = .overlay ∧
      ∃ overlayId overlay, ui.overlays.lookup overlayId = some overlay ∧
        overlay.layerNamespace = surface.layerNamespace := by
  unfold isClaimed
  rw [Bool.and_eq_true_iff, HashMap.anyValue_eq_true]
  simp only [decide_eq_true_eq]

theorem wantsKeyboardFocus_iff :
    ui.wantsKeyboardFocus shell surface = true ↔ shell.layer surface = .overlay ∧
      ∃ overlayId overlay, ui.overlays.lookup overlayId = some overlay ∧
        overlay.visible = true ∧ overlay.keyboardFocus = true ∧
        overlay.layerNamespace = surface.layerNamespace := by
  unfold wantsKeyboardFocus
  rw [Bool.and_eq_true_iff, HashMap.anyValue_eq_true]
  simp only [decide_eq_true_eq, Bool.and_eq_true_iff, and_assoc]

/-- A surface that is to have the keyboard is claimed. -/
theorem isClaimed_of_wantsKeyboardFocus (h : ui.wantsKeyboardFocus shell surface = true) :
    ui.isClaimed shell surface = true := by
  obtain ⟨hlayer, overlayId, overlay, hlookup, -, -, hnamespace⟩ := wantsKeyboardFocus_iff.mp h
  exact isClaimed_iff.mpr ⟨hlayer, overlayId, overlay, hlookup, hnamespace⟩

end CursorOverlayUi

/-- The overlay of a launcher that is not shown. -/
def hiddenUi : CursorOverlayUi where
  overlays := (∅ : HashMap String RegisteredCursorOverlay).insert "launcher"
    { overlayId := "launcher", layerNamespace := "launcher", anchor := .hardwarePointer
      placement := CursorOverlayPlacement.default, visible := false, interactive := true
      keyboardFocus := true, zIndex := 0 }
  keyed := (HashMap.keyed_empty RegisteredCursorOverlay.overlayId).insert rfl

end Tiri.Ui
