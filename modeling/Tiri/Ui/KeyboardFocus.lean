import Tiri.Ui.CursorHits
import Tiri.Ui.LayerShell

/-!
# Keyboard focus

`State::update_keyboard_focus` of `src/niri.rs`.

A layer surface and a window stand for their `wl_surface`.  What a popup grab does when it is given
up, and what the windows are told of the focus, are left out.

Results:
* `mem_renderOutput_iff`: the overlays that are drawn;
* `keyboardFocus_drawn_iff`: a claimed layer surface that has the keyboard is drawn, as an overlay
  that requests the focus, exactly where a popup grab, the overlays that request the focus, and the
  exclusive and on-demand surfaces of the overlay layer all leave it to one that is.
-/

namespace Tiri.Ui

open Utils (Point Size Rectangle)
open List
open Option
open Bool hiding and_true true_and

/-! ## The keyboard focus -/

/-- The surface of a window, a layer surface or a lock surface. -/
inductive RootSurface (WindowId WlSurface : Type)
  | window (window : WindowId)
  | layer (surface : LayerSurface)
  | lock (surface : WlSurface)
  deriving DecidableEq

inductive KeyboardFocus (WindowId WlSurface : Type)
  | layout (surface : Option WindowId)
  | layerShell (surface : LayerSurface)
  | lockScreen (surface : Option WlSurface)
  | screenshotUi
  | exitConfirmDialog
  | overview
  | mru
  deriving DecidableEq

/-- `KeyboardFocus::surface`. -/
def KeyboardFocus.surface {WindowId WlSurface : Type} :
    KeyboardFocus WindowId WlSurface → Option (RootSurface WindowId WlSurface)
  | .layout surface => surface.map .window
  | .layerShell surface => some (.layer surface)
  | .lockScreen surface => surface.map .lock
  | .screenshotUi => none
  | .exitConfirmDialog => none
  | .overview => none
  | .mru => none

structure PopupGrabState (WindowId WlSurface : Type) where
  root : RootSurface WindowId WlSurface
  hasKeyboardGrab : Bool

/-- What the keyboard focus is decided on, and what it is. -/
structure FocusState (WindowId Output WlSurface : Type) where
  niri : Niri WindowId Output WlSurface
  shell : LayerShell
  cursorOverlayUi : CursorOverlayUi
  alive : LayerSurface → Bool
  canReceiveKeyboardFocus : LayerSurface → Bool
  layerMapForOutput : Output → OutputLayers
  activeOutput : Option Output
  renderAboveTopLayer : Output → Bool
  isOverviewOpen : Bool
  focusedWindow : Option WindowId
  exitConfirmDialogOpen : Bool
  isLocked : Bool
  lockSurfaceFocus : Option WlSurface
  screenshotUiOpen : Bool
  windowMruUiOpen : Bool
  popupGrab : Option (PopupGrabState WindowId WlSurface)
  layerShellOnDemandFocus : Option LayerSurface
  keyboardFocus : KeyboardFocus WindowId WlSurface

variable {WindowId Output WlSurface : Type} [DecidableEq WindowId] [DecidableEq WlSurface]

namespace FocusState

variable (st : FocusState WindowId Output WlSurface) (output : Output)

variable (layer : Layer)

/-- The layer surfaces of an output on a layer. -/
def layersOn : List LayerSurface :=
  (st.layerMapForOutput output).layersOn st.shell layer

def layerGrab : Option (LayerSurface × Layer) :=
  st.popupGrab.bind fun g =>
    ((st.layerMapForOutput output).layers.find? fun l => decide (g.root = .layer l)).bind fun l =>
      if st.canReceiveKeyboardFocus l then some (l, st.shell.layer l) else none

def grabOnLayer : Option (KeyboardFocus WindowId WlSurface) :=
  (st.layerGrab output).bind fun (s, l) => if l = layer then some (.layerShell s) else none

def layoutFocus : Option (KeyboardFocus WindowId WlSurface) :=
  st.focusedWindow.map fun window => .layout (some window)

variable (surface : LayerSurface)

/-- A layer surface, as `excl_focus_on_layer` looks at it. -/
def exclFocusOn : Option (KeyboardFocus WindowId WlSurface) :=
  if st.shell.keyboardInteractivity surface ≠ .exclusive then none
  else if surface ∉ st.niri.mappedLayerSurfaces then none
  else if st.shell.placeWithinBackdrop surface then none
  else some (.layerShell surface)

def exclFocusOnLayer : Option (KeyboardFocus WindowId WlSurface) :=
  (st.layersOn output layer).findSome? st.exclFocusOn

/-- `on_d_focus_on_layer`. -/
def onDFocusOnLayer : Option (KeyboardFocus WindowId WlSurface) :=
  (st.layersOn output layer).findSome? fun surface =>
    if some surface = st.layerShellOnDemandFocus then some (.layerShell surface) else none

/-- A layer surface, as `cursor_overlay_focus` looks at it. -/
def cursorOverlayFocusOn : Option (KeyboardFocus WindowId WlSurface) :=
  if st.cursorOverlayUi.wantsKeyboardFocus st.shell surface = false then none
  else if st.shell.keyboardInteractivity surface = .none then none
  else if surface ∉ st.niri.mappedLayerSurfaces then none
  else if st.shell.placeWithinBackdrop surface then none
  else some (.layerShell surface)

def cursorOverlayFocus : Option (KeyboardFocus WindowId WlSurface) :=
  (st.layersOn output .overlay).findSome? st.cursorOverlayFocusOn

def focusOnLayer : Option (KeyboardFocus WindowId WlSurface) :=
  (st.exclFocusOnLayer output layer).or (st.onDFocusOnLayer output layer)

/-- The popup grabs. -/
def grabFocus : Option (KeyboardFocus WindowId WlSurface) :=
  let surface := (st.grabOnLayer output .overlay).or (st.grabOnLayer output .top)
  if st.isOverviewOpen then surface
  else (surface.or (st.grabOnLayer output .bottom)).or (st.grabOnLayer output .background)

/-- What comes after the overlay layer. -/
def focusBelow (surface : Option (KeyboardFocus WindowId WlSurface)) :
    KeyboardFocus WindowId WlSurface :=
  let surface :=
    if st.renderAboveTopLayer output then
      (((surface.or st.layoutFocus).or (st.focusOnLayer output .top)).or
        (st.focusOnLayer output .bottom)).or (st.focusOnLayer output .background)
    else
      let surface := surface.or (st.focusOnLayer output .top)
      let surface := if st.isOverviewOpen then some (surface.getD .overview) else surface
      ((((surface.or (st.onDFocusOnLayer output .bottom)).or
        (st.onDFocusOnLayer output .background)).or st.layoutFocus).or
        (st.exclFocusOnLayer output .bottom)).or (st.exclFocusOnLayer output .background)
  surface.getD (.layout none)

/-- The focus on the active output. -/
def outputFocus : KeyboardFocus WindowId WlSurface :=
  let surface := st.grabFocus output
  let surface := surface.or (st.cursorOverlayFocus output)
  let surface := surface.or (st.focusOnLayer output .overlay)
  st.focusBelow output surface

/-- The current focus. -/
def currentFocus : KeyboardFocus WindowId WlSurface :=
  if st.exitConfirmDialogOpen then .exitConfirmDialog
  else if st.isLocked then .lockScreen st.lockSurfaceFocus
  else if st.screenshotUiOpen then .screenshotUi
  else if st.windowMruUiOpen then .mru
  else
    match st.activeOutput with
    | some output => st.outputFocus output
    | none => .layout none

/-- An on-demand focus that is not good any more is dropped. -/
def cleanUpOnDemandFocus : FocusState WindowId Output WlSurface :=
  { st with
    layerShellOnDemandFocus := st.layerShellOnDemandFocus.filter fun surface =>
      st.alive surface && decide (st.shell.keyboardInteractivity surface = .onDemand) &&
        decide (surface ∈ st.niri.mappedLayerSurfaces) && !st.shell.placeWithinBackdrop surface }

def updateKeyboardFocus : FocusState WindowId Output WlSurface :=
  let st := st.cleanUpOnDemandFocus
  let focus := st.currentFocus
  if st.keyboardFocus = focus then st
  else
    { st with
      popupGrab := st.popupGrab.filter fun grab =>
        !(grab.hasKeyboardGrab && decide (some grab.root ≠ focus.surface))
      keyboardFocus := focus }

@[simp]
theorem updateKeyboardFocus_keyboardFocus :
    st.updateKeyboardFocus.keyboardFocus = st.cleanUpOnDemandFocus.currentFocus := by
  unfold updateKeyboardFocus
  dsimp only
  split
  · assumption
  · rfl

end FocusState

/-! ## The overlays that are drawn -/

section Drawn

variable (niri : Niri WindowId Output WlSurface) (output : Output) (layerMap : LayerMap)

omit [DecidableEq WlSurface] in
/-- What is drawn of the overlay, below those above. -/
def DrawnBelow (above : List RegisteredCursorOverlay) (d : DrawnOverlay) : Prop :=
  FirstVisible above d.overlay ∧ ∃ geo anchor,
    drawnSurface niri layerMap d.overlay = some (d.surface, geo) ∧
    niri.anchorPoint output d.overlay.anchor = some anchor ∧
    d.rect = niri.drawnRect output d.overlay anchor d.surface geo

variable {rendered : Finset String} {above : List RegisteredCursorOverlay}

omit [DecidableEq WlSurface] in
theorem mem_renderOutputLoop_cons (h : Rendered above rendered)
    (overlay : RegisteredCursorOverlay) (below : List RegisteredCursorOverlay) :
    ∃ rendered', Rendered (above ++ [overlay]) rendered' ∧ ∀ d,
      d ∈ renderOutputLoop niri output layerMap rendered (overlay :: below) ↔
        (d.overlay = overlay ∧ DrawnBelow niri output layerMap above d) ∨
          d ∈ renderOutputLoop niri output layerMap rendered' below := by
  by_cases hfirst : FirstVisible above overlay
  · refine ⟨_, h.insert hfirst, fun d => ?_⟩
    rw [renderOutputLoop, if_neg (h.firstVisible_iff.mp hfirst)]
    split
    · rename_i hdrawn
      rw [or_iff_right]
      rintro ⟨rfl, -, geo, anchor, hsome, -⟩
      rw [hdrawn] at hsome
      cases hsome
    · rename_i surface geo hdrawn
      split
      · rename_i hanchor
        rw [or_iff_right]
        rintro ⟨rfl, -, geo', anchor, -, hsome, -⟩
        rw [hanchor] at hsome
        cases hsome
      · rename_i anchor hanchor
        rw [mem_cons]
        refine or_congr_left ⟨?_, ?_⟩
        · rintro rfl
          exact ⟨rfl, hfirst, geo, anchor, hdrawn, hanchor, rfl⟩
        · rintro ⟨rfl, -, geo', anchor', hdrawn', hanchor', hrect⟩
          rw [hdrawn, some.injEq, Prod.mk.injEq] at hdrawn'
          rw [hanchor, some.injEq] at hanchor'
          obtain ⟨rfl, rfl⟩ := hdrawn'
          subst hanchor'
          cases d
          simp only [DrawnOverlay.mk.injEq, true_and]
          exact hrect
  · refine ⟨rendered, h.skip hfirst, fun d => ?_⟩
    have hskip : overlay.visible = false ∨ overlay.layerNamespace ∈ rendered := by
      by_contra hnot
      exact hfirst (h.firstVisible_iff.mpr hnot)
    rw [renderOutputLoop, if_pos hskip, or_iff_right]
    rintro ⟨rfl, hfirst', -⟩
    exact hfirst hfirst'

variable {niri output layerMap} {d : DrawnOverlay}

omit [DecidableEq WlSurface] in
theorem mem_renderOutputLoop_iff (h : Rendered above rendered)
    {below : List RegisteredCursorOverlay} :
    d ∈ renderOutputLoop niri output layerMap rendered below ↔ ∃ mid rest,
      below = mid ++ d.overlay :: rest ∧ DrawnBelow niri output layerMap (above ++ mid) d := by
  induction below generalizing above rendered with
  | nil =>
    refine iff_of_false not_mem_nil ?_
    rintro ⟨mid, rest, hsplit, -⟩
    simp at hsplit
  | cons overlay below ih =>
    obtain ⟨rendered', h', hcons⟩ := mem_renderOutputLoop_cons niri output layerMap h overlay below
    rw [hcons d, ih h']
    constructor
    · rintro (⟨rfl, hdrawn⟩ | ⟨mid, rest, rfl, hdrawn⟩)
      · exact ⟨[], below, rfl, by rwa [append_nil]⟩
      · exact ⟨overlay :: mid, rest, rfl, by rwa [append_cons]⟩
    · rintro ⟨_ | ⟨o, mid⟩, rest, hsplit, hdrawn⟩
      · cases hsplit
        rw [append_nil] at hdrawn
        exact .inl ⟨rfl, hdrawn⟩
      · cases hsplit
        rw [append_cons] at hdrawn
        exact .inr ⟨mid, rest, rfl, hdrawn⟩

omit [DecidableEq WlSurface] in
/-- The drawn overlays are the uppermost visible ones of each namespace, with a layer surface and an
anchor on the output. -/
theorem mem_renderOutput_iff {ui : CursorOverlayUi} {order : List String} :
    d ∈ ui.renderOutput niri output layerMap order ↔ ∃ above below,
      ui.sorted order = above ++ d.overlay :: below ∧ DrawnBelow niri output layerMap above d := by
  have hrendered : Rendered [] ∅ := fun n => by simp
  exact mem_renderOutputLoop_iff hrendered

end Drawn

/-! ## Who gets the keyboard -/

namespace FocusState

variable (st : FocusState WindowId Output WlSurface) (output : Output)

/-- The layer surfaces of the active output can have the keyboard. -/
structure UpToLayers : Prop where
  active : st.activeOutput = some output
  dialog : st.exitConfirmDialogOpen = false
  unlocked : st.isLocked = false
  screenshot : st.screenshotUiOpen = false
  mru : st.windowMruUiOpen = false

/-- The surface holds a popup grab that the overview does not take away. -/
structure Grabs (surface : LayerSurface) : Prop where
  root : ∃ g, st.popupGrab = some g ∧ g.root = .layer surface
  mem : surface ∈ (st.layerMapForOutput output).layers
  receives : st.canReceiveKeyboardFocus surface = true
  overview : st.isOverviewOpen = true →
    st.shell.layer surface = .overlay ∨ st.shell.layer surface = .top

/-- The surface is mapped, and some visible overlay of its namespace requests the focus. -/
structure Wants (surface : LayerSurface) : Prop where
  wanted : st.cursorOverlayUi.wantsKeyboardFocus st.shell surface = true
  interactive : st.shell.keyboardInteractivity surface ≠ .none
  mapped : surface ∈ st.niri.mappedLayerSurfaces

/-- The surface is mapped and exclusive. -/
structure Exclusive (surface : LayerSurface) : Prop where
  interactive : st.shell.keyboardInteractivity surface = .exclusive
  mapped : surface ∈ st.niri.mappedLayerSurfaces

/-- The on-demand focus is on the surface, and is not dropped. -/
structure OnDemand (surface : LayerSurface) : Prop where
  focus : st.layerShellOnDemandFocus = some surface
  alive : st.alive surface = true
  interactive : st.shell.keyboardInteractivity surface = .onDemand
  mapped : surface ∈ st.niri.mappedLayerSurfaces

/-- The first of the list with the property. -/
def FirstWith (P : LayerSurface → Prop) (l : List LayerSurface) (surface : LayerSurface) : Prop :=
  ∃ pre post, l = pre ++ surface :: post ∧ P surface ∧ ∀ s ∈ pre, ¬ P s

/-- The uppermost visible overlay of some namespace requests the focus, is resolved on the output,
and finds the surface to draw. -/
def TakenWithFocus (order : List String) (surface : LayerSurface) : Prop :=
  ∃ above overlay below geo, st.cursorOverlayUi.sorted order = above ++ overlay :: below ∧
    FirstVisible above overlay ∧ overlay.keyboardFocus = true ∧
    drawnSurface st.niri ((st.layerMapForOutput output).layerMap st.shell) overlay =
      some (surface, geo) ∧
    (st.niri.anchorPoint output overlay.anchor).isSome = true

/-- The keyboard is left to a claimed surface only where that one is drawn with the focus. -/
structure LeavesToDrawn (order : List String) : Prop where
  grab : ∀ surface, st.Grabs output surface → st.cursorOverlayUi.isClaimed st.shell surface = true →
    st.TakenWithFocus output order surface
  wants : (∀ surface, ¬ st.Grabs output surface) → ∀ surface,
    FirstWith st.Wants (st.layersOn output .overlay) surface →
    st.TakenWithFocus output order surface
  exclusive : (∀ surface, ¬ st.Grabs output surface) →
    (∀ surface ∈ st.layersOn output .overlay, ¬ st.Wants surface) → ∀ surface,
    FirstWith st.Exclusive (st.layersOn output .overlay) surface →
    st.cursorOverlayUi.isClaimed st.shell surface = false
  onDemand : (∀ surface, ¬ st.Grabs output surface) →
    (∀ surface ∈ st.layersOn output .overlay, ¬ st.Wants surface) →
    (∀ surface ∈ st.layersOn output .overlay, ¬ st.Exclusive surface) →
    ∀ surface ∈ st.layersOn output .overlay, st.OnDemand surface →
    st.cursorOverlayUi.isClaimed st.shell surface = false

variable {st output} {surface : LayerSurface}

/-! ### Each step of the choice -/

section

omit [DecidableEq WindowId] [DecidableEq WlSurface]

variable {f : LayerSurface → Option (KeyboardFocus WindowId WlSurface)} {P : LayerSurface → Prop}

variable {l : List LayerSurface}

/-- A search that takes the first layer surface with a property. -/
theorem findSome?_eq_layerShell_iff
    (hf : ∀ s ∈ l, P s ∧ f s = some (.layerShell s) ∨ ¬ P s ∧ f s = none) :
    l.findSome? f = some (.layerShell surface) ↔ FirstWith P l surface := by
  rw [List.findSome?_eq_some_iff]
  constructor
  · rintro ⟨pre, s, post, rfl, hs, hpre⟩
    rcases hf s (by simp) with ⟨hP, heq⟩ | ⟨-, heq⟩
    · rw [heq, some.injEq, KeyboardFocus.layerShell.injEq] at hs
      subst hs
      refine ⟨pre, post, rfl, hP, fun t ht hPt => ?_⟩
      rcases hf t (mem_append_left _ ht) with ⟨-, htf⟩ | ⟨hnot, -⟩
      · rw [hpre t ht] at htf
        cases htf
      · exact hnot hPt
    · rw [heq] at hs
      cases hs
  · rintro ⟨pre, post, rfl, hP, hpre⟩
    refine ⟨pre, surface, post, rfl, ?_, fun t ht => ?_⟩
    · rcases hf surface (by simp) with ⟨-, heq⟩ | ⟨hnot, -⟩
      · exact heq
      · exact absurd hP hnot
    · rcases hf t (mem_append_left _ ht) with ⟨hPt, -⟩ | ⟨-, heq⟩
      · exact absurd hPt (hpre t ht)
      · exact heq

theorem findSome?_eq_none_iff_forall
    (hf : ∀ s ∈ l, P s ∧ f s = some (.layerShell s) ∨ ¬ P s ∧ f s = none) :
    l.findSome? f = none ↔ ∀ s ∈ l, ¬ P s := by
  rw [List.findSome?_eq_none_iff]
  refine forall₂_congr fun s hs => ?_
  rcases hf s hs with ⟨hP, heq⟩ | ⟨hnot, heq⟩
  · rw [heq]
    exact iff_of_false (by simp) (not_not.mpr hP)
  · exact iff_of_true heq hnot

end

variable {layer : Layer}

theorem layerGrab_eq_some_iff :
    st.layerGrab output = some (surface, layer) ↔
      (∃ g, st.popupGrab = some g ∧ g.root = .layer surface) ∧
        surface ∈ (st.layerMapForOutput output).layers ∧
        st.canReceiveKeyboardFocus surface = true ∧ st.shell.layer surface = layer := by
  unfold layerGrab
  rw [bind_eq_some_iff]
  constructor
  · rintro ⟨g, hgrab, hbind⟩
    obtain ⟨s, hfind, hreceives⟩ := bind_eq_some_iff.mp hbind
    obtain ⟨hcan, heq⟩ := ite_none_right_eq_some.mp hreceives
    cases heq
    have hroot := List.find?_some hfind
    exact ⟨⟨g, hgrab, of_decide_eq_true hroot⟩, mem_of_find?_eq_some hfind, hcan, rfl⟩
  · rintro ⟨⟨g, hgrab, hroot⟩, hmem, hreceives, rfl⟩
    refine ⟨g, hgrab, bind_eq_some_iff.mpr ⟨surface, ?_, by rw [if_pos hreceives]⟩⟩
    cases hfind : (st.layerMapForOutput output).layers.find? fun l =>
        decide (g.root = .layer l) with
    | none =>
      have hnot := List.find?_eq_none.mp hfind surface hmem
      exact absurd (decide_eq_true hroot) hnot
    | some l =>
      have hl := List.find?_some hfind
      rw [decide_eq_true_eq, hroot, RootSurface.layer.injEq] at hl
      rw [hl]

theorem grabFocus_of_none (h : st.layerGrab output = none) : st.grabFocus output = none := by
  unfold grabFocus grabOnLayer
  rw [h]
  simp

/-- The overview takes the grabs of the lower layers away. -/
theorem grabFocus_of_some (h : st.layerGrab output = some (surface, layer)) :
    st.grabFocus output =
      if st.isOverviewOpen = true → layer = .overlay ∨ layer = .top then some (.layerShell surface)
      else none := by
  unfold grabFocus grabOnLayer
  rw [h]
  cases layer <;> cases st.isOverviewOpen <;> simp

theorem grabFocus_eq_some_iff :
    st.grabFocus output = some (.layerShell surface) ↔ st.Grabs output surface := by
  constructor
  · intro h
    cases hgrab : st.layerGrab output with
    | none =>
      rw [grabFocus_of_none hgrab] at h
      cases h
    | some grab =>
      obtain ⟨s, layer⟩ := grab
      rw [grabFocus_of_some hgrab] at h
      obtain ⟨hoverview, heq⟩ := ite_none_right_eq_some.mp h
      cases heq
      obtain ⟨hroot, hmem, hreceives, rfl⟩ := layerGrab_eq_some_iff.mp hgrab
      exact ⟨hroot, hmem, hreceives, hoverview⟩
  · rintro ⟨hroot, hmem, hreceives, hoverview⟩
    rw [grabFocus_of_some (layerGrab_eq_some_iff.mpr ⟨hroot, hmem, hreceives, rfl⟩),
      if_pos hoverview]

theorem grabFocus_eq_none_iff :
    st.grabFocus output = none ↔ ∀ surface, ¬ st.Grabs output surface := by
  constructor
  · intro h surface hgrabs
    rw [grabFocus_eq_some_iff.mpr hgrabs] at h
    cases h
  · intro h
    cases hgrab : st.layerGrab output with
    | none => exact grabFocus_of_none hgrab
    | some grab =>
      obtain ⟨s, layer⟩ := grab
      rw [grabFocus_of_some hgrab, if_neg]
      intro hoverview
      refine h s (grabFocus_eq_some_iff.mp ?_)
      rw [grabFocus_of_some hgrab, if_pos hoverview]

section

omit [DecidableEq WindowId] [DecidableEq WlSurface]

theorem placeWithinBackdrop_of_mem (hlayer : layer ≠ .background)
    (hmem : surface ∈ st.layersOn output layer) : st.shell.placeWithinBackdrop surface = false := by
  refine LayerShell.placeWithinBackdrop_eq_false ?_
  rw [OutputLayers.layer_of_mem_layersOn hmem]
  exact hlayer

section

variable (hmem : surface ∈ st.layersOn output .overlay)
include hmem

theorem cursorOverlayFocusOn_cases :
    st.Wants surface ∧ st.cursorOverlayFocusOn surface = some (.layerShell surface) ∨
      ¬ st.Wants surface ∧ st.cursorOverlayFocusOn surface = none := by
  unfold cursorOverlayFocusOn
  split
  · rename_i hwants
    refine .inr ⟨fun h => ?_, rfl⟩
    rw [h.wanted] at hwants
    cases hwants
  · rename_i hwants
    split
    · rename_i hinteractive
      exact .inr ⟨fun h => h.interactive hinteractive, rfl⟩
    · rename_i hinteractive
      split
      · rename_i hmapped
        exact .inr ⟨fun h => hmapped h.mapped, rfl⟩
      · rename_i hmapped
        rw [placeWithinBackdrop_of_mem (by decide) hmem]
        exact .inl ⟨⟨eq_true_of_not_eq_false hwants, hinteractive, not_not.mp hmapped⟩, rfl⟩

theorem exclFocusOn_cases :
    st.Exclusive surface ∧ st.exclFocusOn surface = some (.layerShell surface) ∨
      ¬ st.Exclusive surface ∧ st.exclFocusOn surface = none := by
  unfold exclFocusOn
  split
  · rename_i hinteractive
    exact .inr ⟨fun h => hinteractive h.interactive, rfl⟩
  · rename_i hinteractive
    split
    · rename_i hmapped
      exact .inr ⟨fun h => hmapped h.mapped, rfl⟩
    · rename_i hmapped
      rw [placeWithinBackdrop_of_mem (by decide) hmem]
      exact .inl ⟨⟨not_not.mp hinteractive, not_not.mp hmapped⟩, rfl⟩

/-- The on-demand focus, after it is cleaned up. -/
theorem onDemand_iff :
    st.cleanUpOnDemandFocus.layerShellOnDemandFocus = some surface ↔ st.OnDemand surface := by
  unfold cleanUpOnDemandFocus
  simp only [filter_eq_some_iff, placeWithinBackdrop_of_mem (by decide) hmem,
    and_eq_true, decide_eq_true_eq, Bool.not_false, and_true]
  constructor
  · rintro ⟨hfocus, ⟨halive, hinteractive⟩, hmapped⟩
    exact ⟨hfocus, halive, hinteractive, hmapped⟩
  · rintro ⟨hfocus, halive, hinteractive, hmapped⟩
    exact ⟨hfocus, ⟨halive, hinteractive⟩, hmapped⟩

end

theorem onDFocusOnLayer_eq_some_iff :
    st.onDFocusOnLayer output layer = some (.layerShell surface) ↔
      surface ∈ st.layersOn output layer ∧ st.layerShellOnDemandFocus = some surface := by
  have hstep : ∀ focus, st.onDFocusOnLayer output layer = some focus →
      ∃ s ∈ st.layersOn output layer, st.layerShellOnDemandFocus = some s ∧
        focus = .layerShell s := by
    intro focus h
    obtain ⟨s, hmem, hs⟩ := exists_of_findSome?_eq_some h
    obtain ⟨hfocus, heq⟩ := ite_none_right_eq_some.mp hs
    exact ⟨s, hmem, hfocus.symm, (some.inj heq).symm⟩
  constructor
  · intro h
    obtain ⟨s, hmem, hfocus, heq⟩ := hstep _ h
    cases heq
    exact ⟨hmem, hfocus⟩
  · rintro ⟨hmem, hfocus⟩
    cases h : st.onDFocusOnLayer output layer with
    | none =>
      have hnone := List.findSome?_eq_none_iff.mp h surface hmem
      rw [hfocus, if_pos rfl] at hnone
      cases hnone
    | some focus =>
      obtain ⟨s, -, hs, rfl⟩ := hstep focus h
      rw [hfocus, some.injEq] at hs
      rw [hs]

end

/-! ### Below the overlay layer -/

section

omit [DecidableEq WindowId] [DecidableEq WlSurface]

theorem layer_of_exclFocusOnLayer
    (h : st.exclFocusOnLayer output layer = some (.layerShell surface)) :
    st.shell.layer surface = layer := by
  obtain ⟨s, hmem, hs⟩ := exists_of_findSome?_eq_some h
  obtain ⟨-, hs⟩ := ite_none_left_eq_some.mp hs
  obtain ⟨-, hs⟩ := ite_none_left_eq_some.mp hs
  obtain ⟨-, hs⟩ := ite_none_left_eq_some.mp hs
  cases hs
  exact OutputLayers.layer_of_mem_layersOn hmem

theorem layer_of_onDFocusOnLayer (h : st.onDFocusOnLayer output layer = some (.layerShell surface)) :
    st.shell.layer surface = layer :=
  OutputLayers.layer_of_mem_layersOn (onDFocusOnLayer_eq_some_iff.mp h).1

theorem layer_of_focusOnLayer (h : st.focusOnLayer output layer = some (.layerShell surface)) :
    st.shell.layer surface = layer := by
  rcases or_eq_some_iff.mp h with h | ⟨-, h⟩
  · exact layer_of_exclFocusOnLayer h
  · exact layer_of_onDFocusOnLayer h

/-- What was chosen stays. -/
theorem focusBelow_some (focus : KeyboardFocus WindowId WlSurface) :
    st.focusBelow output (some focus) = focus := by
  unfold focusBelow
  simp

theorem or_ne_some {a b : Option (KeyboardFocus WindowId WlSurface)}
    {focus : KeyboardFocus WindowId WlSurface} (ha : a ≠ some focus) (hb : b ≠ some focus) :
    a.or b ≠ some focus := by
  intro h
  rcases or_eq_some_iff.mp h with h | ⟨-, h⟩
  · exact ha h
  · exact hb h

theorem getD_ne {a : Option (KeyboardFocus WindowId WlSurface)}
    {default focus : KeyboardFocus WindowId WlSurface} (ha : a ≠ some focus)
    (hdefault : default ≠ focus) : a.getD default ≠ focus := by
  cases a with
  | none => exact hdefault
  | some f => exact fun h => ha (congrArg some h)

/-- The other layers have no claimed surface. -/
theorem focusBelow_none_ne (hlayer : st.shell.layer surface = .overlay) :
    st.focusBelow output none ≠ .layerShell surface := by
  have hexcl : ∀ layer, layer ≠ .overlay →
      st.exclFocusOnLayer output layer ≠ some (.layerShell surface) := fun layer hne h =>
    hne ((layer_of_exclFocusOnLayer h).symm.trans hlayer)
  have honD : ∀ layer, layer ≠ .overlay →
      st.onDFocusOnLayer output layer ≠ some (.layerShell surface) := fun layer hne h =>
    hne ((layer_of_onDFocusOnLayer h).symm.trans hlayer)
  have hfocus : ∀ layer, layer ≠ .overlay →
      st.focusOnLayer output layer ≠ some (.layerShell surface) := fun layer hne h =>
    hne ((layer_of_focusOnLayer h).symm.trans hlayer)
  have hlayout : st.layoutFocus ≠ some (.layerShell surface) := by
    unfold layoutFocus
    rw [ne_eq, map_eq_some_iff]
    rintro ⟨window, -, heq⟩
    cases heq
  refine getD_ne ?_ nofun
  split
  · refine or_ne_some (or_ne_some (or_ne_some (or_ne_some nofun hlayout) ?_) ?_) ?_
    · exact hfocus .top nofun
    · exact hfocus .bottom nofun
    · exact hfocus .background nofun
  · have htop : (Option.none.or (st.focusOnLayer output .top)) ≠ some (.layerShell surface) :=
      or_ne_some nofun (hfocus .top nofun)
    have hopen : (if st.isOverviewOpen = true then
        some ((Option.none.or (st.focusOnLayer output .top)).getD .overview)
        else Option.none.or (st.focusOnLayer output .top)) ≠ some (.layerShell surface) := by
      have hoverview : (Option.none.or (st.focusOnLayer output .top)).getD .overview ≠
          .layerShell surface := getD_ne htop nofun
      split
      · exact fun h => hoverview (some.inj h)
      · exact htop
    refine or_ne_some (or_ne_some (or_ne_some (or_ne_some (or_ne_some hopen ?_) ?_) hlayout) ?_) ?_
    · exact honD .bottom nofun
    · exact honD .background nofun
    · exact hexcl .bottom nofun
    · exact hexcl .background nofun

end

/-- Who gets the keyboard on the active output, if it is a surface of the overlay layer. -/
theorem outputFocus_eq_layerShell_iff (hlayer : st.shell.layer surface = .overlay) :
    st.cleanUpOnDemandFocus.outputFocus output = .layerShell surface ↔
      st.Grabs output surface ∨ (∀ s, ¬ st.Grabs output s) ∧
        (FirstWith st.Wants (st.layersOn output .overlay) surface ∨
          (∀ s ∈ st.layersOn output .overlay, ¬ st.Wants s) ∧
            (FirstWith st.Exclusive (st.layersOn output .overlay) surface ∨
              (∀ s ∈ st.layersOn output .overlay, ¬ st.Exclusive s) ∧
                surface ∈ st.layersOn output .overlay ∧ st.OnDemand surface)) := by
  have hbelow : ∀ focus, st.cleanUpOnDemandFocus.focusBelow output focus = .layerShell surface ↔
      focus = some (.layerShell surface) := by
    rintro (_ | focus)
    · exact iff_of_false (focusBelow_none_ne hlayer) nofun
    · rw [focusBelow_some, some.injEq]
  have hgrab : st.cleanUpOnDemandFocus.grabFocus output = st.grabFocus output := rfl
  have hwants : st.cleanUpOnDemandFocus.cursorOverlayFocus output =
      (st.layersOn output .overlay).findSome? st.cursorOverlayFocusOn := rfl
  have hexclusive : st.cleanUpOnDemandFocus.exclFocusOnLayer output .overlay =
      (st.layersOn output .overlay).findSome? st.exclFocusOn := rfl
  have honDemand : st.cleanUpOnDemandFocus.onDFocusOnLayer output .overlay =
      some (.layerShell surface) ↔ surface ∈ st.layersOn output .overlay ∧ st.OnDemand surface := by
    rw [onDFocusOnLayer_eq_some_iff]
    exact and_congr_right fun hmem => onDemand_iff hmem
  unfold outputFocus focusOnLayer
  rw [hbelow, Option.or_assoc, or_eq_some_iff, or_eq_some_iff, or_eq_some_iff,
    hgrab, hwants, hexclusive, honDemand, grabFocus_eq_some_iff, grabFocus_eq_none_iff,
    findSome?_eq_layerShell_iff fun s hs => cursorOverlayFocusOn_cases hs,
    findSome?_eq_none_iff_forall fun s hs => cursorOverlayFocusOn_cases hs,
    findSome?_eq_layerShell_iff fun s hs => exclFocusOn_cases hs,
    findSome?_eq_none_iff_forall fun s hs => exclFocusOn_cases hs]

theorem currentFocus_eq_layerShell_iff :
    st.cleanUpOnDemandFocus.currentFocus = .layerShell surface ↔
      ∃ output, st.UpToLayers output ∧
        st.cleanUpOnDemandFocus.outputFocus output = .layerShell surface := by
  have hfields : st.cleanUpOnDemandFocus.currentFocus =
      if st.exitConfirmDialogOpen then .exitConfirmDialog
      else if st.isLocked then .lockScreen st.lockSurfaceFocus
      else if st.screenshotUiOpen then .screenshotUi
      else if st.windowMruUiOpen then .mru
      else
        match st.activeOutput with
        | some output => st.cleanUpOnDemandFocus.outputFocus output
        | none => .layout none := rfl
  rw [hfields]
  constructor
  · intro h
    split at h
    · cases h
    · split at h
      · cases h
      · split at h
        · cases h
        · split at h
          · cases h
          · rename_i hdialog hlocked hscreenshot hmru
            split at h
            · rename_i output hactive
              exact ⟨output, ⟨hactive, eq_false_iff.mpr hdialog, eq_false_iff.mpr hlocked,
                eq_false_iff.mpr hscreenshot, eq_false_iff.mpr hmru⟩, h⟩
            · cases h
  · rintro ⟨output, ⟨hactive, hdialog, hlocked, hscreenshot, hmru⟩, h⟩
    simp only [hdialog, hlocked, hscreenshot, hmru, hactive, h, false_eq_true, if_false]

/-! ### What is drawn -/

omit [DecidableEq WlSurface] in
/-- A surface that is taken is drawn for an overlay of its namespace. -/
theorem takenWithFocus_iff {order : List String} :
    st.TakenWithFocus output order surface ↔
      ∃ d ∈ st.cursorOverlayUi.renderOutput st.niri output
          ((st.layerMapForOutput output).layerMap st.shell) order,
        d.surface = surface ∧
        st.cursorOverlayUi.overlays.lookup d.overlay.overlayId = some d.overlay ∧
        d.overlay.layerNamespace = surface.layerNamespace ∧
        d.overlay.visible = true ∧ d.overlay.keyboardFocus = true := by
  constructor
  · rintro ⟨above, overlay, below, geo, hsorted, hfirst, hfocus, hdrawn, hanchor⟩
    obtain ⟨anchor, hanchor⟩ := isSome_iff_exists.mp hanchor
    refine ⟨⟨overlay, surface, st.niri.drawnRect output overlay anchor surface geo⟩,
      mem_renderOutput_iff.mpr ⟨above, below, hsorted, hfirst, geo, anchor, hdrawn, hanchor, rfl⟩,
      rfl, ?_, (layerNamespace_of_drawnSurface hdrawn).1.symm, hfirst.1, hfocus⟩
    have hmem : overlay ∈ st.cursorOverlayUi.sorted order := by
      rw [hsorted]
      simp
    obtain ⟨overlayId, hlookup⟩ := HashMap.mem_values ((perm_sortBy _ _).mem_iff.mp hmem)
    rw [st.cursorOverlayUi.keyed overlayId overlay hlookup]
    exact hlookup
  · rintro ⟨d, hd, rfl, -, -, -, hfocus⟩
    obtain ⟨above, below, hsorted, hfirst, geo, anchor, hdrawn, hanchor, -⟩ :=
      mem_renderOutput_iff.mp hd
    exact ⟨above, d.overlay, below, geo, hsorted, hfirst, hfocus, hdrawn,
      isSome_iff_exists.mpr ⟨anchor, hanchor⟩⟩

end FocusState

/-- **Keyboard focus.**  Whenever a claimed layer surface gets the keyboard, it is drawn on the
active output for an overlay that claims its namespace, is visible and requests the focus, exactly
where the layer surfaces leave the keyboard to such a surface: a claimed one that holds a popup grab
is drawn so, and without a grab the first one on the overlay layer that some visible overlay requests
the focus for; without either, the first exclusive one is not claimed, and without any of these, the
on-demand one is not. -/
theorem keyboardFocus_drawn_iff (st : FocusState WindowId Output WlSurface)
    (order : List String) :
    (∀ surface, st.updateKeyboardFocus.keyboardFocus = .layerShell surface →
      st.cursorOverlayUi.isClaimed st.shell surface = true →
      ∃ output, st.activeOutput = some output ∧
        ∃ d ∈ st.cursorOverlayUi.renderOutput st.niri output
            ((st.layerMapForOutput output).layerMap st.shell) order,
          d.surface = surface ∧
          st.cursorOverlayUi.overlays.lookup d.overlay.overlayId = some d.overlay ∧
          d.overlay.layerNamespace = surface.layerNamespace ∧
          d.overlay.visible = true ∧ d.overlay.keyboardFocus = true) ↔
    ∀ output, st.UpToLayers output → st.LeavesToDrawn output order := by
  simp only [← FocusState.takenWithFocus_iff]
  constructor
  · intro h output hup
    have htaken : ∀ surface, st.cleanUpOnDemandFocus.outputFocus output = .layerShell surface →
        st.cursorOverlayUi.isClaimed st.shell surface = true →
        st.TakenWithFocus output order surface := by
      intro surface hfocus hclaimed
      have hcurrent : st.updateKeyboardFocus.keyboardFocus = .layerShell surface := by
        rw [st.updateKeyboardFocus_keyboardFocus]
        exact FocusState.currentFocus_eq_layerShell_iff.mpr ⟨output, hup, hfocus⟩
      obtain ⟨output', hactive, htaken⟩ := h surface hcurrent hclaimed
      rw [hup.active, some.injEq] at hactive
      subst hactive
      exact htaken
    -- A surface that is taken with the focus is requested by an overlay.
    have hwants : ∀ surface, st.TakenWithFocus output order surface →
        st.shell.layer surface = .overlay →
        st.cursorOverlayUi.wantsKeyboardFocus st.shell surface = true := by
      intro surface htaken hlayer
      obtain ⟨d, -, -, hlookup, hnamespace, hvisible, hfocus⟩ :=
        FocusState.takenWithFocus_iff.mp htaken
      exact CursorOverlayUi.wantsKeyboardFocus_iff.mpr
        ⟨hlayer, d.overlay.overlayId, d.overlay, hlookup, hvisible, hfocus, hnamespace⟩
    refine ⟨fun surface hgrabs hclaimed => ?_, fun hgrabs surface hfirst => ?_,
      fun hgrabs hnone surface hfirst => ?_, fun hgrabs hnone hexclusive surface hmem hdemand => ?_⟩
    · have hlayer := CursorOverlayUi.layer_of_isClaimed hclaimed
      exact htaken surface ((FocusState.outputFocus_eq_layerShell_iff hlayer).mpr (.inl hgrabs))
        hclaimed
    · obtain ⟨pre, post, -, hwanted, -⟩ := id hfirst
      have hclaimed := CursorOverlayUi.isClaimed_of_wantsKeyboardFocus hwanted.wanted
      have hlayer := CursorOverlayUi.layer_of_isClaimed hclaimed
      exact htaken surface ((FocusState.outputFocus_eq_layerShell_iff hlayer).mpr
        (.inr ⟨hgrabs, .inl hfirst⟩)) hclaimed
    · obtain ⟨pre, post, hsplit, hexcl, -⟩ := id hfirst
      have hmem : surface ∈ st.layersOn output .overlay := by
        rw [hsplit]
        simp
      refine eq_false_iff.mpr fun hclaimed => hnone surface hmem ?_
      have hlayer := CursorOverlayUi.layer_of_isClaimed hclaimed
      have hfocus := htaken surface ((FocusState.outputFocus_eq_layerShell_iff hlayer).mpr
        (.inr ⟨hgrabs, .inr ⟨hnone, .inl hfirst⟩⟩)) hclaimed
      exact ⟨hwants surface hfocus hlayer, by rw [hexcl.interactive]; nofun, hexcl.mapped⟩
    · refine eq_false_iff.mpr fun hclaimed => hnone surface hmem ?_
      have hlayer := CursorOverlayUi.layer_of_isClaimed hclaimed
      have hfocus := htaken surface ((FocusState.outputFocus_eq_layerShell_iff hlayer).mpr
        (.inr ⟨hgrabs, .inr ⟨hnone, .inr ⟨hexclusive, hmem, hdemand⟩⟩⟩)) hclaimed
      exact ⟨hwants surface hfocus hlayer, by rw [hdemand.interactive]; nofun, hdemand.mapped⟩
  · intro h surface hfocus hclaimed
    have hlayer := CursorOverlayUi.layer_of_isClaimed hclaimed
    rw [st.updateKeyboardFocus_keyboardFocus] at hfocus
    obtain ⟨output, hup, hfocus⟩ := FocusState.currentFocus_eq_layerShell_iff.mp hfocus
    refine ⟨output, hup.active, ?_⟩
    have hleaves := h output hup
    rcases (FocusState.outputFocus_eq_layerShell_iff hlayer).mp hfocus with
      hgrabs | ⟨hgrabs, hfirst | ⟨hwants, hfirst | ⟨hexclusive, hmem, hdemand⟩⟩⟩
    · exact hleaves.grab surface hgrabs hclaimed
    · exact hleaves.wants hgrabs surface hfirst
    · rw [hleaves.exclusive hgrabs hwants surface hfirst] at hclaimed
      cases hclaimed
    · rw [hleaves.onDemand hgrabs hwants hexclusive surface hmem hdemand] at hclaimed
      cases hclaimed

/-! ### A launcher that is hidden -/

/-- An output with the layer surface of the launcher, which is exclusive. -/
def hiddenState : FocusState Unit Unit ℕ where
  niri := { plainNiri with mappedLayerSurfaces := {⟨0, "launcher"⟩} }
  shell := {
    cachedState := fun _ => ⟨.overlay, .exclusive, .neutral⟩
    ruledWithinBackdrop := fun _ => false }
  cursorOverlayUi := hiddenUi
  alive := fun _ => true
  canReceiveKeyboardFocus := fun _ => true
  layerMapForOutput := fun _ => ⟨[⟨0, "launcher"⟩], fun _ => some ⟨⟨0, 0⟩, ⟨100, 100⟩⟩⟩
  activeOutput := some ()
  renderAboveTopLayer := fun _ => false
  isOverviewOpen := false
  focusedWindow := none
  exitConfirmDialogOpen := false
  isLocked := false
  lockSurfaceFocus := none
  screenshotUiOpen := false
  windowMruUiOpen := false
  popupGrab := none
  layerShellOnDemandFocus := none
  keyboardFocus := .layout none

/-- The keyboard goes to a claimed surface that is not drawn. -/
theorem keyboardFocus_hiddenState :
    ¬ ∀ surface, hiddenState.updateKeyboardFocus.keyboardFocus = .layerShell surface →
      hiddenState.cursorOverlayUi.isClaimed hiddenState.shell surface = true →
      ∃ output, hiddenState.activeOutput = some output ∧
        ∃ d ∈ hiddenState.cursorOverlayUi.renderOutput hiddenState.niri output
            ((hiddenState.layerMapForOutput output).layerMap hiddenState.shell) ["launcher"],
          d.surface = surface ∧
          hiddenState.cursorOverlayUi.overlays.lookup d.overlay.overlayId = some d.overlay ∧
          d.overlay.layerNamespace = surface.layerNamespace ∧
          d.overlay.visible = true ∧ d.overlay.keyboardFocus = true := by
  intro h
  obtain ⟨output, -, d, hd, -⟩ := h ⟨0, "launcher"⟩ (by decide +kernel) (by decide +kernel)
  have hnone : (hiddenUi.renderOutput hiddenState.niri output
      ((hiddenState.layerMapForOutput output).layerMap hiddenState.shell) ["launcher"]).length =
      0 := by
    cases output
    decide +kernel
  exact ne_nil_of_mem hd (length_eq_zero_iff.mp hnone)

end Tiri.Ui
