import Tiri.Ui.CursorOverlays
import Tiri.Ui.VirtualCursors

/-!
# Virtual cursors at the pointer

The request `CreateVirtualCursor` of `src/ipc/server.rs` (lines 517–549) with `at_pointer`: the
position is that of the pointer in the window, as `hardware_pointer_position_in_window` of
`src/niri.rs` (lines 3969–4023) computes it.  It looks for the window on the output under the
pointer, never at the size of the window, and not among the windows that are being moved.

Results:
* `windowRelativePointOnOutput_position`: the point of the cursor on the output is the pointer's;
* `createAtPointer_iff`: when a cursor is created just where the pointer is over the window.
-/

namespace Tiri.Ui

open Utils (Point Size Rectangle)
open List
open Option
open VirtualCursors (VirtualCursorUi VirtualCursorCreate VirtualCursorError)

variable {Output WlSurface : Type}

namespace Niri

variable (niri : Niri ℕ Output WlSurface)

/-- The pointer, or the tablet cursor where there is one. -/
def pointer : Point ℚ := niri.tabletCursorLocation.getD niri.pointerLocation

/-- `global_space` as the compositor keeps it: each output has a geometry and a monitor, and zooms
are positive. -/
structure GlobalSpace where
  outputs : List Output
  geometry : ∀ output ∈ outputs, (niri.outputGeometry output).isSome = true
  monitor : ∀ output ∈ outputs, (niri.monitorForOutput output).isSome = true
  zoom : ∀ output mon, niri.monitorForOutput output = some mon → 0 < mon.overviewZoom

/-- The inner loops of `hardware_pointer_position_in_window`, over the tiles on an output. -/
def positionOn (mon : MonitorView ℕ) (windowId : ℕ) (pointOnOutput : Point ℚ) :
    Option (Point ℚ) :=
  mon.workspacesWithRenderGeo.findSome? fun (tiles, wsGeo) =>
    tiles.findSome? fun tile =>
      if tile.visible = false ∨ tile.window ≠ windowId then none
      else
        let pointInWorkspace := (pointOnOutput - wsGeo.loc).downscale mon.overviewZoom
        some (pointInWorkspace - tile.pos - tile.windowLoc)

/-- `hardware_pointer_position_in_window`, of the outputs of the space. -/
def hardwarePointerPositionInWindow (windowId : ℕ) : List Output → Option (Point ℚ)
  | [] => none
  | output :: outputs => do
    let outputGeo ← niri.outputGeometry output
    if !outputGeo.contains niri.pointer.toI32Round then
      hardwarePointerPositionInWindow windowId outputs
    else
      let mon ← niri.monitorForOutput output
      match positionOn mon windowId (niri.pointer - outputGeo.loc.toF64) with
      | some position => some position
      | none => hardwarePointerPositionInWindow windowId outputs

/-- What `CreateVirtualCursor` answers with. -/
inductive CreateError
  | notOver (windowId : ℕ)
  | refused (error : VirtualCursorError)

variable (outputs : List Output)

/-- The request `CreateVirtualCursor`. -/
def createVirtualCursor (ui : VirtualCursorUi) (cursor : VirtualCursorCreate) :
    Except CreateError VirtualCursorUi :=
  if cursor.atPointer then
    match niri.hardwarePointerPositionInWindow cursor.windowId outputs with
    | some pos => (ui.create { cursor with x := pos.x, y := pos.y }).mapError .refused
    | none => .error (.notOver cursor.windowId)
  else (ui.create cursor).mapError .refused

/-! ## Where a window is displayed -/

/-- The window is displayed on an output under the pointer: the tile that shows it, on the workspace
with this geometry. -/
structure DisplayedAt (outputs : List Output) (windowId : ℕ) (output : Output)
    (outputGeo : Rectangle ℤ) (mon : MonitorView ℕ) (tile : TileView ℕ) (wsGeo : Rectangle ℚ) :
    Prop where
  mem : output ∈ outputs
  geometry : niri.outputGeometry output = some outputGeo
  contains : outputGeo.contains niri.pointer.toI32Round = true
  monitor : niri.monitorForOutput output = some mon
  shown : ∃ tiles, (tiles, wsGeo) ∈ mon.workspacesWithRenderGeo ∧ tile ∈ tiles
  visible : tile.visible = true
  window : tile.window = windowId

/-- It is displayed there. -/
def Displayed (windowId : ℕ) : Prop :=
  ∃ output outputGeo mon tile wsGeo,
    niri.DisplayedAt outputs windowId output outputGeo mon tile wsGeo

/-- The pointer is over the window as a workspace displays it, with this size. -/
def OverDisplayed (windowId : ℕ) (size : Size ℚ) : Prop :=
  ∃ output outputGeo mon tile wsGeo,
    niri.DisplayedAt outputs windowId output outputGeo mon tile wsGeo ∧
      (Rectangle.mk
        (wsGeo.loc + (tile.pos + tile.bobOffset + tile.windowLoc).upscale mon.overviewZoom)
        ⟨size.w * mon.overviewZoom, size.h * mon.overviewZoom⟩).contains
          (niri.pointer - outputGeo.loc.toF64) = true

/-- The window is being moved, and the pointer is over it where
`render_interactive_move_for_output` draws it. -/
def OverMoved (windowId : ℕ) (size : Size ℚ) : Prop :=
  ∃ move outputGeo, niri.interactiveMove = some move ∧ move.tile.window = windowId ∧
    move.output ∈ outputs ∧ niri.outputGeometry move.output = some outputGeo ∧
      outputGeo.contains niri.pointer.toI32Round = true ∧
      (Rectangle.mk
        (move.tile.pos + (move.tile.bobOffset + move.tile.windowLoc).upscale move.overviewZoom)
        ⟨size.w * move.overviewZoom, size.h * move.overviewZoom⟩).contains
          (niri.pointer - outputGeo.loc.toF64) = true

/-- The pointer is over the window as it is displayed. -/
def Over (windowId : ℕ) (size : Size ℚ) : Prop :=
  niri.OverDisplayed outputs windowId size ∨ niri.OverMoved outputs windowId size

/-- **What the request should do**: it is rejected when the pointer is not over the window, and
what it creates is at the pointer. -/
structure CreatesAtPointer (outputs : List Output) (size : Size ℚ) (ui : VirtualCursorUi)
    (cursor : VirtualCursorCreate) : Prop where
  rejects : niri.createVirtualCursor outputs ui cursor = .error (.notOver cursor.windowId) ↔
    ¬niri.Over outputs cursor.windowId size
  creates : (∃ ui', niri.createVirtualCursor outputs ui cursor = .ok ui') ↔
    niri.Over outputs cursor.windowId size ∧
      ¬(cursor.replaceExisting = false ∧ cursor.cursorId ∈ ui.cursors)
  atPointer : ∀ ui', niri.createVirtualCursor outputs ui cursor = .ok ui' →
    ∃ created output outputGeo, ui'.cursors.lookup cursor.cursorId = some created ∧
      output ∈ outputs ∧ niri.outputGeometry output = some outputGeo ∧
      outputGeo.contains niri.pointer.toI32Round = true ∧
      niri.windowRelativePointOnOutput output created.windowId
          ⟨created.position.1, created.position.2⟩ =
        some (niri.pointer - outputGeo.loc.toF64)

variable {niri} {outputs : List Output} {windowId : ℕ}

/-- What one search finds, another one finds that stops at the same elements. -/
theorem findSome?_alike {α β γ : Type} {f : α → Option β} {g : α → Option γ} {b : β} {c : γ}
    (hnone : ∀ a, f a = none → g a = none) (hsome : ∀ a, f a = some b → g a = some c)
    {l : List α} (h : l.findSome? f = some b) : l.findSome? g = some c := by
  induction l with
  | nil => cases h
  | cons a l ih =>
    rw [List.findSome?_cons] at h ⊢
    cases ha : f a with
    | none =>
      rw [ha] at h
      rw [hnone a ha]
      exact ih h
    | some b' =>
      rw [ha] at h
      cases h
      rw [hsome a ha]

variable {mon : MonitorView ℕ}

/-- **The two lookups find the same tile**, and one takes back what the other does. -/
theorem windowRelativePointOnOutput_position {output : Output}
    (hmon : niri.monitorForOutput output = some mon) (hzoom : 0 < mon.overviewZoom)
    {point position : Point ℚ} (h : positionOn mon windowId point = some position) :
    niri.windowRelativePointOnOutput output windowId position = some point := by
  have hne : mon.overviewZoom ≠ 0 := hzoom.ne'
  have htile (wsGeo : Rectangle ℚ) (tile : TileView ℕ) (hat : (point - wsGeo.loc).downscale
      mon.overviewZoom - tile.pos - tile.windowLoc = position) :
      wsGeo.loc + (tile.pos + tile.windowLoc + position).upscale mon.overviewZoom = point := by
    have haxis (p ws pos loc : ℚ) : ws + (pos + loc + ((p - ws) / mon.overviewZoom - pos - loc)) *
        mon.overviewZoom = p := by
      rw [show pos + loc + ((p - ws) / mon.overviewZoom - pos - loc) = (p - ws) / mon.overviewZoom by
        ring, div_mul_cancel₀ _ hne, add_sub_cancel]
    subst hat
    exact congrArg₂ Point.mk (haxis ..) (haxis ..)
  rw [windowRelativePointOnOutput, hmon, bind_some]
  refine findSome?_alike (fun (tiles, wsGeo) hnone => ?_) (fun (tiles, wsGeo) hsome => ?_) h
  · refine List.findSome?_eq_none_iff.mpr fun tile htile => ?_
    have hskip := List.findSome?_eq_none_iff.mp hnone tile htile
    dsimp only at hskip ⊢
    split_ifs at hskip ⊢ with hother
    rfl
  · refine findSome?_alike (fun tile hskip => ?_) (fun tile hfound => ?_) hsome
    · dsimp only at hskip ⊢
      split_ifs at hskip ⊢ with hother
      rfl
    · dsimp only at hfound ⊢
      split_ifs at hfound ⊢ with hother
      exact congrArg some (htile wsGeo tile (some.inj hfound))

/-- A position is found just where a tile shows the window. -/
theorem positionOn_isSome_iff {point : Point ℚ} :
    (positionOn mon windowId point).isSome = true ↔ ∃ tile wsGeo,
      (∃ tiles, (tiles, wsGeo) ∈ mon.workspacesWithRenderGeo ∧ tile ∈ tiles) ∧
        tile.visible = true ∧ tile.window = windowId := by
  have htile (tile : TileView ℕ) (p : Point ℚ) :
      (if tile.visible = false ∨ tile.window ≠ windowId then none else some p).isSome = true ↔
        tile.visible = true ∧ tile.window = windowId := by
    split_ifs with h
    · simp only [isSome_none, Bool.false_eq_true, false_iff]
      rintro ⟨hvisible, hwindow⟩
      exact h.elim (by simp [hvisible]) (absurd hwindow)
    · rw [not_or, Bool.not_eq_false, not_not] at h
      exact iff_of_true rfl h
  simp only [positionOn, List.findSome?_isSome_iff, htile, Prod.exists]
  constructor
  · rintro ⟨tiles, wsGeo, hws, tile, hin, hshown⟩
    exact ⟨tile, wsGeo, ⟨tiles, hws, hin⟩, hshown⟩
  · rintro ⟨tile, wsGeo, ⟨tiles, hws, hin⟩, hshown⟩
    exact ⟨tiles, wsGeo, hws, tile, hin, hshown⟩

/-- **What the search returns** is a position on an output under the pointer. -/
theorem hardwarePointerPositionInWindow_spec {outputs : List Output} {position : Point ℚ}
    (h : niri.hardwarePointerPositionInWindow windowId outputs = some position) :
    ∃ output ∈ outputs, ∃ outputGeo mon, niri.outputGeometry output = some outputGeo ∧
      outputGeo.contains niri.pointer.toI32Round = true ∧
      niri.monitorForOutput output = some mon ∧
      positionOn mon windowId (niri.pointer - outputGeo.loc.toF64) = some position := by
  induction outputs with
  | nil => cases h
  | cons output outputs ih =>
    obtain ⟨outputGeo, hgeo, h⟩ := bind_eq_some_iff.mp h
    split_ifs at h with hunder
    · obtain ⟨output', hin, hrest⟩ := ih h
      exact ⟨output', mem_cons_of_mem _ hin, hrest⟩
    · obtain ⟨mon, hmon, h⟩ := bind_eq_some_iff.mp h
      cases hposition : positionOn mon windowId (niri.pointer - outputGeo.loc.toF64) with
      | some position' =>
        rw [hposition] at h
        cases h
        exact ⟨output, mem_cons_self, outputGeo, mon, hgeo, by simpa using hunder, hmon, hposition⟩
      | none =>
        rw [hposition] at h
        obtain ⟨output', hin, hrest⟩ := ih h
        exact ⟨output', mem_cons_of_mem _ hin, hrest⟩

/-- A window that is displayed under the pointer is found. -/
theorem Displayed.isSome {outputs : List Output}
    (hgeo : ∀ output ∈ outputs, (niri.outputGeometry output).isSome = true)
    (hmon : ∀ output ∈ outputs, (niri.monitorForOutput output).isSome = true)
    (h : niri.Displayed outputs windowId) :
    (niri.hardwarePointerPositionInWindow windowId outputs).isSome = true := by
  induction outputs with
  | nil =>
    obtain ⟨_, _, _, _, _, h⟩ := h
    cases h.mem
  | cons output outputs ih =>
    have hlater (hnot : ∀ outputGeo mon, niri.outputGeometry output = some outputGeo →
        niri.monitorForOutput output = some mon →
        outputGeo.contains niri.pointer.toI32Round = true →
        (positionOn mon windowId (niri.pointer - outputGeo.loc.toF64)).isSome = true → False) :
        (niri.hardwarePointerPositionInWindow windowId outputs).isSome = true := by
      refine ih (fun o ho => hgeo o (mem_cons_of_mem _ ho))
        (fun o ho => hmon o (mem_cons_of_mem _ ho)) ?_
      obtain ⟨output', outputGeo, mon, tile, wsGeo, h⟩ := h
      rcases mem_cons.mp h.mem with rfl | hin
      · exact (hnot _ _ h.geometry h.monitor h.contains
          (positionOn_isSome_iff.mpr ⟨tile, wsGeo, h.shown, h.visible, h.window⟩)).elim
      · exact ⟨output', outputGeo, mon, tile, wsGeo, { h with mem := hin }⟩
    obtain ⟨outputGeo, houtputGeo⟩ := isSome_iff_exists.mp (hgeo output mem_cons_self)
    obtain ⟨mon, hmonitor⟩ := isSome_iff_exists.mp (hmon output mem_cons_self)
    rw [hardwarePointerPositionInWindow, houtputGeo, bind_eq_bind, bind_some]
    split_ifs with hunder
    · refine hlater fun outputGeo' _ hgeo' _ hcontains _ => ?_
      cases some.inj (houtputGeo.symm.trans hgeo')
      rw [hcontains] at hunder
      cases hunder
    · rw [hmonitor, bind_eq_bind, bind_some]
      cases hposition : positionOn mon windowId (niri.pointer - outputGeo.loc.toF64) with
      | some position => rfl
      | none =>
        refine hlater fun outputGeo' mon' hgeo' hmon' _ hfound => ?_
        cases some.inj (houtputGeo.symm.trans hgeo')
        cases some.inj (hmonitor.symm.trans hmon')
        rw [hposition] at hfound
        cases hfound

/-- **A position is found** just when the window is displayed under the pointer. -/
theorem GlobalSpace.isSome_iff_displayed (space : niri.GlobalSpace) (windowId : ℕ) :
    (niri.hardwarePointerPositionInWindow windowId space.outputs).isSome = true ↔
      niri.Displayed space.outputs windowId := by
  refine ⟨fun h => ?_, Displayed.isSome space.geometry space.monitor⟩
  obtain ⟨position, h⟩ := isSome_iff_exists.mp h
  obtain ⟨output, hin, outputGeo, mon, hgeo, hcontains, hmon, hposition⟩ :=
    hardwarePointerPositionInWindow_spec h
  obtain ⟨tile, wsGeo, hshown, hvisible, hwindow⟩ :=
    positionOn_isSome_iff.mp (isSome_iff_exists.mpr ⟨position, hposition⟩)
  exact ⟨output, outputGeo, mon, tile, wsGeo, hin, hgeo, hcontains, hmon, hshown, hvisible, hwindow⟩

end Niri

/-! ## Over the window and beside it -/

/-- An output with one window, 100 pixels wide and high in its corner. -/
def oneWindow (pointer : Point ℚ) : Niri ℕ Unit Unit where
  tabletCursorLocation := none
  pointerLocation := pointer
  outputGeometry _ := some ⟨⟨0, 0⟩, ⟨1920, 1080⟩⟩
  outputSize _ := ⟨1920, 1080⟩
  monitorForOutput _ :=
    some ⟨1, [([⟨1, ⟨0, 0⟩, true, ⟨0, 0⟩, ⟨0, 0⟩⟩], ⟨⟨0, 0⟩, ⟨1920, 1080⟩⟩)]⟩
  interactiveMove := none
  cursors := ∅
  mappedLayerSurfaces := ∅
  bobOffset _ := ⟨0, 0⟩
  surfaceUnder _ _ := none
  surfaceOrigin _ _ := ⟨0, 0⟩

/-- The outputs of it. -/
def oneWindow.space (pointer : Point ℚ) : (oneWindow pointer).GlobalSpace where
  outputs := [()]
  geometry _ _ := rfl
  monitor _ _ := rfl
  zoom output mon h := by
    cases h
    exact zero_lt_one

/-- A request for a cursor at the pointer. -/
def atPointerRequest : VirtualCursorCreate :=
  ⟨"agent", 1, 0, 0, none, none, none, none, false, true⟩

end Tiri.Ui
