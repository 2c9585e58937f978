import Tiri.Ui.CursorOverlays

/-!
# Where an overlay is placed

`placement_rect` of `src/ui/cursor_overlays.rs` (lines 324–418), one axis at a time: along its side
an overlay is `gap` away from its anchor, across it is aligned with the anchor, and then it is
clamped to the output without its padding.

Whether to flip is decided on both axes at once.  An overlay that does not fit across is not
flipped, also where only the other side has room for it, and the clamp puts it over its anchor.

Results:
* `clamp_uncovered`, `clamp_covers_iff`, `clamp_align_covers_iff`: what the clamp does on an axis;
* `placementRect_wellPlaced_iff`: when a placement is as it should be.
-/

namespace Tiri.Ui

open Utils (Point Size Rectangle)

/-! ## One axis -/

/-- The anchor, the length of the overlay and that of the output on an axis. -/
structure Axis where
  anchor : ℚ
  len : ℚ
  extent : ℚ

namespace Axis

variable (axis : Axis) (after : Bool) (gap pad loc : ℚ)

/-- Where an overlay begins that comes after its anchor, or before it. -/
def place : ℚ := if after then axis.anchor + gap else axis.anchor - gap - axis.len

/-- There is room for it there. -/
def Room : Prop :=
  if after then axis.anchor + gap + axis.len ≤ axis.extent - pad
  else pad ≤ axis.anchor - gap - axis.len

/-- The anchor is closer to the edge there than the overlay is long. -/
def Near : Prop :=
  if after then axis.extent - pad - axis.len < axis.anchor ∧ axis.anchor < axis.extent - pad
  else pad < axis.anchor ∧ axis.anchor < pad + axis.len

/-- An overlay that begins there is inside the padding. -/
def Fits : Prop := pad ≤ loc ∧ loc + axis.len ≤ axis.extent - pad

/-- It has the anchor in its interior. -/
def Covers : Prop := loc < axis.anchor ∧ axis.anchor < loc + axis.len

/-- `clamp_rect`. -/
def clamp : ℚ := Layout.clamp loc pad (max (axis.extent - pad - axis.len) pad)

variable {axis after gap pad loc}

theorem clamp_of_fits (h : axis.Fits pad loc) : axis.clamp pad loc = loc := by
  obtain ⟨hlo, hhi⟩ := h
  have hle : loc ≤ axis.extent - pad - axis.len := by linarith
  rw [clamp, Layout.clamp, min_eq_left (hle.trans (le_max_left ..)), max_eq_right hlo]

theorem clamp_fits (h : pad + axis.len ≤ axis.extent - pad) :
    axis.Fits pad (axis.clamp pad loc) := by
  refine ⟨le_max_left .., ?_⟩
  have hle : axis.clamp pad loc ≤ axis.extent - pad - axis.len := by
    rw [clamp, max_eq_left (by linarith : pad ≤ axis.extent - pad - axis.len)]
    exact max_le (by linarith) (min_le_right ..)
  linarith

theorem Room.of_fits (h : axis.Fits pad (axis.place after gap)) : axis.Room after gap pad := by
  cases after with
  | true => exact h.2
  | false => exact h.1

/-- Where there is room, the clamp takes an overlay away from its anchor if anywhere. -/
theorem clamp_uncovered (hgap : 0 ≤ gap) (h : axis.Room after gap pad) :
    ¬axis.Covers (axis.clamp pad (axis.place after gap)) := by
  rintro ⟨hlo, hhi⟩
  cases after with
  | true =>
    change axis.clamp pad (axis.anchor + gap) < axis.anchor at hlo
    have hroom : axis.anchor + gap + axis.len ≤ axis.extent - pad := h
    have hkept : axis.anchor + gap ≤ axis.clamp pad (axis.anchor + gap) :=
      le_max_of_le_right (le_min le_rfl (le_max_of_le_left (by linarith)))
    linarith
  | false =>
    change axis.anchor < axis.clamp pad (axis.anchor - gap - axis.len) + axis.len at hhi
    have hkept : axis.clamp pad (axis.anchor - gap - axis.len) ≤ axis.anchor - gap - axis.len :=
      max_le h (min_le_left ..)
    linarith

/-- Where there is only room on the other side, it puts the overlay over an anchor that is close to
the edge. -/
theorem clamp_covers_iff (hgap : 0 ≤ gap) (hlen : 0 ≤ axis.len) (h : ¬axis.Room after gap pad)
    (hother : axis.Room (!after) gap pad) :
    axis.Covers (axis.clamp pad (axis.place after gap)) ↔ axis.Near after pad := by
  cases after with
  | true =>
    have hroom : ¬axis.anchor + gap + axis.len ≤ axis.extent - pad := h
    have hother : pad ≤ axis.anchor - gap - axis.len := hother
    have hloc : axis.clamp pad (axis.place true gap) = max (axis.extent - pad - axis.len) pad := by
      change max pad (min (axis.anchor + gap) _) = _
      rw [min_eq_right (max_le (by linarith) (by linarith)), max_eq_right (le_max_right ..)]
    change _ ↔ axis.extent - pad - axis.len < axis.anchor ∧ axis.anchor < axis.extent - pad
    rw [hloc, Covers, max_def]
    split_ifs
    · constructor <;> rintro ⟨h₁, h₂⟩ <;> constructor <;> linarith
    · rw [sub_add_cancel]
  | false =>
    have hloc : axis.clamp pad (axis.place false gap) = pad :=
      max_eq_left (min_le_of_left_le (le_of_not_ge h))
    rw [hloc]
    rfl

/-- Close to one edge, an overlay with room on the other side fits there. -/
theorem Near.fits (h : axis.Near after pad) (hgap : 0 ≤ gap) (hother : axis.Room (!after) gap pad) :
    axis.Fits pad (axis.place (!after) gap) := by
  cases after with
  | true =>
    have hlt : axis.anchor < axis.extent - pad := h.2
    refine ⟨hother, ?_⟩
    change axis.anchor - gap - axis.len + axis.len ≤ axis.extent - pad
    linarith
  | false =>
    have hlt : pad < axis.anchor := h.1
    refine ⟨?_, hother⟩
    change pad ≤ axis.anchor + gap
    linarith

theorem alignAxis_mem (anchor : ℚ) {len : ℚ} (hlen : 0 ≤ len) (align : CursorOverlayAlign) :
    anchor - len ≤ alignAxis anchor len align ∧ alignAxis anchor len align ≤ anchor := by
  have hhalf : len / 2 ≤ len := half_le_self hlen
  have hpos : 0 ≤ len / 2 := div_nonneg hlen zero_le_two
  cases align <;> constructor <;> simp only [alignAxis] <;> linarith

/-- Across, an overlay that does not fit is over its anchor when that is inside the padding. -/
theorem clamp_align_covers_iff (hlen : 0 ≤ axis.len) (align : CursorOverlayAlign)
    (h : ¬axis.Fits pad (alignAxis axis.anchor axis.len align)) :
    axis.Covers (axis.clamp pad (alignAxis axis.anchor axis.len align)) ↔
      pad < axis.anchor ∧ axis.anchor < max (axis.extent - pad) (pad + axis.len) := by
  obtain ⟨hlo, hhi⟩ := alignAxis_mem axis.anchor hlen align
  rw [Fits, not_and_or, not_le, not_le] at h
  rcases le_or_gt (pad + axis.len) (axis.extent - pad) with hfit | hfit
  · rw [max_eq_left hfit, clamp, max_eq_left (by linarith : pad ≤ axis.extent - pad - axis.len),
      Layout.clamp]
    rcases h with hout | hout
    · rw [max_eq_left (min_le_of_left_le hout.le)]
      exact and_congr_right fun _ => ⟨fun _ => by linarith, fun _ => by linarith⟩
    · rw [min_eq_right (by linarith), max_eq_right (by linarith)]
      constructor <;> rintro ⟨h₁, h₂⟩ <;> constructor <;> linarith
  · rw [max_eq_right hfit.le, clamp, max_eq_right (by linarith : axis.extent - pad - axis.len ≤ pad),
      Layout.clamp, max_eq_left (min_le_right ..)]
    rfl

end Axis

/-! ## Both axes -/

namespace CursorOverlaySide

variable (anchor : Point ℚ) (size outputSize : Size ℚ)

/-- The axis of a side. -/
def along : CursorOverlaySide → Axis
  | right | left => ⟨anchor.x, size.w, outputSize.w⟩
  | above | below => ⟨anchor.y, size.h, outputSize.h⟩

/-- The other axis. -/
def across : CursorOverlaySide → Axis
  | right | left => ⟨anchor.y, size.h, outputSize.h⟩
  | above | below => ⟨anchor.x, size.w, outputSize.w⟩

/-- Whether what is on this side comes after its anchor. -/
def isAfter : CursorOverlaySide → Bool
  | right | below => true
  | left | above => false

variable (side : CursorOverlaySide)

@[simp] theorem isAfter_oppositeSide : (oppositeSide side).isAfter = !side.isAfter := by
  cases side <;> rfl

@[simp] theorem along_oppositeSide :
    (oppositeSide side).along anchor size outputSize = side.along anchor size outputSize := by
  cases side <;> rfl

@[simp] theorem across_oppositeSide :
    (oppositeSide side).across anchor size outputSize = side.across anchor size outputSize := by
  cases side <;> rfl

end CursorOverlaySide

open CursorOverlaySide

/-- The anchor is in the interior of the rectangle. -/
def Buries (rect : Rectangle ℚ) (anchor : Point ℚ) : Prop :=
  (rect.loc.x < anchor.x ∧ anchor.x < rect.loc.x + rect.size.w) ∧
    rect.loc.y < anchor.y ∧ anchor.y < rect.loc.y + rect.size.h

namespace CursorOverlayPlacement

variable (placement : CursorOverlayPlacement) (anchor : Point ℚ) (size outputSize : Size ℚ)

/-- There is room for the overlay on the side, whatever is across. -/
def Room (side : CursorOverlaySide) : Prop :=
  (side.along anchor size outputSize).Room side.isAfter placement.gap placement.edgePadding

/-- **The corners**: only the other side has room, and across the overlay does not fit.  The anchor
is closer to the edge on the preferred side than the overlay is long, and inside the padding. -/
structure Cornered : Prop where
  flip : placement.flip = true
  noRoom : ¬placement.Room anchor size outputSize placement.side
  room : placement.Room anchor size outputSize (oppositeSide placement.side)
  near : (placement.side.along anchor size outputSize).Near placement.side.isAfter
    placement.edgePadding
  across : let axis := placement.side.across anchor size outputSize
    ¬axis.Fits placement.edgePadding (alignAxis axis.anchor axis.len placement.align)
  inside : let axis := placement.side.across anchor size outputSize
    placement.edgePadding < axis.anchor ∧ axis.anchor <
      max (axis.extent - placement.edgePadding) (placement.edgePadding + axis.len)

/-- **What a placement should be**: inside the padding where it can be, the preferred one where that
fits, and away from its anchor where one of the two sides has room. -/
structure WellPlaced (rect : Rectangle ℚ) : Prop where
  sized : rect.size = size
  inside : placement.edgePadding + size.w ≤ outputSize.w - placement.edgePadding →
    placement.edgePadding + size.h ≤ outputSize.h - placement.edgePadding →
      fits rect outputSize placement.edgePadding = true
  preferred :
    fits (placeOnSide anchor size placement placement.side) outputSize placement.edgePadding = true →
      rect = placeOnSide anchor size placement placement.side
  uncovered : placement.flip = true →
    placement.Room anchor size outputSize placement.side ∨
        placement.Room anchor size outputSize (oppositeSide placement.side) →
      ¬Buries rect anchor

variable {placement anchor size outputSize}

theorem fits_iff (anchor : Point ℚ) {rect : Rectangle ℚ} {pad : ℚ} :
    fits rect outputSize pad = true ↔
    (Axis.mk anchor.x rect.size.w outputSize.w).Fits pad rect.loc.x ∧
      (Axis.mk anchor.y rect.size.h outputSize.h).Fits pad rect.loc.y := by
  simp only [fits, Bool.and_eq_true, decide_eq_true_eq, Axis.Fits]
  tauto

section NoOffsets

variable (hx : placement.offsetX = 0) (hy : placement.offsetY = 0) (side : CursorOverlaySide)
include hx hy

/-- A placement fits when it does on each axis. -/
theorem fits_placeOnSide_iff :
    fits (placeOnSide anchor size placement side) outputSize placement.edgePadding = true ↔
      let along := side.along anchor size outputSize
      let across := side.across anchor size outputSize
      along.Fits placement.edgePadding (along.place side.isAfter placement.gap) ∧
        across.Fits placement.edgePadding
          (alignAxis across.anchor across.len placement.align) := by
  rw [fits_iff anchor]
  cases side <;> simp [placeOnSide, along, across, Axis.place, Axis.Fits, isAfter, hx, hy, and_comm]

/-- Clamped, it buries its anchor when it covers it on each axis. -/
theorem buries_clampRect_iff :
    Buries (clampRect (placeOnSide anchor size placement side) outputSize placement.edgePadding)
        anchor ↔
      let along := side.along anchor size outputSize
      let across := side.across anchor size outputSize
      along.Covers (along.clamp placement.edgePadding (along.place side.isAfter placement.gap)) ∧
        across.Covers (across.clamp placement.edgePadding
          (alignAxis across.anchor across.len placement.align)) := by
  rw [clampRect, Buries]
  cases side <;> simp [placeOnSide, along, across, Axis.place, Axis.Covers, Axis.clamp, isAfter, hx,
    hy, and_comm]

/-- On a side with room it leaves its anchor alone. -/
theorem not_buries_of_room (hgap : 0 ≤ placement.gap)
    (hroom : placement.Room anchor size outputSize side) :
    ¬Buries (clampRect (placeOnSide anchor size placement side) outputSize placement.edgePadding)
      anchor := by
  rw [buries_clampRect_iff hx hy]
  exact fun h => Axis.clamp_uncovered hgap hroom h.1

theorem room_of_fits
    (h : fits (placeOnSide anchor size placement side) outputSize placement.edgePadding = true) :
    placement.Room anchor size outputSize side :=
  .of_fits ((fits_placeOnSide_iff hx hy side).mp h).1

/-- **Neither side fits**, and only the other one has room: the clamp decides. -/
theorem buries_clampRect_iff_cornered (hw : 0 ≤ size.w) (hh : 0 ≤ size.h) (hgap : 0 ≤ placement.gap)
    (hflip : placement.flip = true) (hnoRoom : ¬placement.Room anchor size outputSize placement.side)
    (hroom : placement.Room anchor size outputSize (oppositeSide placement.side))
    (hfits : ¬fits (placeOnSide anchor size placement (oppositeSide placement.side)) outputSize
      placement.edgePadding = true) :
    Buries (clampRect (placeOnSide anchor size placement placement.side) outputSize
        placement.edgePadding) anchor ↔ placement.Cornered anchor size outputSize := by
  have hlen : 0 ≤ (placement.side.along anchor size outputSize).len := by
    cases placement.side <;> assumption
  have hlen' : 0 ≤ (placement.side.across anchor size outputSize).len := by
    cases placement.side <;> assumption
  have hother := hroom
  rw [Room, isAfter_oppositeSide, along_oppositeSide] at hother
  rw [buries_clampRect_iff hx hy]
  dsimp only
  rw [Axis.clamp_covers_iff hgap hlen hnoRoom hother]
  by_cases hacross : (placement.side.across anchor size outputSize).Fits placement.edgePadding
      (alignAxis (placement.side.across anchor size outputSize).anchor
        (placement.side.across anchor size outputSize).len placement.align)
  · -- The other side would fit, were the anchor close to the edge.
    refine iff_of_false (fun h => hfits ?_) fun h => h.across hacross
    rw [fits_placeOnSide_iff hx hy, isAfter_oppositeSide, along_oppositeSide, across_oppositeSide]
    exact ⟨h.1.fits hgap hother, hacross⟩
  · rw [Axis.clamp_align_covers_iff hlen' placement.align hacross]
    exact ⟨fun h => ⟨hflip, hnoRoom, hroom, h.1, hacross, h.2⟩, fun h => ⟨h.near, h.inside⟩⟩

end NoOffsets

end CursorOverlayPlacement

open CursorOverlayPlacement

/-- **An overlay is well placed** unless it is in a corner. -/
theorem placementRect_wellPlaced_iff (overlay : RegisteredCursorOverlay) (anchor : Point ℚ)
    (size outputSize : Size ℚ) (hw : 0 ≤ size.w) (hh : 0 ≤ size.h)
    (hgap : 0 ≤ overlay.placement.gap) (hx : overlay.placement.offsetX = 0)
    (hy : overlay.placement.offsetY = 0) :
    overlay.placement.WellPlaced anchor size outputSize
        (overlay.placementRect anchor size outputSize) ↔
      ¬overlay.placement.Cornered anchor size outputSize := by
  unfold RegisteredCursorOverlay.placementRect
  generalize overlay.placement = placement at *
  have hclamped (side : CursorOverlaySide)
      (huncovered : (placement.flip = true →
        placement.Room anchor size outputSize placement.side ∨
          placement.Room anchor size outputSize (oppositeSide placement.side) →
        ¬Buries (clampRect (placeOnSide anchor size placement side) outputSize
          placement.edgePadding) anchor) ↔ ¬placement.Cornered anchor size outputSize)
      (hpreferred : fits (placeOnSide anchor size placement placement.side) outputSize
        placement.edgePadding = true → side = placement.side) :
      placement.WellPlaced anchor size outputSize (clampRect
        (placeOnSide anchor size placement side) outputSize placement.edgePadding) ↔
          ¬placement.Cornered anchor size outputSize := by
    refine ⟨fun h => huncovered.mp h.uncovered, fun h => ⟨rfl, fun hwide hhigh => ?_, fun hfits => ?_,
      huncovered.mpr h⟩⟩
    · exact (fits_iff anchor).mpr ⟨Axis.clamp_fits hwide, Axis.clamp_fits hhigh⟩
    · obtain rfl := hpreferred hfits
      obtain ⟨hfitsX, hfitsY⟩ := (fits_iff anchor).mp hfits
      have hlocX := Axis.clamp_of_fits hfitsX
      have hlocY := Axis.clamp_of_fits hfitsY
      exact congrArg (Rectangle.mk · size) (congrArg₂ Point.mk hlocX hlocY)
  dsimp only
  by_cases hfits : fits (placeOnSide anchor size placement placement.side) outputSize
      placement.edgePadding = true
  · rw [hfits, Bool.not_true, Bool.and_false, if_neg Bool.false_ne_true]
    have hroom := room_of_fits hx hy _ hfits
    exact hclamped _ (iff_of_true (fun _ _ => not_buries_of_room hx hy _ hgap hroom)
      fun h => h.noRoom hroom) fun _ => rfl
  · rw [Bool.not_eq_true] at hfits
    rw [hfits, Bool.not_false, Bool.and_true]
    split_ifs with hflip hflipped
    · have hroom := room_of_fits hx hy _ hflipped
      refine hclamped _ (iff_of_true (fun _ _ => not_buries_of_room hx hy _ hgap hroom)
        fun h => h.across ?_) fun h => by rw [hfits] at h; cases h
      have hacross := ((fits_placeOnSide_iff hx hy _).mp hflipped).2
      rwa [across_oppositeSide] at hacross
    · refine hclamped _ ?_ fun _ => rfl
      by_cases hroom : placement.Room anchor size outputSize placement.side
      · exact iff_of_true (fun _ _ => not_buries_of_room hx hy _ hgap hroom) fun h => h.noRoom hroom
      by_cases hother : placement.Room anchor size outputSize (oppositeSide placement.side)
      · rw [buries_clampRect_iff_cornered hx hy hw hh hgap hflip hroom hother hflipped]
        exact ⟨fun h => h hflip (.inr hother), fun h _ _ => h⟩
      · exact iff_of_true (fun _ h => absurd h (not_or.mpr ⟨hroom, hother⟩)) fun h => hother h.room
    · exact hclamped _ (iff_of_true (fun h => absurd h hflip) fun h => hflip h.flip) fun _ => rfl

/-- In the middle of the output it is well placed. -/
theorem placementRect_wellPlaced_iff_middle :
    let overlay : RegisteredCursorOverlay :=
      ⟨"menu", "menu", .hardwarePointer, .default, true, true, false, 0⟩
    overlay.placement.WellPlaced ⟨900, 500⟩ ⟨300, 200⟩ ⟨1920, 1080⟩
      (overlay.placementRect ⟨900, 500⟩ ⟨300, 200⟩ ⟨1920, 1080⟩) := by
  intro overlay
  refine (placementRect_wellPlaced_iff overlay ⟨900, 500⟩ ⟨300, 200⟩ ⟨1920, 1080⟩ (by norm_num)
    (by norm_num) (by decide +kernel) rfl rfl).mpr fun h => h.noRoom ?_
  show (900 : ℚ) + 10 + 300 ≤ 1920 - 8
  norm_num

/-- An overlay with the default placement, near the lower right corner of the output: there is room
on the left, and the overlay is over its anchor. -/
theorem cornerOverlay_covered :
    let overlay : RegisteredCursorOverlay :=
      ⟨"menu", "menu", .hardwarePointer, .default, true, true, false, 0⟩
    overlay.placement.Room ⟨1900, 1000⟩ ⟨300, 200⟩ ⟨1920, 1080⟩ .left ∧
      Buries (overlay.placementRect ⟨1900, 1000⟩ ⟨300, 200⟩ ⟨1920, 1080⟩) ⟨1900, 1000⟩ ∧
      ¬overlay.placement.WellPlaced ⟨1900, 1000⟩ ⟨300, 200⟩ ⟨1920, 1080⟩
        (overlay.placementRect ⟨1900, 1000⟩ ⟨300, 200⟩ ⟨1920, 1080⟩) := by
  intro overlay
  have hroom : overlay.placement.Room ⟨1900, 1000⟩ ⟨300, 200⟩ ⟨1920, 1080⟩ .left := by
    show (8 : ℚ) ≤ 1900 - 10 - 300
    norm_num
  have hrect : overlay.placementRect ⟨1900, 1000⟩ ⟨300, 200⟩ ⟨1920, 1080⟩ =
      ⟨⟨1612, 872⟩, ⟨300, 200⟩⟩ := by decide +kernel
  have hburies : Buries (overlay.placementRect ⟨1900, 1000⟩ ⟨300, 200⟩ ⟨1920, 1080⟩)
      ⟨1900, 1000⟩ := by
    rw [hrect]
    norm_num [Buries]
  exact ⟨hroom, hburies, fun h => h.uncovered rfl (.inr hroom) hburies⟩

end Tiri.Ui
