import Tiri.Layout.Basic

/-!
# Where the view goes to show a column

`compute_new_view_offset` (`scrolling.rs`, lines 5507–5539).  The offset is that of the view from the
column, so the view is at `newColX + offset`.

Results:
* `computeNewViewOffset_wide`, `computeNewViewOffset_visible`, `computeNewViewOffset_moves`: which
  offset it is;
* `computeNewViewOffset_settles`: the view shows the column, and moves no farther than it has to.
-/

namespace Tiri.Layout

/-- The padding of a column, smaller where the column leaves less room. -/
def shrunkPadding (viewWidth newColWidth gaps : ℚ) : ℚ :=
  clamp ((viewWidth - newColWidth) / 2) 0 gaps

/-- `compute_new_view_offset`; clamping to a negative gap panics. -/
def computeNewViewOffset (curX viewWidth newColX newColWidth gaps : ℚ) : Option ℚ :=
  -- If the column is wider than the view, always left-align it.
  if viewWidth ≤ newColWidth then some 0
  else if gaps < 0 then none
  else
    let padding := shrunkPadding viewWidth newColWidth gaps
    let newX := newColX - padding
    let newRightX := newColX + newColWidth + padding
    -- If the column is already fully visible, leave the view as is.
    if curX ≤ newX ∧ newRightX ≤ curX + viewWidth then some (-(newColX - curX))
    else
      let distToLeft := |curX - newX|
      let distToRight := |curX + viewWidth - newRightX|
      if distToLeft ≤ distToRight then some (-padding)
      else some (-(viewWidth - padding - newColWidth))

/-- A view at `position` shows the column with padding on both sides. -/
def Shows (viewWidth newColX newColWidth padding position : ℚ) : Prop :=
  position ≤ newColX - padding ∧ newColX + newColWidth + padding ≤ position + viewWidth

/-- The view whose left edge is at the padded column. -/
def leftAligned (newColX padding : ℚ) : ℚ := newColX - padding

/-- The view whose right edge is at the padded column. -/
def rightAligned (viewWidth newColX newColWidth padding : ℚ) : ℚ :=
  newColX + newColWidth + padding - viewWidth

variable {curX viewWidth newColX newColWidth gaps padding : ℚ}

/-- A column that fits does so with its padding. -/
theorem two_shrunkPadding_le (h : newColWidth ≤ viewWidth) :
    newColWidth + 2 * shrunkPadding viewWidth newColWidth gaps ≤ viewWidth := by
  have hpadding : shrunkPadding viewWidth newColWidth gaps ≤ (viewWidth - newColWidth) / 2 :=
    max_le (by linarith) (min_le_left _ _)
  linarith

/-- A column as wide as the view has no padding. -/
theorem shrunkPadding_wide (h : viewWidth ≤ newColWidth) :
    shrunkPadding viewWidth newColWidth gaps = 0 :=
  max_eq_left ((min_le_left _ _).trans (by linarith))

theorem computeNewViewOffset_wide (h : viewWidth ≤ newColWidth) :
    computeNewViewOffset curX viewWidth newColX newColWidth gaps = some 0 := if_pos h

/-- A view that shows the column stays. -/
theorem computeNewViewOffset_visible (hgaps : 0 ≤ gaps) (h : newColWidth < viewWidth)
    (hshows : Shows viewWidth newColX newColWidth (shrunkPadding viewWidth newColWidth gaps) curX) :
    computeNewViewOffset curX viewWidth newColX newColWidth gaps = some (curX - newColX) := by
  unfold Shows at hshows
  unfold computeNewViewOffset
  rw [if_neg (not_le.mpr h), if_neg (not_lt.mpr hgaps)]
  rw [if_pos hshows, neg_sub]

/-- Another one goes to one of the two sides. -/
theorem computeNewViewOffset_moves (hgaps : 0 ≤ gaps) (h : newColWidth < viewWidth)
    (hpadding : shrunkPadding viewWidth newColWidth gaps = padding)
    (hshows : ¬ Shows viewWidth newColX newColWidth padding curX) :
    computeNewViewOffset curX viewWidth newColX newColWidth gaps =
      some ((if |curX - leftAligned newColX padding| ≤
          |curX - rightAligned viewWidth newColX newColWidth padding| then
        leftAligned newColX padding
      else rightAligned viewWidth newColX newColWidth padding) - newColX) := by
  have hright : curX + viewWidth - (newColX + newColWidth + padding) =
      curX - rightAligned viewWidth newColX newColWidth padding := by
    unfold rightAligned
    ring
  unfold Shows at hshows
  unfold computeNewViewOffset
  rw [if_neg (not_le.mpr h), if_neg (not_lt.mpr hgaps)]
  rw [hpadding, if_neg hshows, hright]
  change (if |curX - leftAligned newColX padding| ≤ _ then _ else _) = _
  split_ifs
  · rw [leftAligned]
    ring_nf
  · rw [rightAligned]
    ring_nf

/-- Both sides show a column that fits. -/
theorem shows_leftAligned (h : newColWidth ≤ viewWidth)
    (hpadding : shrunkPadding viewWidth newColWidth gaps = padding) :
    Shows viewWidth newColX newColWidth padding (leftAligned newColX padding) := by
  have hroom : newColWidth + 2 * padding ≤ viewWidth := hpadding ▸ two_shrunkPadding_le h
  unfold Shows leftAligned
  constructor <;> linarith

theorem shows_rightAligned (h : newColWidth ≤ viewWidth)
    (hpadding : shrunkPadding viewWidth newColWidth gaps = padding) :
    Shows viewWidth newColX newColWidth padding
      (rightAligned viewWidth newColX newColWidth padding) := by
  have hroom : newColWidth + 2 * padding ≤ viewWidth := hpadding ▸ two_shrunkPadding_le h
  unfold Shows rightAligned
  constructor <;> linarith

/-- What the new position of the view is to be. -/
structure Settled (curX viewWidth newColX newColWidth padding position : ℚ) : Prop where
  /-- A column that fits is shown with its padding. -/
  shows : newColWidth ≤ viewWidth → Shows viewWidth newColX newColWidth padding position
  /-- Of one that does not fit, the left edge is shown. -/
  flush : viewWidth < newColWidth → position = newColX
  /-- A view that shows the column already stays where it is. -/
  stays : Shows viewWidth newColX newColWidth padding curX → position = curX
  /-- Another one goes to the nearer one of the two sides. -/
  nearest : newColWidth ≤ viewWidth → ¬ Shows viewWidth newColX newColWidth padding curX →
    (position = leftAligned newColX padding ∨
      position = rightAligned viewWidth newColX newColWidth padding) ∧
    |curX - position| ≤ |curX - leftAligned newColX padding| ∧
    |curX - position| ≤ |curX - rightAligned viewWidth newColX newColWidth padding|

/-- A column that does not fit has no padding, and neither has one that just fits. -/
theorem Settled.of_wide (h : viewWidth ≤ newColWidth) :
    Settled curX viewWidth newColX newColWidth 0 newColX where
  shows hfits := by
    constructor <;> linarith
  flush _ := rfl
  stays hshows := by
    unfold Shows at hshows
    linarith
  nearest hfits _ := by
    have hleft : leftAligned newColX 0 = newColX := sub_zero newColX
    have hright : rightAligned viewWidth newColX newColWidth 0 = newColX := by
      unfold rightAligned
      linarith
    rw [hleft, hright]
    exact ⟨.inl rfl, le_rfl, le_rfl⟩

theorem Settled.of_visible (h : newColWidth < viewWidth)
    (hshows : Shows viewWidth newColX newColWidth padding curX) :
    Settled curX viewWidth newColX newColWidth padding curX where
  shows _ := hshows
  flush hwide := absurd hwide (not_lt.mpr h.le)
  stays _ := rfl
  nearest _ hnot := absurd hshows hnot

theorem Settled.of_moves (h : newColWidth < viewWidth)
    (hpadding : shrunkPadding viewWidth newColWidth gaps = padding)
    (hnot : ¬ Shows viewWidth newColX newColWidth padding curX) :
    Settled curX viewWidth newColX newColWidth padding
      (if |curX - leftAligned newColX padding| ≤
          |curX - rightAligned viewWidth newColX newColWidth padding| then
        leftAligned newColX padding
      else rightAligned viewWidth newColX newColWidth padding) where
  shows _ := by
    split_ifs
    · exact shows_leftAligned h.le hpadding
    · exact shows_rightAligned h.le hpadding
  flush hwide := absurd hwide (not_lt.mpr h.le)
  stays hshows := absurd hshows hnot
  nearest _ _ := by
    split_ifs with hdist
    · exact ⟨.inl rfl, le_rfl, hdist⟩
    · exact ⟨.inr rfl, (not_le.mp hdist).le, le_rfl⟩

/-- Where the view goes. -/
theorem computeNewViewOffset_settled (curX newColX : ℚ) (hgaps : 0 ≤ gaps) :
    ∃ offset, computeNewViewOffset curX viewWidth newColX newColWidth gaps = some offset ∧
      Settled curX viewWidth newColX newColWidth (shrunkPadding viewWidth newColWidth gaps)
        (newColX + offset) := by
  by_cases hwide : viewWidth ≤ newColWidth
  · refine ⟨0, computeNewViewOffset_wide hwide, ?_⟩
    rw [shrunkPadding_wide hwide, add_zero]
    exact Settled.of_wide hwide
  · have hfits : newColWidth < viewWidth := not_le.mp hwide
    by_cases hshows : Shows viewWidth newColX newColWidth
        (shrunkPadding viewWidth newColWidth gaps) curX
    · refine ⟨curX - newColX, computeNewViewOffset_visible hgaps hfits hshows, ?_⟩
      rw [add_sub_cancel]
      exact Settled.of_visible hfits hshows
    · refine ⟨_, computeNewViewOffset_moves hgaps hfits rfl hshows, ?_⟩
      rw [add_sub_cancel]
      exact Settled.of_moves hfits rfl hshows

/-- Where the view has gone, it shows the column, and so it stays. -/
theorem computeNewViewOffset_fixed {offset : ℚ} (hgaps : 0 ≤ gaps)
    (hoffset : computeNewViewOffset curX viewWidth newColX newColWidth gaps = some offset)
    (hsettled : Settled curX viewWidth newColX newColWidth
      (shrunkPadding viewWidth newColWidth gaps) (newColX + offset)) :
    computeNewViewOffset (newColX + offset) viewWidth newColX newColWidth gaps = some offset := by
  by_cases hwide : viewWidth ≤ newColWidth
  · rw [computeNewViewOffset_wide hwide] at hoffset ⊢
    exact hoffset
  · have hfits : newColWidth < viewWidth := not_le.mp hwide
    rw [computeNewViewOffset_visible hgaps hfits (hsettled.shows hfits.le), add_sub_cancel_left]

/-- **The view settles.**  In exact arithmetic, `compute_new_view_offset` takes the view to where it
has to be, and from there nowhere else. -/
theorem computeNewViewOffset_settles (curX viewWidth newColX newColWidth gaps : ℚ)
    (hgaps : 0 ≤ gaps) :
    ∃ offset, computeNewViewOffset curX viewWidth newColX newColWidth gaps = some offset ∧
      Settled curX viewWidth newColX newColWidth (shrunkPadding viewWidth newColWidth gaps)
        (newColX + offset) ∧
      computeNewViewOffset (newColX + offset) viewWidth newColX newColWidth gaps = some offset := by
  obtain ⟨offset, hoffset, hsettled⟩ := computeNewViewOffset_settled curX newColX hgaps
  exact ⟨offset, hoffset, hsettled, computeNewViewOffset_fixed hgaps hoffset hsettled⟩

/-- A column that leaves less room than the gaps ask for. -/
theorem computeNewViewOffset_settles_shrunk : (0 : ℚ) ≤ 16 ∧
    ∃ offset, computeNewViewOffset 0 100 500 80 16 = some offset ∧
      Settled 0 100 500 80 (shrunkPadding 100 80 16) (500 + offset) ∧
      computeNewViewOffset (500 + offset) 100 500 80 16 = some offset := by
  have hgaps : (0 : ℚ) ≤ 16 := by norm_num
  exact ⟨hgaps, computeNewViewOffset_settles 0 100 500 80 16 hgaps⟩

example : computeNewViewOffset 0 100 500 80 16 = some (-10) := by decide +kernel

end Tiri.Layout
