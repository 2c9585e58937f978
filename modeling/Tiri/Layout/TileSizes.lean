import Tiri.Layout.ColumnInvariant
import Tiri.Lib.Returns

/-!
# The sizes a column requests

`Column::update_tile_sizes_with_transaction` (`scrolling.rs`, lines 4468–4760): one width for all
tiles, and a height for each.  A height of a window's own, fixed or preset, comes first; the
automatic ones share what is left by their weights, and whenever a share would fall below the
minimum of its tile, the tile gets that minimum and the sharing starts over.

`Column.updateTileSizes` says what the layout sees of the requests at once, the sizing modes.
Here are the sizes themselves.  `none` stands for a panic; the outer loop recurses on
`auto_tiles_left`, which each of its iterations decrements or brings to zero.

Results:
* `distribute_returns`: the distribution of heights always ends, by giving every tile a height;
* `requestedNormalSizes_returns`: sizes are requested for all tiles of a column.
-/

namespace Tiri.Layout

open Option List Returns

variable {Id : Type}

/-- `Size::to_i32_round` and `to_i32_floor`. -/
def Size.toI32Round (size : Size) : ISize := ⟨roundHalfAway size.w, roundHalfAway size.h⟩

def Size.toI32Floor (size : Size) : ISize := ⟨⌊size.w⌋, ⌊size.h⌋⟩

namespace Tile

variable (self : Tile Id)

/-- `min_size_nonfullscreen` (`tile.rs`, lines 979–994). -/
def minSizeNonfullscreen : Size :=
  let size : Size := ⟨self.window.state.minSize.w, self.window.state.minSize.h⟩
  if self.border.off then size
  else ⟨max 1 size.w + self.border.width * 2, max 1 size.h + self.border.width * 2⟩

/-- `max_size_nonfullscreen` (`tile.rs`, lines 996–1012); zero stands for no maximum. -/
def maxSizeNonfullscreen : Size :=
  let size : Size := ⟨self.window.state.maxSize.w, self.window.state.maxSize.h⟩
  if self.border.off then size
  else
    ⟨if 0 < size.w then size.w + self.border.width * 2 else size.w,
      if 0 < size.h then size.h + self.border.width * 2 else size.h⟩

/-- `request_tile_size` (`tile.rs`, lines 900–922): the size the window is asked for. -/
def requestTileSize (size : Size) : ISize :=
  if self.border.off then size.toI32Floor
  else
    Size.toI32Floor
      ⟨max 1 (size.w - self.border.width * 2), max 1 (size.h - self.border.width * 2)⟩

/-- `tile_height_for_window_height` of the window height nearest to that of a tile height, which
is at least one pixel. -/
def roundedTileHeight (height : ℚ) : ℚ :=
  self.tileLengthForWindowLength (max (roundHalfAway (self.windowLengthForTileLength height)) 1)

end Tile

/-! ## The distribution of heights -/

/-- A tile and its entry in the vector `heights`. -/
structure Slot (Id : Type) where
  tile : Tile Id
  height : WindowHeight

namespace Slot

variable (slot : Slot Id)

/-- A slot fixed at a height. -/
def fixedAt (height : ℚ) : Slot Id := { slot with height := .fixed height }

/-- The tile's entry in `min_size`. -/
def minHeight : ℚ := max slot.tile.minSizeNonfullscreen.h 1

/-- The tile's entry in `max_size`. -/
def maxHeight : ℚ := slot.tile.maxSizeNonfullscreen.h

/-- The height of a slot that is fixed. -/
def fixedHeight : Option ℚ :=
  match slot.height with
  | .fixed h => some h
  | _ => none

/-- The weight of a slot that is automatic. -/
def weight : Option ℚ :=
  match slot.height with
  | .auto weight => some weight
  | _ => none

/-- The body of the loop that subtracts the fixed heights (lines 4636–4652): an exact constraint
fixes a slot, and a fixed slot keeps to its bounds. -/
def keepToBounds : Slot Id :=
  let slot : Slot Id :=
    if slot.minHeight = slot.maxHeight then slot.fixedAt slot.minHeight else slot
  match slot.height with
  | .fixed h =>
    let h := if 0 < slot.maxHeight then min h slot.maxHeight else h
    slot.fixedAt (max h slot.minHeight)
  | _ => slot

/-- The inner loop that tries the shares out (lines 4679–4717).  The first automatic slot whose
share is below its minimum is fixed at the minimum, and comes back beside its weight. -/
def tryShares (heightLeft totalWeight : ℚ) :
    List (Slot Id) → Option (Option (List (Slot Id) × ℚ × ℚ))
  | [] => some none
  | slot :: slots =>
    match slot.height with
    | .fixed _ =>
      (tryShares heightLeft totalWeight slots).map (Option.map fun r => (slot :: r.1, r.2))
    | .preset _ => none
    | .auto weight =>
      let factor := weight / totalWeight
      let auto := heightLeft * factor
      if auto < slot.minHeight then
        some (some (slot.fixedAt slot.minHeight :: slots, slot.minHeight, weight))
      else
        let auto := slot.tile.roundedTileHeight auto
        (tryShares (heightLeft - auto) (totalWeight - weight) slots).map
          (Option.map fun r => (slot :: r.1, r.2))

/-- The inner loop that fills the shares in (lines 4719–4738), with what it leaves of
`auto_tiles_left`. -/
def fillShares (heightLeft totalWeight : ℚ) (autoTilesLeft : ℕ) :
    List (Slot Id) → Option (List (Slot Id) × ℕ)
  | [] => some ([], autoTilesLeft)
  | slot :: slots =>
    match slot.height with
    | .fixed _ =>
      (fillShares heightLeft totalWeight autoTilesLeft slots).map fun r => (slot :: r.1, r.2)
    | .preset _ => none
    | .auto weight =>
      if autoTilesLeft = 0 then none
      else
        let factor := weight / totalWeight
        let auto := slot.tile.roundedTileHeight (heightLeft * factor)
        (fillShares (heightLeft - auto) (totalWeight - weight) (autoTilesLeft - 1) slots).map
          fun r => (slot.fixedAt auto :: r.1, r.2)

/-- `'outer: while auto_tiles_left > 0` (lines 4676–4741). -/
def distribute : ℕ → ℚ → ℚ → List (Slot Id) → Option (List (Slot Id))
  | 0, _, _, slots => some slots
  | autoTilesLeft + 1, heightLeft, totalWeight, slots => do
    match ← tryShares heightLeft totalWeight slots with
    | some (slots, minHeight, weight) =>
      distribute autoTilesLeft (heightLeft - minHeight) (totalWeight - weight) slots
    | none =>
      let (slots, autoTilesLeft) ← fillShares heightLeft totalWeight (autoTilesLeft + 1) slots
      -- assert_eq!(auto_tiles_left, 0)
      if autoTilesLeft = 0 then some slots else none

/-- The heights from the first subtraction on (lines 4632–4741). -/
def distributeHeight (autoTilesLeft : ℕ) (heightLeft : ℚ) (slots : List (Slot Id)) :
    Option (List (Slot Id)) :=
  let slots := slots.map keepToBounds
  let fixed := slots.filterMap fixedHeight
  distribute (autoTilesLeft - fixed.length) (heightLeft - fixed.sum)
    (slots.filterMap weight).sum slots

end Slot

namespace Column

variable (self : Column Id)

/-- `min_size`: at least one pixel each way. -/
def minSizes : List Size :=
  self.tiles.map fun tile =>
    ⟨max tile.minSizeNonfullscreen.w 1, max tile.minSizeNonfullscreen.h 1⟩

/-- `max_size`. -/
def maxSizes : List Size := self.tiles.map Tile.maxSizeNonfullscreen

/-- The width for all tiles (lines 4507–4539). -/
def requestedWidth : Option ℚ := do
  let minWidth ← (self.minSizes.map Size.w).max?
  let maxWidth := (((self.maxSizes.map Size.w).filter (· ≠ 0)).min?).getD 2147483647
  let maxWidth := max maxWidth minWidth
  let width := self.resolveColumnWidth (if self.isFullWidth then .proportion 1 else self.width)
  return max (min width maxWidth) minWidth

/-- `max_tile_height` (line 4540). -/
def maxTileHeight : ℚ :=
  self.workingArea.size.h - self.options.gaps * 2 - self.extraSize.h

/-- `max_non_auto_window_height` (lines 4542–4565): what the minimums of the other windows
leave for the one whose height is its own. -/
def maxNonAutoWindowHeight : Option (Option ℚ) :=
  if 1 < self.tiles.length ∧ self.displayMode ≠ .tabbed then
    match self.data.findIdx? (!·.height.isAuto) with
    | none => some none
    | some nonAutoIdx => do
      let minHeightTaken :=
        ((self.minSizes.eraseIdx nonAutoIdx).map (·.h + self.options.gaps)).sum
      let tile ← self.tiles[nonAutoIdx]?
      let heightLeft := self.maxTileHeight - minHeightTaken
      return some (max 1 (roundHalfAway (tile.windowLengthForTileLength heightLeft)))
  else some none

/-- A window height as a tile height (lines 4567–4599). -/
def tileHeight (maxNonAuto : Option ℚ) (tile : Tile Id) (data : TileData) : Option WindowHeight :=
  match data.height with
  | .auto weight => some (.auto weight)
  | .fixed height =>
    let windowHeight : ℚ := max (roundHalfAway height) 1
    let windowHeight := match maxNonAuto with
      | some max => min windowHeight max
      -- In any case, clamp to the working area height.
      | none =>
        min windowHeight (roundHalfAway (tile.windowLengthForTileLength self.maxTileHeight))
    some (.fixed (tile.tileLengthForWindowLength windowHeight))
  | .preset idx => do
    let preset ← self.options.presetWindowHeights[idx]?
    let windowHeight := match self.resolvePresetHeight preset with
      | .tile h => tile.windowLengthForTileLength h
      | .window h => h
    let windowHeight := clamp (roundHalfAway windowHeight) 1 100000
    let windowHeight := match maxNonAuto with
      | some max => min windowHeight max
      | none => windowHeight
    return .fixed (tile.tileLengthForWindowLength windowHeight)

/-- `heights`, before the tabs are made equal. -/
def tileHeights (maxNonAuto : Option ℚ) : Option (List WindowHeight) :=
  (self.tiles.zip self.data).mapM fun (tile, data) => self.tileHeight maxNonAuto tile data

/-- All tabs have one height (lines 4601–4627). -/
def tabbedHeight (heights : List WindowHeight) : Option ℚ := do
  let tabbedHeight := (heights.findSome? fun h =>
    match h with
    | .fixed h => some h
    | _ => none).getD self.maxTileHeight
  let minHeight ← (self.minSizes.map Size.h).max?
  -- A tab larger than the workspace does not force all tabs to its size.
  let minHeight := min self.maxTileHeight minHeight
  return max tabbedHeight minHeight

/-- The heights that are distributed: those of the tabs are fixed right away. -/
def givenHeights : Option (List WindowHeight) := do
  let maxNonAuto ← self.maxNonAutoWindowHeight
  let heights ← self.tileHeights maxNonAuto
  if self.displayMode = .tabbed then
    let tabbedHeight ← self.tabbedHeight heights
    return heights.map fun _ => .fixed tabbedHeight
  else
    return heights

/-- The size the tile of a slot asks its window for. -/
def slotRequest (width : ℚ) (slot : Slot Id) : Option ISize :=
  slot.fixedHeight.map fun height => slot.tile.requestTileSize ⟨width, height⟩

/-- The sizes requested in normal sizing. -/
def requestedNormalSizes : Option (List ISize) := do
  let width ← self.requestedWidth
  let heights ← self.givenHeights
  let gapsLeft := self.options.gaps * (self.tiles.length + 1)
  let slots ← Slot.distributeHeight self.tiles.length (self.workingArea.size.h - gapsLeft)
    (List.zipWith Slot.mk self.tiles heights)
  slots.mapM (slotRequest width)

/-- `update_tile_sizes_with_transaction`: the size each window is asked for, from top to
bottom. -/
def requestedTileSizes : Option (List ISize) :=
  match self.pendingSizingMode with
  | .fullscreen => some (self.tiles.map fun tile => tile.viewSize.toI32Round)
  | .maximized => some (self.tiles.map fun _ => self.parentArea.size.toI32Round)
  | .normal => self.requestedNormalSizes

end Column

/-! ## The distribution ends -/

namespace Slot

variable (slot : Slot Id)

@[simp] theorem fixedAt_tile (height : ℚ) :
    (slot.fixedAt height).tile = slot.tile := rfl

@[simp] theorem fixedAt_height (height : ℚ) :
    (slot.fixedAt height).height = .fixed height := rfl

variable (slots : List (Slot Id))

/-- No slot refers to a preset. -/
def Resolved : Prop := ∀ slot ∈ slots, ∀ idx, slot.height ≠ .preset idx

/-- How many slots are automatic. -/
def autos : ℕ := slots.countP (·.height.isAuto)

/-- The slots after the first share that falls short of a minimum. -/
def Raised (heightLeft totalWeight : ℚ) (slots : List (Slot Id))
    (r : List (Slot Id) × ℚ × ℚ) : Prop :=
  ∃ before slot after weight, slots = before ++ slot :: after ∧ slot.height = .auto weight ∧
    r = (before ++ slot.fixedAt slot.minHeight :: after, slot.minHeight, weight) ∧
    (autos before = 0 → heightLeft * (weight / totalWeight) < slot.minHeight)

/-- Every share meets its minimum, taken one after the other. -/
def SharesMeet (heightLeft totalWeight : ℚ) : List (Slot Id) → Prop
  | [] => True
  | slot :: slots =>
    match slot.height with
    | .auto weight =>
      slot.minHeight ≤ heightLeft * (weight / totalWeight) ∧
        SharesMeet (heightLeft - slot.tile.roundedTileHeight (heightLeft * (weight / totalWeight)))
          (totalWeight - weight) slots
    | _ => SharesMeet heightLeft totalWeight slots

variable {slot : Slot Id} {slots : List (Slot Id)} {heightLeft totalWeight : ℚ}
variable {r : List (Slot Id) × ℚ × ℚ}

theorem Resolved.of_cons (h : Resolved (slot :: slots)) :
    Resolved slots := fun s hs => h s (mem_cons_of_mem _ hs)

/-- One more slot in front of the one that was raised. -/
theorem Raised.cons {heightLeft' totalWeight' : ℚ} (h : Raised heightLeft' totalWeight' slots r)
    (hfixed : slot.height.isAuto = false → heightLeft' = heightLeft ∧ totalWeight' = totalWeight) :
    Raised heightLeft totalWeight (slot :: slots) (slot :: r.1, r.2) := by
  obtain ⟨before, raised, after, weight, rfl, hheight, rfl, hshort⟩ := h
  refine ⟨slot :: before, raised, after, weight, rfl, hheight, rfl, fun hautos => ?_⟩
  have hslot : slot.height.isAuto = false := by
    by_contra hauto
    simp [autos, hauto] at hautos
  obtain ⟨rfl, rfl⟩ := hfixed hslot
  exact hshort (by simpa [autos, hslot] using hautos)

/-- **Trying the shares** finds the first that falls short, if there is one. -/
theorem tryShares_returns (h : Resolved slots) :
    ∀ heightLeft totalWeight, Returns (tryShares heightLeft totalWeight slots) fun r =>
      (r = none → SharesMeet heightLeft totalWeight slots) ∧
        ∀ raised, r = some raised → Raised heightLeft totalWeight slots raised := by
  induction slots with
  | nil =>
    intro heightLeft totalWeight
    exact ⟨none, rfl, fun _ => trivial, fun _ hr => (by cases hr)⟩
  | cons slot slots ih =>
    intro heightLeft totalWeight
    cases hheight : slot.height with
    | preset idx => exact absurd hheight (h slot mem_cons_self idx)
    | fixed height =>
      obtain ⟨r, hr, hnone, hsome⟩ := ih h.of_cons heightLeft totalWeight
      refine ⟨r.map fun r => (slot :: r.1, r.2), ?_, ?_, ?_⟩
      · simp only [tryShares, hheight, hr, map_some]
      · intro hr'
        simpa only [SharesMeet, hheight] using hnone (map_eq_none_iff.mp hr')
      · intro raised hraised
        obtain ⟨r', rfl, rfl⟩ := map_eq_some_iff.mp hraised
        exact (hsome r' rfl).cons fun _ => ⟨rfl, rfl⟩
    | auto weight =>
      by_cases hshort : heightLeft * (weight / totalWeight) < slot.minHeight
      · refine ⟨some (slot.fixedAt slot.minHeight :: slots, slot.minHeight, weight), ?_,
          fun hr => (by cases hr), ?_⟩
        · simp only [tryShares, hheight, if_pos hshort]
        · rintro _ ⟨⟩
          exact ⟨[], slot, slots, weight, rfl, hheight, rfl, fun _ => hshort⟩
      · obtain ⟨r, hr, hnone, hsome⟩ := ih h.of_cons
          (heightLeft - slot.tile.roundedTileHeight (heightLeft * (weight / totalWeight)))
          (totalWeight - weight)
        refine ⟨r.map fun r => (slot :: r.1, r.2), ?_, ?_, ?_⟩
        · simp only [tryShares, hheight, if_neg hshort, hr, map_some]
        · intro hr'
          simp only [SharesMeet, hheight]
          exact ⟨not_lt.mp hshort, hnone (map_eq_none_iff.mp hr')⟩
        · intro raised hraised
          obtain ⟨r', rfl, rfl⟩ := map_eq_some_iff.mp hraised
          refine (hsome r' rfl).cons fun hfixed => ?_
          simp [hheight, WindowHeight.isAuto] at hfixed

/-- **Filling the shares in** fixes every slot, and counts them down. -/
theorem fillShares_returns (h : Resolved slots) :
    ∀ heightLeft totalWeight autoTilesLeft, autos slots ≤ autoTilesLeft →
      Returns (fillShares heightLeft totalWeight autoTilesLeft slots) fun r =>
        r.2 = autoTilesLeft - autos slots ∧ r.1.map Slot.tile = slots.map Slot.tile ∧
          ∀ slot ∈ r.1, slot.fixedHeight.isSome := by
  induction slots with
  | nil =>
    intro heightLeft totalWeight autoTilesLeft _
    exact ⟨([], autoTilesLeft), rfl, rfl, rfl, by simp⟩
  | cons slot slots ih =>
    intro heightLeft totalWeight autoTilesLeft hautos
    cases hheight : slot.height with
    | preset idx => exact absurd hheight (h slot mem_cons_self idx)
    | fixed height =>
      have hcount : autos (slot :: slots) = autos slots := by
        simp [autos, hheight, WindowHeight.isAuto]
      rw [hcount] at hautos ⊢
      obtain ⟨r, hr, hleft, htiles, hfixed⟩ := ih h.of_cons heightLeft totalWeight _ hautos
      refine ⟨(slot :: r.1, r.2), ?_, hleft, ?_, ?_⟩
      · simp only [fillShares, hheight, hr, map_some]
      · rw [map_cons, map_cons, htiles]
      · intro s hs
        rcases mem_cons.mp hs with rfl | hs
        · rw [fixedHeight, hheight]
          rfl
        · exact hfixed s hs
    | auto weight =>
      have hcount : autos (slot :: slots) = autos slots + 1 := by
        simp [autos, hheight, WindowHeight.isAuto]
      obtain ⟨r, hr, hleft, htiles, hfixed⟩ := ih h.of_cons
        (heightLeft - slot.tile.roundedTileHeight (heightLeft * (weight / totalWeight)))
        (totalWeight - weight) (autoTilesLeft - 1) (by omega)
      refine ⟨(slot.fixedAt (slot.tile.roundedTileHeight (heightLeft * (weight / totalWeight))) ::
        r.1, r.2), ?_, ?_, ?_, ?_⟩
      · simp only [fillShares, hheight, if_neg (show ¬autoTilesLeft = 0 by omega), hr, map_some]
      · change r.2 = _
        omega
      · rw [map_cons, map_cons, htiles, fixedAt_tile]
      · intro s hs
        rcases mem_cons.mp hs with rfl | hs
        · rfl
        · exact hfixed s hs

section

variable (h : Raised heightLeft totalWeight slots r)
include h

theorem Raised.resolved (hslots : Resolved slots) : Resolved r.1 := by
  obtain ⟨before, raised, after, weight, rfl, -, rfl, -⟩ := h
  intro slot hslot idx
  simp only [mem_append, mem_cons] at hslot
  rcases hslot with hslot | rfl | hslot
  · exact hslots slot (by simp [hslot]) idx
  · simp
  · exact hslots slot (by simp [hslot]) idx

theorem Raised.autos : autos slots = autos r.1 + 1 := by
  obtain ⟨before, raised, after, weight, rfl, hheight, rfl, -⟩ := h
  simp only [Slot.autos, countP_append, countP_cons, hheight, fixedAt_height, WindowHeight.isAuto]
  simp
  omega

theorem Raised.tiles : r.1.map Slot.tile = slots.map Slot.tile := by
  obtain ⟨before, raised, after, weight, rfl, -, rfl, -⟩ := h
  simp

end

theorem Resolved.fixed (h : Resolved slots) (hautos : autos slots = 0) :
    ∀ slot ∈ slots, slot.fixedHeight.isSome := by
  intro slot hslot
  cases hheight : slot.height with
  | preset idx => exact absurd hheight (h slot hslot idx)
  | fixed height =>
    rw [fixedHeight, hheight]
    rfl
  | auto weight =>
    refine absurd ?_ (countP_eq_zero.mp hautos slot hslot)
    rw [hheight]
    rfl

/-- **The distribution of heights ends**, with every tile at a height. -/
theorem distribute_returns (autoTilesLeft : ℕ) :
    ∀ (heightLeft totalWeight : ℚ) (slots : List (Slot Id)), Resolved slots →
      autos slots = autoTilesLeft →
      Returns (distribute autoTilesLeft heightLeft totalWeight slots) fun out =>
        out.map Slot.tile = slots.map Slot.tile ∧ ∀ slot ∈ out, slot.fixedHeight.isSome := by
  induction autoTilesLeft with
  | zero =>
    intro heightLeft totalWeight slots hslots hautos
    exact ⟨slots, rfl, rfl, hslots.fixed hautos⟩
  | succ autoTilesLeft ih =>
    intro heightLeft totalWeight slots hslots hautos
    obtain ⟨r, hr, -, hsome⟩ := tryShares_returns hslots heightLeft totalWeight
    refine Returns.bind ⟨r, hr, rfl⟩ ?_
    rintro _ rfl
    cases r with
    | none =>
      refine (fillShares_returns hslots heightLeft totalWeight (autoTilesLeft + 1)
        hautos.le).bind fun filled hfilled => ?_
      obtain ⟨hleft, htiles, hfixed⟩ := hfilled
      refine ⟨filled.1, if_pos ?_, htiles, hfixed⟩
      omega
    | some raised =>
      have hraised := hsome raised rfl
      have hcount := hraised.autos
      refine (ih _ _ raised.1 (hraised.resolved hslots) (by omega)).mono fun out hout => ?_
      exact ⟨hout.1.trans hraised.tiles, hout.2⟩

/-- A slot is fixed or automatic. -/
theorem autos_add_fixed (h : Resolved slots) :
    autos slots + (slots.filterMap fixedHeight).length = slots.length := by
  induction slots with
  | nil => rfl
  | cons slot slots ih =>
    have hrest := ih h.of_cons
    cases hheight : slot.height with
    | preset idx => exact absurd hheight (h slot mem_cons_self idx)
    | fixed | auto =>
      simp only [autos, countP_cons, filterMap_cons, fixedHeight, hheight,
        WindowHeight.isAuto, length_cons] at hrest ⊢
      simp
      omega

@[simp] theorem keepToBounds_tile (slot : Slot Id) : slot.keepToBounds.tile = slot.tile := by
  unfold keepToBounds
  dsimp only
  split_ifs <;> split <;> rfl

/-- An exact constraint gives the slot its minimum. -/
theorem keepToBounds_of_exact (h : slot.minHeight = slot.maxHeight) :
    slot.keepToBounds = slot.fixedAt slot.minHeight := by
  have hkeep : slot.keepToBounds = slot.fixedAt
      (max (if 0 < slot.maxHeight then min slot.minHeight slot.maxHeight else slot.minHeight)
        slot.minHeight) := by
    unfold Slot.keepToBounds
    rw [if_pos h]
    rfl
  rw [hkeep, ← h, min_self, ite_self, max_self]

theorem keepToBounds_of_fixed {height : ℚ} (h : slot.minHeight ≠ slot.maxHeight)
    (hheight : slot.height = .fixed height) :
    slot.keepToBounds = slot.fixedAt
      (max (if 0 < slot.maxHeight then min height slot.maxHeight else height) slot.minHeight) := by
  unfold Slot.keepToBounds
  rw [if_neg h]
  dsimp only
  rw [hheight]

theorem keepToBounds_of_auto {weight : ℚ} (h : slot.minHeight ≠ slot.maxHeight)
    (hheight : slot.height = .auto weight) : slot.keepToBounds = slot := by
  unfold Slot.keepToBounds
  rw [if_neg h]
  dsimp only
  rw [hheight]

theorem Resolved.keepToBounds (h : Resolved slots) : Resolved (slots.map Slot.keepToBounds) := by
  intro slot hslot idx
  obtain ⟨slot, hmem, rfl⟩ := mem_map.mp hslot
  by_cases hexact : slot.minHeight = slot.maxHeight
  · simp [keepToBounds_of_exact hexact]
  · cases hheight : slot.height with
    | preset idx => exact absurd hheight (h slot hmem idx)
    | fixed height => simp [keepToBounds_of_fixed hexact hheight]
    | auto weight => simp [keepToBounds_of_auto hexact hheight, hheight]

theorem distributeHeight_returns (h : Resolved slots) (heightLeft : ℚ) :
    Returns (distributeHeight slots.length heightLeft slots) fun out =>
      out.map Slot.tile = slots.map Slot.tile ∧ ∀ slot ∈ out, slot.fixedHeight.isSome := by
  have hcount := autos_add_fixed h.keepToBounds
  rw [length_map] at hcount
  refine (distribute_returns _ _ _ _ h.keepToBounds (by omega)).mono fun out hout => ⟨?_, hout.2⟩
  rw [hout.1, List.map_map]
  exact map_congr_left fun slot _ => keepToBounds_tile slot

end Slot

/-! ## Sizes are computed exactly when `updateTileSizes` returns -/

namespace Column

variable {c : Column Id}

theorem requestedWidth_returns (hne : c.tiles ≠ []) : Returns c.requestedWidth fun _ => True := by
  have hmin : c.minSizes.map Size.w ≠ [] := by
    simpa [minSizes] using hne
  obtain ⟨w, hw⟩ := isSome_iff_exists.mp (isSome_max?_of_ne_nil hmin)
  exact bind_of_eq hw (of_pure trivial)

theorem maxNonAutoWindowHeight_returns (hlen : c.data.length = c.tiles.length) :
    Returns c.maxNonAutoWindowHeight fun _ => True := by
  refine Returns.ite (fun _ => ?_) fun _ => of_some trivial
  cases hidx : c.data.findIdx? (!·.height.isAuto) with
  | none => exact of_some trivial
  | some idx =>
    have hlt : idx < c.tiles.length := by
      obtain ⟨hlt, -⟩ := List.findIdx?_eq_some_iff_getElem.mp hidx
      omega
    exact bind_of_eq (List.getElem?_eq_getElem hlt) (of_pure trivial)

/-- A window height becomes a tile height, or stays automatic. -/
theorem tileHeight_returns {data : TileData} (maxNonAuto : Option ℚ) (tile : Tile Id)
    (hpreset : ∀ idx, data.height = .preset idx → idx < c.options.presetWindowHeights.length) :
    Returns (c.tileHeight maxNonAuto tile data) fun height => ∀ idx, height ≠ .preset idx := by
  unfold tileHeight
  cases hheight : data.height with
  | auto | fixed => exact of_some (by simp)
  | preset idx =>
    exact bind_of_eq (List.getElem?_eq_getElem (hpreset idx hheight))
      (of_pure (by simp))

theorem givenHeights_returns (hlen : c.data.length = c.tiles.length) (hne : c.tiles ≠ [])
    (hpresets : PresetsIn c.options.presetWindowHeights c.data) :
    Returns c.givenHeights fun heights =>
      heights.length = c.tiles.length ∧ ∀ height ∈ heights, ∀ idx, height ≠ .preset idx := by
  refine (maxNonAutoWindowHeight_returns hlen).bind fun maxNonAuto _ => ?_
  have heach : ∀ td ∈ c.tiles.zip c.data, Returns (c.tileHeight maxNonAuto td.1 td.2) fun height =>
      ∀ idx, height ≠ .preset idx := fun td htd =>
    tileHeight_returns maxNonAuto td.1 (hpresets td.2 (of_mem_zip htd).2)
  refine (Returns.mapM heach).bind fun heights hheights => ?_
  have hcount : heights.length = c.tiles.length := by
    rw [← hheights.length_eq, length_zip, hlen, min_self]
  refine Returns.ite (fun _ => ?_) fun _ => of_pure ⟨hcount, ?_⟩
  · have hmin : c.minSizes.map Size.h ≠ [] := by
      simpa [minSizes] using hne
    obtain ⟨h, hh⟩ := isSome_iff_exists.mp (isSome_max?_of_ne_nil hmin)
    have htabbed : Returns (c.tabbedHeight heights) fun _ => True :=
      bind_of_eq hh (of_pure trivial)
    refine htabbed.bind fun tabbedHeight _ => of_pure ⟨?_, ?_⟩
    · rw [length_map, hcount]
    · simp
  · intro height hheight
    obtain ⟨i, hi, rfl⟩ := getElem_of_mem hheight
    exact hheights.get (hheights.length_eq ▸ hi) hi

/-- The slots that the heights are distributed over. -/
def slots (c : Column Id) (heights : List WindowHeight) : List (Slot Id) :=
  List.zipWith Slot.mk c.tiles heights

variable {heights : List WindowHeight}

theorem slots_tiles (hlen : heights.length = c.tiles.length) :
    (c.slots heights).map Slot.tile = c.tiles := by
  refine ext_getElem ?_ fun i _ _ => ?_
  · simp [slots, hlen]
  · simp [slots]

theorem slots_resolved (hheights : ∀ height ∈ heights, ∀ idx, height ≠ .preset idx) :
    Slot.Resolved (c.slots heights) := by
  intro slot hslot
  obtain ⟨i, hi, rfl⟩ := getElem_of_mem hslot
  simp only [slots, getElem_zipWith]
  exact hheights _ (getElem_mem _)

/-- **The sizes** are those of the distributed slots. -/
theorem requestedNormalSizes_returns (hlen : c.data.length = c.tiles.length) (hne : c.tiles ≠ [])
    (hpresets : PresetsIn c.options.presetWindowHeights c.data) :
    Returns c.requestedNormalSizes fun sizes =>
      ∃ width heights out, c.givenHeights = some heights ∧ heights.length = c.tiles.length ∧
        Slot.Resolved (c.slots heights) ∧
        Slot.distributeHeight c.tiles.length
          (c.workingArea.size.h - c.options.gaps * (c.tiles.length + 1)) (c.slots heights) =
          some out ∧ out.map Slot.tile = c.tiles ∧
        List.Forall₂ (fun slot size => slotRequest width slot = some size) out sizes := by
  obtain ⟨width, hwidth, -⟩ := requestedWidth_returns hne
  obtain ⟨heights, hheights, hcount, hpreset⟩ := givenHeights_returns hlen hne hpresets
  have hresolved := slots_resolved (c := c) hpreset
  have hslots : (c.slots heights).length = c.tiles.length := by
    rw [← length_map Slot.tile, slots_tiles hcount]
  obtain ⟨out, hout, htiles, hfixed⟩ := Slot.distributeHeight_returns hresolved
    (c.workingArea.size.h - c.options.gaps * (c.tiles.length + 1))
  rw [hslots] at hout
  rw [slots_tiles hcount] at htiles
  have hsizes : Returns (out.mapM (slotRequest width))
      (List.Forall₂ (fun slot size => slotRequest width slot = some size) out) :=
    Returns.mapM fun slot hslot => by
      obtain ⟨height, hheight⟩ := isSome_iff_exists.mp (hfixed slot hslot)
      have hrequest := congrArg (Option.map fun height =>
        slot.tile.requestTileSize ⟨width, height⟩) hheight
      exact ⟨_, hrequest, hrequest⟩
  refine bind_of_eq hwidth (bind_of_eq hheights (bind_of_eq hout ?_))
  exact hsizes.mono fun sizes hall =>
    ⟨width, heights, out, hheights, hcount, hresolved, hout, htiles, hall⟩

end Column

end Tiri.Layout
