import Mathlib.Algebra.Group.Subgroup.Ker
import Mathlib.Algebra.Group.Submonoid.BigOperators
import Tiri.Layout.TileSizes

/-!
# The heights of a column add up

In whole pixels, what `TileSizes` distributes over a column of several tiles.  `Slot.demand` is
what a slot takes at least: its height once it is fixed, its minimum until then.  Raising a slot
to its minimum does not change the sum of the demands, and the last automatic slot is only raised
when the demands do not fit; that is the invariant of the outer loop.

Results:
* `fillShares_sum`: shares that meet their minimums take up what is left, exactly;
* `distribute_sum`: the heights add up to the demands, or to all that there is;
* `slot_keepToBounds`: a height of a window's own, kept to its bounds, leaves room for the minimums;
* `requestedTileSizes_fit`: the sizes requested for a column.
-/

namespace Tiri.Layout

open Option List

variable {Id : Type} {strict : Prop}

/-! ## Whole pixels -/

/-- The whole numbers of logical pixels. -/
abbrev wholePixels : AddSubgroup ℚ := (Int.castAddHom ℚ).range

namespace wholePixels

theorem intCast (z : ℤ) : (z : ℚ) ∈ wholePixels := ⟨z, rfl⟩

theorem one : (1 : ℚ) ∈ wholePixels := ⟨1, by simp⟩

theorem max {x y : ℚ} (hx : x ∈ wholePixels) (hy : y ∈ wholePixels) : max x y ∈ wholePixels := by
  rcases max_choice x y with h | h <;> rw [h] <;> assumption

theorem min {x y : ℚ} (hx : x ∈ wholePixels) (hy : y ∈ wholePixels) : min x y ∈ wholePixels := by
  rcases min_choice x y with h | h <;> rw [h] <;> assumption

end wholePixels

variable {x : ℚ}

/-- Rounding does not go below a whole number. -/
theorem le_roundHalfAway {z : ℤ} (h : (z : ℚ) ≤ x) : z ≤ roundHalfAway x := by
  unfold roundHalfAway
  split_ifs with hx
  · rw [Int.le_floor]
    linarith
  · have hlt : ⌊-x + 1 / 2⌋ < -z + 1 := by
      rw [Int.floor_lt]
      push_cast
      linarith
    omega

theorem roundHalfAway_eq (h : x ∈ wholePixels) : (roundHalfAway x : ℚ) = x := by
  obtain ⟨z, rfl⟩ := h
  have hfloor (n : ℤ) : ⌊(n : ℚ) + 1 / 2⌋ = n := by
    norm_num
  change ((roundHalfAway (z : ℚ) : ℤ) : ℚ) = (z : ℚ)
  unfold roundHalfAway
  rw [hfloor, show -(z : ℚ) = ((-z : ℤ) : ℚ) by push_cast; rfl, hfloor, neg_neg, ite_self]

theorem floor_eq (h : x ∈ wholePixels) : (⌊x⌋ : ℚ) = x := by
  obtain ⟨z, rfl⟩ := h
  change ((⌊(z : ℚ)⌋ : ℤ) : ℚ) = (z : ℚ)
  rw [Int.floor_intCast]

theorem WindowHeight.exists_weight {height : WindowHeight} (h : height.isAuto = true) :
    ∃ weight, height = .auto weight := by
  cases height with
  | auto weight => exact ⟨weight, rfl⟩
  | fixed _ | preset _ => cases h

namespace Tile

variable {tile : Tile Id}

theorem borderExtra_whole (h : tile.border.width ∈ wholePixels) :
    tile.borderExtra ∈ wholePixels := by
  unfold borderExtra
  split_ifs
  · exact zero_mem _
  · rw [mul_two]
    exact add_mem h h

theorem minSizeNonfullscreen_h (tile : Tile Id) :
    tile.minSizeNonfullscreen.h = (if tile.border.off then (tile.window.state.minSize.h : ℚ)
        else max 1 (tile.window.state.minSize.h : ℚ)) + tile.borderExtra := by
  unfold minSizeNonfullscreen borderExtra
  split_ifs
  · exact (add_zero _).symm
  · rfl

theorem maxSizeNonfullscreen_h (tile : Tile Id) :
    tile.maxSizeNonfullscreen.h =
      if 0 < tile.window.state.maxSize.h then tile.window.state.maxSize.h + tile.borderExtra
      else (tile.window.state.maxSize.h : ℚ) := by
  have hcast : (0 : ℚ) < tile.window.state.maxSize.h ↔ 0 < tile.window.state.maxSize.h := by
    exact_mod_cast Iff.rfl
  unfold maxSizeNonfullscreen borderExtra
  by_cases hoff : tile.border.off
  · simp [hoff]
  · simp only [hoff, hcast, if_false, Bool.false_eq_true]

theorem roundedTileHeight_whole (h : tile.borderExtra ∈ wholePixels) (height : ℚ) :
    tile.roundedTileHeight height ∈ wholePixels :=
  add_mem (wholePixels.max (wholePixels.intCast _) wholePixels.one) h

variable {height : ℚ}

/-- A tile height in whole pixels is left as it is. -/
theorem roundedTileHeight_eq (h : tile.borderExtra ∈ wholePixels) (hheight : height ∈ wholePixels)
    (hone : 1 + tile.borderExtra ≤ height) : tile.roundedTileHeight height = height := by
  have hone' : 1 ≤ height - tile.borderExtra := by linarith
  unfold roundedTileHeight tileLengthForWindowLength windowLengthForTileLength
  rw [roundHalfAway_eq (sub_mem hheight h), max_eq_left hone']
  ring

theorem le_roundedTileHeight (h : tile.borderExtra ∈ wholePixels) {low : ℚ}
    (hlow : low ∈ wholePixels) (hle : low ≤ height) : low ≤ tile.roundedTileHeight height := by
  obtain ⟨z, hz⟩ := sub_mem hlow h
  change (z : ℚ) = low - tile.borderExtra at hz
  have hround : z ≤ roundHalfAway (height - tile.borderExtra) :=
    le_roundHalfAway (by rw [hz]; linarith)
  have hcast : (z : ℚ) ≤ roundHalfAway (height - tile.borderExtra) := by exact_mod_cast hround
  have hmax := le_max_left (roundHalfAway (height - tile.borderExtra) : ℚ) 1
  unfold roundedTileHeight tileLengthForWindowLength windowLengthForTileLength
  linarith

/-- What the window is asked for makes up the tile height again. -/
theorem tileLength_requestTileSize (width : ℚ) (h : tile.borderExtra ∈ wholePixels)
    (hheight : height ∈ wholePixels) (hone : 1 + tile.borderExtra ≤ height) :
    tile.tileLengthForWindowLength (tile.requestTileSize ⟨width, height⟩).h = height := by
  have hfloor := floor_eq (sub_mem hheight h)
  have hone' : 1 ≤ height - tile.borderExtra := by linarith
  unfold requestTileSize tileLengthForWindowLength Size.toI32Floor
  unfold borderExtra at *
  split_ifs with hoff
  · simp only [hoff, if_true, sub_zero] at hfloor
    simp only [hfloor, add_zero]
  · simp only [hoff, Bool.false_eq_true, if_false] at hfloor hone'
    simp only [max_eq_right hone', hfloor]
    ring

end Tile

namespace Slot

variable {slot : Slot Id} {slots : List (Slot Id)}

theorem one_add_borderExtra_le (slot : Slot Id) : 1 + slot.tile.borderExtra ≤ slot.minHeight := by
  unfold minHeight
  rw [Tile.minSizeNonfullscreen_h]
  by_cases hoff : slot.tile.border.off
  · simp [Tile.borderExtra, hoff]
  · rw [if_neg hoff]
    have hone := le_max_left 1 (slot.tile.window.state.minSize.h : ℚ)
    exact le_max_of_le_left (by linarith)

theorem minHeight_whole (h : slot.tile.borderExtra ∈ wholePixels) :
    slot.minHeight ∈ wholePixels := by
  unfold minHeight
  rw [Tile.minSizeNonfullscreen_h]
  refine wholePixels.max (add_mem ?_ h) wholePixels.one
  split_ifs
  · exact wholePixels.intCast _
  · exact wholePixels.max wholePixels.one (wholePixels.intCast _)

theorem maxHeight_whole (h : slot.tile.borderExtra ∈ wholePixels) :
    slot.maxHeight ∈ wholePixels := by
  unfold maxHeight
  rw [Tile.maxSizeNonfullscreen_h]
  split_ifs
  · exact add_mem (wholePixels.intCast _) h
  · exact wholePixels.intCast _

/-! ## Slots in whole pixels -/

/-- A slot of the loop: it is automatic, with a positive weight, or fixed at a whole height that
is not below its minimum. -/
structure Ready (slot : Slot Id) : Prop where
  border : slot.tile.borderExtra ∈ wholePixels
  resolved : ∀ idx, slot.height ≠ .preset idx
  weight_pos : ∀ weight, slot.height = .auto weight → 0 < weight
  fixed : ∀ height, slot.height = .fixed height → height ∈ wholePixels ∧ slot.minHeight ≤ height

/-- What the slots that are fixed take up. -/
def taken (slots : List (Slot Id)) : ℚ := (slots.filterMap fixedHeight).sum

/-- What the automatic slots weigh. -/
def weights (slots : List (Slot Id)) : ℚ := (slots.filterMap weight).sum

/-- What a slot takes at least. -/
def demand (slot : Slot Id) : ℚ := slot.fixedHeight.getD slot.minHeight

/-- What the slots take at least. -/
def demands (slots : List (Slot Id)) : ℚ := (slots.map demand).sum

variable {height : ℚ}

theorem Ready.fixedAt (h : slot.Ready) (hheight : height ∈ wholePixels)
    (hmin : slot.minHeight ≤ height) : (slot.fixedAt height).Ready where
  border := h.border
  resolved := fun idx hidx => by cases hidx
  weight_pos := fun weight hweight => by cases hweight
  fixed := fun height' hheight' => by
    cases hheight'
    exact ⟨hheight, hmin⟩

theorem resolved_of_ready (h : ∀ slot ∈ slots, Ready slot) : Resolved slots :=
  fun slot hslot => (h slot hslot).resolved

@[simp] theorem demand_fixedAt (slot : Slot Id) (height : ℚ) :
    (slot.fixedAt height).demand = height := rfl

variable (l l' : List (Slot Id))

theorem taken_append : taken (l ++ l') = taken l + taken l' := by
  simp [taken]

theorem weights_append : weights (l ++ l') = weights l + weights l' := by
  simp [weights]

theorem demands_append : demands (l ++ l') = demands l + demands l' := by
  simp [demands]

theorem demands_cons (slot : Slot Id) (slots : List (Slot Id)) :
    demands (slot :: slots) = slot.demand + demands slots := by
  simp [demands]

theorem taken_cons_fixed (h : slot.height = .fixed height) (slots : List (Slot Id)) :
    taken (slot :: slots) = height + taken slots := by
  have hfixed : slot.fixedHeight = some height := by rw [fixedHeight, h]
  rw [taken, filterMap_cons_some hfixed, sum_cons, taken]

variable {w : ℚ}

theorem taken_cons_auto (h : slot.height = .auto w) (slots : List (Slot Id)) :
    taken (slot :: slots) = taken slots := by
  have hfixed : slot.fixedHeight = none := by rw [fixedHeight, h]
  rw [taken, filterMap_cons_none hfixed, taken]

theorem weights_cons_fixed (h : slot.height = .fixed height) (slots : List (Slot Id)) :
    weights (slot :: slots) = weights slots := by
  have hweight : slot.weight = none := by rw [weight, h]
  rw [weights, filterMap_cons_none hweight, weights]

theorem weights_cons_auto (h : slot.height = .auto w) (slots : List (Slot Id)) :
    weights (slot :: slots) = w + weights slots := by
  have hweight : slot.weight = some w := by rw [weight, h]
  rw [weights, filterMap_cons_some hweight, sum_cons, weights]

theorem demand_of_auto (h : slot.height = .auto w) : slot.demand = slot.minHeight := by
  rw [demand, fixedHeight, h]
  rfl

theorem demand_of_fixed (h : slot.height = .fixed height) : slot.demand = height := by
  rw [demand, fixedHeight, h]
  rfl

/-- Without automatic slots nothing weighs anything, and what is demanded is taken. -/
theorem of_autos_eq_zero (hresolved : Resolved slots) (h : autos slots = 0) :
    weights slots = 0 ∧ demands slots = taken slots := by
  induction slots with
  | nil => exact ⟨rfl, rfl⟩
  | cons slot slots ih =>
    cases hheight : slot.height with
    | preset idx => exact absurd hheight (hresolved slot mem_cons_self idx)
    | auto w => simp [autos, hheight, WindowHeight.isAuto] at h
    | fixed height =>
      have hrest : autos slots = 0 := by
        simpa [autos, hheight, WindowHeight.isAuto] using h
      obtain ⟨hweights, hdemands⟩ := ih hresolved.of_cons hrest
      rw [weights_cons_fixed hheight, demands_cons, demand_of_fixed hheight,
        taken_cons_fixed hheight, hdemands]
      exact ⟨hweights, rfl⟩

/-! ## Filling the shares in -/

/-- **Shares that meet their minimums** take up the height that is left, to the pixel: the last
automatic slot has all of the weight that remains. -/
theorem fillShares_sum (hready : ∀ slot ∈ slots, Ready slot) :
    ∀ heightLeft autoTilesLeft, heightLeft ∈ wholePixels →
      SharesMeet heightLeft (weights slots) slots →
      Ensures (fillShares heightLeft (weights slots) autoTilesLeft slots) fun r =>
        (∀ slot ∈ r.1, Ready slot) ∧
          taken r.1 = taken slots + if autos slots = 0 then 0 else heightLeft := by
  induction slots with
  | nil =>
    rintro heightLeft autoTilesLeft - - _ ⟨⟩
    exact ⟨hready, by simp [autos]⟩
  | cons slot slots ih =>
    intro heightLeft autoTilesLeft hleft hmeet r hr
    have hrest : ∀ s ∈ slots, Ready s := fun s hs => hready s (mem_cons_of_mem _ hs)
    have hslot := hready slot mem_cons_self
    cases hheight : slot.height with
    | preset idx => exact absurd hheight (hslot.resolved idx)
    | fixed height =>
      have hautos : autos (slot :: slots) = autos slots := by
        simp [autos, hheight, WindowHeight.isAuto]
      rw [weights_cons_fixed hheight] at hmeet hr
      simp only [SharesMeet, hheight] at hmeet
      simp only [fillShares, hheight] at hr
      obtain ⟨r', hr', rfl⟩ := map_eq_some_iff.mp hr
      obtain ⟨hr'ready, hr'taken⟩ := ih hrest heightLeft autoTilesLeft hleft hmeet r' hr'
      refine ⟨forall_mem_cons.mpr ⟨hslot, hr'ready⟩, ?_⟩
      rw [taken_cons_fixed hheight, hr'taken, taken_cons_fixed hheight, hautos]
      ring
    | auto w =>
      have hautos : autos (slot :: slots) ≠ 0 := by
        simp [autos, hheight, WindowHeight.isAuto]
      simp only [SharesMeet, hheight] at hmeet
      obtain ⟨hmin, hmeet⟩ := hmeet
      simp only [fillShares, hheight] at hr
      split_ifs at hr
      obtain ⟨r', hr', rfl⟩ := map_eq_some_iff.mp hr
      have hweights : weights (slot :: slots) - w = weights slots := by
        rw [weights_cons_auto hheight]
        ring
      rw [hweights] at hmeet hr'
      generalize hshare : heightLeft * (w / weights (slot :: slots)) = share at *
      have hwhole := slot.tile.roundedTileHeight_whole hslot.border share
      obtain ⟨hr'ready, hr'taken⟩ :=
        ih hrest _ _ (sub_mem hleft hwhole) hmeet r' hr'
      refine ⟨forall_mem_cons.mpr ⟨hslot.fixedAt hwhole ?_, hr'ready⟩, ?_⟩
      · exact Tile.le_roundedTileHeight hslot.border (minHeight_whole hslot.border) hmin
      rw [if_neg hautos, taken_cons_fixed rfl, hr'taken, taken_cons_auto hheight]
      split_ifs with hlast
      · -- the last automatic slot: its share is all that is left
        have hone : w / weights (slot :: slots) = 1 := by
          rw [weights_cons_auto hheight,
            (of_autos_eq_zero (resolved_of_ready hrest) hlast).1, add_zero]
          exact div_self (hslot.weight_pos w hheight).ne'
        have hall : share = heightLeft := by rw [← hshare, hone, mul_one]
        rw [hall] at hmin ⊢
        rw [Tile.roundedTileHeight_eq hslot.border hleft (slot.one_add_borderExtra_le.trans hmin)]
        ring
      · ring

/-- Where every demand is the minimum, with an excess for what `p` singles out. -/
theorem demands_le {α : Type} {p : α → Bool} {excess : ℚ} {as : List α}
    (h : List.Forall₂ (fun a slot => demand slot ≤ minHeight slot + if p a then excess else 0)
      as slots) :
    demands slots ≤ (slots.map minHeight).sum + as.countP p * excess := by
  induction h with
  | nil => simp [demands]
  | @cons a slot as slots hslot _ ih =>
    rw [demands_cons, map_cons, sum_cons, countP_cons]
    split_ifs at hslot ⊢
    · push_cast
      linarith
    · push_cast
      linarith

/-! ## The outer loop -/

section Raised

variable {heightLeft totalWeight : ℚ} {r : List (Slot Id) × ℚ × ℚ}

/-- What a raised slot changes: it now takes its minimum, which it demanded before. -/
theorem Raised.sums (h : Raised heightLeft totalWeight slots r) :
    taken r.1 = taken slots + r.2.1 ∧ weights r.1 = weights slots - r.2.2 ∧
      demands r.1 = demands slots := by
  obtain ⟨before, slot, after, w, rfl, hheight, rfl, -⟩ := h
  refine ⟨?_, ?_, ?_⟩
  · simp only [taken_append, taken_cons_auto hheight, taken_cons_fixed (slot.fixedAt_height _)]
    ring
  · simp only [weights_append, weights_cons_auto hheight,
      weights_cons_fixed (slot.fixedAt_height _)]
    ring
  · simp only [demands_append, demands_cons, demand_of_auto hheight, demand_fixedAt]

theorem Raised.ready (h : Raised heightLeft totalWeight slots r)
    (hready : ∀ slot ∈ slots, Ready slot) : r.2.1 ∈ wholePixels ∧ ∀ slot ∈ r.1, Ready slot := by
  obtain ⟨before, slot, after, w, rfl, hheight, rfl, -⟩ := h
  have hslot := hready slot (by simp)
  have hwhole := minHeight_whole hslot.border
  refine ⟨hwhole, fun s hs => ?_⟩
  simp only [mem_append, mem_cons] at hs
  rcases hs with hs | rfl | hs
  · exact hready s (by simp [hs])
  · exact hslot.fixedAt hwhole le_rfl
  · exact hready s (by simp [hs])

/-- The last automatic slot is not raised when the demands fit. -/
theorem Raised.not_fits (h : Raised heightLeft (weights slots) slots r)
    (hready : ∀ slot ∈ slots, Ready slot) (hlast : Slot.autos r.1 = 0) :
    taken slots + heightLeft < demands slots := by
  have hresolved := resolved_of_ready (h.ready hready).2
  have hsums := h.sums
  obtain ⟨hweights, hdemands⟩ := of_autos_eq_zero hresolved hlast
  obtain ⟨before, slot, after, w, hslots, hheight, rfl, hshort⟩ := h
  have hbefore : Slot.autos before = 0 := by
    simp only [Slot.autos, countP_append] at hlast ⊢
    omega
  have hw : w / weights slots = 1 := by
    rw [show weights slots = w by linarith [hsums.2.1]]
    have hmem : slot ∈ slots := by simp [hslots]
    exact div_self ((hready slot hmem).weight_pos w hheight).ne'
  have hlt := hshort hbefore
  rw [hw, mul_one] at hlt
  linarith [hsums.1, hsums.2.2]

end Raised

/-- **What the distributed heights add up to**: the demands, or all that there is; and all that
there is, when the demands fit and an automatic slot is there to take the rest. -/
theorem distribute_sum (autoTilesLeft : ℕ) :
    ∀ (heightLeft : ℚ) (slots : List (Slot Id)), (∀ slot ∈ slots, Ready slot) →
      heightLeft ∈ wholePixels → autos slots = autoTilesLeft →
      Ensures (distribute autoTilesLeft heightLeft (weights slots) slots) fun out =>
        (∀ slot ∈ out, Ready slot) ∧
          (taken out = demands slots ∨ taken out = taken slots + heightLeft) ∧
          (autoTilesLeft ≠ 0 → demands slots ≤ taken slots + heightLeft →
            taken out = taken slots + heightLeft) := by
  induction autoTilesLeft with
  | zero =>
    rintro heightLeft slots hready - hautos _ ⟨⟩
    refine ⟨hready, Or.inl ?_, fun hne => absurd rfl hne⟩
    exact (of_autos_eq_zero (resolved_of_ready hready) hautos).2.symm
  | succ autoTilesLeft ih =>
    intro heightLeft slots hready hleft hautos out hout
    obtain ⟨tried, htried, hnone, hsome⟩ :=
      tryShares_returns (resolved_of_ready hready) heightLeft (weights slots)
    simp only [distribute, htried, bind_eq_bind, bind_some] at hout
    cases tried with
    | none =>
      obtain ⟨filled, hfilled, hout⟩ := bind_eq_some_iff.mp hout
      obtain ⟨hfready, hftaken⟩ :=
        fillShares_sum hready heightLeft _ hleft (hnone rfl) filled hfilled
      split_ifs at hout
      cases hout
      rw [if_neg (by omega)] at hftaken
      exact ⟨hfready, Or.inr hftaken, fun _ _ => hftaken⟩
    | some raised =>
      have hraised := hsome raised rfl
      obtain ⟨hwhole, hrready⟩ := hraised.ready hready
      obtain ⟨htaken, hweights, hdemands⟩ := hraised.sums
      have hcount := hraised.autos
      dsimp only at hout
      rw [← hweights] at hout
      obtain ⟨hoready, hsum, hfits⟩ :=
        ih (heightLeft - raised.2.1) raised.1 hrready (sub_mem hleft hwhole) (by omega) out hout
      have hall : taken raised.1 + (heightLeft - raised.2.1) = taken slots + heightLeft := by
        rw [htaken]
        ring
      rw [hdemands, hall] at hsum hfits
      refine ⟨hoready, hsum, fun _ hle => ?_⟩
      by_cases hlast : autoTilesLeft = 0
      · exact absurd hle (not_le.mpr (hraised.not_fits hready (by omega)))
      · exact hfits hlast hle

/-! ## The heights that are given -/

/-- The bounds of a slot count for what it demands: an automatic one demands its minimum, and a
fixed one no more than its height, unless the minimum is higher. -/
theorem demand_keepToBounds_auto (h : slot.height = .auto w) :
    slot.keepToBounds.demand = slot.minHeight := by
  by_cases hexact : slot.minHeight = slot.maxHeight
  · rw [keepToBounds_of_exact hexact, demand_fixedAt]
  · rw [keepToBounds_of_auto hexact h, demand_of_auto h]

theorem demand_keepToBounds_fixed (h : slot.height = .fixed height) :
    slot.keepToBounds.demand ≤ max slot.minHeight height := by
  by_cases hexact : slot.minHeight = slot.maxHeight
  · rw [keepToBounds_of_exact hexact, demand_fixedAt]
    exact le_max_left _ _
  · rw [keepToBounds_of_fixed hexact h, demand_fixedAt, max_comm]
    refine max_le_max le_rfl ?_
    split_ifs
    · exact min_le_left _ _
    · exact le_rfl

theorem ready_keepToBounds (hborder : slot.tile.borderExtra ∈ wholePixels)
    (hresolved : ∀ idx, slot.height ≠ .preset idx)
    (hweight : ∀ weight, slot.height = .auto weight → 0 < weight)
    (hfixed : ∀ height, slot.height = .fixed height → height ∈ wholePixels) :
    slot.keepToBounds.Ready := by
  have hmin := minHeight_whole hborder
  have hfixedAt (height : ℚ) (h : height ∈ wholePixels) :
      (slot.fixedAt (max height slot.minHeight)).Ready :=
    { border := hborder
      resolved := fun idx hidx => by cases hidx
      weight_pos := fun weight hweight => by cases hweight
      fixed := fun height' hheight' => by
        cases hheight'
        exact ⟨wholePixels.max h hmin, le_max_right _ _⟩ }
  by_cases hexact : slot.minHeight = slot.maxHeight
  · rw [keepToBounds_of_exact hexact]
    simpa using hfixedAt _ hmin
  · cases hheight : slot.height with
    | preset idx => exact absurd hheight (hresolved idx)
    | auto w =>
      rw [keepToBounds_of_auto hexact hheight]
      exact ⟨hborder, hresolved, hweight, fun height h => by rw [hheight] at h; cases h⟩
    | fixed height =>
      rw [keepToBounds_of_fixed hexact hheight]
      refine hfixedAt _ ?_
      split_ifs
      · exact wholePixels.min (hfixed height hheight) (maxHeight_whole hborder)
      · exact hfixed height hheight

/-- **The heights from the first subtraction on**: where the heights given to the slots leave
room for the minimums, so do the distributed ones. -/
theorem distributeHeight_sum (hready : ∀ slot ∈ slots, Ready slot.keepToBounds) {heightLeft : ℚ}
    (hleft : heightLeft ∈ wholePixels) :
    Ensures (distributeHeight slots.length heightLeft slots) fun out =>
      (∀ slot ∈ out, Ready slot) ∧
        (taken out = demands (slots.map keepToBounds) ∨ taken out = heightLeft) ∧
        (autos (slots.map keepToBounds) ≠ 0 →
          demands (slots.map keepToBounds) ≤ heightLeft → taken out = heightLeft) := by
  have hready' : ∀ slot ∈ slots.map keepToBounds, Ready slot := forall_mem_map.mpr hready
  have hcount := autos_add_fixed (resolved_of_ready hready')
  rw [length_map] at hcount
  have htaken : taken (slots.map keepToBounds) ∈ wholePixels := by
    refine AddSubmonoid.list_sum_mem wholePixels.toAddSubmonoid fun height hheight => ?_
    obtain ⟨slot, hslot, hheight⟩ := mem_filterMap.mp hheight
    unfold fixedHeight at hheight
    split at hheight
    · rename_i h hfixed
      cases hheight
      exact ((hready' slot hslot).fixed _ hfixed).1
    · cases hheight
  have hsum := distribute_sum
    (slots.length - ((slots.map keepToBounds).filterMap fixedHeight).length)
    (heightLeft - taken (slots.map keepToBounds)) _ hready' (sub_mem hleft htaken) (by omega)
  rw [add_sub_cancel] at hsum
  refine hsum.mono fun out hout => ⟨hout.1, hout.2.1, fun hautos => hout.2.2 (by omega)⟩

end Slot

namespace Column

variable {c : Column Id}

/-- The column measures in whole pixels. -/
structure InWholePixels (c : Column Id) : Prop where
  workingHeight : c.workingArea.size.h ∈ wholePixels
  gaps : c.options.gaps ∈ wholePixels
  border : ∀ tile ∈ c.tiles, tile.border.width ∈ wholePixels

/-- The tile heights that the requested sizes make. -/
def requestedTileHeights (c : Column Id) (sizes : List ISize) : List ℚ :=
  List.zipWith (fun tile size => tile.tileLengthForWindowLength size.h) c.tiles sizes

/-- The gaps above, between and below the tiles. -/
def totalGaps (c : Column Id) : ℚ := c.options.gaps * (c.tiles.length + 1)

/-- The minimum heights of the tiles, together. -/
def totalMinHeight (c : Column Id) : ℚ := (c.minSizes.map Size.h).sum

/-- The height that the gaps leave for the tiles. -/
def heightForTiles (c : Column Id) : ℚ := c.workingArea.size.h - c.totalGaps

/-- An automatic height only keeps to the maximum of its tile where that is the minimum too. -/
def NoAutoAtMaximum (c : Column Id) : Prop :=
  ∀ td ∈ c.tiles.zip c.data, td.2.height.isAuto = true →
    td.1.maxSizeNonfullscreen.h ≠ max td.1.minSizeNonfullscreen.h 1

theorem InWholePixels.heightForTiles (h : c.InWholePixels) : c.heightForTiles ∈ wholePixels := by
  refine sub_mem h.workingHeight ?_
  have hgaps : c.totalGaps = (c.tiles.length + 1) • c.options.gaps := by
    rw [totalGaps, nsmul_eq_mul, mul_comm]
    push_cast
    rfl
  rw [hgaps]
  exact nsmul_mem h.gaps _

variable {i : ℕ}

/-- What the minimums of the other tiles take, with a gap each. -/
theorem sum_other_minHeights (hi : i < c.tiles.length) (height : WindowHeight) :
    ((c.minSizes.eraseIdx i).map (·.h + c.options.gaps)).sum =
      c.totalMinHeight - (⟨c.tiles[i], height⟩ : Slot Id).minHeight +
        c.options.gaps * (c.tiles.length - 1) := by
  have hlt : i < c.minSizes.length := by simpa [minSizes] using hi
  have hperm := (getElem_cons_eraseIdx_perm hlt).map (·.h + c.options.gaps)
  have hsum := hperm.sum_eq
  have hall : (c.minSizes.map (·.h + c.options.gaps)).sum =
      c.totalMinHeight + c.options.gaps * c.tiles.length := by
    rw [sum_map_add, totalMinHeight, map_const', sum_replicate, nsmul_eq_mul,
      minSizes, length_map, mul_comm]
  have hfirst : c.minSizes[i].h = (⟨c.tiles[i], height⟩ : Slot Id).minHeight := by
    simp [minSizes, Slot.minHeight]
  rw [map_cons, sum_cons, hall, hfirst] at hsum
  linarith

/-- What the other minimums leave for the tile whose height is its own. -/
theorem maxNonAutoWindowHeight_eq (htiles : 2 ≤ c.tiles.length) (hdisplay : c.displayMode = .normal)
    (hlen : c.data.length = c.tiles.length) (hone : OneFixed c.data) (hi : i < c.tiles.length)
    (hdata : (c.data.get ⟨i, hlen ▸ hi⟩).height.isAuto = false) (height : WindowHeight) :
    c.maxNonAutoWindowHeight = some (some (max (1 : ℚ) (roundHalfAway
      (c.tiles[i].windowLengthForTileLength
        (c.heightForTiles - c.totalMinHeight + (⟨c.tiles[i], height⟩ : Slot Id).minHeight))))) := by
  have hfind : c.data.findIdx? (!·.height.isAuto) = some i := by
    cases hidx : c.data.findIdx? (!·.height.isAuto) with
    | none =>
      have hauto := List.findIdx?_eq_none_iff.mp hidx _ (get_mem c.data ⟨i, hlen ▸ hi⟩)
      rw [hdata] at hauto
      cases hauto
    | some j =>
      obtain ⟨hj, hjdata, -⟩ := List.findIdx?_eq_some_iff_getElem.mp hidx
      have hidata : (!c.data[i].height.isAuto) = true := by
        rw [get_eq_getElem] at hdata
        rw [hdata]
        rfl
      rw [Vec.eq_of_countP_le_one hone hj (hlen ▸ hi) hjdata hidata]
  have hleft : c.maxTileHeight - ((c.minSizes.eraseIdx i).map (·.h + c.options.gaps)).sum =
      c.heightForTiles - c.totalMinHeight + (⟨c.tiles[i], height⟩ : Slot Id).minHeight := by
    rw [sum_other_minHeights hi height, heightForTiles, totalGaps, maxTileHeight, extraSize,
      hdisplay]
    ring
  unfold maxNonAutoWindowHeight
  rw [if_pos ⟨by omega, by rw [hdisplay]; decide⟩, hfind]
  dsimp only
  rw [List.getElem?_eq_getElem hi, bind_eq_bind, bind_some, hleft]
  rfl

variable {data : TileData}

theorem tileHeight_auto {weight : ℚ} (h : data.height = .auto weight) (maxNonAuto : Option ℚ)
    (tile : Tile Id) : c.tileHeight maxNonAuto tile data = some (.auto weight) := by
  rw [tileHeight, h]

/-- A height of a window's own keeps to the room there is for it. -/
theorem tileHeight_nonAuto (h : data.height.isAuto = false) {maxNonAuto : ℚ}
    (hmax : maxNonAuto ∈ wholePixels) {tile : Tile Id} (hborder : tile.borderExtra ∈ wholePixels) :
    Ensures (c.tileHeight (some maxNonAuto) tile data) fun height =>
      ∃ h, height = .fixed h ∧ h ∈ wholePixels ∧ h ≤ tile.tileLengthForWindowLength maxNonAuto := by
  have hfixed (windowHeight : ℚ) (hwhole : windowHeight ∈ wholePixels) :
      tile.tileLengthForWindowLength (min windowHeight maxNonAuto) ∈ wholePixels ∧
        tile.tileLengthForWindowLength (min windowHeight maxNonAuto) ≤
          tile.tileLengthForWindowLength maxNonAuto :=
    ⟨add_mem (wholePixels.min hwhole hmax) hborder, add_le_add_left (min_le_right _ _) _⟩
  intro height hheight
  unfold tileHeight at hheight
  cases hdata : data.height with
  | auto weight =>
    rw [hdata] at h
    cases h
  | fixed own =>
    rw [hdata] at hheight
    cases hheight
    exact ⟨_, rfl, hfixed _ (wholePixels.max (wholePixels.intCast _) wholePixels.one)⟩
  | preset idx =>
    rw [hdata] at hheight
    obtain ⟨preset, -, hheight⟩ := bind_eq_some_iff.mp hheight
    cases hheight
    refine ⟨_, rfl, hfixed _ ?_⟩
    have hclamp : (100000 : ℚ) ∈ wholePixels := by
      simpa using wholePixels.intCast 100000
    exact wholePixels.max wholePixels.one (wholePixels.min (wholePixels.intCast _) hclamp)

/-- The heights of a column in normal display, tile by tile. -/
theorem givenHeights_normal {heights : List WindowHeight} (hdisplay : c.displayMode = .normal)
    (h : c.givenHeights = some heights) :
    ∃ maxNonAuto, c.maxNonAutoWindowHeight = some maxNonAuto ∧
      List.Forall₂ (fun td height => c.tileHeight maxNonAuto td.1 td.2 = some height)
        (c.tiles.zip c.data) heights := by
  obtain ⟨maxNonAuto, hmax, h⟩ := bind_eq_some_iff.mp h
  obtain ⟨heights', hheights, h⟩ := bind_eq_some_iff.mp h
  rw [hdisplay, if_neg (by decide)] at h
  cases h
  exact ⟨maxNonAuto, hmax, mapM_eq_some.mp hheights⟩

/-- What the windows are asked for makes up the heights of the slots. -/
theorem requested_of_ready {width : ℚ} {out : List (Slot Id)} {sizes : List ISize}
    (hall : List.Forall₂ (fun slot size => slotRequest width slot = some size) out sizes)
    (hready : ∀ slot ∈ out, slot.Ready) :
    List.zipWith (fun tile size => tile.tileLengthForWindowLength size.h) (out.map Slot.tile)
        sizes = out.filterMap Slot.fixedHeight ∧
      List.Forall₂ (fun tile height => max 1 tile.minSizeNonfullscreen.h ≤ height)
        (out.map Slot.tile) (out.filterMap Slot.fixedHeight) := by
  induction hall with
  | nil => exact ⟨rfl, .nil⟩
  | @cons slot size out sizes hslot _ ih =>
    obtain ⟨hrest, hrestMins⟩ := ih fun s hs => hready s (mem_cons_of_mem _ hs)
    have hslotReady := hready slot mem_cons_self
    obtain ⟨height, hheight, rfl⟩ := map_eq_some_iff.mp hslot
    have hfixed : slot.height = .fixed height := by
      unfold Slot.fixedHeight at hheight
      split at hheight
      · rename_i h hslotHeight
        rw [hslotHeight, some.inj hheight]
      · cases hheight
    obtain ⟨hwhole, hmin⟩ := hslotReady.fixed height hfixed
    have hmake := Tile.tileLength_requestTileSize width hslotReady.border hwhole
      (slot.one_add_borderExtra_le.trans hmin)
    rw [filterMap_cons_some hheight, map_cons, zipWith_cons_cons, hrest, hmake]
    refine ⟨rfl, .cons ?_ hrestMins⟩
    rw [max_comm]
    exact hmin

/-- The bounds of a slot whose height is its own: beyond its minimum, it has what the minimums
leave. -/
theorem slot_keepToBounds_own (hwhole : c.InWholePixels) (slot : Slot Id)
    (hborder : slot.tile.borderExtra ∈ wholePixels) (hdata : data.height.isAuto = false)
    (hheight : c.tileHeight (some (max (1 : ℚ) (roundHalfAway (slot.tile.windowLengthForTileLength
      (c.heightForTiles - c.totalMinHeight + slot.minHeight))))) slot.tile data =
        some slot.height) :
    slot.keepToBounds.Ready ∧ slot.keepToBounds.demand ≤
      slot.minHeight + if !false then max 0 (c.heightForTiles - c.totalMinHeight) else 0 := by
  have hmin := Slot.minHeight_whole hborder
  have hleft : c.heightForTiles - c.totalMinHeight + slot.minHeight ∈ wholePixels := by
    refine add_mem (sub_mem hwhole.heightForTiles ?_) hmin
    refine AddSubmonoid.list_sum_mem wholePixels.toAddSubmonoid fun height hheight => ?_
    obtain ⟨size, hsize, rfl⟩ := mem_map.mp hheight
    obtain ⟨tile, htile, rfl⟩ := mem_map.mp hsize
    have hborder := Tile.borderExtra_whole (hwhole.border tile htile)
    exact (Slot.minHeight_whole hborder : Slot.minHeight ⟨tile, .auto1⟩ ∈ wholePixels)
  obtain ⟨height, hfixed, hheightWhole, hle⟩ := tileHeight_nonAuto hdata
    (wholePixels.max wholePixels.one (wholePixels.intCast _)) hborder _ hheight
  constructor
  · refine Slot.ready_keepToBounds hborder ?_ ?_ ?_
    · intro idx hidx
      rw [hfixed] at hidx
      cases hidx
    · intro weight hweight
      rw [hfixed] at hweight
      cases hweight
    · intro height' hheight'
      rw [hfixed] at hheight'
      cases hheight'
      exact hheightWhole
  · have hdemand := Slot.demand_keepToBounds_fixed hfixed
    have hone := slot.one_add_borderExtra_le
    have hround := roundHalfAway_eq (sub_mem hleft hborder)
    have hnonneg := le_max_left 0 (c.heightForTiles - c.totalMinHeight)
    have hexcess := le_max_right 0 (c.heightForTiles - c.totalMinHeight)
    unfold Tile.tileLengthForWindowLength Tile.windowLengthForTileLength at hle
    rw [hround] at hle
    simp only [Bool.not_false, if_true]
    refine hdemand.trans (max_le (by linarith) (hle.trans ?_))
    rcases max_choice 1 (c.heightForTiles - c.totalMinHeight + slot.minHeight -
      slot.tile.borderExtra) with h | h
    · linarith
    · linarith

section Stacked

variable (hc : c.Shape strict) (hdisplay : c.displayMode = .normal) (htiles : 2 ≤ c.tiles.length)
  (hwhole : c.InWholePixels)
  (hweights : ∀ data ∈ c.data, ∀ weight, data.height = .auto weight → 0 < weight)

include hc hdisplay htiles hwhole hweights

variable {heights : List WindowHeight}

/-- What the bounds make of the slot of each tile: its demand is its minimum, and for the one
height that is a window's own, what the minimums leave. -/
theorem slot_keepToBounds (hheights : c.givenHeights = some heights) {i : ℕ}
    (hi : i < c.tiles.length) (hdata : i < c.data.length) (hheight : i < heights.length) :
    (⟨c.tiles[i], heights[i]⟩ : Slot Id).keepToBounds.Ready ∧
      (⟨c.tiles[i], heights[i]⟩ : Slot Id).keepToBounds.demand ≤
        (⟨c.tiles[i], heights[i]⟩ : Slot Id).minHeight +
          if !c.data[i].height.isAuto then max 0 (c.heightForTiles - c.totalMinHeight) else 0 := by
  obtain ⟨maxNonAuto, hmax, hall⟩ := givenHeights_normal hdisplay hheights
  have hget : c.tileHeight maxNonAuto c.tiles[i] c.data[i] = some heights[i] := by
    have hzip : i < (c.tiles.zip c.data).length := by
      rw [length_zip]
      omega
    simpa using hall.get hzip hheight
  have hborder : c.tiles[i].borderExtra ∈ wholePixels :=
    Tile.borderExtra_whole (hwhole.border _ (getElem_mem hi))
  cases hauto : c.data[i].height.isAuto with
  | true =>
    obtain ⟨weight, hweight⟩ := WindowHeight.exists_weight hauto
    rw [tileHeight_auto hweight] at hget
    rw [← some.inj hget]
    constructor
    · refine Slot.ready_keepToBounds hborder (fun idx hidx => by cases hidx) ?_
        fun height hheight => by cases hheight
      intro weight' hweight'
      exact hweights _ (getElem_mem hdata) weight' (hweight.trans hweight')
    · rw [Slot.demand_keepToBounds_auto rfl]
      simp
  | false =>
    have hroom := maxNonAutoWindowHeight_eq htiles hdisplay hc.length_data hc.one_fixed hi hauto
      heights[i]
    rw [hmax, some_inj] at hroom
    subst hroom
    exact slot_keepToBounds_own hwhole (⟨c.tiles[i], heights[i]⟩ : Slot Id)
      (hborder : c.tiles[i].borderExtra ∈ wholePixels) hauto hget

/-- The slots of the column, as its bounds leave them: they demand the minimums, or fit. -/
theorem slots_keepToBounds (hheights : c.givenHeights = some heights)
    (hcount : heights.length = c.tiles.length) :
    (∀ slot ∈ c.slots heights, slot.keepToBounds.Ready) ∧
      Slot.demands ((c.slots heights).map Slot.keepToBounds) ≤
        max c.heightForTiles c.totalMinHeight := by
  have hlen := hc.length_data
  have hslots : (c.slots heights).length = c.tiles.length := by
    rw [slots, length_zipWith, hcount, min_self]
  have hmin : (((c.slots heights).map Slot.keepToBounds).map Slot.minHeight).sum =
      c.totalMinHeight := by
    have hmap : ((c.slots heights).map Slot.keepToBounds).map Slot.minHeight =
        ((c.slots heights).map Slot.tile).map fun tile => max tile.minSizeNonfullscreen.h 1 := by
      rw [List.map_map, List.map_map]
      refine map_congr_left fun slot _ => ?_
      simp [Slot.minHeight]
    rw [hmap, slots_tiles hcount, totalMinHeight, minSizes, List.map_map]
    rfl
  constructor
  · intro slot hslot
    obtain ⟨i, hi, rfl⟩ := getElem_of_mem hslot
    have hready := (slot_keepToBounds hc hdisplay htiles hwhole hweights hheights
      (i := i) (by omega) (by omega) (by omega)).1
    simpa [slots] using hready
  · have hdemands : List.Forall₂ (fun data slot => Slot.demand slot ≤ Slot.minHeight slot +
        if !data.height.isAuto then max 0 (c.heightForTiles - c.totalMinHeight) else 0)
        c.data ((c.slots heights).map Slot.keepToBounds) := by
      refine List.forall₂_iff_get.mpr ⟨by rw [length_map, hslots, hlen], fun i hi hi' => ?_⟩
      have hle := (slot_keepToBounds hc hdisplay htiles hwhole hweights hheights
        (i := i) (by omega) hi (by omega)).2
      simpa [slots, Slot.minHeight] using hle
    refine (Slot.demands_le hdemands).trans ?_
    have hone : ((c.data.countP fun data => !data.height.isAuto : ℕ) : ℚ) ≤ 1 := by
      exact_mod_cast hc.one_fixed
    have hexcess := mul_le_mul_of_nonneg_right hone
      (le_max_left 0 (c.heightForTiles - c.totalMinHeight))
    rcases max_choice 0 (c.heightForTiles - c.totalMinHeight) with h | h
    · exact le_max_of_le_right (by linarith)
    · exact le_max_of_le_left (by linarith)

omit hc hdisplay hwhole hweights in
/-- One tile of two is automatic; unless its maximum holds it, it stays so. -/
theorem autos_slots_ne_zero (hdata : c.data.length = c.tiles.length) (hone : OneFixed c.data)
    (hfree : c.NoAutoAtMaximum) {maxNonAuto : Option ℚ}
    (hheights : List.Forall₂ (fun td height => c.tileHeight maxNonAuto td.1 td.2 = some height)
      (c.tiles.zip c.data) heights) : Slot.autos ((c.slots heights).map Slot.keepToBounds) ≠ 0 := by
  obtain ⟨data, hmem, hauto⟩ : ∃ data ∈ c.data, data.height.isAuto = true := by
    by_contra hnone
    push Not at hnone
    have hall : c.data.countP (fun data => !data.height.isAuto) = c.data.length :=
      countP_eq_length.mpr fun data hdata => by
        simpa using hnone data hdata
    unfold OneFixed at hone
    omega
  obtain ⟨i, hi, rfl⟩ := getElem_of_mem hmem
  obtain ⟨weight, hweight⟩ := WindowHeight.exists_weight hauto
  have hzip : i < (c.tiles.zip c.data).length := by
    rw [length_zip]
    omega
  have hlt : i < heights.length := hheights.length_eq ▸ hzip
  have hget : c.tileHeight maxNonAuto c.tiles[i] c.data[i] = some heights[i] := by
    simpa using hheights.get hzip hlt
  rw [tileHeight_auto hweight] at hget
  have hslot : (⟨c.tiles[i], heights[i]⟩ : Slot Id) ∈ c.slots heights := by
    refine mem_iff_getElem.mpr ⟨i, ?_, ?_⟩
    · rw [slots, length_zipWith]
      omega
    · simp [slots]
  have hheight : (⟨c.tiles[i], heights[i]⟩ : Slot Id).height = .auto weight :=
    (some.inj hget).symm
  have hexact : (⟨c.tiles[i], heights[i]⟩ : Slot Id).minHeight ≠
      (⟨c.tiles[i], heights[i]⟩ : Slot Id).maxHeight := by
    have htd : (c.tiles[i], c.data[i]) ∈ c.tiles.zip c.data :=
      mem_iff_getElem.mpr ⟨i, hzip, by simp⟩
    exact (hfree _ htd hauto).symm
  have hkept := mem_map_of_mem (f := Slot.keepToBounds) hslot
  rw [Slot.keepToBounds_of_auto hexact hheight] at hkept
  refine (countP_pos_iff.mpr ⟨_, hkept, ?_⟩).ne'
  rw [hheight]
  rfl

/-- **The heights of a column fit.**  The distribution of heights ends; every tile is asked for at
least its minimum height; with the gaps, the tiles take up no more than the working area, or than
their minimums where these are more; and they fill the working area to the pixel when the minimums
fit, and no automatic height is held to the maximum of its tile. -/
theorem requestedTileSizes_fit (hexpandable : c.Expandable) :
    Returns c.requestedTileSizes fun sizes =>
      sizes.length = c.tiles.length ∧
      List.Forall₂ (fun tile height => max 1 tile.minSizeNonfullscreen.h ≤ height) c.tiles
        (c.requestedTileHeights sizes) ∧
      (c.requestedTileHeights sizes).sum + c.totalGaps ≤
        max c.workingArea.size.h (c.totalMinHeight + c.totalGaps) ∧
      (c.NoAutoAtMaximum → c.totalMinHeight + c.totalGaps ≤ c.workingArea.size.h →
        (c.requestedTileHeights sizes).sum + c.totalGaps = c.workingArea.size.h) := by
  have hmode : c.pendingSizingMode = .normal := by
    by_contra hne
    rcases hexpandable hne with h | h
    · omega
    · rw [hdisplay] at h
      cases h
  obtain ⟨sizes, hsizes, width, heights, out, hheights, hcount, hresolved, hout, htilesOut, hall⟩ :=
    requestedNormalSizes_returns hc.length_data hc.tiles_ne hc.preset_height
  obtain ⟨maxNonAuto, -, hgiven⟩ := givenHeights_normal hdisplay hheights
  obtain ⟨hready, hdemands⟩ := slots_keepToBounds hc hdisplay htiles hwhole hweights hheights hcount
  have hslots : (c.slots heights).length = c.tiles.length := by
    rw [slots, length_zipWith, hcount, min_self]
  rw [← hslots] at hout
  obtain ⟨horeads, hsum, hfill⟩ :=
    Slot.distributeHeight_sum hready hwhole.heightForTiles out (by
      rw [heightForTiles, totalGaps, ← hslots]
      exact hout)
  obtain ⟨hrequested, hmins⟩ := requested_of_ready hall horeads
  rw [htilesOut] at hrequested hmins
  have htotal : (c.requestedTileHeights sizes).sum = Slot.taken out := by
    rw [requestedTileHeights, hrequested, Slot.taken]
  have harea : c.workingArea.size.h = c.heightForTiles + c.totalGaps := by
    rw [heightForTiles]
    ring
  have hrequests : c.requestedTileSizes = some sizes := by
    rw [requestedTileSizes, hmode]
    exact hsizes
  refine ⟨sizes, hrequests, ?_, ?_, ?_, ?_⟩
  · rw [← hall.length_eq, ← length_map Slot.tile, htilesOut]
  · rw [requestedTileHeights, hrequested]
    exact hmins
  · rw [htotal, harea, max_add_add_right]
    refine add_le_add_left ?_ _
    rcases hsum with h | h
    · rw [h]
      exact hdemands
    · rw [h]
      exact le_max_left _ _
  · intro hfree hfits
    have hminFits : c.totalMinHeight ≤ c.heightForTiles := by linarith
    rw [max_eq_left hminFits] at hdemands
    have hautos := autos_slots_ne_zero htiles hc.length_data hc.one_fixed hfree hgiven
    rw [htotal, harea, hfill hautos hdemands]

end Stacked

/-- A window with a minimum height. -/
def tallWindow (id : ℕ) (minHeight : ℤ) : Window ℕ where
  id := id
  parent := none
  state := ⟨⟨100, 100⟩, ⟨0, minHeight⟩, ⟨0, 0⟩, .normal, {}, false⟩
  pendingSizingMode := .normal

/-- Three windows: a height of 300, a minimum of 400 that its share falls short of, and the
rest. -/
def sharedColumn : Column ℕ :=
  let tile (id : ℕ) (minHeight : ℤ) : Tile ℕ :=
    .new (tallWindow id minHeight) ⟨1000, 800⟩ 1 Options.default
  { (newEmpty Options.default .normal ⟨1000, 800⟩ ⟨0, 0, ⟨1000, 800⟩⟩ ⟨0, 0, ⟨1000, 800⟩⟩ 1
      (.fixed 500) false : Column ℕ) with
    tiles := [tile 1 0, tile 2 400, tile 3 0]
    data := [⟨.fixed 300, ⟨100, 100⟩⟩, ⟨.auto 1, ⟨100, 100⟩⟩, ⟨.auto 2, ⟨100, 100⟩⟩] }

example : sharedColumn.requestedTileSizes = some [⟨500, 300⟩, ⟨500, 400⟩, ⟨500, 36⟩] := by
  decide +kernel

theorem sharedColumn_shape : sharedColumn.Shape True where
  tiles_ne := by decide
  active_lt := by decide
  cached := by decide +kernel
  one_fixed := by unfold OneFixed; decide
  lone_weight := fun _ data hdata => by cases hdata
  preset_width := fun i hi => by
    have hnone : sharedColumn.presetWidthIdx = none := by decide +kernel
    rw [hnone] at hi
    cases hi
  preset_height := fun data hdata idx hidx => by
    simp only [sharedColumn, mem_cons, not_mem_nil, or_false] at hdata
    rcases hdata with rfl | rfl | rfl <;> cases hidx
  tile_options := fun tile htile => by
    simp only [sharedColumn, mem_cons, not_mem_nil, or_false] at htile
    rcases htile with rfl | rfl | rfl <;> rfl
  indicator := rfl

theorem sharedColumn_fits :
    Returns sharedColumn.requestedTileSizes fun sizes =>
      sizes.length = sharedColumn.tiles.length ∧
      List.Forall₂ (fun tile height => max 1 tile.minSizeNonfullscreen.h ≤ height)
        sharedColumn.tiles (sharedColumn.requestedTileHeights sizes) ∧
      (sharedColumn.requestedTileHeights sizes).sum + sharedColumn.totalGaps ≤
        max sharedColumn.workingArea.size.h
          (sharedColumn.totalMinHeight + sharedColumn.totalGaps) ∧
      (sharedColumn.NoAutoAtMaximum →
        sharedColumn.totalMinHeight + sharedColumn.totalGaps ≤ sharedColumn.workingArea.size.h →
        (sharedColumn.requestedTileHeights sizes).sum + sharedColumn.totalGaps =
          sharedColumn.workingArea.size.h) := by
  have hwhole : sharedColumn.InWholePixels :=
    { workingHeight := wholePixels.intCast 800
      gaps := wholePixels.intCast 16
      border := fun tile htile => by
        simp only [sharedColumn, mem_cons, not_mem_nil, or_false] at htile
        rcases htile with rfl | rfl | rfl <;> exact wholePixels.intCast 4 }
  have hweights : ∀ data ∈ sharedColumn.data, ∀ weight,
      data.height = .auto weight → 0 < weight := by
    intro data hdata weight hweight
    simp only [sharedColumn, mem_cons, not_mem_nil, or_false] at hdata
    rcases hdata with rfl | rfl | rfl <;> cases hweight <;> norm_num
  exact requestedTileSizes_fit sharedColumn_shape rfl (by decide) hwhole hweights
    fun hmode => absurd rfl hmode

end Column

end Tiri.Layout
