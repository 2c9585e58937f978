import Tiri.Layout.Column
import Tiri.Lib.Ensures

/-!
# The invariant of a column

`Column.Inv` is `Column::verify_invariants` (`scrolling.rs`, lines 5404–5504) without the
clauses about requested sizes.  Each method is shown to keep it, together with a frame: which
windows the column holds, how wide it is, and which mode it is in.

Results:
* `updateTileSizes_inv`: requesting sizes brings every tile's pending mode in line;
* `Keeps`: the methods that keep the invariant and the frame, one lemma for each;
* `addTileAt_inv`, `removeTile_inv`, `newWithTile_inv`, `updateConfig_inv`: the methods that change
  the tiles.
-/

namespace Tiri.Layout

open Option List Function Ensures Vec

variable {Id : Type} {strict : Prop}

/-- What the moves of a tile never touch: which window it shows, and whether it floats again
after fullscreen. -/
def Tile.stamp (t : Tile Id) : Id × Bool := (t.id, t.restoreToFloating)

variable (t : Tile Id)

@[simp] theorem Tile.stamp_request (m : SizingMode) :
    (t.request m).stamp = t.stamp := rfl

@[simp] theorem Tile.stamp_updateConfig (v : Size) (s : ℚ) (o : Options) :
    (t.updateConfig v s o).stamp = t.stamp := rfl

@[simp] theorem Tile.stamp_commit (st : WindowState) :
    (t.commit st).stamp = t.stamp := rfl

@[simp] theorem Tile.stamp_updateWindow : t.updateWindow.stamp = t.stamp := rfl

namespace Column

variable (c : Column Id)

/-- The stamps of the tiles, from top to bottom. -/
def stamps : List (Id × Bool) := c.tiles.map Tile.stamp

theorem ids_eq_stamps : c.ids = c.stamps.map Prod.fst := by
  simp [ids, stamps, List.map_map, comp_def, Tile.stamp]

/-- At most one tile has a height of its own. -/
def OneFixed (data : List TileData) : Prop :=
  data.countP (fun d => !d.height.isAuto) ≤ 1

/-- The automatic height of a lone tile weighs 1. -/
def LoneWeight (data : List TileData) : Prop :=
  ∀ d, data = [d] → ∀ weight, d.height = .auto weight → weight = 1

/-- Every preset height is one of the presets. -/
def PresetsIn (presets : List PresetSize) (data : List TileData) : Prop :=
  ∀ d ∈ data, ∀ i, d.height = .preset i → i < presets.length

/-- The part of the invariant that does not depend on the pending mode.  The clause about lone
weights is included where `strict` holds: one operation can break it. -/
structure Shape (strict : Prop) (c : Column Id) : Prop where
  tiles_ne : c.tiles ≠ []
  active_lt : c.activeTileIdx < c.tiles.length
  cached : c.data.map TileData.size = c.tiles.map Tile.tileSize
  one_fixed : OneFixed c.data
  lone_weight : strict → LoneWeight c.data
  preset_width : ∀ i, c.presetWidthIdx = some i → i < c.options.presetColumnWidths.length
  preset_height : PresetsIn c.options.presetWindowHeights c.data
  tile_options : ∀ t ∈ c.tiles, t.options = c.options
  indicator : c.tabIndicator = c.options.tabIndicator

/-- A column that goes fullscreen or maximized shows one tile at a time. -/
def Expandable : Prop :=
  c.pendingSizingMode ≠ .normal → c.tiles.length = 1 ∨ c.displayMode = .tabbed

/-- The invariant of a column. -/
structure Inv (strict : Prop) (c : Column Id) : Prop extends Shape strict c where
  expandable : Expandable c
  pending : ∀ t ∈ c.tiles, t.window.pendingSizingMode = c.pendingSizingMode

/-- What an operation inside a column leaves as it was. -/
structure Frame (c c' : Column Id) : Prop where
  stamps : c'.stamps.Perm c.stamps
  actualWidth : c'.actualWidth = c.actualWidth
  sizingMode : c'.sizingMode = c.sizingMode
  options : c'.options = c.options

/-- The operation keeps the invariant and the frame. -/
def Keeps (strict : Prop) (f : Column Id → Option (Column Id)) : Prop :=
  ∀ c : Column Id, c.Inv strict → Ensures (f c) fun c' => c'.Inv strict ∧ c.Frame c'

theorem Frame.refl : c.Frame c := ⟨.refl _, rfl, rfl, rfl⟩

variable {c c' : Column Id} {data : List TileData} {tileIdx : ℕ}

theorem Frame.trans {c'' : Column Id} (h : c.Frame c') (h' : c'.Frame c'') : c.Frame c'' :=
  ⟨h'.stamps.trans h.stamps, h'.actualWidth.trans h.actualWidth,
    h'.sizingMode.trans h.sizingMode, h'.options.trans h.options⟩

theorem Shape.length_data (h : c.Shape strict) : c.data.length = c.tiles.length := by
  simpa using congrArg List.length h.cached

/-! ## Sizing modes and widths as functions of the tiles -/

theorem sizingMode_congr (h : c'.tiles.map Tile.sizingMode = c.tiles.map Tile.sizingMode) :
    c'.sizingMode = c.sizingMode := by
  have key : ∀ m : SizingMode, c'.tiles.any (·.sizingMode = m) = c.tiles.any (·.sizingMode = m) := by
    intro m
    have := congrArg (List.any · (fun x => decide (x = m))) h
    simpa [List.any_map, comp_def] using this
  unfold sizingMode
  rw [key, key]

/-- A column is out of normal sizing as long as one of its tiles is. -/
theorem sizingMode_eq_normal : c.sizingMode = .normal ↔ ∀ t ∈ c.tiles, t.sizingMode = .normal := by
  unfold sizingMode
  constructor
  · intro h t ht
    split_ifs at h with h1 h2
    simp only [List.any_eq_true, decide_eq_true_eq, not_exists, not_and] at h1 h2
    cases hm : t.sizingMode with
    | normal => rfl
    | maximized => exact absurd hm (h2 t ht)
    | fullscreen => exact absurd hm (h1 t ht)
  · intro h
    rw [if_neg, if_neg]
    · simp only [List.any_eq_true, decide_eq_true_eq, not_exists, not_and]
      intro t ht hm
      rw [h t ht] at hm
      cases hm
    · simp only [List.any_eq_true, decide_eq_true_eq, not_exists, not_and]
      intro t ht hm
      rw [h t ht] at hm
      cases hm

theorem actualWidth_congr (hsize : c'.data.map TileData.size = c.data.map TileData.size)
    (hmode : c'.sizingMode = c.sizingMode) (hlen : c'.tiles.length = c.tiles.length)
    (hdisplay : c'.displayMode = c.displayMode) (hind : c'.tabIndicator = c.tabIndicator)
    (hscale : c'.scale = c.scale) : c'.actualWidth = c.actualWidth := by
  have hw : c'.data.map (·.size.w) = c.data.map (·.size.w) := by
    simpa [List.map_map, comp_def] using congrArg (List.map Size.w) hsize
  unfold actualWidth
  rw [hw, hmode, hlen, hdisplay, hind, hscale]

/-- A column that holds tiles has a width. -/
theorem Shape.actualWidth_isSome (h : c.Shape strict) : c.actualWidth.isSome := by
  have hne : c.data.map (·.size.w) ≠ [] := by
    intro h0
    have hl := h.length_data
    rw [map_eq_nil_iff.mp h0] at hl
    exact h.tiles_ne (length_eq_zero_iff.mp hl.symm)
  obtain ⟨w, hw⟩ := isSome_iff_exists.mp (isSome_max?_of_ne_nil hne)
  unfold actualWidth
  rw [hw]
  split_ifs <;> rfl

/-! ## Requesting sizes -/

theorem updateTileSizes_eq (h : c.updateTileSizes = some c') :
    c' = { c with tiles := c.tiles.map (·.request c.pendingSizingMode) } := by
  unfold updateTileSizes at h
  split_ifs at h <;> exact (some.inj h).symm

/-- Requesting sizes brings the pending mode of every tile in line with the column's. -/
theorem updateTileSizes_shape (h : c.Shape strict) :
    Ensures c.updateTileSizes fun c' => c'.Shape strict ∧
      (∀ t ∈ c'.tiles, t.window.pendingSizingMode = c'.pendingSizingMode) ∧ c.Frame c' ∧
      c'.tiles.map Tile.stamp = c.tiles.map Tile.stamp := by
  intro c' hc'
  rw [updateTileSizes_eq hc']
  have hstamp : (c.tiles.map (·.request c.pendingSizingMode)).map Tile.stamp =
      c.tiles.map Tile.stamp := by
    simp [List.map_map, comp_def]
  have hmode : ({ c with tiles := c.tiles.map (·.request c.pendingSizingMode) } :
      Column Id).sizingMode = c.sizingMode :=
    sizingMode_congr (by simp [List.map_map, comp_def])
  refine ⟨⟨?_, ?_, ?_, h.one_fixed, h.lone_weight, h.preset_width, h.preset_height, ?_,
    h.indicator⟩, ?_, ⟨?_, ?_, hmode, rfl⟩, hstamp⟩
  · simpa using h.tiles_ne
  · simpa using h.active_lt
  · rw [h.cached]
    simp [List.map_map, comp_def]
  · intro t ht
    obtain ⟨u, hu, rfl⟩ := mem_map.mp ht
    exact h.tile_options u hu
  · intro t ht
    obtain ⟨u, hu, rfl⟩ := mem_map.mp ht
    rfl
  · exact List.Perm.of_eq hstamp
  · exact actualWidth_congr rfl hmode (by simp) rfl rfl rfl

/-- **Requesting sizes** establishes the invariant of a column that may be in its mode. -/
theorem updateTileSizes_inv (h : c.Shape strict) (he : c.Expandable) :
    Ensures c.updateTileSizes fun c' => c'.Inv strict ∧ c.Frame c' ∧
      c'.tiles.map Tile.stamp = c.tiles.map Tile.stamp := by
  refine ((updateTileSizes_shape h).and Ensures.self).mono ?_
  rintro c' ⟨⟨hshape, hpending, hframe, hstamp⟩, hc'⟩
  refine ⟨⟨hshape, ?_, hpending⟩, hframe, hstamp⟩
  rw [updateTileSizes_eq hc']
  intro hp
  simpa using he hp

/-- An operation that first changes the column within its shape, then requests sizes anew. -/
theorem updateTileSizes_keeps (c c₁ : Column Id) (h : c₁.Shape strict) (he : c₁.Expandable)
    (hframe : c.Frame c₁) :
    Ensures c₁.updateTileSizes fun c' => c'.Inv strict ∧ c.Frame c' :=
  (updateTileSizes_inv h he).mono fun _ hc' => ⟨hc'.1, hframe.trans hc'.2.1⟩

/-! ## Heights -/

theorem oneFixed_of_all_auto (h : ∀ d ∈ data, d.height.isAuto = true) : OneFixed data := by
  unfold OneFixed
  rw [countP_eq_zero.mpr]
  · omega
  · intro d hd
    simp [h d hd]

theorem presetsIn_of_all_auto (presets : List PresetSize) (h : ∀ d ∈ data, d.height.isAuto = true) :
    PresetsIn presets data := by
  intro d hd i hi
  have := h d hd
  rw [hi] at this
  cases this

/-- What the conversion of heights returns. -/
theorem convertHeightsToAuto_eq (h : c.convertHeightsToAuto = some c') :
    ∃ median, (c.tiles.map (·.tileSize.h)).mergeSort[c.tiles.length / 2]? = some median ∧
      c' = { c with
        data := Vec.zipUpdate (fun d height => { d with height := .auto (height / median) })
          c.data (c.tiles.map (·.tileSize.h)) } := by
  unfold convertHeightsToAuto at h
  simp only [bind_eq_bind, bind_eq_some_iff] at h
  obtain ⟨median, hmedian, h⟩ := h
  refine ⟨median, ?_, (some.inj h).symm⟩
  simpa using hmedian

/-- The column is one tile without height: its weight would be the quotient of zero by zero. -/
def Flat : Prop := ∃ t, c.tiles = [t] ∧ t.tileSize.h = 0

instance (c : Column Id) : Decidable c.Flat :=
  decidable_of_iff (c.tiles.length = 1 ∧ ∀ t ∈ c.tiles, t.tileSize.h = 0) <| by
    unfold Flat
    constructor
    · rintro ⟨hlen, hzero⟩
      obtain ⟨t, ht⟩ := length_eq_one_iff.mp hlen
      exact ⟨t, ht, hzero t (by simp [ht])⟩
    · rintro ⟨t, ht, hzero⟩
      simp [ht, hzero]

/-- After the conversion all heights are automatic, and the cached sizes are the same; the
weight of a lone tile is 1, unless the tile has no height. -/
theorem convertHeightsToAuto_spec (hcached : c.data.map TileData.size = c.tiles.map Tile.tileSize) :
    Ensures c.convertHeightsToAuto fun c' => ∃ data,
      c' = { c with data := data } ∧ data.map TileData.size = c.data.map TileData.size ∧
        (∀ d ∈ data, d.height.isAuto = true) ∧ (¬c.Flat → LoneWeight data) := by
  intro c' hc'
  obtain ⟨median, hmedian, rfl⟩ := convertHeightsToAuto_eq hc'
  have hlen : c.data.length = c.tiles.length := by simpa using congrArg List.length hcached
  refine ⟨_, rfl, ?_, ?_, ?_⟩
  · apply map_zipUpdate
    intro d height
    rfl
  · intro d hd
    obtain ⟨d', -, height, -, rfl⟩ := mem_zipUpdate (by simp [hlen]) hd
    rfl
  · intro hflat d hd weight hweight
    have hone : c.tiles.length = 1 := by
      have := congrArg List.length hd
      simpa [hlen] using this
    obtain ⟨t, ht⟩ := length_eq_one_iff.mp hone
    obtain ⟨d', hd'⟩ := length_eq_one_iff.mp (hlen.trans hone)
    have hpos : t.tileSize.h ≠ 0 := fun h0 => hflat ⟨t, ht, h0⟩
    simp only [ht, map_cons, map_nil, mergeSort_singleton, length_singleton,
      Nat.reduceDiv, List.getElem?_cons_zero, some.injEq] at hmedian
    subst hmedian
    simp only [ht, hd', map_cons, map_nil, zipUpdate_cons, List.cons.injEq] at hd
    rw [← hd.1] at hweight
    simp only [WindowHeight.auto.injEq] at hweight
    rw [← hweight, div_self hpos]

/-! ## Methods that keep the tiles -/

theorem pendingSizingMode_ne_normal :
    c.pendingSizingMode ≠ .normal ↔ c.isPendingFullscreen = true ∨ c.isPendingMaximized = true := by
  unfold pendingSizingMode
  cases c.isPendingFullscreen <;> cases c.isPendingMaximized <;> simp

theorem expandable_iff :
    c.Expandable ↔ (c.isPendingFullscreen = true ∨ c.isPendingMaximized = true →
      c.tiles.length = 1 ∨ c.displayMode = .tabbed) := by
  unfold Expandable
  rw [pendingSizingMode_ne_normal]

/-- Activating a tile of the column. -/
theorem activateIdx_inv (h : c.Inv strict) (idx : ℕ) :
    Ensures (c.activateIdx idx) fun p => p.1.Inv strict ∧ c.Frame p.1 ∧ p.1.tiles = c.tiles := by
  refine Ensures.ite (fun _ => ?_) fun _ => Ensures.ite (fun hlt => ?_) fun _ => of_none
  · exact of_some ⟨h, Frame.refl c, rfl⟩
  · exact of_some ⟨⟨⟨h.tiles_ne, hlt, h.cached, h.one_fixed, h.lone_weight,
      h.preset_width, h.preset_height, h.tile_options, h.indicator⟩, h.expandable, h.pending⟩,
      ⟨.refl _, rfl, rfl, rfl⟩, rfl⟩

/-- Activating a tile, without the answer whether it changed. -/
theorem activateIdx_keeps (idx : Column Id → Option ℕ) :
    Keeps strict fun c : Column Id => do
      let i ← idx c
      let (c', _) ← c.activateIdx i
      return c' := by
  intro c hc
  refine Ensures.self.bind fun i _ => (activateIdx_inv hc i).bind fun p hp => ?_
  exact of_pure ⟨hp.1, hp.2.1⟩

theorem activateWindow_keeps [DecidableEq Id] (window : Id) :
    Keeps strict fun c : Column Id => c.activateWindow window :=
  activateIdx_keeps fun c => c.position window

theorem focusIndex_keeps (index : ℕ) : Keeps strict fun c : Column Id => c.focusIndex index := by
  intro c hc
  refine Ensures.self.bind fun last _ => (activateIdx_inv hc _).bind fun p hp => ?_
  exact of_pure ⟨hp.1, hp.2.1⟩

theorem focusTop_keeps : Keeps strict (focusTop : Column Id → _) := by
  intro c hc
  exact (activateIdx_inv hc 0).bind fun p hp => of_pure ⟨hp.1, hp.2.1⟩

theorem focusBottom_keeps : Keeps strict (focusBottom : Column Id → _) :=
  activateIdx_keeps fun c => Vec.lastIdx c.tiles

theorem focusUp_inv (hc : c.Inv strict) : Ensures c.focusUp fun p => p.1.Inv strict ∧ c.Frame p.1 :=
  (activateIdx_inv hc _).mono fun _ hp => ⟨hp.1, hp.2.1⟩

theorem focusDown_inv (hc : c.Inv strict) :
    Ensures c.focusDown fun p => p.1.Inv strict ∧ c.Frame p.1 :=
  Ensures.self.bind fun _ _ => (activateIdx_inv hc _).mono fun _ hp => ⟨hp.1, hp.2.1⟩

theorem loneWeight_of_perm {data' : List TileData} (hp : data'.Perm data) (h : LoneWeight data) :
    LoneWeight data' := by
  intro d hd weight hweight
  rw [hd] at hp
  exact h d (singleton_perm.mp hp).symm weight hweight

/-- Exchanging two tiles of the column, with their data. -/
theorem moveTo_inv (h : c.Inv strict) (newIdx : ℕ) :
    Ensures (c.moveTo newIdx) fun p => p.1.Inv strict ∧ c.Frame p.1 := by
  refine Ensures.ite (fun _ => of_pure ⟨h, Frame.refl c⟩) fun _ => ?_
  refine Ensures.self.bind fun tiles htiles => Ensures.self.bind fun data hdata => ?_
  have hpt := swap_perm htiles
  have hpd := swap_perm hdata
  have hcached : data.map TileData.size = tiles.map Tile.tileSize := by
    have h1 := swap_map TileData.size c.data c.activeTileIdx newIdx
    have h2 := swap_map Tile.tileSize c.tiles c.activeTileIdx newIdx
    rw [hdata] at h1
    rw [htiles] at h2
    rw [h.cached, h2] at h1
    exact (some.inj h1).symm
  have hmode : ({ c with tiles := tiles, data := data, activeTileIdx := newIdx } :
      Column Id).sizingMode = c.sizingMode := by
    unfold sizingMode
    simp only [any_eq, hpt.mem_iff]
  refine of_pure ⟨⟨⟨?_, ?_, hcached, ?_,
    fun hs => loneWeight_of_perm hpd (h.lone_weight hs), h.preset_width, ?_, ?_, h.indicator⟩, ?_, ?_⟩, ⟨hpt.map _, ?_, hmode, rfl⟩⟩
  · rintro rfl
    exact h.tiles_ne hpt.nil_eq.symm
  · change newIdx < tiles.length
    rw [hpt.length_eq]
    exact (swap_lt htiles).2
  · unfold OneFixed
    rw [hpd.countP_eq]
    exact h.one_fixed
  · intro d hd
    exact h.preset_height d (hpd.mem_iff.mp hd)
  · intro t ht
    exact h.tile_options t (hpt.mem_iff.mp ht)
  · intro hp
    change tiles.length = 1 ∨ _
    rw [hpt.length_eq]
    exact h.expandable hp
  · intro t ht
    exact h.pending t (hpt.mem_iff.mp ht)
  · have hw : (data.map (·.size.w)).max? = (c.data.map (·.size.w)).max? :=
      Vec.max?_perm (hpd.map _)
    unfold actualWidth
    rw [hmode]
    simp only [hw, hpt.length_eq]

theorem moveUp_inv (hc : c.Inv strict) : Ensures c.moveUp fun p => p.1.Inv strict ∧ c.Frame p.1 :=
  moveTo_inv hc _

theorem moveDown_inv (hc : c.Inv strict) :
    Ensures c.moveDown fun p => p.1.Inv strict ∧ c.Frame p.1 :=
  Ensures.self.bind fun _ _ => moveTo_inv hc _

/-! ## Widths -/

/-- Clearing the maximized flag leaves the column expandable. -/
theorem Expandable.of_flags {c₁ : Column Id} (h : c.Expandable)
    (hf : c₁.isPendingFullscreen = c.isPendingFullscreen)
    (hm : c₁.isPendingMaximized = true → c.isPendingMaximized = true)
    (hlen : c₁.tiles.length = c.tiles.length) (hd : c₁.displayMode = c.displayMode) :
    c₁.Expandable := by
  rw [expandable_iff] at h ⊢
  rw [hf, hlen, hd]
  rintro (h1 | h1)
  · exact h (.inl h1)
  · exact h (.inr (hm h1))

/-- `set_column_width` keeps the invariant; it forgets the preset. -/
theorem setColumnWidth_inv (h : c.Inv strict) (change : SizeChange) (tileIdx : Option ℕ) :
    Ensures (c.setColumnWidth change tileIdx) fun c' => c'.Inv strict ∧ c.Frame c' := by
  refine Ensures.self.bind fun width _ => updateTileSizes_keeps c _ ?_ ?_ ?_
  · exact ⟨h.tiles_ne, h.active_lt, h.cached, h.one_fixed, h.lone_weight,
      (fun i hi => by cases hi), h.preset_height, h.tile_options, h.indicator⟩
  · exact h.expandable.of_flags rfl (fun hm => by cases hm) rfl rfl
  · exact ⟨.refl _, actualWidth_congr rfl rfl rfl rfl rfl rfl, rfl, rfl⟩

variable {presets : List PresetSize}

theorem nearestPreset_lt {larger smaller : PresetSize → Bool} (hne : presets ≠ [])
    (forwards : Bool) : nearestPreset larger smaller presets forwards < presets.length := by
  have hpos : 0 < presets.length := length_pos_of_ne_nil hne
  unfold nearestPreset
  split_ifs
  · cases h : presets.findIdx? larger with
    | none => exact hpos
    | some i => exact position_lt h
  · cases h : Vec.rposition smaller presets with
    | none =>
      change presets.length - 1 < presets.length
      omega
    | some i => exact rposition_lt h

theorem cyclePreset_lt {len : ℕ} (hpos : 0 < len) (idx : ℕ) (forwards : Bool) :
    cyclePreset len idx forwards < len :=
  Nat.mod_lt _ hpos

/-- Recording a preset that exists. -/
theorem Inv.withPresetWidth (h : c.Inv strict) {i : ℕ}
    (hi : i < c.options.presetColumnWidths.length) :
    ({ c with presetWidthIdx := some i } : Column Id).Inv strict :=
  ⟨⟨h.tiles_ne, h.active_lt, h.cached, h.one_fixed, h.lone_weight,
    fun j hj => by cases hj; exact hi, h.preset_height, h.tile_options, h.indicator⟩,
    h.expandable, h.pending⟩

theorem toggleWidth_inv (h : c.Inv strict) (tileIdx : Option ℕ) (forwards : Bool)
    (expected : Option ISize) :
    Ensures (c.toggleWidth tileIdx forwards expected) fun c' => c'.Inv strict ∧ c.Frame c' := by
  refine Ensures.self.bind fun presetIdx _ => Ensures.self.bind fun preset hpreset => ?_
  refine (setColumnWidth_inv h _ _).bind fun c' hc' => of_pure ⟨?_, ?_⟩
  · apply hc'.1.withPresetWidth
    rw [hc'.2.options]
    exact (List.getElem?_eq_some_iff.mp hpreset).1
  · exact hc'.2.trans ⟨.refl _, rfl, rfl, rfl⟩

theorem toggleFullWidth_inv (h : c.Inv strict) :
    Ensures c.toggleFullWidth fun c' => c'.Inv strict ∧ c.Frame c' := by
  refine Ensures.ite (fun _ => updateTileSizes_keeps c _ ?_ ?_ ?_) fun _ =>
    updateTileSizes_keeps c _ ?_ ?_ ?_
  · exact ⟨h.tiles_ne, h.active_lt, h.cached, h.one_fixed, h.lone_weight, h.preset_width,
      h.preset_height, h.tile_options, h.indicator⟩
  · exact h.expandable.of_flags rfl (fun hm => by cases hm) rfl rfl
  · exact ⟨.refl _, rfl, rfl, rfl⟩
  · exact ⟨h.tiles_ne, h.active_lt, h.cached, h.one_fixed, h.lone_weight, h.preset_width,
      h.preset_height, h.tile_options, h.indicator⟩
  · exact h.expandable
  · exact ⟨.refl _, rfl, rfl, rfl⟩

/-! ## Heights of single tiles -/

/-- Before a tile gets a height of its own: its siblings' heights are automatic.  The weight of
a lone tile may be off in between, because the height is about to be overwritten. -/
structure HeightReady (c c₁ : Column Id) (tileIdx : ℕ) : Prop where
  same : ∃ data, c₁ = { c with data := data }
  sizes : c₁.data.map TileData.size = c.data.map TileData.size
  others_auto : ∀ l d r, c₁.data = l ++ d :: r → l.length = tileIdx →
    ∀ e, e ∈ l ∨ e ∈ r → e.height.isAuto = true
  presets : PresetsIn c.options.presetWindowHeights c₁.data

section

variable (h : c.Inv strict)
include h

theorem prepareHeightChange_spec (tileIdx : ℕ) :
    Ensures (c.prepareHeightChange tileIdx) fun c₁ => HeightReady c c₁ tileIdx := by
  refine Ensures.self.bind fun d hd => Ensures.ite (fun _ => ?_) fun hauto => of_some ?_
  · refine (convertHeightsToAuto_spec h.cached).mono ?_
    rintro c₁ ⟨data, rfl, hsize, hall, -⟩
    refine ⟨⟨data, rfl⟩, hsize, ?_, presetsIn_of_all_auto _ hall⟩
    intro l d' r hsplit _ e he
    have hsplit : data = l ++ d' :: r := hsplit
    exact hall e (by rw [hsplit]; rcases he with he | he <;> simp [he])
  · refine ⟨⟨c.data, rfl⟩, rfl, ?_, h.preset_height⟩
    -- The tile has the only height of its own, so the others have automatic ones.
    intro l d' r hsplit hl e he
    have hd' : d' = d := by
      rw [hsplit, ← hl, Vec.getElem?_append_length] at hd
      exact some.inj hd
    have hcount := h.one_fixed
    unfold OneFixed at hcount
    rw [hsplit, countP_append, countP_cons, hd'] at hcount
    simp only [hauto, Bool.not_false, if_true] at hcount
    have hl0 : l.countP (fun d => !d.height.isAuto) = 0 := by omega
    have hr0 : r.countP (fun d => !d.height.isAuto) = 0 := by omega
    rcases he with he | he
    · simpa using countP_eq_zero.mp hl0 e he
    · simpa using countP_eq_zero.mp hr0 e he

/-- Giving one tile a height of its own, which must be a preset that exists if it is one. -/
theorem assignHeight_inv {c₁ : Column Id} (hr : HeightReady c c₁ tileIdx) {height : WindowHeight}
    (hfix : height.isAuto = false)
    (hpreset : ∀ i, height = .preset i → i < c.options.presetWindowHeights.length) :
    Ensures (c₁.assignHeight tileIdx height) fun c' => c'.Inv strict ∧ c.Frame c' := by
  obtain ⟨data₁, rfl⟩ := hr.same
  refine Ensures.self.bind fun data hdata => ?_
  obtain ⟨l, d, d', r, hsplit, hl, hd', rfl⟩ := modifyAt_eq_some.mp hdata
  cases hd'
  simp only at hsplit
  have hothers := hr.others_auto l d r hsplit hl
  have hsizes : (l ++ { d with height := height } :: r).map TileData.size =
      c.data.map TileData.size := by
    rw [← hr.sizes]
    simp [hsplit]
  refine updateTileSizes_keeps c _ ?_ ?_ ?_
  · refine ⟨h.tiles_ne, h.active_lt, hsizes.trans h.cached, ?_, ?_, h.preset_width, ?_,
      h.tile_options, h.indicator⟩
    · have hl0 : l.countP (fun d => !d.height.isAuto) = 0 :=
        countP_eq_zero.mpr fun e he => by simp [hothers e (.inl he)]
      have hr0 : r.countP (fun d => !d.height.isAuto) = 0 :=
        countP_eq_zero.mpr fun e he => by simp [hothers e (.inr he)]
      unfold OneFixed
      rw [countP_append, countP_cons, hl0, hr0]
      split_ifs <;> omega
    · -- A lone tile has this height, which is not automatic.
      intro _ e he weight hweight
      have hmem : ({ d with height := height } : TileData) ∈ [e] := by rw [← he]; simp
      rw [mem_singleton] at hmem
      rw [← hmem] at hweight
      simp only at hweight
      rw [hweight] at hfix
      cases hfix
    · intro e he i hi
      rw [mem_append, mem_cons] at he
      rcases he with he | rfl | he
      · exact hr.presets e (by simp [hsplit, he]) i hi
      · exact hpreset i hi
      · exact hr.presets e (by simp [hsplit, he]) i hi
  · exact h.expandable.of_flags rfl (fun hm => by cases hm) rfl rfl
  · exact ⟨.refl _, actualWidth_congr hsizes rfl rfl rfl rfl rfl, rfl, rfl⟩

theorem setWindowHeight_inv (change : SizeChange) (tileIdx : Option ℕ) :
    Ensures (c.setWindowHeight change tileIdx) fun c' => c'.Inv strict ∧ c.Frame c' := by
  refine (prepareHeightChange_spec h _).bind fun c₁ hc₁ => Ensures.self.bind fun _ _ =>
    Ensures.self.bind fun _ _ => ?_
  exact assignHeight_inv h hc₁ rfl fun i hi => by cases hi

theorem toggleWindowHeight_inv (tileIdx : Option ℕ) (forwards : Bool) :
    Ensures (c.toggleWindowHeight tileIdx forwards) fun c' => c'.Inv strict ∧ c.Frame c' := by
  refine (prepareHeightChange_spec h _).bind fun c₁ hc₁ => Ensures.self.bind fun data _ =>
    Ensures.self.bind fun tile _ => ?_
  refine assignHeight_inv h hc₁ rfl fun i hi => ?_
  obtain ⟨data₁, rfl⟩ := hc₁.same
  have hpos : 0 < c.options.presetWindowHeights.length :=
    length_pos_of_ne_nil c.options.presetWindowHeights_ne
  simp only [WindowHeight.preset.injEq] at hi
  rw [← hi]
  cases data.height with
  | auto | fixed => exact nearestPreset_lt c.options.presetWindowHeights_ne _
  | preset idx =>
    split_ifs
    · exact nearestPreset_lt c.options.presetWindowHeights_ne _
    · exact cyclePreset_lt hpos _ _

theorem resetWindowHeight_inv (tileIdx : Option ℕ) :
    Ensures (c.resetWindowHeight tileIdx) fun c' => c'.Inv strict ∧ c.Frame c' := by
  refine Ensures.ite (fun _ => ?_) fun _ => Ensures.self.bind fun data hdata => ?_
  · have hall : ∀ d ∈ c.data.map ({ · with height := .auto1 }), d.height = .auto1 := by
      intro d hd
      obtain ⟨e, -, rfl⟩ := mem_map.mp hd
      rfl
    have hsizes : (c.data.map ({ · with height := .auto1 })).map TileData.size =
        c.data.map TileData.size := by
      simp [List.map_map, comp_def]
    refine updateTileSizes_keeps c _ ?_ ?_ ?_
    · refine ⟨h.tiles_ne, h.active_lt, hsizes.trans h.cached,
        oneFixed_of_all_auto fun d hd => by rw [hall d hd]; rfl, ?_, h.preset_width,
        presetsIn_of_all_auto _ fun d hd => by rw [hall d hd]; rfl, h.tile_options, h.indicator⟩
      intro _ d hd weight hweight
      have hd : c.data.map ({ · with height := .auto1 }) = [d] := hd
      rw [hall d (by rw [hd]; simp)] at hweight
      exact (WindowHeight.auto.inj hweight).symm
    · exact h.expandable
    · exact ⟨.refl _, actualWidth_congr hsizes rfl rfl rfl rfl rfl, rfl, rfl⟩
  · obtain ⟨l, d, d', r, hsplit, hl, hd', rfl⟩ := modifyAt_eq_some.mp hdata
    cases hd'
    have hsizes : (l ++ { d with height := .auto1 } :: r).map TileData.size =
        c.data.map TileData.size := by
      simp [hsplit]
    refine updateTileSizes_keeps c _ ?_ ?_ ?_
    · refine ⟨h.tiles_ne, h.active_lt, hsizes.trans h.cached, ?_, ?_, h.preset_width, ?_,
        h.tile_options, h.indicator⟩
      · have := h.one_fixed
        unfold OneFixed at this ⊢
        rw [hsplit] at this
        simp only [countP_append, countP_cons, WindowHeight.auto1,
          WindowHeight.isAuto] at this ⊢
        simp only [Bool.not_true, Bool.false_eq_true, if_false]
        omega
      · intro _ e he weight hweight
        have hmem : ({ d with height := .auto1 } : TileData) ∈ [e] := by rw [← he]; simp
        rw [mem_singleton] at hmem
        rw [← hmem] at hweight
        exact (WindowHeight.auto.inj hweight).symm
      · intro e he i hi
        rw [mem_append, mem_cons] at he
        rcases he with he | rfl | he
        · exact h.preset_height e (by simp [hsplit, he]) i hi
        · cases hi
        · exact h.preset_height e (by simp [hsplit, he]) i hi
    · exact h.expandable
    · exact ⟨.refl _, actualWidth_congr hsizes rfl rfl rfl rfl rfl, rfl, rfl⟩

/-! ## Fullscreen, maximized and the display mode -/

/-- Other pending modes, and the sizes for them. -/
theorem setPending_inv {fullscreen maximized : Bool}
    (hexpands : fullscreen = true ∨ maximized = true → c.tiles.length = 1 ∨ c.displayMode = .tabbed) :
    Ensures ({ c with isPendingFullscreen := fullscreen, isPendingMaximized := maximized } :
        Column Id).updateTileSizes fun c' => c'.Inv strict ∧ c.Frame c' ∧
      c'.isPendingFullscreen = fullscreen ∧ c'.isPendingMaximized = maximized := by
  refine ((updateTileSizes_keeps c _ (?_ : Shape strict _) (expandable_iff.mpr hexpands) ?_).and
    Ensures.self).mono ?_
  · exact ⟨h.tiles_ne, h.active_lt, h.cached, h.one_fixed, h.lone_weight, h.preset_width,
      h.preset_height, h.tile_options, h.indicator⟩
  · exact ⟨.refl _, rfl, rfl, rfl⟩
  · rintro c' ⟨⟨hinv, hframe⟩, hc'⟩
    refine ⟨hinv, hframe, ?_⟩
    rw [updateTileSizes_eq hc']
    exact ⟨rfl, rfl⟩

omit h in
/-- The same, whatever the column looks like. -/
theorem setPending_shape (h : c.Shape strict) (fullscreen maximized : Bool) :
    Ensures ({ c with isPendingFullscreen := fullscreen, isPendingMaximized := maximized } :
        Column Id).updateTileSizes fun c' => c'.Shape strict ∧
      (∀ t ∈ c'.tiles, t.window.pendingSizingMode = c'.pendingSizingMode) ∧ c.Frame c' ∧
      c'.isPendingFullscreen = fullscreen ∧ c'.isPendingMaximized = maximized := by
  refine ((updateTileSizes_shape (?_ : Shape strict _)).and Ensures.self).mono ?_
  · exact ⟨h.tiles_ne, h.active_lt, h.cached, h.one_fixed, h.lone_weight, h.preset_width,
      h.preset_height, h.tile_options, h.indicator⟩
  · rintro c' ⟨⟨hshape, hpending, hframe, -⟩, hc'⟩
    refine ⟨hshape, hpending, ⟨hframe.stamps, hframe.actualWidth, hframe.sizingMode,
      hframe.options⟩, ?_⟩
    rw [updateTileSizes_eq hc']
    exact ⟨rfl, rfl⟩

theorem setFullscreen_inv (isFullscreen : Bool) :
    Ensures (c.setFullscreen isFullscreen) fun c' =>
      c'.Inv strict ∧ c.Frame c' ∧ c'.isPendingFullscreen = isFullscreen ∧
        c'.isPendingMaximized = c.isPendingMaximized := by
  have he := expandable_iff.mp h.expandable
  refine Ensures.ite (fun heq => of_some ⟨h, Frame.refl c, heq, rfl⟩) fun _ =>
    Ensures.ite (fun _ => of_none) fun hassert => setPending_inv h ?_
  rintro (hf | hm)
  · by_contra hno
    exact hassert ⟨hf, hno⟩
  · exact he (.inr hm)

theorem setMaximized_inv (maximize : Bool) :
    Ensures (c.setMaximized maximize) fun c' =>
      c'.Inv strict ∧ c.Frame c' ∧ c'.isPendingMaximized = maximize ∧
        c'.isPendingFullscreen = c.isPendingFullscreen := by
  have he := expandable_iff.mp h.expandable
  refine Ensures.ite (fun heq => of_some ⟨h, Frame.refl c, heq, rfl⟩) fun _ =>
    Ensures.ite (fun _ => of_none) fun hassert => (setPending_inv h ?_).mono
      fun c' hc' => ⟨hc'.1, hc'.2.1, hc'.2.2.2, hc'.2.2.1⟩
  rintro (hf | hm)
  · exact he (.inl hf)
  · by_contra hno
    exact hassert ⟨hm, hno⟩

end

/-- A mode can be left whatever the column looks like. -/
theorem setFullscreen_false (h : c.Shape strict)
    (hp : ∀ t ∈ c.tiles, t.window.pendingSizingMode = c.pendingSizingMode) :
    Ensures (c.setFullscreen false) fun c' => c'.Shape strict ∧
      (∀ t ∈ c'.tiles, t.window.pendingSizingMode = c'.pendingSizingMode) ∧ c.Frame c' ∧
      c'.isPendingFullscreen = false ∧ c'.isPendingMaximized = c.isPendingMaximized :=
  Ensures.ite (fun heq => of_some ⟨h, hp, Frame.refl c, heq, rfl⟩) fun _ =>
    Ensures.ite (fun hassert => by cases hassert.1) fun _ => setPending_shape h false _

theorem setMaximized_false (h : c.Shape strict)
    (hp : ∀ t ∈ c.tiles, t.window.pendingSizingMode = c.pendingSizingMode) :
    Ensures (c.setMaximized false) fun c' => c'.Shape strict ∧
      (∀ t ∈ c'.tiles, t.window.pendingSizingMode = c'.pendingSizingMode) ∧ c.Frame c' ∧
      c'.isPendingMaximized = false ∧ c'.isPendingFullscreen = c.isPendingFullscreen :=
  Ensures.ite (fun heq => of_some ⟨h, hp, Frame.refl c, heq, rfl⟩) fun _ =>
    Ensures.ite (fun hassert => by cases hassert.1) fun _ => (setPending_shape h _ false).mono
      fun c' hc' => ⟨hc'.1, hc'.2.1, hc'.2.2.1, hc'.2.2.2.2, hc'.2.2.2.1⟩

/-! ## Tiles in and out -/

/-- A tile joins the column: the mode of a normal column ends, and the new tile's height is
automatic. -/
theorem addTileAt_inv (h : c.Inv strict) (idx : ℕ) (tile : Tile Id) :
    Ensures (c.addTileAt idx tile) fun c' =>
      c'.Inv strict ∧ c'.stamps.Perm (tile.stamp :: c.stamps) ∧ c'.options = c.options ∧
        c'.tiles.length = c.tiles.length + 1 ∧ idx ≤ c.tiles.length ∧
        c'.activeTileIdx = c.activeTileIdx ∧
        (c.sizingMode ≠ .normal → c'.sizingMode ≠ .normal) := by
  refine Ensures.self.bind fun data hdata => Ensures.self.bind fun tiles htiles => ?_
  obtain ⟨l, r, hlr, hl, rfl⟩ := insertAt_eq_some.mp htiles
  obtain ⟨dl, dr, hdlr, hdl, rfl⟩ := insertAt_eq_some.mp hdata
  have hsplit : dl.map TileData.size = l.map Tile.tileSize ∧
      dr.map TileData.size = r.map Tile.tileSize := by
    have hcached := h.cached
    rw [hlr, hdlr, map_append, map_append] at hcached
    exact append_inj hcached (by simp [hl, hdl])
  have hne : r ≠ [] ∨ l ≠ [] := by
    by_contra hno
    simp only [ne_eq, not_or, not_not] at hno
    exact h.tiles_ne (by rw [hlr, hno.1, hno.2]; rfl)
  refine (((updateTileSizes_inv (?_ : Shape strict _) ?_).and Ensures.self).mono ?_)
  · refine ⟨by simp, ?_, ?_, ?_, ?_, h.preset_width, ?_, ?_, h.indicator⟩
    · have hlt := h.active_lt
      rw [hlr] at hlt
      simp only [length_append, length_cons] at hlt ⊢
      omega
    · simp [hsplit.1, hsplit.2, TileData.new]
    · have hone := h.one_fixed
      unfold OneFixed at hone ⊢
      rw [hdlr] at hone
      simpa [TileData.new, WindowHeight.auto1, WindowHeight.isAuto] using hone
    · -- The column has at least two tiles now.
      intro _ d hd
      have hlen := congrArg List.length hd
      have h2 := congrArg List.length hsplit.2
      simp only [length_map, length_append, length_cons, length_nil] at *
      have : l.length = 0 ∧ r.length = 0 := by omega
      rw [length_eq_zero_iff, length_eq_zero_iff] at this
      rcases hne with hne | hne
      · exact absurd this.2 hne
      · exact absurd this.1 hne
    · intro d hd i hi
      rw [mem_append, mem_cons] at hd
      rcases hd with hd | rfl | hd
      · exact h.preset_height d (by simp [hdlr, hd]) i hi
      · cases hi
      · exact h.preset_height d (by simp [hdlr, hd]) i hi
    · intro t ht
      rw [mem_append, mem_cons] at ht
      rcases ht with ht | rfl | ht
      · exact h.tile_options t (by simp [hlr, ht])
      · rfl
      · exact h.tile_options t (by simp [hlr, ht])
  · rw [expandable_iff]
    by_cases hd : c.displayMode = .tabbed
    · exact fun _ => .inr hd
    · simp [hd]
  · rintro c' ⟨⟨hinv, hframe, hstamps⟩, hc'⟩
    refine ⟨hinv, ?_, hframe.options, ?_, by simp [hlr, hl], by rw [updateTileSizes_eq hc'], ?_⟩
    · rw [stamps, hstamps]
      simp only [map_append, map_cons, Tile.stamp_updateConfig, stamps, hlr]
      exact perm_middle
    · have := congrArg List.length hstamps
      simp only [length_map, length_append, length_cons, hlr] at this ⊢
      omega
    · intro hmode hnormal
      rw [hframe.sizingMode, sizingMode_eq_normal] at hnormal
      refine hmode (sizingMode_eq_normal.mpr fun t ht => hnormal t ?_)
      rw [hlr, mem_append] at ht
      rw [mem_append, mem_cons]
      tauto

/-- The tile a new column starts from, in the geometry of its space. -/
def firstTile (tile : Tile Id) (viewSize : Size) (scale : ℚ) : Tile Id :=
  tile.updateConfig viewSize scale tile.options

/-- The first tile joins a column that has none. -/
theorem addFirstTile_inv (strict : Prop) (tile : Tile Id) (display : ColumnDisplay) (viewSize : Size)
    (workingArea parentArea : Rectangle) (scale : ℚ) (width : ColumnWidth)
    (isFullWidth : Bool) :
    Ensures ((newEmpty tile.options display viewSize workingArea parentArea scale width
        isFullWidth).addTileAt 0 tile) fun c =>
      c.Inv strict ∧ c.stamps = [tile.stamp] ∧ c.options = tile.options ∧
        c.isPendingFullscreen = false ∧ c.isPendingMaximized = false ∧
        c.tiles.map Tile.tileSize = [(firstTile tile viewSize scale).tileSize] := by
  refine Ensures.self.bind fun data hdata => Ensures.self.bind fun tiles htiles => ?_
  cases hdata
  cases htiles
  refine (((updateTileSizes_inv (?_ : Shape strict _) ?_).and Ensures.self).mono ?_)
  · refine ⟨by simp, by simp [newEmpty], rfl, ?_, ?_, ?_, ?_, ?_, rfl⟩
    · exact oneFixed_of_all_auto (by simp [newEmpty, TileData.new, WindowHeight.auto1,
        WindowHeight.isAuto])
    · intro _ d hd weight hweight
      cases hd
      exact (WindowHeight.auto.inj hweight).symm
    · intro i hi
      exact position_lt hi
    · exact presetsIn_of_all_auto _ (by simp [newEmpty, TileData.new, WindowHeight.auto1,
        WindowHeight.isAuto])
    · intro t ht
      simp only [newEmpty, insertIdx_zero, mem_singleton] at ht
      rw [ht]
      rfl
  · exact fun _ => .inl rfl
  · rintro c ⟨⟨hinv, hframe, hstamps⟩, hc⟩
    refine ⟨hinv, hstamps, hframe.options, ?_⟩
    rw [updateTileSizes_eq hc]
    exact ⟨ite_self _, ite_self _, rfl⟩

/-- **A new column** holds its one tile and takes over the mode pending on it. -/
theorem newWithTile_inv (strict : Prop) (tile : Tile Id) (viewSize : Size)
    (workingArea parentArea : Rectangle) (scale : ℚ) (width : ColumnWidth) (isFullWidth : Bool) :
    Ensures (newWithTile tile viewSize workingArea parentArea scale width isFullWidth) fun c =>
      c.Inv strict ∧ c.stamps = [tile.stamp] ∧ c.options = tile.options ∧
        c.pendingSizingMode = tile.window.pendingSizingMode ∧
        (c.Flat → (firstTile tile viewSize scale).tileSize.h = 0) := by
  refine (addFirstTile_inv strict tile _ viewSize workingArea parentArea scale width
    isFullWidth).bind fun rv hrv => ?_
  obtain ⟨hinv, hstamps, hopts, hf, hm, hsizes⟩ := hrv
  have hflat : ∀ c : Column Id, c.data.map TileData.size = rv.data.map TileData.size → c.Shape strict →
      c.Flat → (firstTile tile viewSize scale).tileSize.h = 0 := by
    rintro c hsame hc ⟨t, ht, h0⟩
    have := hc.cached
    rw [hsame, hinv.cached, hsizes, ht] at this
    simp only [map_cons, map_nil, List.cons.injEq, and_true] at this
    rw [this, h0]
  have hstamps' : ∀ c : Column Id, rv.Frame c → c.stamps = [tile.stamp] := by
    intro c hframe
    have := hframe.stamps
    rw [hstamps] at this
    exact perm_singleton.mp this
  cases hmode : tile.window.pendingSizingMode with
  | normal =>
    refine of_pure ⟨hinv, hstamps, hopts, ?_, hflat rv rfl hinv.toShape⟩
    simp [pendingSizingMode, hf, hm]
  | maximized =>
    refine ((setMaximized_inv hinv true).and Ensures.self).mono ?_
    rintro c ⟨⟨hc, hframe, hcm, hcf⟩, hself⟩
    refine ⟨hc, hstamps' c hframe, hframe.options.trans hopts, ?_, hflat c ?_ hc.toShape⟩
    · simp [pendingSizingMode, hcm, hcf, hf]
    · unfold setMaximized at hself
      rw [if_neg (by simp [hm])] at hself
      split_ifs at hself
      rw [updateTileSizes_eq hself]
  | fullscreen =>
    refine ((setFullscreen_inv hinv true).and Ensures.self).mono ?_
    rintro c ⟨⟨hc, hframe, hcf, hcm⟩, hself⟩
    refine ⟨hc, hstamps' c hframe, hframe.options.trans hopts, ?_, hflat c ?_ hc.toShape⟩
    · simp [pendingSizingMode, hcf]
    · unfold setFullscreen at hself
      rw [if_neg (by simp [hf])] at hself
      split_ifs at hself
      rw [updateTileSizes_eq hself]

/-! ## Configuration changes -/

/-- The change of options recomputes the heights of a lone tile that has none. -/
def ConvertsFlat (options : Options) : Prop :=
  c.options.presetWindowHeights ≠ options.presetWindowHeights ∧ c.Flat

instance (c : Column Id) (options : Options) : Decidable (c.ConvertsFlat options) :=
  inferInstanceAs (Decidable (_ ∧ _))

section

variable (h : c.Inv strict)
include h

/-- The first steps of `update_config`: a changed list of presets drops what refers to it. -/
theorem dropPresets_spec (options : Options) (hflat : strict → ¬c.ConvertsFlat options) :
    Ensures (c.dropPresets options) fun c₂ => ∃ presetWidthIdx data,
        c₂ = { c with presetWidthIdx := presetWidthIdx, data := data } ∧
        data.map TileData.size = c.data.map TileData.size ∧ OneFixed data ∧
        (strict → LoneWeight data) ∧
        (∀ i, presetWidthIdx = some i → i < options.presetColumnWidths.length) ∧
        PresetsIn options.presetWindowHeights data := by
  have hwidth : ∃ presetWidthIdx,
      (if c.options.presetColumnWidths ≠ options.presetColumnWidths then
        { c with presetWidthIdx := none } else c) =
        { c with presetWidthIdx := presetWidthIdx } ∧
      ∀ i, presetWidthIdx = some i → i < options.presetColumnWidths.length := by
    split_ifs with hw
    · exact ⟨none, rfl, fun i hi => by cases hi⟩
    · refine ⟨c.presetWidthIdx, rfl, ?_⟩
      rw [not_not] at hw
      rw [← hw]
      exact h.preset_width
  obtain ⟨presetWidthIdx, hc₁, hlt⟩ := hwidth
  unfold dropPresets
  simp only [hc₁]
  refine Ensures.ite (fun hne => ?_) fun heq => of_some ?_
  · have hcached : ({ c with presetWidthIdx := presetWidthIdx } : Column Id).data.map
        TileData.size = c.tiles.map Tile.tileSize := h.cached
    refine (convertHeightsToAuto_spec hcached).mono ?_
    rintro c₂ ⟨data, rfl, hsize, hauto, hlone⟩
    exact ⟨presetWidthIdx, data, rfl, hsize, oneFixed_of_all_auto hauto,
      fun hs => hlone fun hf => hflat hs ⟨hne, hf⟩, hlt, presetsIn_of_all_auto _ hauto⟩
  · rw [not_not] at heq
    refine ⟨presetWidthIdx, c.data, rfl, rfl, h.one_fixed, h.lone_weight, hlt, ?_⟩
    rw [← heq]
    exact h.preset_height

variable (viewSize : Size) (workingArea parentArea : Rectangle) (scale : ℚ)

/-- Everything but the stamps and the pending modes of the tiles may change. -/
theorem applyConfig_shape (options : Options) {presetWidthIdx : Option ℕ}
    (hsize : data.map TileData.size = c.data.map TileData.size) (hone : OneFixed data)
    (hlone : strict → LoneWeight data)
    (hwidth : ∀ i, presetWidthIdx = some i → i < options.presetColumnWidths.length)
    (hpresets : PresetsIn options.presetWindowHeights data) :
    (applyConfig { c with presetWidthIdx := presetWidthIdx, data := data } viewSize workingArea
      parentArea scale options).Shape strict := by
  have hlen : c.tiles.length = data.length := by
    have := congrArg List.length hsize
    simp only [length_map] at this
    rw [this, h.length_data]
  have htiles : Vec.zipUpdate (fun tile _ => tile.updateConfig viewSize scale options) c.tiles
      data = c.tiles.map (·.updateConfig viewSize scale options) :=
    zipUpdate_eq_map _ hlen
  have hheights : ∀ tiles : List (Tile Id),
      (Vec.zipUpdate (fun data tile => data.update tile) data tiles).map TileData.height =
        data.map TileData.height := by
    apply map_zipUpdate
    intro d t
    rfl
  unfold applyConfig
  simp only [htiles]
  refine ⟨by simpa using h.tiles_ne, by simpa using h.active_lt, ?_, ?_, ?_, hwidth, ?_, ?_, rfl⟩
  · apply map_zipUpdate_right
    · intro d t
      rfl
    · simp [hlen]
  · have hcount := congrArg (List.countP fun height => !height.isAuto) (hheights
      (c.tiles.map (·.updateConfig viewSize scale options)))
    simp only [countP_map, comp_def] at hcount
    unfold OneFixed
    rw [hcount]
    exact hone
  · intro hs d hd weight hweight
    have hh := hheights (c.tiles.map (·.updateConfig viewSize scale options))
    rw [show Vec.zipUpdate (fun data tile => data.update tile) data
      (c.tiles.map (·.updateConfig viewSize scale options)) = [d] from hd] at hh
    obtain ⟨e, rfl⟩ : ∃ e, data = [e] :=
      length_eq_one_iff.mp (by simpa using (congrArg List.length hh).symm)
    simp only [map_cons, map_nil, List.cons.injEq, and_true] at hh
    exact hlone hs e rfl weight (by rw [← hh]; exact hweight)
  · intro d hd i hi
    have hmem : d.height ∈ data.map TileData.height := by
      rw [← hheights (c.tiles.map (·.updateConfig viewSize scale options))]
      exact mem_map_of_mem hd
    obtain ⟨e, he, heq⟩ := mem_map.mp hmem
    exact hpresets e he i (by rw [heq, hi])
  · intro t ht
    obtain ⟨u, -, rfl⟩ := mem_map.mp ht
    rfl

/-- **A configuration change** keeps the invariant, unless it recomputes the heights of a lone
tile that has none. -/
theorem updateConfig_inv (options : Options) (hflat : strict → ¬c.ConvertsFlat options) :
    Ensures (c.updateConfig viewSize workingArea parentArea scale options) fun c' =>
      c'.Inv strict ∧ c'.stamps = c.stamps ∧ c'.options = options ∧
        c'.sizingMode = c.sizingMode ∧ c'.pendingSizingMode = c.pendingSizingMode := by
  refine (dropPresets_spec h options hflat).bind ?_
  rintro c₂ ⟨presetWidthIdx, data, rfl, hsize, hone, hlone, hwidth, hpresets⟩
  have hshape := applyConfig_shape h viewSize workingArea parentArea scale options hsize hone
    hlone hwidth hpresets
  have hlen : c.tiles.length = data.length := by
    have := congrArg List.length hsize
    simp only [length_map] at this
    rw [this, h.length_data]
  have htiles : (applyConfig { c with presetWidthIdx := presetWidthIdx, data := data } viewSize
      workingArea parentArea scale options).tiles =
        c.tiles.map (·.updateConfig viewSize scale options) :=
    zipUpdate_eq_map _ hlen
  have hexp : (applyConfig { c with presetWidthIdx := presetWidthIdx, data := data } viewSize
      workingArea parentArea scale options).Expandable :=
    h.expandable.of_flags rfl id (by rw [htiles, length_map]) rfl
  have hmode : (applyConfig { c with presetWidthIdx := presetWidthIdx, data := data } viewSize
      workingArea parentArea scale options).sizingMode = c.sizingMode :=
    sizingMode_congr (by rw [htiles]; simp [List.map_map, comp_def])
  have hstamps : (applyConfig { c with presetWidthIdx := presetWidthIdx, data := data } viewSize
      workingArea parentArea scale options).tiles.map Tile.stamp = c.stamps := by
    rw [htiles]
    simp [stamps, List.map_map, comp_def]
  refine Ensures.ite (fun _ => ?_) fun _ => of_some ?_
  · refine ((updateTileSizes_inv hshape hexp).and Ensures.self).mono ?_
    rintro c' ⟨⟨hinv, hframe, hst⟩, hc'⟩
    refine ⟨hinv, hst.trans hstamps, hframe.options, hframe.sizingMode.trans hmode, ?_⟩
    rw [updateTileSizes_eq hc']
    rfl
  · refine ⟨⟨hshape, hexp, ?_⟩, hstamps, rfl, hmode, rfl⟩
    intro t ht
    rw [htiles] at ht
    obtain ⟨u, hu, rfl⟩ := mem_map.mp ht
    exact h.pending u hu

/-- The display mode changes; the mode has to end if the column is normal and holds more than
one tile, which is left to the caller. -/
theorem setColumnDisplay_inv (display : ColumnDisplay) :
    Ensures (c.setColumnDisplay display) fun c' => c'.Shape strict ∧
      c'.stamps = c.stamps ∧ c'.options = c.options ∧ c'.sizingMode = c.sizingMode ∧
      c'.displayMode = display ∧
      (∀ t ∈ c'.tiles, t.window.pendingSizingMode = c'.pendingSizingMode) := by
  refine Ensures.ite (fun heq => of_some ?_) fun _ => ?_
  · exact ⟨h.toShape, rfl, rfl, rfl, heq, h.pending⟩
  · intro c' hc'
    rw [updateTileSizes_eq hc']
    have hmode : ({ c with
        displayMode := display
        tiles := c.tiles.map (·.request c.pendingSizingMode) } : Column Id).sizingMode =
          c.sizingMode :=
      sizingMode_congr (by simp [List.map_map, comp_def])
    refine ⟨⟨by simpa using h.tiles_ne, by simpa using h.active_lt, ?_, h.one_fixed,
      h.lone_weight, h.preset_width, h.preset_height, ?_, h.indicator⟩, ?_, rfl, hmode, rfl, ?_⟩
    · rw [show _ = _ from h.cached]
      simp [List.map_map, comp_def]
    · intro t ht
      obtain ⟨u, hu, rfl⟩ := mem_map.mp ht
      exact h.tile_options u hu
    · simp [stamps, List.map_map, comp_def]
    · intro t ht
      obtain ⟨u, hu, rfl⟩ := mem_map.mp ht
      rfl

end

/-- What is left of the invariant while a column of several tiles that is no longer tabbed may
still be fullscreen or maximized. -/
structure Loose (strict : Prop) (c c' : Column Id) : Prop where
  shape : c'.Shape strict
  pending : ∀ t ∈ c'.tiles, t.window.pendingSizingMode = c'.pendingSizingMode
  stamps : c'.stamps.Perm c.stamps
  options : c'.options = c.options
  sizingMode : c'.sizingMode = c.sizingMode

namespace Loose

variable {c c' : Column Id}

section

variable (h : c.Loose strict c')
include h

theorem inv (he : c'.Expandable) : c'.Inv strict := ⟨h.shape, he, h.pending⟩

theorem trans_frame {c'' : Column Id} (hs : c''.Shape strict)
    (hp : ∀ t ∈ c''.tiles, t.window.pendingSizingMode = c''.pendingSizingMode) (hf : c'.Frame c'') :
    c.Loose strict c'' :=
  ⟨hs, hp, hf.stamps.trans h.stamps, hf.options.trans h.options,
    hf.sizingMode.trans h.sizingMode⟩

theorem updateTileSizes :
    Ensures c'.updateTileSizes fun c'' => c.Loose strict c'' ∧ c''.actualWidth = c'.actualWidth :=
  (updateTileSizes_shape h.shape).mono fun _ hc =>
    ⟨h.trans_frame hc.1 hc.2.1 hc.2.2.1, hc.2.2.1.actualWidth⟩

/-- Leaving fullscreen; the windows stay. -/
theorem setFullscreen_false {window : Id} (hmem : window ∈ c'.ids) :
    Ensures (c'.setFullscreen false) fun c'' =>
      (c.Loose strict c'' ∧ c''.isPendingFullscreen = false ∧ window ∈ c''.ids) ∧
        c''.actualWidth.isSome := by
  refine (Column.setFullscreen_false h.shape h.pending).mono fun c'' hc => ?_
  obtain ⟨hs, hp, hf, hfull, -⟩ := hc
  refine ⟨⟨h.trans_frame hs hp hf, hfull, ?_⟩, hs.actualWidth_isSome⟩
  rw [ids_eq_stamps] at hmem ⊢
  exact (hf.stamps.map Prod.fst).mem_iff.mpr hmem

/-- Leaving maximized. -/
theorem setMaximized_false :
    Ensures (c'.setMaximized false) fun c'' =>
      (c.Loose strict c'' ∧ c''.isPendingMaximized = false ∧
        c''.isPendingFullscreen = c'.isPendingFullscreen) ∧ c''.actualWidth.isSome :=
  (Column.setMaximized_false h.shape h.pending).mono fun _ hc =>
    ⟨⟨h.trans_frame hc.1 hc.2.1 hc.2.2.1, hc.2.2.2⟩, hc.1.actualWidth_isSome⟩

end

end Loose

/-! ## Removing a tile -/

theorem activateAfterRemoval_eq (h : c.activateAfterRemoval tileIdx = some c') :
    c' = { c with activeTileIdx := c'.activeTileIdx } ∧
      (c.activeTileIdx ≤ c.tiles.length → tileIdx ≤ c.tiles.length → c.tiles ≠ [] →
        c'.activeTileIdx < c.tiles.length) := by
  have hpos : c.tiles ≠ [] → 0 < c.tiles.length := length_pos_of_ne_nil
  unfold activateAfterRemoval at h
  split_ifs at h with h1 h2
  · cases h
    exact ⟨rfl, fun _ _ hne => by have := hpos hne; dsimp only; omega⟩
  · obtain ⟨p, hp, rfl⟩ := map_eq_some_iff.mp h
    unfold activateIdx at hp
    split_ifs at hp with h3 h4
    · cases hp
      exact ⟨rfl, fun _ _ hne => by have := hpos hne; dsimp only; omega⟩
    · cases hp
      exact ⟨rfl, fun _ _ _ => h4⟩
  · cases h
    exact ⟨rfl, fun _ _ hne => by have := hpos hne; omega⟩

theorem resetLoneWeight_sizes (data : List TileData) :
    (resetLoneWeight data).map TileData.size = data.map TileData.size := by
  unfold resetLoneWeight
  split
  · split_ifs <;> rfl
  · rfl

theorem resetLoneWeight_lone (data : List TileData) : LoneWeight (resetLoneWeight data) := by
  intro d hd weight hweight
  unfold resetLoneWeight at hd
  split at hd
  · split_ifs at hd with hauto
    · cases hd
      exact (WindowHeight.auto.inj hweight).symm
    · cases hd
      rw [hweight] at hauto
      exact absurd rfl hauto
  · next hne => exact absurd hd (hne d)

theorem resetLoneWeight_oneFixed (h : OneFixed data) : OneFixed (resetLoneWeight data) := by
  unfold resetLoneWeight
  split
  · unfold OneFixed
    rw [countP_singleton]
    split_ifs <;> omega
  · exact h

theorem resetLoneWeight_presets (h : PresetsIn presets data) :
    PresetsIn presets (resetLoneWeight data) := by
  unfold resetLoneWeight
  split
  · intro d hd i hi
    rw [mem_singleton] at hd
    split_ifs at hd with hauto
    · rw [hd] at hi
      cases hi
    · rw [hd] at hi
      exact h _ (by simp) i hi
  · exact h

/-- **A tile leaves a column** that holds others. -/
theorem removeTile_inv (h : c.Inv strict) (tileIdx : ℕ) (hlen : c.tiles.length ≠ 1) :
    Ensures (c.removeTile tileIdx) fun p =>
      p.2.Inv strict ∧ c.stamps.Perm (p.1.stamp :: p.2.stamps) ∧ p.2.options = c.options ∧
        p.1 ∈ c.tiles ∧ p.2.tiles.length + 1 = c.tiles.length := by
  refine Ensures.self.bind fun p hp => Ensures.self.bind fun q hq =>
    Ensures.self.bind fun c₁ hc₁ => ?_
  obtain ⟨tile, tiles⟩ := p
  obtain ⟨d, data⟩ := q
  obtain ⟨l, r, hlr, hl, rfl⟩ := removeAt_eq_some.mp hp
  obtain ⟨dl, dr, hdlr, hdl, rfl⟩ := removeAt_eq_some.mp hq
  have hcached : (dl ++ dr).map TileData.size = (l ++ r).map Tile.tileSize := by
    have hc := h.cached
    rw [hlr, hdlr] at hc
    simp only [map_append, map_cons] at hc
    obtain ⟨h1, h2⟩ := append_inj hc (by simp [hl, hdl])
    rw [map_append, map_append, h1, (List.cons.inj h2).2]
  have hne : l ++ r ≠ [] := by
    intro h0
    apply hlen
    have := congrArg List.length h0
    simp only [length_append, length_nil] at this
    rw [hlr]
    simp only [length_append, length_cons]
    omega
  have hidx : tileIdx ≤ (l ++ r).length := by
    rw [← hl]
    simp
  have hact : c.activeTileIdx ≤ (l ++ r).length := by
    have := h.active_lt
    rw [hlr] at this
    simp only [length_append, length_cons] at this ⊢
    omega
  obtain ⟨hc₁eq, hc₁lt⟩ := activateAfterRemoval_eq hc₁
  have hsub : ∀ t, t ∈ l ++ r → t ∈ c.tiles := by
    intro t ht
    rw [hlr]
    rw [mem_append] at ht
    rw [mem_append, mem_cons]
    tauto
  refine ((updateTileSizes_inv (c := c₁) (?_ : Shape strict _) ?_).and Ensures.self).bind ?_
  · rw [hc₁eq]
    refine ⟨hne, hc₁lt hact hidx hne, (resetLoneWeight_sizes _).trans hcached,
      resetLoneWeight_oneFixed ?_, fun _ => resetLoneWeight_lone _, h.preset_width,
      resetLoneWeight_presets ?_, fun t ht => h.tile_options t (hsub t ht), h.indicator⟩
    · have hone := h.one_fixed
      unfold OneFixed at hone ⊢
      rw [hdlr] at hone
      simp only [countP_append, countP_cons] at hone ⊢
      omega
    · intro e he i hi
      refine h.preset_height e ?_ i hi
      rw [hdlr]
      rw [mem_append] at he
      rw [mem_append, mem_cons]
      tauto
  · rw [hc₁eq, expandable_iff]
    intro hp
    rcases expandable_iff.mp h.expandable hp with h1 | h1
    · exact absurd h1 hlen
    · exact .inr h1
  · rintro c' ⟨⟨hinv, hframe, hst⟩, hc'⟩
    have hopt : c₁.options = c.options := by rw [hc₁eq]
    have htiles : c₁.tiles = l ++ r := by rw [hc₁eq]
    refine of_pure ⟨hinv, ?_, hframe.options.trans hopt, by simp [hlr], ?_⟩
    · rw [show c'.stamps = _ from hst, htiles]
      simp only [stamps, hlr, map_append, map_cons]
      exact perm_middle
    · have := congrArg List.length hst
      simp only [length_map, htiles] at this
      rw [this, hlr]
      simp only [length_append, length_cons]
      omega

/-! ## A window's commit -/

theorem position_eq_ids [DecidableEq Id] (c : Column Id) (window : Id) :
    c.position window = c.ids.findIdx? (· = window) := by
  unfold position ids
  rw [List.findIdx?_map]
  rfl

variable {window : Id}

theorem commitWindow_eq [DecidableEq Id] {state : WindowState}
    (hpos : c.position window = some tileIdx) (h : c.commitWindow window tileIdx state = some c') :
    ∃ l t r dl d dr, c.tiles = l ++ t :: r ∧ c.data = dl ++ d :: dr ∧ l.length = tileIdx ∧
      dl.length = tileIdx ∧ c' = { c with
        tiles := l ++ (t.commit state).updateWindow :: r
        data := dl ++ d.update (t.commit state).updateWindow :: dr } := by
  unfold commitWindow at h
  simp only [bind_eq_bind, bind_eq_some_iff] at h
  obtain ⟨tiles, htiles, h⟩ := h
  obtain ⟨l, t, t', r, hlr, hl, ht, rfl⟩ := modifyAt_eq_some.mp htiles
  cases ht
  have hpos' : ({ c with tiles := l ++ t.commit state :: r } : Column Id).position window =
      some tileIdx := by
    rw [position_eq_ids] at hpos ⊢
    rw [← hpos]
    simp [ids, hlr]
  unfold updateWindow at h
  simp only [hpos', bind_eq_bind, bind_some, bind_eq_some_iff] at h
  obtain ⟨tiles₁, htiles₁, t₁, ht₁, data, hdata, h⟩ := h
  obtain ⟨l₁, u, u', r₁, hlr₁, hl₁, hu, rfl⟩ := modifyAt_eq_some.mp htiles₁
  cases hu
  obtain ⟨rfl, hrest⟩ := append_inj hlr₁ (hl.trans hl₁.symm)
  obtain ⟨rfl, rfl⟩ := List.cons.inj hrest
  rw [← hl, Vec.getElem?_append_length] at ht₁
  cases ht₁
  obtain ⟨dl, d, d', dr, hdlr, hdl, hd, rfl⟩ := modifyAt_eq_some.mp hdata
  cases hd
  exact ⟨l, t, r, dl, d, dr, hlr, hdlr, hl, hdl, (some.inj h).symm⟩

/-- A commit keeps the invariant: the cached size of the tile is brought up to date. -/
theorem commitWindow_inv [DecidableEq Id] (h : c.Inv strict) (state : WindowState)
    (hpos : c.position window = some tileIdx) :
    Ensures (c.commitWindow window tileIdx state) fun c' =>
      c'.Inv strict ∧ c'.stamps = c.stamps ∧ c'.options = c.options ∧
        c'.pendingSizingMode = c.pendingSizingMode := by
  intro c' hc'
  obtain ⟨l, t, r, dl, d, dr, hlr, hdlr, hl, hdl, rfl⟩ := commitWindow_eq hpos hc'
  have hcached : dl.map TileData.size = l.map Tile.tileSize ∧
      dr.map TileData.size = r.map Tile.tileSize := by
    have hc := h.cached
    rw [hlr, hdlr] at hc
    simp only [map_append, map_cons] at hc
    obtain ⟨h1, h2⟩ := append_inj hc (by simp [hl, hdl])
    exact ⟨h1, (List.cons.inj h2).2⟩
  have hheight : (d.update (t.commit state).updateWindow).height = d.height := rfl
  refine ⟨⟨⟨by simp, ?_, ?_, ?_, ?_, h.preset_width, ?_, ?_, h.indicator⟩, ?_, ?_⟩, ?_, rfl, rfl⟩
  · have := h.active_lt
    rw [hlr] at this
    simpa using this
  · simp [hcached.1, hcached.2, TileData.update]
  · have hone := h.one_fixed
    unfold OneFixed at hone ⊢
    rw [hdlr] at hone
    simpa [countP_append, countP_cons, hheight] using hone
  · intro hs e he weight hweight
    have hlen := congrArg List.length he
    simp only [length_append, length_cons, length_nil] at hlen
    obtain ⟨rfl, rfl⟩ : dl = [] ∧ dr = [] :=
      ⟨length_eq_zero_iff.mp (by omega), length_eq_zero_iff.mp (by omega)⟩
    cases he
    exact h.lone_weight hs d (by rw [hdlr]; rfl) weight hweight
  · intro e he i hi
    rw [mem_append, mem_cons] at he
    rcases he with he | rfl | he
    · exact h.preset_height e (by simp [hdlr, he]) i hi
    · exact h.preset_height d (by simp [hdlr]) i hi
    · exact h.preset_height e (by simp [hdlr, he]) i hi
  · intro u hu
    rw [mem_append, mem_cons] at hu
    rcases hu with hu | rfl | hu
    · exact h.tile_options u (by simp [hlr, hu])
    · exact h.tile_options t (by simp [hlr])
    · exact h.tile_options u (by simp [hlr, hu])
  · refine h.expandable.of_flags rfl id ?_ rfl
    simp [hlr]
  · intro u hu
    rw [mem_append, mem_cons] at hu
    rcases hu with hu | rfl | hu
    · exact h.pending u (by simp [hlr, hu])
    · exact h.pending t (by simp [hlr])
    · exact h.pending u (by simp [hlr, hu])
  · simp [stamps, hlr]

end Column

end Tiri.Layout
