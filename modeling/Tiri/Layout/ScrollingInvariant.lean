import Tiri.Layout.ColumnInvariant
import Tiri.Layout.Scrolling

/-!
# The invariant of the scrolling space

`ScrollingSpace.Inv` is `ScrollingSpace::verify_invariants` (`scrolling.rs`, lines 3797–3842)
together with the invariant of every column and the uniqueness of the window ids.  The
primitive operations are treated one by one; each lemma also says what happens to the windows,
as a permutation of their stamps.

Results:
* `activateColumn_inv`, `modifyColumn_inv`, `cancelResize_inv`: no window moves;
* `addColumn_inv`, `addTile_inv`, `addTileToColumn_inv`: windows are added;
* `removeColumnByIdx_inv`, `removeTileByIdx_inv`: windows are removed.
-/

namespace Tiri.Layout

open Option List Ensures Vec Column

variable {Id : Type} {strict : Prop}

namespace ScrollingSpace

variable (s : ScrollingSpace Id)

/-- The stamps of the tiles, column by column. -/
def stamps : List (Id × Bool) := s.columns.flatMap Column.stamps

theorem ids_eq_stamps : s.ids = s.stamps.map Prod.fst := by
  unfold ids stamps
  rw [map_flatMap]
  exact flatMap_congr fun c _ => c.ids_eq_stamps

/-- The invariant of the scrolling space. -/
structure Inv (strict : Prop) (s : ScrollingSpace Id) : Prop where
  cached : s.columns.map Column.actualWidth = s.data.map fun d => some d.width
  active_lt : s.columns ≠ [] → s.activeColumnIdx < s.columns.length
  active_zero : s.columns = [] → s.activeColumnIdx = 0
  columns : ∀ c ∈ s.columns, c.Inv strict
  options : ∀ c ∈ s.columns, c.options = s.options
  nodup : (s.stamps.map Prod.fst).Nodup
  resize : ∀ r, s.interactiveResize = some r → r.window ∈ s.stamps.map Prod.fst
  restore : s.viewOffsetToRestore = true →
    ∃ c, s.columns[s.activeColumnIdx]? = some c ∧ c.sizingMode ≠ .normal

/-- The same windows, under the same configuration. -/
structure Frame (s s' : ScrollingSpace Id) : Prop where
  stamps : s'.stamps.Perm s.stamps
  options : s'.options = s.options

/-- The operation keeps the invariant and the windows. -/
def Keeps (strict : Prop) (f : ScrollingSpace Id → Option (ScrollingSpace Id)) : Prop :=
  ∀ s : ScrollingSpace Id, s.Inv strict → Ensures (f s) fun s' => s'.Inv strict ∧ s.Frame s'

/-- The same, for an operation that answers whether it did anything. -/
def KeepsAnd (strict : Prop) (f : ScrollingSpace Id → Option (ScrollingSpace Id × Bool)) : Prop :=
  ∀ s : ScrollingSpace Id, s.Inv strict → Ensures (f s) fun p => p.1.Inv strict ∧ s.Frame p.1

theorem Frame.refl : s.Frame s := ⟨.refl _, rfl⟩

variable {s s' : ScrollingSpace Id} {l r : List (Column Id)} {c column : Column Id} {idx : ℕ}
variable {removed : RemovedTile Id}

theorem Frame.trans {s'' : ScrollingSpace Id} (h : s.Frame s') (h' : s'.Frame s'') : s.Frame s'' :=
  ⟨h'.stamps.trans h.stamps, h'.options.trans h.options⟩

/-- Running a second operation after one that kept the invariant. -/
theorem andThen {x : Option (ScrollingSpace Id)}
    {f : ScrollingSpace Id → Option (ScrollingSpace Id)}
    (hx : Ensures x fun s' => s'.Inv strict ∧ s.Frame s') (hf : Keeps strict f) :
    Ensures (x >>= f) fun s' => s'.Inv strict ∧ s.Frame s' :=
  hx.bind fun s' hs' => (hf s' hs'.1).mono fun _ h => ⟨h.1, hs'.2.trans h.2⟩

/-- Dropping the answer. -/
theorem KeepsAnd.fst {f : ScrollingSpace Id → Option (ScrollingSpace Id × Bool)}
    (hf : KeepsAnd strict f) : Keeps strict fun s => (f s).map Prod.fst := by
  intro s hs s' hs'
  obtain ⟨p, hp, rfl⟩ := map_eq_some_iff.mp hs'
  exact hf s hs p hp

theorem new_inv (viewSize : Size) (parentArea : Rectangle) (scale : ℚ) (options : Options) :
    (new viewSize parentArea scale options : ScrollingSpace Id).Inv strict :=
  ⟨rfl, fun h => absurd rfl h, fun _ => rfl, by simp [new], by simp [new], by simp [new, stamps],
    (fun r hr => by cases hr), fun h => by cases h⟩

/-! ## Splitting the columns and their data alike -/

theorem Inv.length_data (h : s.Inv strict) : s.data.length = s.columns.length := by
  simpa using (congrArg List.length h.cached).symm

/-- The data of the columns before, at and after a column. -/
theorem Inv.split_data (h : s.Inv strict) (hs : s.columns = l ++ c :: r) :
    ∃ dl d dr, s.data = dl ++ d :: dr ∧ dl.length = l.length ∧
      l.map Column.actualWidth = dl.map (fun d => some d.width) ∧
      c.actualWidth = some d.width ∧
      r.map Column.actualWidth = dr.map (fun d => some d.width) := by
  have hlen := h.length_data
  rw [hs] at hlen
  have hlt : l.length < s.data.length := by
    rw [hlen]
    simp
  obtain ⟨dl, dr, hd, hdl⟩ := Vec.getElem?_eq_some_split.mp (List.getElem?_eq_getElem hlt)
  have hc := h.cached
  rw [hs, hd] at hc
  simp only [map_append, map_cons] at hc
  obtain ⟨h1, h2⟩ := append_inj hc (by simp [hdl])
  obtain ⟨h3, h4⟩ := List.cons.inj h2
  exact ⟨dl, _, dr, hd, hdl, h1, h3, h4⟩

theorem stamps_split (hs : s.columns = l ++ c :: r) :
    s.stamps.Perm (c.stamps ++ (l ++ r).flatMap Column.stamps) := by
  unfold stamps
  rw [hs, flatMap_append, flatMap_cons, flatMap_append]
  exact perm_append_comm_assoc _ _ _

/-- **Replacing a column.**  The new column and its data fit together, the ids stay distinct,
and what refers to the columns is either dropped or still holds. -/
theorem Inv.replace (h : s.Inv strict) {c' : Column Id} (hs : s.columns = l ++ c :: r)
    (hc' : c'.Inv strict) (hopt : c'.options = s.options) {dl dr : List ColumnData}
    {d' : ColumnData} (hdl : l.map Column.actualWidth = dl.map fun d => some d.width)
    (hw : c'.actualWidth = some d'.width)
    (hdr : r.map Column.actualWidth = dr.map fun d => some d.width)
    (resize : Option (InteractiveResize Id)) (restore : Bool)
    (hnodup : ((c'.stamps ++ (l ++ r).flatMap Column.stamps).map Prod.fst).Nodup)
    (hresize : ∀ x, resize = some x →
      x.window ∈ (c'.stamps ++ (l ++ r).flatMap Column.stamps).map Prod.fst)
    (hrestore : restore = true → s.viewOffsetToRestore = true ∧
      (l.length = s.activeColumnIdx → c'.sizingMode ≠ .normal) ∨
      (l.length = s.activeColumnIdx ∧ c'.sizingMode ≠ .normal)) :
    ({ s with
      columns := l ++ c' :: r
      data := dl ++ d' :: dr
      interactiveResize := resize
      viewOffsetToRestore := restore } : ScrollingSpace Id).Inv strict := by
  have hperm : (({ s with
      columns := l ++ c' :: r
      data := dl ++ d' :: dr
      interactiveResize := resize
      viewOffsetToRestore := restore } : ScrollingSpace Id).stamps).Perm
        (c'.stamps ++ (l ++ r).flatMap Column.stamps) := stamps_split rfl
  refine ⟨by simp [hdl, hw, hdr], ?_, by simp, ?_, ?_, ?_, ?_, ?_⟩
  · have := h.active_lt (by rw [hs]; simp)
    rw [hs] at this
    simpa using this
  · intro x hx
    rw [mem_append, mem_cons] at hx
    rcases hx with hx | rfl | hx
    · exact h.columns x (by simp [hs, hx])
    · exact hc'
    · exact h.columns x (by simp [hs, hx])
  · intro x hx
    rw [mem_append, mem_cons] at hx
    rcases hx with hx | rfl | hx
    · exact h.options x (by simp [hs, hx])
    · exact hopt
    · exact h.options x (by simp [hs, hx])
  · exact ((hperm.map Prod.fst).nodup_iff).mpr hnodup
  · intro x hx
    exact (hperm.map Prod.fst).mem_iff.mpr (hresize x hx)
  · intro hr
    by_cases hl : l.length = s.activeColumnIdx
    · refine ⟨c', ?_, ?_⟩
      · simp [← hl]
      · rcases hrestore hr with h1 | h1
        · exact h1.2 hl
        · exact h1.2
    · -- The active column is another one, and is as it was.
      rcases hrestore hr with h1 | h1
      · obtain ⟨x, hx, hmode⟩ := h.restore h1.1
        refine ⟨x, ?_, hmode⟩
        rw [hs] at hx
        simp only at hx ⊢
        rw [← hx]
        rcases lt_or_gt_of_ne hl with hlt | hlt
        · rw [List.getElem?_append_right (by omega), List.getElem?_append_right (by omega)]
          obtain ⟨k, hk⟩ : ∃ k, s.activeColumnIdx - l.length = k + 1 :=
            ⟨s.activeColumnIdx - l.length - 1, by omega⟩
          rw [hk]
          rfl
        · rw [List.getElem?_append_left (by omega), List.getElem?_append_left (by omega)]
      · exact absurd h1.1 hl

/-! ## Operations inside one column -/

/-- An operation inside a column keeps the invariant of the space. -/
theorem modifyColumn_inv (h : s.Inv strict) (idx : ℕ) {f : Column Id → Option (Column Id)}
    (hf : ∀ c ∈ s.columns, Ensures (f c) fun c' => c'.Inv strict ∧ c.Frame c') :
    Ensures (s.modifyColumn idx f) fun s' => s'.Inv strict ∧ s.Frame s' ∧
      s'.activeColumnIdx = s.activeColumnIdx ∧ s'.columns.length = s.columns.length := by
  refine Ensures.self.bind fun columns hcolumns => of_pure ?_
  obtain ⟨l, c, c', r, hs, hl, hfc, rfl⟩ := modifyAt_eq_some.mp hcolumns
  obtain ⟨hc', hframe⟩ := hf c (by simp [hs]) c' hfc
  obtain ⟨dl, d, dr, hd, hdl, h1, h2, h3⟩ := h.split_data hs
  have hperm : (c'.stamps ++ (l ++ r).flatMap Column.stamps).Perm s.stamps :=
    (hframe.stamps.append_right _).trans (stamps_split hs).symm
  have hopt : c'.options = s.options := hframe.options.trans (h.options c (by simp [hs]))
  have key := h.replace hs hc' hopt h1 (hframe.actualWidth.trans h2) h3 s.interactiveResize
    s.viewOffsetToRestore ((hperm.map Prod.fst).nodup_iff.mpr h.nodup)
    (fun x hx => (hperm.map Prod.fst).mem_iff.mpr (h.resize x hx)) ?_
  · rw [← hd] at key
    exact ⟨key, ⟨(stamps_split rfl).trans hperm, rfl⟩, rfl, by simp [hs]⟩
  · intro hr
    refine .inl ⟨hr, fun hl' => ?_⟩
    obtain ⟨x, hx, hmode⟩ := h.restore hr
    rw [hs, ← hl', Vec.getElem?_append_length] at hx
    cases hx
    rw [hframe.sizingMode]
    exact hmode

variable {resize : Option (InteractiveResize Id)}

/-- Ending an interactive resize, or any of them. -/
theorem Inv.dropResize (h : s.Inv strict)
    (hr : ∀ x, resize = some x → s.interactiveResize = some x) :
    ({ s with interactiveResize := resize } : ScrollingSpace Id).Inv strict :=
  ⟨h.cached, h.active_lt, h.active_zero, h.columns, h.options, h.nodup,
    fun x hx => h.resize x (hr x hx), h.restore⟩

theorem cancelResizeForColumn_sub [DecidableEq Id] {x : InteractiveResize Id}
    (hx : cancelResizeForColumn resize column = some x) :
    resize = some x ∧ x.window ∉ column.ids := by
  unfold cancelResizeForColumn at hx
  rw [filter_eq_some_iff] at hx
  refine ⟨hx.1, ?_⟩
  simpa [Column.contains, Column.ids] using hx.2

theorem cancelResize_inv [DecidableEq Id] (h : s.Inv strict) (idx : ℕ) :
    Ensures (s.cancelResize idx) fun s' => s'.Inv strict ∧ s.Frame s' ∧ s'.columns = s.columns ∧
      s'.activeColumnIdx = s.activeColumnIdx :=
  Ensures.self.bind fun _ _ => of_pure
    ⟨h.dropResize fun _ hx => (cancelResizeForColumn_sub hx).1, ⟨.refl _, rfl⟩, rfl, rfl⟩

/-- Recomputing the cached width of a column. -/
theorem updateData_eq (h : s.updateData idx = some s') :
    ∃ c dl d dr w, s.columns[idx]? = some c ∧ s.data = dl ++ d :: dr ∧ dl.length = idx ∧
      c.actualWidth = some w ∧ s' = { s with data := dl ++ ⟨w⟩ :: dr } := by
  unfold updateData at h
  simp only [bind_eq_bind, bind_eq_some_iff] at h
  obtain ⟨c, hc, data, hdata, h⟩ := h
  obtain ⟨dl, d, d', dr, hd, hdl, hd', rfl⟩ := modifyAt_eq_some.mp hdata
  obtain ⟨w, hw, rfl⟩ := map_eq_some_iff.mp hd'
  exact ⟨c, dl, d, dr, w, hc, hd, hdl, hw, (some.inj h).symm⟩

/-! ## Activating a column -/

/-- Activating another column drops what referred to the old one. -/
theorem activateColumn_inv (h : s.Inv strict) (idx : ℕ) :
    Ensures (s.activateColumn idx) fun s' => s'.Inv strict ∧ s.Frame s' ∧ s'.columns = s.columns ∧
      s'.activeColumnIdx = idx := by
  refine Ensures.ite (fun heq => of_some ⟨h, Frame.refl s, rfl, heq⟩) fun _ =>
    Ensures.ite (fun hlt => of_some ⟨?_, ⟨.refl _, rfl⟩, rfl, rfl⟩) fun _ =>
      of_none
  refine ⟨h.cached, fun _ => hlt, ?_, h.columns, h.options, h.nodup, (fun x hx => by cases hx),
    fun hr => by cases hr⟩
  intro h0
  rw [show s.columns = [] from h0] at hlt
  cases hlt

/-- The flag that remembers the previous column says nothing about the columns. -/
theorem Inv.setActivatePrev (h : s.Inv strict) (b : Bool) :
    ({ s with activatePrevColumnOnRemoval := b } : ScrollingSpace Id).Inv strict :=
  ⟨h.cached, h.active_lt, h.active_zero, h.columns, h.options, h.nodup, h.resize, h.restore⟩

theorem columnOf_eq_some [DecidableEq Id] {window : Id} (h : s.columnOf window = some idx) :
    ∃ c, s.columns[idx]? = some c ∧ window ∈ c.ids := by
  obtain ⟨hlt, hc, -⟩ := List.findIdx?_eq_some_iff_getElem.mp h
  exact ⟨_, List.getElem?_eq_getElem hlt, by simpa [Column.contains, Column.ids] using hc⟩

theorem activateWindow_inv [DecidableEq Id] (window : Id) :
    KeepsAnd strict fun s : ScrollingSpace Id => s.activateWindow window := by
  intro s h
  show Ensures (s.activateWindow window) _
  unfold activateWindow
  cases s.columnOf window with
  | none => exact of_some ⟨h, Frame.refl s⟩
  | some idx =>
    refine (modifyColumn_inv h idx fun c hc =>
      activateWindow_keeps window c (h.columns c hc)).bind fun s₁ hs₁ => ?_
    refine (activateColumn_inv hs₁.1 idx).bind fun s₂ hs₂ => ?_
    exact of_pure ⟨hs₂.1, hs₁.2.1.trans hs₂.2.1⟩

/-! ## Adding a column -/

/-- Adding the column to this space recomputes the heights of a lone tile that has none. -/
def ConvertsFlat (column : Column Id) : Prop :=
  column.ConvertsFlat s.options

variable {i : ℕ}

theorem getElem?_insert_of_lt (h : i < l.length) : (l ++ c :: r)[i]? = (l ++ r)[i]? := by
  rw [List.getElem?_append_left h, List.getElem?_append_left h]

theorem getElem?_insert_of_le (h : l.length ≤ i) : (l ++ c :: r)[i + 1]? = (l ++ r)[i]? := by
  rw [List.getElem?_append_right (by omega), List.getElem?_append_right h,
    show i + 1 - l.length = (i - l.length) + 1 by omega]
  rfl

variable {columns : List (Column Id)} {data : List ColumnData} {d : ColumnData}

/-- The columns after one has been inserted; the active column stays the active one. -/
theorem Inv.insert (h : s.Inv strict) (hc : column.Inv strict) (hopt : column.options = s.options)
    (hd : column.actualWidth = some d.width)
    (hcolumns : Vec.insertAt s.columns idx column = some columns)
    (hdata : Vec.insertAt s.data idx d = some data)
    (hnodup : ((column.stamps ++ s.stamps).map Prod.fst).Nodup) :
    ({ s with
      data := data
      columns := columns
      activeColumnIdx :=
        if !s.columns.isEmpty && idx ≤ s.activeColumnIdx then s.activeColumnIdx + 1
        else s.activeColumnIdx } : ScrollingSpace Id).Inv strict ∧
      (columns.flatMap Column.stamps).Perm (column.stamps ++ s.stamps) := by
  obtain ⟨l, r, hlr, hl, rfl⟩ := insertAt_eq_some.mp hcolumns
  have hperm : ((l ++ column :: r).flatMap Column.stamps).Perm (column.stamps ++ s.stamps) := by
    unfold stamps
    rw [hlr, flatMap_append, flatMap_cons, flatMap_append]
    exact perm_append_comm_assoc _ _ _
  have hcached : (l ++ column :: r).map Column.actualWidth = data.map fun d => some d.width := by
    have hmap := insertAt_map Column.actualWidth s.columns idx column
    rw [hcolumns, h.cached, hd] at hmap
    have hmap' := insertAt_map (fun d : ColumnData => some d.width) s.data idx d
    rw [hdata] at hmap'
    exact some.inj (hmap.symm.trans hmap')
  refine ⟨⟨hcached, ?_, by simp, ?_, ?_, ?_, ?_, ?_⟩, hperm⟩
  · intro _
    by_cases h0 : s.columns = []
    · simp [h0, h.active_zero h0]
    · have hlt := h.active_lt h0
      have hlen := congrArg List.length hlr
      simp only [length_append, length_cons] at hlen ⊢
      split_ifs <;> omega
  · intro x hx
    rw [mem_append, mem_cons] at hx
    rcases hx with hx | rfl | hx
    · exact h.columns x (by simp [hlr, hx])
    · exact hc
    · exact h.columns x (by simp [hlr, hx])
  · intro x hx
    rw [mem_append, mem_cons] at hx
    rcases hx with hx | rfl | hx
    · exact h.options x (by simp [hlr, hx])
    · exact hopt
    · exact h.options x (by simp [hlr, hx])
  · exact ((hperm.map Prod.fst).nodup_iff).mpr hnodup
  · intro x hx
    refine (hperm.map Prod.fst).mem_iff.mpr ?_
    rw [map_append, mem_append]
    exact .inr (h.resize x hx)
  · intro hr
    obtain ⟨x, hx, hmode⟩ := h.restore hr
    have hne : s.columns ≠ [] := by
      rintro h0
      rw [h0] at hx
      cases hx
    refine ⟨x, ?_, hmode⟩
    rw [hlr] at hx
    simp only [isEmpty_eq_false_iff.mpr hne, Bool.not_false, Bool.true_and, decide_eq_true_eq]
    split_ifs with hle
    · exact (getElem?_insert_of_le (by omega)).trans hx
    · exact (getElem?_insert_of_lt (by omega)).trans hx

/-- **`add_column`** keeps the invariant: the column takes on the configuration of the space. -/
theorem addColumn_inv (h : s.Inv strict) (idx : Option ℕ) (activate : Bool) (hc : column.Inv strict)
    (hflat : strict → ¬s.ConvertsFlat column)
    (hnodup : ((column.stamps ++ s.stamps).map Prod.fst).Nodup) :
    Ensures (s.addColumn idx column activate) fun s' =>
      s'.Inv strict ∧ s'.stamps.Perm (column.stamps ++ s.stamps) ∧ s'.options = s.options := by
  refine (updateConfig_inv hc _ _ _ _ _ hflat).bind fun c₁ hc₁ =>
    Ensures.self.bind fun d hd => Ensures.self.bind fun data hdata =>
      Ensures.self.bind fun columns hcolumns => ?_
  obtain ⟨hinv, hst, hopt, -, -⟩ := hc₁
  obtain ⟨w, hw, rfl⟩ := map_eq_some_iff.mp hd
  have key := h.insert hinv hopt hw hcolumns hdata (by rw [hst]; exact hnodup)
  rw [hst] at key
  refine Ensures.ite (fun _ => ?_) fun _ => of_pure ⟨key.1, key.2, rfl⟩
  refine (activateColumn_inv key.1 _).bind fun s₂ hs₂ => of_pure ?_
  exact ⟨hs₂.1.setActivatePrev _, hs₂.2.1.stamps.trans key.2, hs₂.2.1.options⟩

/-- The heights that adding the tile would recompute are those of a tile that has none. -/
def TileConvertsFlat (tile : Tile Id) : Prop :=
  tile.options.presetWindowHeights ≠ s.options.presetWindowHeights ∧
    (Column.firstTile tile s.viewSize s.scale).tileSize.h = 0

/-- **`add_tile`** keeps the invariant: the tile gets a column of its own. -/
theorem addTile_inv (h : s.Inv strict) (colIdx : Option ℕ) {tile : Tile Id} (activate : Bool)
    (width : ColumnWidth) (isFullWidth : Bool) (hflat : strict → ¬s.TileConvertsFlat tile)
    (hnodup : ((tile.stamp :: s.stamps).map Prod.fst).Nodup) :
    Ensures (s.addTile colIdx tile activate width isFullWidth) fun s' =>
      s'.Inv strict ∧ s'.stamps.Perm (tile.stamp :: s.stamps) ∧ s'.options = s.options := by
  refine (newWithTile_inv strict tile _ _ _ _ width isFullWidth).bind fun c hc => ?_
  obtain ⟨hinv, hst, hopt, -, hzero⟩ := hc
  have key := addColumn_inv h colIdx activate hinv ?_ (by rw [hst]; exact hnodup)
  · rw [hst] at key
    exact key
  · rintro hs ⟨hne, hf⟩
    rw [hopt] at hne
    exact hflat hs ⟨hne, hzero hf⟩

/-! ## Adding a tile to a column -/

/-- The change `add_tile_to_column` makes to the column. -/
theorem addTileToTarget_inv (h : c.Inv strict) (tileIdx : Option ℕ) (tile : Tile Id)
    (activate : Bool) :
    Ensures (addTileToTarget tileIdx tile activate c) fun c' =>
      c'.Inv strict ∧ c'.stamps.Perm (tile.stamp :: c.stamps) ∧ c'.options = c.options ∧
        c'.tiles.length = c.tiles.length + 1 ∧
        (c.sizingMode ≠ .normal → c'.sizingMode ≠ .normal) := by
  refine (addTileAt_inv h _ tile).bind fun c₁ hc₁ => ?_
  obtain ⟨hinv, hst, hopt, hlen, hle, hact, hmode⟩ := hc₁
  have hinv' : ({ c₁ with
      activeTileIdx :=
        if tileIdx.getD c.tiles.length ≤ c.activeTileIdx then c₁.activeTileIdx + 1
        else c₁.activeTileIdx } : Column Id).Inv strict := by
    refine ⟨⟨hinv.tiles_ne, ?_, hinv.cached, hinv.one_fixed, hinv.lone_weight,
      hinv.preset_width, hinv.preset_height, hinv.tile_options, hinv.indicator⟩,
      hinv.expandable, hinv.pending⟩
    have := h.active_lt
    dsimp only
    split_ifs <;> omega
  refine Ensures.ite (fun _ => ?_) fun _ => of_pure ⟨hinv', hst, hopt, hlen, hmode⟩
  refine (activateIdx_inv hinv' _).bind fun p hp => of_pure ?_
  obtain ⟨hp₁, hp₂, hp₃⟩ := hp
  refine ⟨hp₁, hp₂.stamps.trans hst, hp₂.options.trans hopt, ?_, ?_⟩
  · rw [hp₃]
    exact hlen
  · rw [hp₂.sizingMode]
    exact hmode

/-- **`add_tile_to_column`** keeps the invariant. -/
theorem addTileToColumn_inv (h : s.Inv strict) (colIdx : ℕ) (tileIdx : Option ℕ) (tile : Tile Id)
    (activate : Bool) (hnodup : ((tile.stamp :: s.stamps).map Prod.fst).Nodup) :
    Ensures (s.addTileToColumn colIdx tileIdx tile activate) fun s' =>
      s'.Inv strict ∧ s'.stamps.Perm (tile.stamp :: s.stamps) ∧ s'.options = s.options := by
  refine Ensures.self.bind fun s₁ hs₁ => Ensures.self.bind fun s₂ hs₂ => ?_
  have key : s₂.Inv strict ∧ s₂.stamps.Perm (tile.stamp :: s.stamps) ∧ s₂.options = s.options := by
    unfold modifyColumn at hs₁
    simp only [bind_eq_bind, bind_eq_some_iff] at hs₁
    obtain ⟨columns, hcolumns, hs₁⟩ := hs₁
    cases hs₁
    obtain ⟨l, c, c', r, hs, rfl, hfc, rfl⟩ := modifyAt_eq_some.mp hcolumns
    have hc : c ∈ s.columns := by simp [hs]
    obtain ⟨hc', hst, hopt, -, hmode⟩ :=
      addTileToTarget_inv (h.columns c hc) tileIdx tile activate c' hfc
    obtain ⟨x, dl, d, dr, w, hx, hd, hdl, hw, rfl⟩ := updateData_eq hs₂
    simp only [Vec.getElem?_append_length, some.injEq] at hx
    subst hx
    obtain ⟨dl', d', dr', hd', hdl', h1, -, h3⟩ := h.split_data hs
    have heq : dl ++ d :: dr = dl' ++ d' :: dr' := by
      rw [← hd']
      exact hd.symm
    obtain ⟨rfl, hrest⟩ := append_inj heq (hdl.trans hdl'.symm)
    obtain ⟨-, rfl⟩ := List.cons.inj hrest
    have hperm : (c'.stamps ++ (l ++ r).flatMap Column.stamps).Perm (tile.stamp :: s.stamps) :=
      (hst.append_right _).trans (((stamps_split hs).symm).cons _)
    refine ⟨?_, (stamps_split rfl).trans hperm, rfl⟩
    refine h.replace hs hc' (hopt.trans (h.options c hc)) h1 hw h3 s.interactiveResize
      s.viewOffsetToRestore ((hperm.map Prod.fst).nodup_iff.mpr hnodup) ?_ ?_
    · intro y hy
      refine (hperm.map Prod.fst).mem_iff.mpr ?_
      exact mem_cons_of_mem _ (h.resize y hy)
    · intro hr
      refine .inl ⟨hr, fun hl => hmode ?_⟩
      obtain ⟨y, hy, hym⟩ := h.restore hr
      rw [hs, ← hl, Vec.getElem?_append_length] at hy
      cases hy
      exact hym
  refine Ensures.ite (fun _ => ?_) fun _ => of_pure key
  refine (activateColumn_inv key.1 colIdx).mono fun s₃ hs₃ => ?_
  exact ⟨hs₃.1, hs₃.2.1.stamps.trans key.2.1, hs₃.2.1.options.trans key.2.2⟩

/-! ## Removing a column -/

/-- The columns after one has been removed, while the active index may still point past it. -/
theorem Inv.eraseCore (h : s.Inv strict)
    (hcolumns : Vec.removeAt s.columns idx = some (column, columns))
    (hdata : Vec.removeAt s.data idx = some (d, data)) :
    (columns.map Column.actualWidth = data.map fun d => some d.width) ∧
      (∀ c ∈ columns, c.Inv strict) ∧ (∀ c ∈ columns, c.options = s.options) ∧ column.Inv strict ∧
      column.options = s.options ∧
      s.stamps.Perm (column.stamps ++ columns.flatMap Column.stamps) := by
  obtain ⟨l, r, hlr, hl, rfl⟩ := removeAt_eq_some.mp hcolumns
  have hcached : (l ++ r).map Column.actualWidth = data.map fun d => some d.width := by
    have hmap := removeAt_map Column.actualWidth s.columns idx
    rw [hcolumns, h.cached] at hmap
    have hmap' := removeAt_map (fun d : ColumnData => some d.width) s.data idx
    rw [hdata] at hmap'
    have := some.inj (hmap.symm.trans hmap')
    exact (Prod.mk.inj this).2
  refine ⟨hcached, fun c hc => h.columns c ?_, fun c hc => h.options c ?_,
    h.columns column (by simp [hlr]), h.options column (by simp [hlr]), stamps_split hlr⟩
  all_goals
    rw [mem_append] at hc
    rw [hlr, mem_append, mem_cons]
    tauto

/-- **`remove_column_by_idx`** keeps the invariant of what is left, and returns a column that
keeps its own. -/
theorem removeColumnByIdx_inv [DecidableEq Id] (h : s.Inv strict) (idx : ℕ) :
    Ensures (s.removeColumnByIdx idx) fun p =>
      p.2.Inv strict ∧ p.1.Inv strict ∧ p.1.options = s.options ∧ s.stamps.Perm (p.1.stamps ++ p.2.stamps) ∧
        p.2.options = s.options ∧ s.columns[idx]? = some p.1 ∧
        s.columns.length = p.2.columns.length + 1 := by
  refine Ensures.self.bind fun p hp => Ensures.self.bind fun q hq => ?_
  obtain ⟨column, columns⟩ := p
  obtain ⟨d, data⟩ := q
  obtain ⟨hcached, hcols, hopts, hcolumn, hopt, hperm⟩ := h.eraseCore hp hq
  obtain ⟨l, r, hlr, hl, rfl⟩ := removeAt_eq_some.mp hp
  have hget : s.columns[idx]? = some column := by
    rw [hlr, ← hl]
    simp
  have hlen : s.columns.length = (l ++ r).length + 1 := by
    rw [hlr]
    simp
    omega
  have hne : s.columns ≠ [] := by
    rw [hlr]
    simp
  have hact := h.active_lt hne
  have hnodup : (((l ++ r).flatMap Column.stamps).map Prod.fst).Nodup := by
    have := (hperm.map Prod.fst).nodup_iff.mp h.nodup
    rw [map_append] at this
    exact (nodup_append.mp this).2.1
  have hresize : ∀ x, cancelResizeForColumn s.interactiveResize column = some x →
      x.window ∈ ((l ++ r).flatMap Column.stamps).map Prod.fst := by
    intro x hx
    obtain ⟨hx, hnot⟩ := cancelResizeForColumn_sub hx
    have := (hperm.map Prod.fst).mem_iff.mp (h.resize x hx)
    rw [map_append, mem_append, ← Column.ids_eq_stamps] at this
    exact this.resolve_left hnot
  dsimp only
  -- A state that keeps the columns that are left, with a good active index.
  have build : ∀ (active : ℕ) (prev restore : Bool), ((l ++ r) ≠ [] → active < (l ++ r).length) →
      ((l ++ r) = [] → active = 0) → (restore = true → ∃ c, (l ++ r)[active]? = some c ∧
        c.sizingMode ≠ .normal) →
      ({ s with
        columns := l ++ r
        data := data
        interactiveResize := cancelResizeForColumn s.interactiveResize column
        activatePrevColumnOnRemoval := prev
        viewOffsetToRestore := restore
        activeColumnIdx := active } : ScrollingSpace Id).Inv strict :=
    fun _ _ _ hlt hzero hrestore => ⟨hcached, hlt, hzero, hcols, hopts, hnodup, hresize, hrestore⟩
  have hrestore : s.viewOffsetToRestore = true → ∃ c, s.columns[s.activeColumnIdx]? = some c ∧
      c.sizingMode ≠ .normal := h.restore
  refine Ensures.ite (fun hempty => of_pure ?_) fun hnonempty => ?_
  · have hnil : l ++ r = [] := isEmpty_iff.mp hempty
    have hone : s.activeColumnIdx = 0 ∧ idx = 0 := by
      rw [hnil] at hlen
      have hidx : idx < s.columns.length := (List.getElem?_eq_some_iff.mp hget).1
      simp only [length_nil] at hlen
      omega
    refine ⟨build _ _ _ (fun h0 => absurd hnil h0) (fun _ => hone.1) ?_, hcolumn, hopt, hperm, rfl,
      hget, hlen⟩
    rw [hone.1, hone.2]
    simp
  have hnil : l ++ r ≠ [] := fun h0 => hnonempty (isEmpty_iff.mpr h0)
  have hpos : 0 < (l ++ r).length := length_pos_of_ne_nil hnil
  refine Ensures.ite (fun hlt => of_pure ?_) fun hge => Ensures.ite (fun hprev => ?_)
    fun hprev => ?_
  · -- A column to the left was removed.
    refine ⟨build _ _ _ (fun _ => by omega) (fun h0 => absurd h0 hnil) ?_, hcolumn, hopt, hperm,
      rfl, hget, hlen⟩
    rw [if_neg (by omega)]
    intro hr
    obtain ⟨x, hx, hmode⟩ := hrestore hr
    refine ⟨x, ?_, hmode⟩
    rw [hlr] at hx
    obtain ⟨k, hk⟩ : ∃ k, s.activeColumnIdx = k + 1 := ⟨s.activeColumnIdx - 1, by omega⟩
    rw [hk] at hx ⊢
    exact (getElem?_insert_of_le (by omega)).symm.trans hx
  · -- The active column was removed, and the previous one is to become active.
    refine Ensures.ite (fun hidx => ?_) fun hidx => of_pure ?_
    · unfold activateColumn
      dsimp only
      rw [if_neg (by omega), if_pos (by omega)]
      refine of_some (of_pure ?_ _ rfl)
      exact ⟨⟨hcached, fun _ => by dsimp only; omega, fun h0 => absurd h0 hnil, hcols, hopts,
        hnodup, (fun x hx => by cases hx), fun hr => by cases hr⟩, hcolumn, hopt, hperm, rfl, hget,
        hlen⟩
    · refine ⟨build _ _ _ (fun _ => by omega) (fun h0 => absurd h0 hnil) ?_, hcolumn, hopt, hperm,
        rfl, hget, hlen⟩
      rw [if_pos hprev.1]
      simp
  · -- Another column becomes active only if the active one was the last.
    unfold activateColumn
    dsimp only
    by_cases hsame : s.activeColumnIdx = min s.activeColumnIdx ((l ++ r).length - 1)
    · rw [if_pos hsame]
      refine of_some (of_pure ?_ _ rfl)
      refine ⟨build _ _ _ (fun _ => by omega) (fun h0 => absurd h0 hnil) ?_, hcolumn, hopt, hperm,
        rfl, hget, hlen⟩
      split_ifs with heq
      · simp
      · intro hr
        obtain ⟨x, hx, hmode⟩ := hrestore hr
        refine ⟨x, ?_, hmode⟩
        rw [hlr] at hx
        exact (getElem?_insert_of_lt (by omega)).symm.trans hx
    · rw [if_neg hsame, if_pos (by omega)]
      refine of_some (of_pure ?_ _ rfl)
      exact ⟨⟨hcached, fun _ => by dsimp only; omega, fun h0 => absurd h0 hnil, hcols, hopts,
        hnodup, (fun x hx => by cases hx), fun hr => by cases hr⟩, hcolumn, hopt, hperm, rfl, hget,
        hlen⟩

/-! ## Removing a tile -/

/-- What removing a tile leaves behind. -/
structure Removed (strict : Prop) (s : ScrollingSpace Id) (removed : RemovedTile Id) (s' : ScrollingSpace Id) :
    Prop where
  inv : s'.Inv strict
  stamps : s.stamps.Perm (removed.tile.stamp :: s'.stamps)
  options : s'.options = s.options
  tile_options : removed.tile.options = s.options
  not_floating : removed.isFloating = false

theorem stamps_singleton {t : Tile Id} (h : c.tiles = [t]) : c.stamps = [t.stamp] := by
  simp [Column.stamps, h]

/-- **`remove_tile_by_idx`** keeps the invariant, whether or not the column goes too. -/
theorem removeTileByIdx_inv [DecidableEq Id] (h : s.Inv strict) (columnIdx tileIdx : ℕ) :
    Ensures (s.removeTileByIdx columnIdx tileIdx) fun p => s.Removed strict p.1 p.2 := by
  refine Ensures.self.bind fun source hsource => Ensures.ite (fun hone => ?_) fun hmany => ?_
  · -- The whole column goes.
    refine (removeColumnByIdx_inv h columnIdx).bind fun p hp => Ensures.self.bind fun q hq => ?_
    obtain ⟨column, s'⟩ := p
    obtain ⟨tile, tiles⟩ := q
    obtain ⟨hinv, hcol, hopt, hperm, hopts, hget, -⟩ := hp
    have hsame : source = column := some.inj (hsource.symm.trans hget)
    subst hsame
    obtain ⟨t, ht⟩ := length_eq_one_iff.mp hone
    have htile : tile ∈ source.tiles := by
      obtain ⟨l, r, hlr, -, -⟩ := removeAt_eq_some.mp hq
      rw [show source.tiles = _ from hlr]
      simp
    have heq : tile = t := by
      rw [ht] at htile
      exact mem_singleton.mp htile
    refine of_pure ⟨hinv, ?_, hopts, (hcol.tile_options tile htile).trans hopt, rfl⟩
    rw [show source.stamps = _ from stamps_singleton ht] at hperm
    rw [heq]
    exact hperm
  · obtain ⟨l, r, hs, hl⟩ := Vec.getElem?_eq_some_split.mp hsource
    have hmem : source ∈ s.columns := by simp [hs]
    refine (removeTile_inv (h.columns source hmem) tileIdx hmany).bind fun p hp =>
      Ensures.self.bind fun s' hs' => of_pure ?_
    obtain ⟨tile, column⟩ := p
    obtain ⟨hinv, hst, hopt, htile, -⟩ := hp
    obtain ⟨x, dl, d, dr, w, hx, hd, hdl, hw, rfl⟩ := updateData_eq hs'
    have hset : s.columns.set columnIdx column = l ++ column :: r := by
      rw [hs, ← hl]
      simp
    simp only [hset] at hx ⊢
    rw [← hl, Vec.getElem?_append_length] at hx
    cases hx
    obtain ⟨dl', d', dr', hd', hdl', h1, -, h3⟩ := h.split_data hs
    have heq : dl ++ d :: dr = dl' ++ d' :: dr' := by
      rw [← hd']
      exact hd.symm
    obtain ⟨rfl, hrest⟩ := append_inj heq (by rw [hdl, hdl', hl])
    obtain ⟨-, rfl⟩ := List.cons.inj hrest
    have hperm : s.stamps.Perm (tile.stamp :: (column.stamps ++ (l ++ r).flatMap Column.stamps)) :=
      (stamps_split hs).trans (hst.append_right _)
    have hsource_opt := h.options source hmem
    refine ⟨?_, ?_, rfl, ((h.columns source hmem).tile_options tile htile).trans hsource_opt, rfl⟩
    · refine h.replace hs hinv (hopt.trans hsource_opt) h1 hw h3 _ _ ?_ ?_ ?_
      · have := (hperm.map Prod.fst).nodup_iff.mp h.nodup
        exact this.of_cons
      · -- The resize that is left is not on the removed window.
        intro y hy
        obtain ⟨hy, hne⟩ := filter_eq_some_iff.mp hy
        have := (hperm.map Prod.fst).mem_iff.mp (h.resize y hy)
        rw [map_cons, mem_cons] at this
        exact this.resolve_left (by simpa [Tile.stamp] using hne)
      · intro hr
        split_ifs at hr with hcond
        refine .inl ⟨hr, fun hact hnormal => hcond ⟨by omega, ?_, hnormal⟩⟩
        obtain ⟨y, hy, hmode⟩ := h.restore hr
        rw [← hact, hl, hsource] at hy
        cases hy
        exact hmode
    · exact hperm.trans ((stamps_split rfl).symm.cons _)

section

variable (h : s.Removed strict removed s')
include h

/-- A removed tile may be put back: its id is not among those left, and no heights are
recomputed. -/
theorem Removed.fresh (hs : s.Inv strict) :
    ((removed.tile.stamp :: s'.stamps).map Prod.fst).Nodup :=
  (h.stamps.map Prod.fst).nodup_iff.mp hs.nodup

theorem Removed.not_flat : ¬s'.TileConvertsFlat removed.tile := by
  rintro ⟨hne, -⟩
  rw [h.tile_options, h.options] at hne
  exact hne rfl

/-- Putting the tile into a column of its own. -/
theorem Removed.addTile (hs : s.Inv strict) (colIdx : Option ℕ) (activate : Bool)
    (width : ColumnWidth) (isFullWidth : Bool) :
    Ensures (s'.addTile colIdx removed.tile activate width isFullWidth) fun s'' =>
      s''.Inv strict ∧ s.Frame s'' :=
  (addTile_inv h.inv colIdx activate width isFullWidth (fun _ => h.not_flat) (h.fresh hs)).mono
    fun _ h' => ⟨h'.1, h'.2.1.trans h.stamps.symm, h'.2.2.trans h.options⟩

/-- Putting the tile into a column that exists. -/
theorem Removed.addTileToColumn (hs : s.Inv strict) (colIdx : ℕ) (tileIdx : Option ℕ)
    (activate : Bool) :
    Ensures (s'.addTileToColumn colIdx tileIdx removed.tile activate) fun s'' =>
      s''.Inv strict ∧ s.Frame s'' :=
  (addTileToColumn_inv h.inv colIdx tileIdx removed.tile activate (h.fresh hs)).mono
    fun _ h' => ⟨h'.1, h'.2.1.trans h.stamps.symm, h'.2.2.trans h.options⟩

end

theorem removeActiveTile_inv [DecidableEq Id] (h : s.Inv strict) :
    Ensures s.removeActiveTile fun p =>
      (∃ removed, p.1 = some removed ∧ s.Removed strict removed p.2) ∨ (p.1 = none ∧ p.2 = s) := by
  refine Ensures.ite (fun _ => of_pure (.inr ⟨rfl, rfl⟩)) fun _ =>
    Ensures.self.bind fun column _ => (removeTileByIdx_inv h _ _).bind fun p hp => ?_
  exact of_pure (.inl ⟨p.1, rfl, hp⟩)

theorem removeTile_inv [DecidableEq Id] (h : s.Inv strict) (window : Id) :
    Ensures (s.removeTile window) fun p => s.Removed strict p.1 p.2 :=
  Ensures.self.bind fun _ _ => removeTileByIdx_inv h _ _

theorem removeActiveColumn_inv [DecidableEq Id] (h : s.Inv strict) :
    Ensures s.removeActiveColumn fun p =>
      (∃ column, p.1 = some column ∧ p.2.Inv strict ∧ column.Inv strict ∧
        s.stamps.Perm (column.stamps ++ p.2.stamps) ∧ p.2.options = s.options) ∨
      (p.1 = none ∧ p.2 = s) := by
  refine Ensures.ite (fun _ => of_pure (.inr ⟨rfl, rfl⟩)) fun _ =>
    (removeColumnByIdx_inv h _).bind fun p hp => ?_
  exact of_pure (.inl ⟨p.1, rfl, hp.1, hp.2.1, hp.2.2.2.1, hp.2.2.2.2.1⟩)

end ScrollingSpace

end Tiri.Layout
