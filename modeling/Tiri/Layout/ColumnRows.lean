import Tiri.Layout.ScrollingSteps
import Tiri.Lib.Returns

/-!
# Which windows the columns show, and in what order

`ScrollingSpace.rows` lists, for each column, its windows from top to bottom and which of them is
active.  The operations that move tiles are given by what they do to the rows; in a well-formed
space they return, that is, none of the indices they use is out of range.

Results:
* `addTileAt_row`, `removeTile_row`, `newWithTile_row`, `updateConfig_row`: a single column;
* `addTileToColumn_rows`, `addTile_rows`, `removeTileByIdx_rows`, `moveColumnTo_rows`: the space.
-/

namespace Tiri.Layout

open Option List Returns Column

variable {Id : Type} {strict : Prop}

namespace Column

/-- The windows from top to bottom, and which one is active. -/
def row (c : Column Id) : List Id × ℕ := (c.ids, c.activeTileIdx)

variable {c : Column Id} {idx : ℕ}

theorem row_eq {ids : List Id} {active : ℕ} :
    c.row = (ids, active) ↔ c.ids = ids ∧ c.activeTileIdx = active := Prod.ext_iff

theorem row_length (c : Column Id) : c.row.1.length = c.tiles.length := length_map _

@[simp] theorem ids_length (c : Column Id) : c.ids.length = c.tiles.length := length_map _

/-- Requesting sizes succeeds when there is a tile and every preset is in range. -/
theorem updateTileSizes_row (hne : c.tiles ≠ [])
    (hpresets : PresetsIn c.options.presetWindowHeights c.data) :
    Returns c.updateTileSizes fun c' => c'.row = c.row := by
  have hrow : ({ c with tiles := c.tiles.map (·.request c.pendingSizingMode) } : Column Id).row =
      c.row := by
    simp [row, ids, Function.comp_def]
  refine Returns.ite (fun _ => of_some hrow) fun _ => Returns.ite (fun hnil => absurd hnil hne)
    fun _ => Returns.ite (fun hany => ?_) fun _ => of_some hrow
  obtain ⟨d, hd, hout⟩ := any_eq_true.mp hany
  cases hheight : d.height with
  | preset i =>
    simp only [hheight, decide_eq_true_eq] at hout
    exact absurd (hpresets d hd i hheight) (by omega)
  | auto | fixed => simp [hheight] at hout

theorem activateIdx_row (hidx : idx < c.tiles.length) :
    Returns (c.activateIdx idx) fun p => p.1.row = (c.ids, idx) :=
  Returns.ite (fun heq => of_some (row_eq.mpr ⟨rfl, heq⟩)) fun _ =>
    Returns.ite (fun _ => of_some rfl) fun hnot => absurd hidx hnot

/-- A tile joins the column. -/
theorem addTileAt_row (hidx : idx ≤ c.tiles.length) (hdata : c.data.length = c.tiles.length)
    (hpresets : PresetsIn c.options.presetWindowHeights c.data) (tile : Tile Id) :
    Returns (c.addTileAt idx tile) fun c' =>
      c'.row = (c.ids.insertIdx idx tile.id, c.activeTileIdx) := by
  refine Returns.bind ⟨_, if_pos (hdata ▸ hidx), rfl⟩ ?_
  rintro data rfl
  refine Returns.bind ⟨_, if_pos hidx, rfl⟩ ?_
  rintro tiles rfl
  refine (updateTileSizes_row ?_ ?_).mono fun c' hc' => hc'.trans ?_
  · intro hnil
    have hlength := congrArg List.length hnil
    rw [length_insertIdx_of_le_length hidx] at hlength
    exact Nat.succ_ne_zero _ hlength
  · intro d hd i hi
    rcases eq_or_mem_of_mem_insertIdx hd with rfl | hd
    · exact nomatch hi
    · exact hpresets d hd i hi
  · exact row_eq.mpr ⟨map_insertIdx .., rfl⟩

/-- The row after a tile has joined it; `activate` makes it the active one. -/
def joinRow (row : List Id × ℕ) (idx : ℕ) (id : Id) (activate : Bool) : List Id × ℕ :=
  (row.1.insertIdx idx id, if activate then idx else if idx ≤ row.2 then row.2 + 1 else row.2)

/-- `add_tile_to_column`, for the column itself. -/
theorem addTileToTarget_row (h : c.Shape strict) {tileIdx : Option ℕ}
    (hidx : tileIdx.getD c.tiles.length ≤ c.tiles.length) (tile : Tile Id) (activate : Bool) :
    Returns (ScrollingSpace.addTileToTarget tileIdx tile activate c) fun c' =>
      c'.row = joinRow c.row (tileIdx.getD c.tiles.length) tile.id activate := by
  refine (addTileAt_row hidx h.length_data h.preset_height tile).bind fun c' hc' => ?_
  obtain ⟨hids, hactive⟩ := row_eq.mp hc'
  refine Returns.ite (fun ht => ?_) fun hf => of_pure ?_
  · have hlength : c'.tiles.length = c.tiles.length + 1 := by
      rw [← ids_length, hids, length_insertIdx_of_le_length (by simpa using hidx), ids_length]
    refine (activateIdx_row (by dsimp only; omega)).bind fun p hp => of_pure ?_
    exact hp.trans (Prod.ext hids (if_pos ht).symm)
  · refine row_eq.mpr ⟨hids, ?_⟩
    rw [hactive]
    exact (if_neg hf).symm

/-- The row after a tile has left it. -/
def leaveRow (row : List Id × ℕ) (idx : ℕ) : List Id × ℕ :=
  (row.1.eraseIdx idx, if idx < row.2 then row.2 - 1
    else if idx = row.2 ∧ idx + 1 = row.1.length then idx - 1
    else row.2)

theorem activateAfterRemoval_row (hne : c.tiles ≠ []) :
    Returns (c.activateAfterRemoval idx) fun c' =>
      c' = { c with
        activeTileIdx := if idx < c.activeTileIdx then c.activeTileIdx - 1
          else if idx = c.activeTileIdx ∧ idx = c.tiles.length then idx - 1
          else c.activeTileIdx } := by
  have hpos := length_pos_of_ne_nil hne
  refine Returns.ite (fun hbefore => of_some ?_) fun hnot =>
    Returns.ite (fun hlast => ?_) fun hother => of_some ?_
  · rw [if_pos hbefore]
  · rw [if_neg hnot, if_pos hlast]
    refine Returns.map (Returns.ite (fun heq => by omega) fun _ =>
      Returns.ite (fun _ => of_some rfl) fun hout => by omega)
  · rw [if_neg hnot, if_neg hother]

/-- A tile leaves a column of several. -/
theorem removeTile_row (h : c.Shape strict) (hidx : idx < c.tiles.length)
    (hmany : 2 ≤ c.tiles.length) :
    Returns (c.removeTile idx) fun p => c.ids[idx]? = some p.1.id ∧ p.2.row = leaveRow c.row idx := by
  have hdata : idx < c.data.length := h.length_data ▸ hidx
  have hlength := length_eraseIdx_of_lt hidx
  have hne : c.tiles.eraseIdx idx ≠ [] := ne_nil_of_length_pos (by omega)
  refine Returns.bind ⟨_, congrArg (Option.map _) (List.getElem?_eq_getElem hidx), rfl⟩ ?_
  rintro p rfl
  refine Returns.bind ⟨_, congrArg (Option.map _) (List.getElem?_eq_getElem hdata), rfl⟩ ?_
  rintro q rfl
  refine (activateAfterRemoval_row hne).bind ?_
  rintro c₁ rfl
  refine (updateTileSizes_row hne ?_).bind fun c₂ hc₂ => of_pure ⟨?_, hc₂.trans ?_⟩
  · intro d hd i hi
    refine resetLoneWeight_presets (fun d hd => ?_) d hd i hi
    exact h.preset_height d (mem_of_mem_eraseIdx hd)
  · simp [ids, hidx]
  · refine row_eq.mpr ⟨(eraseIdx_map ..).symm, ?_⟩
    have hlast : idx = (c.tiles.eraseIdx idx).length ↔ idx + 1 = c.ids.length := by
      rw [ids_length]
      omega
    exact if_congr Iff.rfl rfl (if_congr (and_congr Iff.rfl hlast) rfl rfl)

/-- A new column shows its one tile. -/
theorem newWithTile_row (tile : Tile Id) (viewSize : Size) (workingArea parentArea : Rectangle)
    (scale : ℚ) (width : ColumnWidth) (isFullWidth : Bool) :
    Returns (newWithTile tile viewSize workingArea parentArea scale width isFullWidth) fun c =>
      c.row = ([tile.id], 0) := by
  refine ((addTileAt_row (Nat.zero_le _) rfl (fun d hd => by simp [newEmpty] at hd) tile).and
    (addFirstTile_inv True tile _ viewSize workingArea parentArea scale width
      isFullWidth)).bind fun rv hrv => ?_
  obtain ⟨hrow, hinv, -⟩ := hrv
  have hone : rv.tiles.length = 1 := by
    rw [← ids_length, (row_eq.mp hrow).1]
    rfl
  -- Its only tile may go fullscreen or maximized.
  cases tile.window.pendingSizingMode with
  | normal => exact of_pure hrow
  | maximized =>
    refine Returns.ite (fun _ => of_some hrow) fun _ =>
      Returns.ite (fun hassert => absurd (.inl hone) hassert.2) fun _ => ?_
    exact (@updateTileSizes_row _ { rv with isPendingMaximized := true } hinv.tiles_ne
      hinv.preset_height).mono fun c hc => hc.trans hrow
  | fullscreen =>
    refine Returns.ite (fun _ => of_some hrow) fun _ =>
      Returns.ite (fun hassert => absurd (.inl hone) hassert.2) fun _ => ?_
    exact (@updateTileSizes_row _ { rv with isPendingFullscreen := true } hinv.tiles_ne
      hinv.preset_height).mono fun c hc => hc.trans hrow

theorem convertHeightsToAuto_returns (hne : c.tiles ≠ []) :
    Returns c.convertHeightsToAuto fun _ => True := by
  have hlt : (c.tiles.map (·.tileSize.h)).mergeSort.length / 2 <
      (c.tiles.map (·.tileSize.h)).mergeSort.length := by
    have hpos := length_pos_of_ne_nil hne
    rw [length_mergeSort, length_map]
    omega
  refine Returns.bind ⟨_, List.getElem?_eq_getElem hlt, rfl⟩ ?_
  rintro median rfl
  exact of_pure trivial

/-- A column that takes on another configuration keeps its windows. -/
theorem updateConfig_row (h : c.Inv strict) (viewSize : Size) (workingArea parentArea : Rectangle)
    (scale : ℚ) (options : Options) (hflat : strict → ¬c.ConvertsFlat options) :
    Returns (c.updateConfig viewSize workingArea parentArea scale options) fun c' =>
      c'.row = c.row := by
  have hdrops : Returns (c.dropPresets options) fun _ => True := by
    refine Returns.ite (fun _ => convertHeightsToAuto_returns ?_) fun _ => of_some trivial
    split_ifs <;> exact h.tiles_ne
  refine (hdrops.and (dropPresets_spec h options hflat)).bind ?_
  rintro c₂ ⟨-, presetWidthIdx, data, rfl, hsize, hone, hlone, hwidth, hpresets⟩
  have hshape := applyConfig_shape h viewSize workingArea parentArea scale options hsize hone
    hlone hwidth hpresets
  have hrow : (applyConfig { c with presetWidthIdx := presetWidthIdx, data := data } viewSize
      workingArea parentArea scale options).row = c.row := by
    have hids := Vec.map_zipUpdate (fun (tile : Tile Id) (_ : TileData) =>
      tile.id_updateConfig viewSize scale options) c.tiles data
    exact row_eq.mpr ⟨hids, rfl⟩
  exact Returns.ite (fun _ => (updateTileSizes_row hshape.tiles_ne hshape.preset_height).mono
    fun c' hc' => hc'.trans hrow) fun _ => of_some hrow

end Column

namespace ScrollingSpace

/-- The columns from left to right. -/
def rows (s : ScrollingSpace Id) : List (List Id × ℕ) := s.columns.map Column.row

@[simp] theorem rows_length (s : ScrollingSpace Id) : s.rows.length = s.columns.length :=
  length_map _

variable {s : ScrollingSpace Id} {idx : ℕ} {c : Column Id} {row : List Id × ℕ}

theorem row_of_column (hc : s.columns[idx]? = some c) : s.rows[idx]? = some c.row := by
  rw [rows, List.getElem?_map, hc, map_some]

theorem column_of_row (hrow : s.rows[idx]? = some row) :
    ∃ c, s.columns[idx]? = some c ∧ c.row = row := by
  rw [rows, List.getElem?_map] at hrow
  exact map_eq_some_iff.mp hrow

/-- Changing one column. -/
theorem modifyColumn_rows {f : Column Id → Option (Column Id)} (hc : s.columns[idx]? = some c)
    (hf : Returns (f c) fun c' => c'.row = row) :
    Returns (s.modifyColumn idx f) fun s' => s'.rows = s.rows.set idx row := by
  obtain ⟨c', hc', hrow⟩ := hf
  have hmodify : Vec.modifyAt s.columns idx f = some (s.columns.set idx c') := by
    rw [Vec.modifyAt, hc, bind_some, hc', map_some]
  refine Returns.bind ⟨_, hmodify, rfl⟩ ?_
  rintro columns rfl
  refine of_pure ?_
  rw [rows, rows, map_set, hrow]

theorem activateColumn_rows (hidx : idx < s.rows.length) :
    Returns (s.activateColumn idx) fun s' => s'.rows = s.rows ∧ s'.activeColumnIdx = idx :=
  Returns.ite (fun heq => of_some ⟨rfl, heq⟩) fun _ =>
    Returns.ite (fun _ => of_some ⟨rfl, rfl⟩) fun hout =>
      absurd (s.rows_length ▸ hidx) hout

/-- The column at `idx` has its data, so what is cached of it can be updated. -/
theorem updateData_rows (hc : s.columns[idx]? = some c) (hinv : c.Shape strict)
    (hdata : idx < s.data.length) : Returns (s.updateData idx) fun s' => s'.rows = s.rows := by
  obtain ⟨w, hw⟩ := isSome_iff_exists.mp hinv.actualWidth_isSome
  have hmodify : Vec.modifyAt s.data idx (fun _ => ColumnData.of c) = some (s.data.set idx ⟨w⟩) := by
    rw [Vec.modifyAt, List.getElem?_eq_getElem hdata, bind_some, ColumnData.of, hw]
    rfl
  refine Returns.bind ⟨c, hc, rfl⟩ ?_
  rintro _ rfl
  refine Returns.bind ⟨_, hmodify, rfl⟩ ?_
  rintro data rfl
  exact of_pure rfl

section

variable (h : s.Inv strict)
include h

/-- **A tile joins a column.** -/
theorem addTileToColumn_rows {colIdx : ℕ} (hrow : s.rows[colIdx]? = some row) {tileIdx : Option ℕ}
    (hidx : tileIdx.getD row.1.length ≤ row.1.length) (tile : Tile Id) (activate : Bool) :
    Returns (s.addTileToColumn colIdx tileIdx tile activate) fun s' =>
      s'.rows = s.rows.set colIdx (Column.joinRow row (tileIdx.getD row.1.length) tile.id activate) ∧
        (activate = true → s'.activeColumnIdx = colIdx) := by
  obtain ⟨c, hc, rfl⟩ := column_of_row hrow
  rw [row_length] at hidx ⊢
  have hlt : colIdx < s.columns.length := (List.getElem?_eq_some_iff.mp hc).1
  have hcinv := h.columns c (mem_of_getElem? hc)
  obtain ⟨c', hc', hrow, hinv, -⟩ := (addTileToTarget_row hcinv.toShape hidx tile activate).and
    (addTileToTarget_inv hcinv tileIdx tile activate)
  have hmodify : s.modifyColumn colIdx (addTileToTarget tileIdx tile activate) =
      some { s with columns := s.columns.set colIdx c' } := by
    rw [modifyColumn, Vec.modifyAt, hc, bind_some, hc', map_some]
    rfl
  refine Returns.bind ⟨_, hmodify, rfl⟩ ?_
  rintro s₁ rfl
  have hrows : ({ s with columns := s.columns.set colIdx c' } : ScrollingSpace Id).rows =
      s.rows.set colIdx (Column.joinRow c.row (tileIdx.getD c.tiles.length) tile.id activate) := by
    rw [rows, rows, map_set, hrow]
  refine (updateData_rows ?_ hinv.toShape ?_).bind fun s₂ hs₂ => ?_
  · exact List.getElem?_set_self hlt
  · exact (h.length_data ▸ hlt : colIdx < s.data.length)
  refine Returns.ite (fun _ => ?_) fun hnot => of_pure ⟨hs₂.trans hrows, fun ht => absurd ht hnot⟩
  refine (activateColumn_rows ?_).mono fun s₃ hs₃ => ⟨hs₃.1.trans (hs₂.trans hrows), fun _ => hs₃.2⟩
  rw [hs₂, hrows, length_set, rows_length]
  exact hlt

/-- A column is put at `idx`. -/
theorem addColumn_rows (hidx : idx ≤ s.rows.length) {column : Column Id}
    (hcolumn : column.Inv strict) (activate : Bool) (hflat : strict → ¬s.ConvertsFlat column) :
    Returns (s.addColumn (some idx) column activate) fun s' =>
      s'.rows = s.rows.insertIdx idx column.row ∧ (activate = true → s'.activeColumnIdx = idx) := by
  rw [rows_length] at hidx
  refine ((updateConfig_row hcolumn _ _ _ _ _ hflat).and
    (Column.updateConfig_inv hcolumn _ _ _ _ _ hflat)).bind fun c₁ hc₁ => ?_
  obtain ⟨hrow, hinv, -⟩ := hc₁
  obtain ⟨w, hw⟩ := isSome_iff_exists.mp hinv.actualWidth_isSome
  refine Returns.bind ⟨_, congrArg (Option.map _) hw, rfl⟩ ?_
  rintro d rfl
  refine Returns.bind ⟨_, if_pos (h.length_data ▸ hidx : idx ≤ s.data.length), rfl⟩ ?_
  rintro data rfl
  refine Returns.bind ⟨_, if_pos hidx, rfl⟩ ?_
  rintro columns rfl
  have hrows (s' : ScrollingSpace Id) (hs' : s'.columns = s.columns.insertIdx idx c₁) :
      s'.rows = s.rows.insertIdx idx column.row := by
    rw [rows, hs', map_insertIdx, hrow]
    rfl
  refine Returns.ite (fun _ => ?_) fun hnot =>
    of_pure ⟨hrows _ rfl, fun ht => absurd ht hnot⟩
  refine (activateColumn_rows ?_).bind fun s₂ hs₂ => of_pure ⟨?_, fun _ => hs₂.2⟩
  · rw [rows_length]
    dsimp only [getD_some]
    rw [length_insertIdx_of_le_length hidx]
    omega
  · exact hs₂.1.trans (hrows _ rfl)

/-- **A tile gets a column of its own.** -/
theorem addTile_rows (hidx : idx ≤ s.rows.length) (tile : Tile Id) (activate : Bool)
    (width : ColumnWidth) (isFullWidth : Bool) (hflat : strict → ¬s.TileConvertsFlat tile) :
    Returns (s.addTile (some idx) tile activate width isFullWidth) fun s' =>
      s'.rows = s.rows.insertIdx idx ([tile.id], 0) ∧
        (activate = true → s'.activeColumnIdx = idx) := by
  refine ((newWithTile_row tile _ _ _ _ width isFullWidth).and
    (newWithTile_inv strict tile _ _ _ _ width isFullWidth)).bind fun c hc => ?_
  obtain ⟨hrow, hinv, -, hopt, -, hzero⟩ := hc
  rw [← hrow]
  refine addColumn_rows h hidx hinv activate ?_
  rintro hs ⟨hne, hf⟩
  rw [hopt] at hne
  exact hflat hs ⟨hne, hzero hf⟩

/-- **A column goes.** -/
theorem removeColumnByIdx_rows [DecidableEq Id] (hc : s.columns[idx]? = some c) :
    Returns (s.removeColumnByIdx idx) fun p => p.1 = c ∧ p.2.rows = s.rows.eraseIdx idx := by
  have hlt : idx < s.columns.length := (List.getElem?_eq_some_iff.mp hc).1
  have hactive := h.active_lt (ne_nil_of_length_pos (by omega))
  have hlength := length_eraseIdx_of_lt hlt
  have hdata := List.getElem?_eq_getElem (h.length_data ▸ hlt : idx < s.data.length)
  refine Returns.bind ⟨_, congrArg (Option.map _) hc, rfl⟩ ?_
  rintro p rfl
  refine Returns.bind ⟨_, congrArg (Option.map _) hdata, rfl⟩ ?_
  rintro q rfl
  have hrows (s' : ScrollingSpace Id) (hs' : s'.columns = s.columns.eraseIdx idx) :
      s'.rows = s.rows.eraseIdx idx := by
    rw [rows, hs']
    exact (eraseIdx_map ..).symm
  refine Returns.ite (fun _ => of_pure ⟨rfl, hrows _ rfl⟩) fun hne => ?_
  have hpos : 0 < (s.columns.eraseIdx idx).length :=
    length_pos_of_ne_nil fun hnil => hne (isEmpty_iff.mpr hnil)
  refine Returns.ite (fun _ => of_pure ⟨rfl, hrows _ rfl⟩) fun _ =>
    Returns.ite (fun hprev => Returns.ite (fun _ => ?_) fun _ => of_pure ⟨rfl, hrows _ rfl⟩)
      fun _ => ?_
  · refine (activateColumn_rows ?_).bind fun s₂ hs₂ => of_pure ⟨rfl, hs₂.1.trans (hrows _ rfl)⟩
    rw [rows_length]
    dsimp only
    omega
  · refine (activateColumn_rows ?_).bind fun s₂ hs₂ => of_pure ⟨rfl, hs₂.1.trans (hrows _ rfl)⟩
    rw [rows_length]
    dsimp only
    omega

variable {tileIdx : ℕ}

/-- **The only tile of a column goes**, and the column with it. -/
theorem removeTileByIdx_rows_single [DecidableEq Id] (hrow : s.rows[idx]? = some row)
    (hone : row.1.length = 1) (htile : tileIdx < row.1.length) :
    Returns (s.removeTileByIdx idx tileIdx) fun p =>
      row.1[tileIdx]? = some p.1.tile.id ∧ p.2.rows = s.rows.eraseIdx idx := by
  obtain ⟨c, hc, rfl⟩ := column_of_row hrow
  rw [row_length] at hone htile
  refine Returns.bind ⟨c, hc, rfl⟩ ?_
  rintro _ rfl
  refine Returns.ite (fun _ => ?_) fun hnot => absurd hone hnot
  refine (removeColumnByIdx_rows h hc).bind fun p hp => ?_
  obtain ⟨rfl, hrows⟩ := hp
  have hget := List.getElem?_eq_getElem htile
  refine Returns.bind ⟨_, congrArg (Option.map _) hget, rfl⟩ ?_
  rintro q rfl
  refine of_pure ⟨?_, hrows⟩
  rw [Column.row, Column.ids, List.getElem?_map, hget]
  rfl

/-- **A tile leaves a column of several.** -/
theorem removeTileByIdx_rows [DecidableEq Id] (hrow : s.rows[idx]? = some row)
    (hmany : 2 ≤ row.1.length) (htile : tileIdx < row.1.length) :
    Returns (s.removeTileByIdx idx tileIdx) fun p =>
      row.1[tileIdx]? = some p.1.tile.id ∧
        p.2.rows = s.rows.set idx (Column.leaveRow row tileIdx) := by
  obtain ⟨c, hc, rfl⟩ := column_of_row hrow
  rw [row_length] at hmany htile
  have hlt : idx < s.columns.length := (List.getElem?_eq_some_iff.mp hc).1
  have hcinv := h.columns c (mem_of_getElem? hc)
  refine Returns.bind ⟨c, hc, rfl⟩ ?_
  rintro _ rfl
  refine Returns.ite (fun hone => by omega) fun hnot => ?_
  refine ((removeTile_row hcinv.toShape htile hmany).and
    (Column.removeTile_inv hcinv tileIdx hnot)).bind fun p hp => ?_
  obtain ⟨⟨hid, hrow⟩, hinv, -⟩ := hp
  refine (updateData_rows ?_ hinv.toShape ?_).bind fun s₂ hs₂ => of_pure ⟨hid, ?_⟩
  · exact List.getElem?_set_self hlt
  · exact (h.length_data ▸ hlt : idx < s.data.length)
  · rw [hs₂, rows, rows, map_set, hrow]

/-- **The active column goes elsewhere.** -/
theorem moveColumnTo_rows [DecidableEq Id] {newIdx : ℕ}
    (hrow : s.rows[s.activeColumnIdx]? = some row) (hnew : newIdx < s.columns.length)
    (hne : s.activeColumnIdx ≠ newIdx) :
    Returns (s.moveColumnTo newIdx) fun s' =>
      s'.rows = (s.rows.eraseIdx s.activeColumnIdx).insertIdx newIdx row ∧
        s'.activeColumnIdx = newIdx := by
  obtain ⟨c, hc, rfl⟩ := column_of_row hrow
  have hlt : s.activeColumnIdx < s.columns.length := (List.getElem?_eq_some_iff.mp hc).1
  have hdata_lt : s.activeColumnIdx < s.data.length := h.length_data ▸ hlt
  have hlength := length_eraseIdx_of_lt hlt
  have hlength_data := length_eraseIdx_of_lt hdata_lt
  have hdata_length := h.length_data
  refine Returns.ite (fun heq => absurd heq hne) fun _ => ?_
  refine Returns.bind ⟨_, congrArg (Option.map _) hc, rfl⟩ ?_
  rintro p rfl
  refine Returns.bind ⟨_, congrArg (Option.map _) (List.getElem?_eq_getElem hdata_lt), rfl⟩ ?_
  rintro q rfl
  refine Returns.bind ⟨_, if_pos (by omega), rfl⟩ ?_
  rintro columns rfl
  refine Returns.bind ⟨_, if_pos (by omega), rfl⟩ ?_
  rintro data rfl
  refine (activateColumn_rows ?_).mono fun s' hs' => ⟨hs'.1.trans ?_, hs'.2⟩
  · rw [rows_length]
    rw [length_insertIdx_of_le_length (by omega)]
    omega
  · rw [rows, map_insertIdx]
    exact congrArg (List.insertIdx · newIdx c.row) (eraseIdx_map ..).symm

end

/-- Another tile of a column becomes its active one. -/
theorem setActiveTile_rows (hrow : s.rows[idx]? = some row) (tileIdx : ℕ) :
    Returns (s.setActiveTile idx tileIdx) fun s' => s'.rows = s.rows.set idx (row.1, tileIdx) := by
  obtain ⟨c, hc, rfl⟩ := column_of_row hrow
  exact modifyColumn_rows hc (of_some rfl)

end ScrollingSpace

end Tiri.Layout
