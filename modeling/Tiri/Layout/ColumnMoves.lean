import Tiri.Layout.ColumnRows
import Tiri.Layout.ScrollingRun

/-!
# Swapping tiles, and moving them in and out of columns

`swap_window_in_direction` takes two tiles out and puts two in, and a column that is empty in
between is gone in between; `consume_or_expel_window_left` and `…_right` move one tile between
neighbouring columns.

Results:
* `swapWindowInDirection_exchanges`: the two active tiles trade places and nothing else changes;
* `consumeOrExpel_undone`: right and then left is as before, and either direction moves the one
  window and none of the others;
* `moves_carry`: the active column moves past the others;
* `opened_closed`: a window that opens and closes leaves the columns as they were.
-/

namespace Tiri.Layout.ScrollingSpace

open Option List Nat Returns Vec Column

variable {Id : Type} {strict : Prop} [DecidableEq Id]

/-! ## Swapping -/

variable (s : ScrollingSpace Id)

/-- The neighbour on that side exists. -/
def HasNeighbour : ScrollDirection → Prop
  | .left => 0 < s.activeColumnIdx
  | .right => s.activeColumnIdx + 1 < s.columns.length

omit [DecidableEq Id] in
/-- The window that has the focus. -/
theorem activeWindow_id :
    s.activeWindow.map (·.id) = s.rows[s.activeColumnIdx]?.bind fun row => row.1[row.2]? := by
  rw [activeWindow, rows, List.getElem?_map]
  cases hcolumn : s.columns[s.activeColumnIdx]? with
  | none => rfl
  | some column =>
    have hids : column.row.1[column.row.2]? = column.tiles[column.activeTileIdx]?.map Tile.id :=
      List.getElem?_map ..
    rw [map_some, bind_some, hids]
    cases htile : column.tiles[column.activeTileIdx]? with
    | none => simp [htile]
    | some tile => simp [htile, Tile.id]

variable {s : ScrollingSpace Id} {idx : ℕ} {row : List Id × ℕ} {target : ℕ}
variable {rows : List (List Id × ℕ)} {i j : ℕ} {window : Option Id} {id : Id}

omit [DecidableEq Id] in
/-- The active tile of each column is one of its tiles. -/
theorem Inv.row_active (h : s.Inv strict) (hrow : s.rows[idx]? = some row) :
    row.2 < row.1.length := by
  obtain ⟨c, hc, rfl⟩ := column_of_row hrow
  rw [row_length]
  exact (h.columns c (mem_of_getElem? hc)).active_lt

variable {s₁ : ScrollingSpace Id} {removed : RemovedTile Id} {tileIdx : ℕ}

/-- One tile takes the place of another, whose tile is handed back. -/
theorem replaceTile_rows (h : s.Inv strict) (hremoved : s.Removed strict removed s₁)
    (hrow : s₁.rows[idx]? = some row) (htile : tileIdx < row.1.length) :
    Returns (s₁.addTileToColumn idx (some tileIdx) removed.tile false) fun s₂ =>
      Returns (s₂.removeTileByIdx idx (tileIdx + 1)) fun p =>
        (∃ s₀ : ScrollingSpace Id, s₀.Inv strict ∧ s₀.Removed strict p.1 p.2) ∧
          row.1[tileIdx]? = some p.1.tile.id ∧
          ∃ active, p.2.rows = s₁.rows.set idx (row.1.set tileIdx removed.tile.id, active) := by
  have hlt : idx < s₁.rows.length := (List.getElem?_eq_some_iff.mp hrow).1
  have hidx : (some tileIdx).getD row.1.length ≤ row.1.length := htile.le
  refine ((addTileToColumn_rows hremoved.inv hrow hidx removed.tile false).and
    (hremoved.addTileToColumn h idx (some tileIdx) false)).mono fun s₂ hs₂ => ?_
  obtain ⟨⟨hrows₂, -⟩, hinv₂, -⟩ := hs₂
  have hjoined : s₂.rows[idx]? = some (Column.joinRow row tileIdx removed.tile.id false) := by
    rw [hrows₂]
    exact List.getElem?_set_self hlt
  have hlength : (row.1.insertIdx tileIdx removed.tile.id).length = row.1.length + 1 :=
    length_insertIdx_of_le_length htile.le _
  refine ((removeTileByIdx_rows hinv₂ hjoined ?_ ?_).and (removeTileByIdx_inv hinv₂ _ _)).mono
    fun p hp => ?_
  · exact (by omega : 2 ≤ (row.1.insertIdx tileIdx removed.tile.id).length)
  · exact (by omega : tileIdx + 1 < (row.1.insertIdx tileIdx removed.tile.id).length)
  · obtain ⟨⟨hid, hrows⟩, hremoved'⟩ := hp
    refine ⟨⟨s₂, hinv₂, hremoved'⟩, ?_,
      (Column.leaveRow (Column.joinRow row tileIdx removed.tile.id false) (tileIdx + 1)).2, ?_⟩
    · exact (List.getElem?_insertIdx_of_gt (lt_succ_self _)).symm.trans hid
    · rw [hrows, hrows₂, set_set]
      exact congrArg _ (Prod.ext (eraseIdx_insertIdx htile _) rfl)

variable {sourceRow targetRow : List Id × ℕ}

omit [DecidableEq Id] in
/-- The end of `swap_window_in_direction`: the active tiles are set, and the focus goes over. -/
theorem setActiveTiles_rows {source : ℕ} (hne : source ≠ target)
    (hsource : s.rows[source]? = some sourceRow) (htarget : s.rows[target]? = some targetRow)
    (i j : ℕ) :
    Returns (do
      let s ← s.setActiveTile source i
      let s ← s.setActiveTile target j
      s.activateColumn target) fun s' =>
      s'.rows = (s.rows.set source (sourceRow.1, i)).set target (targetRow.1, j) ∧
        s'.activeColumnIdx = target := by
  refine (setActiveTile_rows hsource i).bind fun s₁ hs₁ => ?_
  have htarget₁ : s₁.rows[target]? = some targetRow := by
    rw [hs₁, List.getElem?_set_ne hne]
    exact htarget
  refine (setActiveTile_rows htarget₁ j).bind fun s₂ hs₂ => ?_
  refine (activateColumn_rows ?_).mono fun s' hs' => ⟨?_, hs'.2⟩
  · rw [hs₂, length_set]
    exact (List.getElem?_eq_some_iff.mp htarget₁).1
  · rw [hs'.1, hs₂, hs₁]

/-- Two columns of one tile each: the active one moves past the other. -/
theorem moveColumnTo_exchanges (h : s.Inv strict)
    (hadjacent : target + 1 = s.activeColumnIdx ∨ target = s.activeColumnIdx + 1)
    (hsource : s.rows[s.activeColumnIdx]? = some sourceRow)
    (htarget : s.rows[target]? = some targetRow) :
    Returns (s.moveColumnTo target) fun s' =>
      s'.rows = (s.rows.set s.activeColumnIdx targetRow).set target sourceRow ∧
        s'.activeColumnIdx = target := by
  have hlt : target < s.rows.length := (List.getElem?_eq_some_iff.mp htarget).1
  refine (moveColumnTo_rows h hsource (s.rows_length ▸ hlt) (by omega)).mono
    fun s' hs' => ⟨hs'.1.trans ?_, hs'.2⟩
  apply ext_getElem?
  have hlt' := (List.getElem?_eq_some_iff.mp hsource).1
  rcases hadjacent with hleft | hright
  · grind
  · grind

/-- What follows the first removal: the tile that was removed replaces the target's active one, and
that one is put where the first came from. -/
theorem swapRest_rows (h : s.Inv strict) (hremoved : s.Removed strict removed s₁)
    {source adjusted : ℕ} {b : Id} {drained : Bool} {sourceIds targetIds : List Id}
    (hne : source ≠ target) (hsource : source < rows.length) (htarget : target < rows.length)
    (hrow : s₁.rows[adjusted]? = some row) (hb : row.1[j]? = some b)
    (hback : ∀ (s₀ s₃ : ScrollingSpace Id) (removed' : RemovedTile Id) (active : ℕ), s₀.Inv strict →
      s₀.Removed strict removed' s₃ → removed'.tile.id = b →
      s₃.rows = s₁.rows.set adjusted (row.1.set j removed.tile.id, active) →
      Returns (s₃.putBack drained source i removed'.tile removed) fun s₄ =>
        ∃ x y, s₄.rows = (rows.set source (sourceIds, x)).set target (targetIds, y)) :
    Returns (do
      let s ← s₁.addTileToColumn adjusted (some j) removed.tile false
      let (targetRemoved, s) ← s.removeTileByIdx adjusted (j + 1)
      let s ← s.putBack drained source i targetRemoved.tile removed
      let s ← s.setActiveTile source i
      let s ← s.setActiveTile target j
      s.activateColumn target) fun s' =>
      s'.rows = (rows.set source (sourceIds, i)).set target (targetIds, j) ∧
        s'.activeColumnIdx = target := by
  have hj := (List.getElem?_eq_some_iff.mp hb).1
  refine (replaceTile_rows h hremoved hrow hj).bind fun s₂ hs₂ => hs₂.bind fun p hp => ?_
  obtain ⟨⟨s₀, hinv₀, hremoved'⟩, hid, active, hrows⟩ := hp
  have hb' : p.1.tile.id = b := some.inj (hid.symm.trans hb)
  refine (hback s₀ p.2 p.1 active hinv₀ hremoved' hb' hrows).bind fun s₄ hs₄ => ?_
  obtain ⟨x, y, hrows₄⟩ := hs₄
  have hsource₄ : s₄.rows[source]? = some (sourceIds, x) := by
    rw [hrows₄, List.getElem?_set_ne hne.symm, List.getElem?_set_self hsource]
  have htarget₄ : s₄.rows[target]? = some (targetIds, y) := by
    rw [hrows₄, List.getElem?_set_self (by rwa [length_set])]
  refine (setActiveTiles_rows hne hsource₄ htarget₄ i j).mono fun s' hs' => ⟨?_, hs'.2⟩
  rw [hs'.1, hrows₄, set_comm (targetIds, y) (sourceIds, i) hne.symm, set_set, set_set]

omit [DecidableEq Id] in
theorem row_singleton (h : s.Inv strict) {a : Id} (hrow : s.rows[idx]? = some row)
    (hone : row.1.length = 1) (ha : row.1[row.2]? = some a) : row = ([a], 0) := by
  obtain ⟨x, hx⟩ := length_eq_one_iff.mp hone
  have hactive : row.2 = 0 := by
    have := h.row_active hrow
    omega
  rw [hx, hactive] at ha
  obtain rfl : x = a := some.inj ha
  exact Prod.ext hx hactive

/-- **`swap_window_in_direction`** exchanges the two active tiles. -/
theorem swapWindowInDirection_rows (h : s.Inv strict) {direction : ScrollDirection}
    (hneighbour : s.HasNeighbour direction) {source target : List Id × ℕ} {a b : Id}
    (hsource : s.rows[s.activeColumnIdx]? = some source)
    (htarget : s.rows[direction.neighbour s.activeColumnIdx]? = some target)
    (ha : source.1[source.2]? = some a) (hb : target.1[target.2]? = some b) :
    Returns (s.swapWindowInDirection direction) fun s' =>
      s'.rows = (s.rows.set s.activeColumnIdx (source.1.set source.2 b, source.2)).set
        (direction.neighbour s.activeColumnIdx) (target.1.set target.2 a, target.2) ∧
      s'.activeColumnIdx = direction.neighbour s.activeColumnIdx := by
  have hadjacent : direction.neighbour s.activeColumnIdx + 1 = s.activeColumnIdx ∨
      direction.neighbour s.activeColumnIdx = s.activeColumnIdx + 1 := by
    cases direction with
    | left => exact .inl (Nat.sub_add_cancel hneighbour)
    | right => exact .inr rfl
  have hlt : s.activeColumnIdx < s.rows.length := (List.getElem?_eq_some_iff.mp hsource).1
  have hlt' : direction.neighbour s.activeColumnIdx < s.rows.length :=
    (List.getElem?_eq_some_iff.mp htarget).1
  have hsource_tile := (List.getElem?_eq_some_iff.mp ha).1
  obtain ⟨sourceColumn, hsourceColumn, rfl⟩ := column_of_row hsource
  obtain ⟨targetColumn, htargetColumn, rfl⟩ := column_of_row htarget
  refine Returns.ite (fun hempty => ?_) fun _ => Returns.ite (fun hedge => ?_) fun _ => ?_
  · rw [isEmpty_iff.mp hempty] at hsourceColumn
    exact nomatch hsourceColumn
  · rcases hedge with ⟨rfl, hzero⟩ | ⟨rfl, hlast⟩
    · exact absurd hneighbour (by rw [HasNeighbour, hzero]; exact lt_irrefl 0)
    · have hright : s.activeColumnIdx + 1 < s.columns.length := hneighbour
      omega
  refine Returns.bind ⟨sourceColumn, hsourceColumn, rfl⟩ ?_
  rintro _ rfl
  refine Returns.bind ⟨targetColumn, htargetColumn, rfl⟩ ?_
  rintro _ rfl
  refine Returns.ite (fun hsingles => ?_) fun hmany => ?_
  · -- Both columns hold one tile.
    have hsource_row := row_singleton h hsource ((row_length _).trans hsingles.1) ha
    have htarget_row := row_singleton h htarget ((row_length _).trans hsingles.2) hb
    rw [hsource_row, htarget_row]
    rw [hsource_row] at hsource
    rw [htarget_row] at htarget
    exact moveColumnTo_exchanges h hadjacent hsource htarget
  by_cases hone : sourceColumn.tiles.length = 1
  · -- The source column is drained: what is on the right of it has moved up.
    have hdrained : sourceColumn.row = ([a], 0) :=
      row_singleton h hsource ((row_length _).trans hone) ha
    have hids : sourceColumn.row.1.set sourceColumn.row.2 b = [b] := by
      rw [hdrained]
      rfl
    refine ((removeTileByIdx_rows_single h hsource ((row_length _).trans hone)
      hsource_tile).and (removeTileByIdx_inv h _ _)).bind fun p hp => ?_
    obtain ⟨⟨hid, hrows⟩, hremoved⟩ := hp
    obtain rfl : p.1.tile.id = a := some.inj (hid.symm.trans ha)
    rw [hids, decide_eq_true hone]
    -- The drained column is made anew around the target's tile.
    have hback {adjusted : ℕ} {s₀ s₃ : ScrollingSpace Id} {removed' : RemovedTile Id} {active : ℕ}
        {rows : List (List Id × ℕ)} (hinv₀ : s₀.Inv strict) (hremoved' : s₀.Removed strict removed' s₃)
        (hid' : removed'.tile.id = b)
        (hrows₃ : s₃.rows = (s.rows.eraseIdx s.activeColumnIdx).set adjusted
          (targetColumn.row.1.set targetColumn.row.2 p.1.tile.id, active))
        (hresult : ((s.rows.eraseIdx s.activeColumnIdx).set adjusted
          (targetColumn.row.1.set targetColumn.row.2 p.1.tile.id, active)).insertIdx
            s.activeColumnIdx ([b], 0) = rows) :
        Returns (s₃.putBack true s.activeColumnIdx sourceColumn.activeTileIdx removed'.tile p.1)
          fun s₄ => s₄.rows = rows := by
      have hle : s.activeColumnIdx ≤ s₃.rows.length := by
        rw [hrows₃, length_set, length_eraseIdx_of_lt hlt]
        omega
      refine (addTile_rows hremoved'.inv hle removed'.tile true p.1.width p.1.isFullWidth
        fun _ => hremoved'.not_flat).mono fun s₄ hs₄ => ?_
      rw [hs₄.1, hrows₃, hid']
      exact hresult
    cases direction with
    | left =>
      have hpos : 0 < s.activeColumnIdx := hneighbour
      have hrow : p.2.rows[s.activeColumnIdx - 1]? = some targetColumn.row := by
        rw [hrows, List.getElem?_eraseIdx_of_lt (by omega)]
        exact htarget
      refine swapRest_rows h hremoved (by omega) hlt hlt' hrow hb
        fun s₀ s₃ removed' active hinv₀ hremoved' hid' hrows₃ => ?_
      rw [hrows] at hrows₃
      have hresult := insertIdx_set_eraseIdx_succ
        (show s.activeColumnIdx - 1 + 1 < s.rows.length by omega) ([b], 0)
        (targetColumn.row.1.set targetColumn.row.2 p.1.tile.id, active)
      rw [Nat.sub_add_cancel hpos] at hresult
      exact (hback hinv₀ hremoved' hid' hrows₃ hresult).mono fun s₄ hs₄ => ⟨0, active, hs₄⟩
    | right =>
      have hrow : p.2.rows[s.activeColumnIdx + 1 - 1]? = some targetColumn.row := by
        rw [hrows, Nat.add_sub_cancel, List.getElem?_eraseIdx_of_ge le_rfl]
        exact htarget
      rw [if_pos ⟨rfl, hone⟩]
      refine swapRest_rows h hremoved (by omega) hlt hlt' hrow hb
        fun s₀ s₃ removed' active hinv₀ hremoved' hid' hrows₃ => ?_
      rw [hrows] at hrows₃
      have hresult := insertIdx_set_eraseIdx (show s.activeColumnIdx + 1 < s.rows.length from hlt')
        ([b], 0) (targetColumn.row.1.set targetColumn.row.2 p.1.tile.id, active)
      exact (hback hinv₀ hremoved' hid' hrows₃ hresult).mono fun s₄ hs₄ => ⟨0, active, hs₄⟩
  · -- The source column keeps other tiles.
    have hlength : 2 ≤ sourceColumn.row.1.length := by
      rw [row_length] at hsource_tile ⊢
      omega
    refine ((removeTileByIdx_rows h hsource hlength hsource_tile).and
      (removeTileByIdx_inv h _ _)).bind fun p hp => ?_
    obtain ⟨⟨hid, hrows⟩, hremoved⟩ := hp
    obtain rfl : p.1.tile.id = a := some.inj (hid.symm.trans ha)
    have hne : s.activeColumnIdx ≠ direction.neighbour s.activeColumnIdx := by omega
    have hrow : p.2.rows[direction.neighbour s.activeColumnIdx]? = some targetColumn.row := by
      rw [hrows, List.getElem?_set_ne hne]
      exact htarget
    rw [decide_eq_false hone, if_neg (fun hboth => hone hboth.2)]
    refine swapRest_rows h hremoved hne hlt hlt' hrow hb
      fun s₀ s₃ removed' active hinv₀ hremoved' hid' hrows₃ => ?_
    have hleft : s₃.rows[s.activeColumnIdx]? =
        some (Column.leaveRow sourceColumn.row sourceColumn.row.2) := by
      rw [hrows₃, List.getElem?_set_ne hne.symm, hrows, List.getElem?_set_self hlt]
    have hlength_left := length_eraseIdx_of_lt hsource_tile
    have hidx : (some sourceColumn.row.2).getD
        (Column.leaveRow sourceColumn.row sourceColumn.row.2).1.length ≤
          (Column.leaveRow sourceColumn.row sourceColumn.row.2).1.length := by
      simp only [getD_some, Column.leaveRow]
      omega
    refine (addTileToColumn_rows hremoved'.inv hleft hidx removed'.tile false).mono fun s₄ hs₄ => ?_
    refine ⟨(Column.joinRow (Column.leaveRow sourceColumn.row sourceColumn.row.2) sourceColumn.row.2
      removed'.tile.id false).2, active, ?_⟩
    rw [hs₄.1, hrows₃, hrows, set_comm _ _ hne.symm, set_set]
    refine congrArg (fun row => (s.rows.set s.activeColumnIdx row).set _ _) (Prod.ext ?_ rfl)
    rw [← hid']
    exact insertIdx_eraseIdx hsource_tile _

/-- **The two active tiles trade places.**  The columns and their order are as before, so are all
other tiles, and the focus goes with the window that had it. -/
theorem swapWindowInDirection_exchanges {s : ScrollingSpace Id} (h : s.Inv strict)
    (direction : ScrollDirection) (hneighbour : s.HasNeighbour direction) :
    ∃ source target a b s', s.rows[s.activeColumnIdx]? = some source ∧
      s.rows[direction.neighbour s.activeColumnIdx]? = some target ∧
      source.1[source.2]? = some a ∧ target.1[target.2]? = some b ∧
      s.swapWindowInDirection direction = some s' ∧
      s'.rows = (s.rows.set s.activeColumnIdx (source.1.set source.2 b, source.2)).set
        (direction.neighbour s.activeColumnIdx) (target.1.set target.2 a, target.2) ∧
      s.activeWindow.map (·.id) = some a ∧ s'.activeWindow.map (·.id) = some a ∧
      s'.activeColumnIdx = direction.neighbour s.activeColumnIdx := by
  have hactive : s.activeColumnIdx < s.columns.length ∧
      direction.neighbour s.activeColumnIdx < s.columns.length := by
    cases direction with
    | left =>
      have hpos : 0 < s.activeColumnIdx := hneighbour
      have hlt := h.active_lt fun hnil => absurd (h.active_zero hnil) hpos.ne'
      exact ⟨hlt, (sub_le _ _).trans_lt hlt⟩
    | right =>
      have hright : s.activeColumnIdx + 1 < s.columns.length := hneighbour
      exact ⟨lt_of_succ_lt hright, hright⟩
  rw [← rows_length] at hactive
  obtain ⟨hlt, hlt'⟩ := hactive
  have hsource := List.getElem?_eq_getElem hlt
  have htarget := List.getElem?_eq_getElem hlt'
  have ha := List.getElem?_eq_getElem (h.row_active hsource)
  have hb := List.getElem?_eq_getElem (h.row_active htarget)
  obtain ⟨s', hs', hrows, hfocus⟩ := swapWindowInDirection_rows h hneighbour hsource htarget ha hb
  refine ⟨_, _, _, _, s', hsource, htarget, ha, hb, hs', hrows, ?_, ?_, hfocus⟩
  · rw [activeWindow_id, hsource]
    exact ha
  · have htarget_tile := h.row_active htarget
    rw [activeWindow_id, hfocus, hrows, List.getElem?_set_self (by rwa [length_set])]
    exact List.getElem?_set_self htarget_tile

/-! ### Three windows -/

/-- Two windows open side by side, and a third one below the first. -/
def threeWindows : List (Op ℕ) :=
  [.addTile none (plainTile 1) true (.proportion (1 / 2)) false,
    .addTile none (plainTile 2) true (.proportion (1 / 2)) false,
    .addTileToColumn 0 none (plainTile 3) false]

theorem threeWindows_inv : ∃ s, Run.exec Op.run plainSpace threeWindows = some s ∧
    s.Inv True ∧ s.rows = [([1, 3], 0), ([2], 0)] ∧ s.activeColumnIdx = 1 := by
  have hrows : (Run.exec Op.run plainSpace threeWindows).map (fun s =>
      (s.rows, s.activeColumnIdx)) = some ([([1, 3], 0), ([2], 0)], 1) := by decide +kernel
  obtain ⟨s, hs, hrows⟩ := map_eq_some_iff.mp hrows
  obtain ⟨hrows, hactive⟩ := Prod.mk.inj hrows
  have hready : Run.Along Op.run Op.Ready plainSpace threeWindows := by
    decide +kernel
  exact ⟨s, hs, run_inv (new_inv _ _ _ _) hready hs, hrows, hactive⟩

/-- The window on the right changes places with the upper one on the left. -/
theorem threeWindows_swap : ∃ s s' : ScrollingSpace ℕ, s.rows = [([1, 3], 0), ([2], 0)] ∧
    s.swapWindowInDirection .left = some s' ∧ s'.rows = [([2, 3], 0), ([1], 0)] ∧
    s'.activeColumnIdx = 0 := by
  obtain ⟨s, -, hinv, hrows, hactive⟩ := threeWindows_inv
  have hneighbour : s.HasNeighbour .left := by
    rw [HasNeighbour, hactive]
    exact one_pos
  obtain ⟨source, target, a, b, s', hsource, htarget, ha, hb, hswap, hrows', -, -, hactive'⟩ :=
    swapWindowInDirection_exchanges hinv .left hneighbour
  refine ⟨s, s', hrows, hswap, ?_, ?_⟩
  · rw [hrows, hactive] at hsource htarget
    obtain rfl : ([2], 0) = source := some.inj hsource
    obtain rfl : ([1, 3], 0) = target := some.inj htarget
    obtain rfl : 2 = a := some.inj ha
    obtain rfl : 1 = b := some.inj hb
    rw [hrows', hrows, hactive]
    rfl
  · rw [hactive', hactive]
    rfl

/-! ## Consuming and expelling -/

/-- The window that an operation is about: the one that it names, or the one that has the focus. -/
def Addresses (window : Option Id) (id : Id) : Prop :=
  match window with
  | some window => window = id ∧ id ∈ s.ids
  | none => s.activeWindow.map (·.id) = some id

/-- The window is found. -/
theorem source_of_addresses (haddresses : s.Addresses window id) :
    ∃ i j row, s.source window = some (i, j) ∧ s.rows[i]? = some row ∧ row.1[j]? = some id := by
  cases window with
  | none =>
    have hrow : s.activeWindow.map (·.id) = some id := haddresses
    rw [activeWindow_id] at hrow
    obtain ⟨row, hrow, hid⟩ := bind_eq_some_iff.mp hrow
    obtain ⟨column, hcolumn, rfl⟩ := column_of_row hrow
    refine ⟨s.activeColumnIdx, column.activeTileIdx, column.row, ?_, hrow, hid⟩
    rw [source, hcolumn]
    rfl
  | some window =>
    obtain ⟨rfl, hmem⟩ := haddresses
    obtain ⟨c, hc, hmem⟩ := mem_flatMap.mp hmem
    have hcontains : c.contains window = true := by simpa [Column.contains, Column.ids] using hmem
    obtain ⟨i, hi⟩ : ∃ i, s.columnOf window = some i := isSome_iff_exists.mp
      (List.findIdx?_isSome.trans (any_eq_true.mpr ⟨c, hc, hcontains⟩))
    obtain ⟨column, hcolumn, hmem⟩ := columnOf_eq_some hi
    obtain ⟨tile, htile, hid⟩ := mem_map.mp hmem
    obtain ⟨j, hj⟩ : ∃ j, column.position window = some j := isSome_iff_exists.mp
      (List.findIdx?_isSome.trans (any_eq_true.mpr ⟨tile, htile, decide_eq_true hid⟩))
    refine ⟨i, j, column.row, ?_, row_of_column hcolumn, ?_⟩
    · rw [source, locate, hi, bind_eq_bind, bind_some, hcolumn, bind_eq_bind, bind_some, hj]
      rfl
    · obtain ⟨hlt, hid, -⟩ := List.findIdx?_eq_some_iff_getElem.mp hj
      refine (List.getElem?_map ..).trans ?_
      rw [List.getElem?_eq_getElem hlt, map_some, of_decide_eq_true hid]

/-- The columns after `id`, at place `j` of column `i`, has moved: a window that was alone joins
the column `target` of those that are left, and another one gets a column of its own at `place`. -/
def relocate (rows : List (List Id × ℕ)) (i j : ℕ) (id : Id) (place : ℕ) (target : Option ℕ)
    (activate : Bool) : List (List Id × ℕ) :=
  match rows[i]? with
  | none => rows
  | some row =>
    if row.1.length = 1 then
      match target with
      | none => rows
      | some target =>
        (rows.eraseIdx i).modify target fun other =>
          Column.joinRow other other.1.length id activate
    else (rows.set i (Column.leaveRow row j)).insertIdx place ([id], 0)

section

omit [DecidableEq Id]

theorem relocate_single (hrow : rows[i]? = some row) (hone : row.1.length = 1) (place target : ℕ)
    (activate : Bool) :
    relocate rows i j id place (some target) activate = (rows.eraseIdx i).modify target fun other =>
        Column.joinRow other other.1.length id activate := by
  unfold relocate
  rw [hrow]
  exact if_pos hone

theorem relocate_many (hrow : rows[i]? = some row) (hmany : row.1.length ≠ 1) (place : ℕ)
    (target : Option ℕ) (activate : Bool) : relocate rows i j id place target activate =
      (rows.set i (Column.leaveRow row j)).insertIdx place ([id], 0) := by
  unfold relocate
  rw [hrow]
  exact if_neg hmany

theorem modify_eq_set (hrow : rows[idx]? = some row) (f : List Id × ℕ → List Id × ℕ) :
    rows.modify idx f = rows.set idx (f row) := by
  rw [modify_eq_set_getElem?, hrow]
  rfl

end

/-- The only tile of a column joins another one, once the flag has been written. -/
theorem joinSingle_rows (h : s.Inv strict) (hrow : s.rows[i]? = some row) (hone : row.1 = [id])
    (htarget : target + 1 < s.rows.length) (active : Prop) [Decidable active] (prev : Bool) :
    Returns (do
      let self := if active then { s with activatePrevColumnOnRemoval := prev } else s
      let (removed, s') ← self.removeTileByIdx i 0
      s'.addTileToColumn target none removed.tile active) fun s' =>
      s'.rows = (s.rows.eraseIdx i).modify target
          (fun other => Column.joinRow other other.1.length id active) ∧
        (active → s'.activeColumnIdx = target) := by
  have hself : (if active then { s with activatePrevColumnOnRemoval := prev } else s).Inv strict ∧
      (if active then { s with activatePrevColumnOnRemoval := prev } else s).rows = s.rows := by
    split
    · exact ⟨h.setActivatePrev prev, rfl⟩
    · exact ⟨h, rfl⟩
  rw [← hself.2] at hrow htarget ⊢
  replace h := hself.1
  generalize (if active then { s with activatePrevColumnOnRemoval := prev } else s) = s at *
  have hlength : row.1.length = 1 := by rw [hone, length_singleton]
  have hlt := (List.getElem?_eq_some_iff.mp hrow).1
  refine ((removeTileByIdx_rows_single h hrow hlength (by omega)).and
    (removeTileByIdx_inv h _ _)).bind fun p hp => ?_
  obtain ⟨⟨hid, hrows⟩, hremoved⟩ := hp
  have hid : p.1.tile.id = id := by
    rw [hone] at hid
    exact (some.inj hid).symm
  have hother : target < p.2.rows.length := by
    rw [hrows, length_eraseIdx_of_lt hlt]
    omega
  have hother := List.getElem?_eq_getElem hother
  refine (addTileToColumn_rows hremoved.inv hother (le_refl _) p.1.tile active).mono
    fun s' hs' => ⟨?_, hs'.2 ∘ decide_eq_true⟩
  rw [hs'.1, ← hrows, modify_eq_set hother, hid]
  rfl

/-- A tile leaves a column of several for one of its own. -/
theorem expel_rows (h : s.Inv strict) {place : ℕ} (hrow : s.rows[i]? = some row)
    (hid : row.1[j]? = some id) (hmany : row.1.length ≠ 1) (hplace : place ≤ s.rows.length) :
    Returns (s.removeTileByIdx i j) fun p => ∀ activate : Bool,
      Returns (p.2.addTile (some place) p.1.tile activate p.1.width p.1.isFullWidth) fun s' =>
        s'.rows = (s.rows.set i (Column.leaveRow row j)).insertIdx place ([id], 0) ∧
          (activate = true → s'.activeColumnIdx = place) := by
  have hj := (List.getElem?_eq_some_iff.mp hid).1
  refine ((removeTileByIdx_rows h hrow (by omega) hj).and (removeTileByIdx_inv h _ _)).mono
    fun p hp activate => ?_
  obtain ⟨⟨hremoved_id, hrows⟩, hremoved⟩ := hp
  obtain rfl : p.1.tile.id = id := some.inj (hremoved_id.symm.trans hid)
  have hle : place ≤ p.2.rows.length := by rwa [hrows, length_set]
  rw [← hrows]
  exact addTile_rows hremoved.inv hle _ activate _ _ fun _ => hremoved.not_flat

omit [DecidableEq Id] in
theorem single_row {column : Column Id} (hone : column.tiles.length = 1)
    (hid : column.row.1[j]? = some id) : column.row.1 = [id] := by
  obtain ⟨x, hx⟩ := length_eq_one_iff.mp ((row_length column).trans hone)
  rw [hx] at hid ⊢
  have hj := (List.getElem?_eq_some_iff.mp hid).1
  rw [length_singleton, lt_one_iff] at hj
  rw [hj] at hid
  rw [some.inj hid]

/-- **`consume_or_expel_window_left`.** -/
theorem consumeOrExpelWindowLeft_rows (h : s.Inv strict) (hsource : s.source window = some (i, j))
    (hrow : s.rows[i]? = some row) (hid : row.1[j]? = some id) :
    Returns (s.consumeOrExpelWindowLeft window) fun s' =>
      s'.rows = relocate s.rows i j id i (if i = 0 then none else some (i - 1))
        (decide (s.activeColumnIdx = i ∧ row.2 = j)) ∧
      (s.activeColumnIdx = i ∧ row.2 = j →
        s'.activeColumnIdx = if row.1.length = 1 then i - 1 else i) := by
  have hlt := (List.getElem?_eq_some_iff.mp hrow).1
  obtain ⟨column, hcolumn, rfl⟩ := column_of_row hrow
  have hrow_active : column.row.2 = column.activeTileIdx := rfl
  unfold relocate
  rw [hrow, hrow_active]
  dsimp only
  refine Returns.ite (fun hempty => ?_) fun _ => ?_
  · rw [isEmpty_iff.mp hempty] at hcolumn
    exact nomatch hcolumn
  refine Returns.bind ⟨_, hsource, rfl⟩ ?_
  rintro _ rfl
  refine Returns.bind ⟨_, hcolumn, rfl⟩ ?_
  rintro _ rfl
  rw [row_length]
  refine Returns.ite (fun hone => ?_) fun hmany => ?_
  · rw [if_pos hone, if_pos hone]
    refine Returns.ite (fun hzero => of_pure ⟨?_, fun hactive => ?_⟩) fun hpos => ?_
    · rw [if_pos hzero]
    · omega
    rw [if_neg hpos]
    have hids : column.row.1 = [id] := single_row hone hid
    have htarget : i - 1 + 1 < s.rows.length := by omega
    exact joinSingle_rows h hrow hids htarget _ true
  · rw [if_neg hmany, if_neg hmany]
    have hlength : column.row.1.length ≠ 1 := by rwa [row_length]
    refine (expel_rows h hrow hid hlength hlt.le).bind fun p hp => ?_
    refine (hp _).bind fun s' hs' => ?_
    refine Returns.ite (fun hactive => of_pure ⟨hs'.1, fun _ => ?_⟩) fun hnot =>
      of_pure ⟨hs'.1, fun hactive => absurd hactive hnot⟩
    exact hs'.2 (decide_eq_true hactive)

/-- **`consume_or_expel_window_right`.** -/
theorem consumeOrExpelWindowRight_rows (h : s.Inv strict) (hsource : s.source window = some (i, j))
    (hrow : s.rows[i]? = some row) (hid : row.1[j]? = some id) :
    Returns (s.consumeOrExpelWindowRight window) fun s' =>
      s'.rows = relocate s.rows i j id (i + 1) (if i + 1 = s.rows.length then none else some i)
        (decide (s.activeColumnIdx = i ∧ row.2 = j)) ∧
      (s.activeColumnIdx = i ∧ row.2 = j →
        s'.activeColumnIdx = if row.1.length = 1 then i else i + 1) := by
  have hlt := (List.getElem?_eq_some_iff.mp hrow).1
  obtain ⟨column, hcolumn, rfl⟩ := column_of_row hrow
  have hrow_active : column.row.2 = column.activeTileIdx := rfl
  unfold relocate
  rw [hrow, hrow_active]
  dsimp only
  refine Returns.ite (fun hempty => ?_) fun _ => ?_
  · rw [isEmpty_iff.mp hempty] at hcolumn
    exact nomatch hcolumn
  refine Returns.bind ⟨_, hsource, rfl⟩ ?_
  rintro _ rfl
  refine Returns.bind ⟨_, hcolumn, rfl⟩ ?_
  rintro _ rfl
  rw [row_length]
  refine Returns.ite (fun hone => ?_) fun hmany => ?_
  · rw [if_pos hone, if_pos hone]
    refine Returns.ite (fun hlast => of_pure ⟨?_, fun hactive => hactive.1⟩) fun hnot => ?_
    · rw [rows_length, if_pos hlast]
    rw [rows_length, if_neg hnot]
    have hids : column.row.1 = [id] := single_row hone hid
    have htarget : i + 1 < s.rows.length := by
      rw [rows_length] at hlt ⊢
      omega
    exact joinSingle_rows h hrow hids htarget _ false
  · rw [if_neg hmany, if_neg hmany]
    have hlength : column.row.1.length ≠ 1 := by rwa [row_length]
    refine (expel_rows h hrow hid hlength hlt).bind fun p hp => ?_
    exact (hp _).mono fun s' hs' => ⟨hs'.1, fun hactive => hs'.2 (decide_eq_true hactive)⟩

/-! ### The other windows -/

/-- The columns without the window `id`; a column of nothing else is gone. -/
def others (id : Id) (rows : List (List Id × ℕ)) : List (List Id) :=
  (rows.map fun row => row.1.filter (· ≠ id)).filter (· ≠ [])

theorem others_append (id : Id) (l r : List (List Id × ℕ)) :
    others id (l ++ r) = others id l ++ others id r := by
  rw [others, map_append, filter_append]
  rfl

theorem others_cons (id : Id) (row : List Id × ℕ) (r : List (List Id × ℕ)) :
    others id (row :: r) = others id [row] ++ others id r := others_append id [row] r

variable {row' : List Id × ℕ}

/-- Only the other windows of a row count. -/
theorem others_congr (h : row'.1.filter (· ≠ id) = row.1.filter (· ≠ id)) :
    others id [row'] = others id [row] := by
  rw [others, others, map_singleton, map_singleton, h]

/-- A column of `id` alone does not count. -/
theorem others_alone (id : Id) (active : ℕ) : others id [([id], active)] = [] := by
  simp [others]

theorem others_insertIdx (id : Id) (active : ℕ) (rows : List (List Id × ℕ)) (place : ℕ) :
    others id (rows.insertIdx place ([id], active)) = others id rows := by
  by_cases hplace : place ≤ rows.length
  · obtain ⟨l, r, rfl, rfl, hinsert⟩ := insertAt_eq_some.mp
      (if_pos hplace : Vec.insertAt rows place ([id], active) = _)
    rw [hinsert, others_append, others_cons, others_alone, nil_append, ← others_append]
  · rw [insertIdx_of_length_lt (by omega)]

theorem others_set (hrow : rows[i]? = some row)
    (h : row'.1.filter (· ≠ id) = row.1.filter (· ≠ id)) :
    others id (rows.set i row') = others id rows := by
  obtain ⟨l, r, rfl, rfl⟩ := Vec.getElem?_eq_some_split.mp hrow
  rw [set_append_length, others_append, others_append, others_cons, others_cons id row,
    others_congr h]

theorem others_eraseIdx {active : ℕ} (hrow : rows[i]? = some ([id], active)) :
    others id (rows.eraseIdx i) = others id rows := by
  obtain ⟨l, r, rfl, rfl⟩ := Vec.getElem?_eq_some_split.mp hrow
  rw [eraseIdx_append_length, others_append, others_append, others_cons id ([id], active),
    others_alone, nil_append]

/-- What leaves a column is the window itself. -/
theorem filter_eraseIdx {ids : List Id} (hid : ids[j]? = some id) :
    (ids.eraseIdx j).filter (· ≠ id) = ids.filter (· ≠ id) := by
  obtain ⟨l, r, rfl, rfl⟩ := Vec.getElem?_eq_some_split.mp hid
  rw [eraseIdx_append_length]
  simp

/-- **The other windows** are where they were, in the same order. -/
theorem others_relocate (hrow : rows[i]? = some row) (hid : row.1[j]? = some id) (place : ℕ)
    (target : Option ℕ) (activate : Bool) :
    others id (relocate rows i j id place target activate) = others id rows := by
  unfold relocate
  rw [hrow]
  dsimp only
  split_ifs with hone
  · cases target with
    | none => rfl
    | some target =>
      obtain ⟨ids, active⟩ := row
      obtain ⟨x, rfl⟩ := length_eq_one_iff.mp hone
      obtain rfl := mem_singleton.mp (mem_of_getElem? hid)
      dsimp only
      rw [← others_eraseIdx hrow]
      cases hother : (rows.eraseIdx i)[target]? with
      | none => rw [modify_eq_self (List.getElem?_eq_none_iff.mp hother)]
      | some other =>
        rw [modify_eq_set hother]
        refine others_set hother ?_
        rw [Column.joinRow, insertIdx_length_self]
        simp
  · rw [others_insertIdx]
    exact others_set hrow (filter_eraseIdx hid)

/-! ### There and back -/

/-- **Right and then left.**  The bottom tile of a column leaves it and comes back. -/
theorem right_left_rows (h : s.Inv strict) (hrow : s.rows[s.activeColumnIdx]? = some row)
    (hmany : 2 ≤ row.1.length) (hbottom : row.2 + 1 = row.1.length) :
    Returns (s.consumeOrExpelWindowRight none) fun s₁ =>
      Returns (s₁.consumeOrExpelWindowLeft none) fun s₂ =>
        s₂.rows = s.rows ∧ s₂.activeColumnIdx = s.activeColumnIdx := by
  have hlt := (List.getElem?_eq_some_iff.mp hrow).1
  have htile : row.2 < row.1.length := by omega
  have hid := List.getElem?_eq_getElem htile
  obtain ⟨column, hcolumn, rfl⟩ := column_of_row hrow
  have hsource : s.source none = some (s.activeColumnIdx, column.row.2) := by
    rw [source, hcolumn]
    rfl
  refine ((consumeOrExpelWindowRight_rows h hsource hrow hid).and
    (consumeOrExpelWindowRight_keeps none s h)).mono fun s₁ hs₁ => ?_
  obtain ⟨⟨hrows₁, hactive₁⟩, hinv₁, -⟩ := hs₁
  have hne : column.row.1.length ≠ 1 := by omega
  rw [relocate_many hrow hne] at hrows₁
  have hactive₁ := hactive₁ ⟨rfl, rfl⟩
  rw [if_neg hne] at hactive₁
  -- The window is alone in the next column.
  have hlength : s.activeColumnIdx + 1 ≤
      (s.rows.set s.activeColumnIdx (Column.leaveRow column.row column.row.2)).length := by
    rw [length_set]
    omega
  have hrow₁ : s₁.rows[s.activeColumnIdx + 1]? = some ([column.row.1[column.row.2]], 0) := by
    rw [hrows₁]
    exact List.getElem?_insertIdx_self.trans (if_pos hlength)
  obtain ⟨column₁, hcolumn₁, hcolumn_row⟩ := column_of_row hrow₁
  have hsource₁ : s₁.source none = some (s.activeColumnIdx + 1, 0) := by
    rw [source, hactive₁, hcolumn₁, ← (row_eq.mp hcolumn_row).2]
    rfl
  refine (consumeOrExpelWindowLeft_rows hinv₁ hsource₁ hrow₁ rfl).mono fun s₂ hs₂ => ?_
  obtain ⟨hrows₂, hactive₂⟩ := hs₂
  refine ⟨?_, (hactive₂ ⟨hactive₁, rfl⟩).trans (by simp)⟩
  have hleft : (s.rows.set s.activeColumnIdx (Column.leaveRow column.row column.row.2))[
      s.activeColumnIdx]? = some (Column.leaveRow column.row column.row.2) :=
    List.getElem?_set_self hlt
  rw [hrows₂, if_neg (succ_ne_zero _), relocate_single hrow₁ rfl, hrows₁,
    eraseIdx_insertIdx_self, Nat.add_sub_cancel, modify_eq_set hleft, set_set,
    decide_eq_true ⟨hactive₁, rfl⟩]
  have hlast : (Column.leaveRow column.row column.row.2).1.length = column.row.2 := by
    have herase := length_eraseIdx_of_lt htile
    exact herase.trans (by omega)
  have hback : Column.joinRow (Column.leaveRow column.row column.row.2)
      (Column.leaveRow column.row column.row.2).1.length column.row.1[column.row.2] true =
        column.row := by
    rw [hlast]
    refine Prod.ext ?_ rfl
    exact (insertIdx_eraseIdx htile _).trans (set_getElem_self htile)
  rw [hback, ← List.getElem?_eq_some_iff.mp hrow |>.2]
  exact set_getElem_self hlt

/-- **Consuming and expelling.**  Right and then left restores the columns, their tiles and the
focus; and in any space each of the two moves the one window and keeps the others as they were. -/
theorem consumeOrExpel_undone {s : ScrollingSpace Id} (h : s.Inv strict) :
    (∀ row, s.rows[s.activeColumnIdx]? = some row → 2 ≤ row.1.length → row.2 + 1 = row.1.length →
      ∃ s₁ s₂, s.consumeOrExpelWindowRight none = some s₁ ∧
        s₁.consumeOrExpelWindowLeft none = some s₂ ∧
        s₂.rows = s.rows ∧ s₂.activeColumnIdx = s.activeColumnIdx) ∧
      ∀ window id, s.Addresses window id → ∃ i j row, s.rows[i]? = some row ∧ row.1[j]? = some id ∧
        (∃ s', s.consumeOrExpelWindowLeft window = some s' ∧
          s'.rows = relocate s.rows i j id i (if i = 0 then none else some (i - 1))
            (decide (s.activeColumnIdx = i ∧ row.2 = j)) ∧
          others id s'.rows = others id s.rows ∧ s'.ids.Perm s.ids) ∧
        ∃ s', s.consumeOrExpelWindowRight window = some s' ∧
          s'.rows = relocate s.rows i j id (i + 1) (if i + 1 = s.rows.length then none else some i)
            (decide (s.activeColumnIdx = i ∧ row.2 = j)) ∧
          others id s'.rows = others id s.rows ∧ s'.ids.Perm s.ids := by
  have hperm {s' : ScrollingSpace Id} (hframe : s.Frame s') : s'.ids.Perm s.ids := by
    rw [ids_eq_stamps, ids_eq_stamps]
    exact hframe.stamps.map Prod.fst
  refine ⟨fun row hrow hmany hbottom => ?_, fun window id haddresses => ?_⟩
  · obtain ⟨s₁, hs₁, s₂, hs₂, hrows, hactive⟩ := right_left_rows h hrow hmany hbottom
    exact ⟨s₁, s₂, hs₁, hs₂, hrows, hactive⟩
  · obtain ⟨i, j, row, hsource, hrow, hid⟩ := source_of_addresses haddresses
    obtain ⟨left, hleft, ⟨hrows_left, -⟩, -, hframe_left⟩ :=
      (consumeOrExpelWindowLeft_rows h hsource hrow hid).and
        (consumeOrExpelWindowLeft_keeps window s h)
    obtain ⟨right, hright, ⟨hrows_right, -⟩, -, hframe_right⟩ :=
      (consumeOrExpelWindowRight_rows h hsource hrow hid).and
        (consumeOrExpelWindowRight_keeps window s h)
    refine ⟨i, j, row, hrow, hid, ⟨left, hleft, hrows_left, ?_, hperm hframe_left⟩,
      right, hright, hrows_right, ?_, hperm hframe_right⟩
    · rw [hrows_left]
      exact others_relocate hrow hid _ _ _
    · rw [hrows_right]
      exact others_relocate hrow hid _ _ _

/-- The lower window on the left goes out of its column and back into it; the window on the right
joins the column on the left. -/
theorem threeWindows_undone : ∃ s s₁ s₂ s' : ScrollingSpace ℕ, s.rows = [([1, 3], 1), ([2], 0)] ∧
      s.consumeOrExpelWindowRight none = some s₁ ∧ s₁.consumeOrExpelWindowLeft none = some s₂ ∧
      s₂.rows = [([1, 3], 1), ([2], 0)] ∧
      s.consumeOrExpelWindowLeft (some 2) = some s' ∧ others 2 s'.rows = [[1, 3]] := by
  have hrows : (Run.exec Op.run plainSpace (threeWindows ++ [.focusLeft, .focusDown])).map (fun s =>
      (s.rows, s.activeColumnIdx)) = some ([([1, 3], 1), ([2], 0)], 0) := by decide +kernel
  obtain ⟨s, hs, hrows⟩ := map_eq_some_iff.mp hrows
  obtain ⟨hrows, hactive⟩ := Prod.mk.inj hrows
  have hready : Run.Along Op.run Op.Ready plainSpace (threeWindows ++ [.focusLeft, .focusDown]) := by
    decide +kernel
  obtain ⟨hundone, hmoves⟩ := consumeOrExpel_undone (run_inv (new_inv _ _ _ _) hready hs)
  have hrow : s.rows[s.activeColumnIdx]? = some ([1, 3], 1) := by
    rw [hactive, hrows]
    rfl
  obtain ⟨s₁, s₂, hright, hleft, hsame, -⟩ := hundone _ hrow (by decide) (by decide)
  have hmem : s.Addresses (some 2) 2 := by
    refine ⟨rfl, ?_⟩
    have hids : s.ids = s.rows.flatMap Prod.fst := by
      rw [ids, rows, flatMap_map]
      rfl
    rw [hids, hrows]
    decide
  obtain ⟨i, j, row, -, -, ⟨s', hs', -, hothers, -⟩, -⟩ := hmoves _ _ hmem
  refine ⟨s, s₁, s₂, s', hrows, hright, hleft, hsame.trans hrows, hs', ?_⟩
  rw [hothers, hrows]
  decide

/-! ## Moving the active column -/

def Op.MovesColumn : Op Id → Prop
  | .moveColumnToIndex _ | .moveLeft | .moveRight | .moveColumnToFirst | .moveColumnToLast => True
  | _ => False

/-- The focused column goes past the others, and they stay in their order. -/
def Carries (s s' : ScrollingSpace Id) : Prop :=
  s'.rows[s'.activeColumnIdx]? = s.rows[s.activeColumnIdx]? ∧
    s'.rows.eraseIdx s'.activeColumnIdx = s.rows.eraseIdx s.activeColumnIdx

theorem moveColumnTo_carries (h : s.Inv strict) {newIdx : ℕ}
    (hnew : newIdx < s.columns.length ∨ newIdx = s.activeColumnIdx) :
    Returns (s.moveColumnTo newIdx) fun s' => s'.Inv strict ∧ s.Carries s' := by
  by_cases heq : s.activeColumnIdx = newIdx
  · unfold moveColumnTo
    rw [if_pos heq]
    exact of_pure ⟨h, rfl, rfl⟩
  have hnew : newIdx < s.columns.length := by omega
  have hlt := s.rows_length ▸ h.active_lt (ne_nil_of_length_pos (by omega))
  have hrow := List.getElem?_eq_getElem hlt
  refine ((moveColumnTo_rows h hrow hnew heq).and (moveColumnTo_keeps (fun _ => newIdx) s h)).mono
    fun s' hs' => ?_
  obtain ⟨⟨hrows, hactive⟩, hinv, -⟩ := hs'
  have hlength := length_eraseIdx_of_lt hlt
  rw [rows_length] at hlength
  refine ⟨hinv, ?_, ?_⟩
  · rw [hrows, hactive, hrow]
    exact List.getElem?_insertIdx_self.trans (if_pos (by omega))
  · rw [hrows, hactive, eraseIdx_insertIdx_self]

theorem Op.MovesColumn.carries (h : s.Inv strict) {op : Op Id} (hop : op.MovesColumn) :
    Returns (op.run s) fun s' => s'.Inv strict ∧ s.Carries s' := by
  have hstays : s.Inv strict ∧ s.Carries s := ⟨h, rfl, rfl⟩
  have hpos (hsome : ¬s.columns.isEmpty = true) : 0 < s.columns.length :=
    length_pos_iff.mpr (by simpa using hsome)
  cases op with
  | moveColumnToIndex | moveColumnToLast =>
    refine Returns.ite (fun _ => of_some hstays) fun hsome => moveColumnTo_carries h (.inl ?_)
    have hpos := hpos hsome
    omega
  | moveLeft =>
    refine Returns.map (f := Prod.fst) (Returns.ite (fun _ => of_pure hstays) fun hne =>
      (moveColumnTo_carries h (.inl ?_)).bind fun _ hs' => of_pure hs')
    have hlt := h.active_lt fun hempty => hne (h.active_zero hempty)
    omega
  | moveRight =>
    exact Returns.map (f := Prod.fst) (Returns.ite (fun _ => of_pure hstays) fun hlt =>
      (moveColumnTo_carries h (.inl (not_le.mp hlt))).bind fun _ hs' => of_pure hs')
  | moveColumnToFirst =>
    by_cases hsome : s.columns = []
    · exact moveColumnTo_carries h (.inr (h.active_zero hsome).symm)
    · exact moveColumnTo_carries h (.inl (length_pos_iff.mpr hsome))
  | _ => cases hop

/-- **The active column moves.**  Any run of such moves returns, leaves every column as it was, the
focus with the one that moves, and the others in their order. -/
theorem moves_carry (h : s.Inv strict) {ops : List (Op Id)} (hops : ∀ op ∈ ops, op.MovesColumn) :
    Returns (Run.exec Op.run s ops) s.Carries := by
  induction ops generalizing s with
  | nil => exact of_some ⟨rfl, rfl⟩
  | cons op ops ih =>
    obtain ⟨hop, hops⟩ := forall_mem_cons.mp hops
    refine (hop.carries h).bind fun s₁ hs₁ => (ih hs₁.1 hops).mono fun s' hs' => ?_
    exact ⟨hs'.1.trans hs₁.2.1, hs'.2.trans hs₁.2.2⟩

/-- The window on the right goes past the column with two, and back again. -/
theorem threeWindows_carried : ∃ s s' : ScrollingSpace ℕ, s.rows = [([1, 3], 0), ([2], 0)] ∧
    Run.exec Op.run s [.moveLeft, .moveColumnToLast, .moveColumnToIndex 1] = some s' ∧
      s.Carries s' := by
  obtain ⟨s, -, hinv, hrows, -⟩ := threeWindows_inv
  have hops : ∀ op ∈ ([.moveLeft, .moveColumnToLast, .moveColumnToIndex 1] : List (Op ℕ)),
      op.MovesColumn := by simp [Op.MovesColumn]
  obtain ⟨s', hs', hcarries⟩ := moves_carry hinv hops
  exact ⟨s, s', hrows, hs', hcarries⟩

/-! ## Opening and closing -/

omit [DecidableEq Id] in
/-- A tile that joins behind the active one leaves no trace. -/
theorem leaveRow_joinRow (hidx : tileIdx ≤ row.1.length) (id : Id) :
    leaveRow (joinRow row tileIdx id false) tileIdx = row := by
  refine Prod.ext (eraseIdx_insertIdx_self ..) ?_
  simp only [leaveRow, joinRow, Bool.false_eq_true, if_false, length_insertIdx_of_le_length hidx]
  grind

/-- **A window opens and closes**, and the columns are as before: it opens in a column of its own,
or behind the active tile of another one. -/
theorem opened_closed (h : s.Inv False) {tile : Tile Id} (hfresh : tile.id ∉ s.ids) :
    (∀ idx ≤ s.rows.length, ∀ activate width isFullWidth,
      Returns (s.addTile (some idx) tile activate width isFullWidth >>= (·.removeTileByIdx idx 0))
        fun p => p.1.tile.id = tile.id ∧ p.2.rows = s.rows) ∧
    ∀ idx row, s.rows[idx]? = some row → ∀ tileIdx ≤ row.1.length,
      Returns (s.addTileToColumn idx (some tileIdx) tile false >>= (·.removeTileByIdx idx tileIdx))
        fun p => p.1.tile.id = tile.id ∧ p.2.rows = s.rows := by
  have hnodup : ((tile.stamp :: s.stamps).map Prod.fst).Nodup :=
    nodup_cons.mpr ⟨by rwa [ids_eq_stamps] at hfresh, h.nodup⟩
  refine ⟨fun idx hidx activate width isFullWidth => ?_, fun idx row hrow tileIdx hidx => ?_⟩
  · refine ((addTile_rows h hidx tile activate width isFullWidth False.elim).and
      (addTile_inv h _ activate width isFullWidth False.elim hnodup)).bind fun s₁ hs₁ => ?_
    obtain ⟨⟨hrows, -⟩, hinv, -⟩ := hs₁
    have hopened : s₁.rows[idx]? = some ([tile.id], 0) := by
      rw [hrows]
      exact List.getElem?_insertIdx_self.trans (if_pos hidx)
    refine (removeTileByIdx_rows_single hinv hopened rfl one_pos).mono fun p hp => ?_
    exact ⟨(some.inj hp.1).symm, by rw [hp.2, hrows, eraseIdx_insertIdx_self]⟩
  · obtain ⟨column, hcolumn, rfl⟩ := column_of_row hrow
    have hpos := length_pos_of_ne_nil (h.columns column (mem_of_getElem? hcolumn)).tiles_ne
    have hlength := length_insertIdx_of_le_length hidx tile.id
    have hgiven : (some tileIdx).getD column.row.1.length ≤ column.row.1.length := hidx
    refine ((addTileToColumn_rows h hrow hgiven tile false).and
      (addTileToColumn_inv h idx _ tile false hnodup)).bind fun s₁ hs₁ => ?_
    obtain ⟨⟨hrows, -⟩, hinv, -⟩ := hs₁
    obtain ⟨hlt, hget⟩ := List.getElem?_eq_some_iff.mp hrow
    have hjoined : s₁.rows[idx]? = some (joinRow column.row tileIdx tile.id false) := by
      rw [hrows]
      exact List.getElem?_set_self hlt
    rw [row_length] at hlength
    have hmany : 2 ≤ (joinRow column.row tileIdx tile.id false).1.length := by
      simp only [joinRow]
      omega
    have htile : tileIdx < (joinRow column.row tileIdx tile.id false).1.length := by
      rw [row_length] at hidx
      simp only [joinRow]
      omega
    refine (removeTileByIdx_rows hinv hjoined hmany htile).mono fun p hp => ⟨?_, ?_⟩
    · exact some.inj (hp.1.symm.trans (List.getElem?_insertIdx_self.trans (if_pos hidx)))
    · rw [hp.2, hrows, set_set, leaveRow_joinRow hidx, ← hget]
      exact set_getElem_self hlt

/-- Beside a window that stays. -/
theorem opened_closed_beside : ∃ s : ScrollingSpace ℕ, s.rows = [([1], 0)] ∧
    Returns (s.addTileToColumn 0 (some 1) (plainTile 2) false >>= (·.removeTileByIdx 0 1))
      fun p => p.1.tile.id = 2 ∧ p.2.rows = [([1], 0)] := by
  have hempty : plainSpace.Inv False := new_inv _ _ _ _
  obtain ⟨s, -, ⟨hrows, -⟩, hinv, hstamps, -⟩ :=
    (addTile_rows hempty (Nat.zero_le _) (plainTile 1) true (.proportion 1) false False.elim).and
      (addTile_inv hempty _ true _ _ False.elim (nodup_singleton 1))
  have hrows : s.rows = [([1], 0)] := hrows
  have hids : s.ids.Perm [1] := by
    rw [ids_eq_stamps]
    exact hstamps.map Prod.fst
  have hfresh : (plainTile 2).id ∉ s.ids := by
    rw [hids.mem_iff]
    decide
  obtain ⟨-, hjoins⟩ := opened_closed hinv hfresh
  rw [← hrows]
  exact ⟨s, rfl, hjoins 0 ([1], 0) (by rw [hrows]; rfl) 1 le_rfl⟩

end Tiri.Layout.ScrollingSpace
