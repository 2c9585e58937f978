import Tiri.Layout.ScrollingInvariant

/-!
# The operations of the scrolling space

Every operation of `ScrollingSpace` is built from the primitives of `ScrollingInvariant`; each
keeps the invariant and the windows.

Results: one lemma for each operation, in the order of `Scrolling`; among them
`consumeOrExpelWindowLeft_keeps`, `swapWindowInDirection_keeps`, `setFullscreen_keeps`,
`setColumnDisplay_keeps` and `updateWindow_keeps`.
-/

namespace Tiri.Layout.ScrollingSpace

open Option Ensures Vec Column
open List hiding pure_def

variable {Id : Type} {strict : Prop}

/-! ## Focus -/

variable (idx : ScrollingSpace Id → ℕ)

theorem activateColumn_keeps : Keeps strict fun s : ScrollingSpace Id => s.activateColumn (idx s) :=
  fun _ h => (activateColumn_inv h _).mono fun _ h' => ⟨h'.1, h'.2.1⟩

/-- An operation that does nothing under a condition. -/
theorem Keeps.ite {c : ScrollingSpace Id → Prop} [∀ s, Decidable (c s)]
    {f g : ScrollingSpace Id → Option (ScrollingSpace Id)} (hf : Keeps strict f) (hg : Keeps strict g) :
    Keeps strict fun s => if c s then f s else g s :=
  fun s h => Ensures.ite (fun _ => hf s h) fun _ => hg s h

theorem some_keeps : Keeps strict fun s : ScrollingSpace Id => some s :=
  fun s h => of_some ⟨h, Frame.refl s⟩

variable {c : Column Id} {f : Column Id → Option (Column Id)} {s : ScrollingSpace Id}
variable {l r : List (Column Id)} {s' : ScrollingSpace Id} {P : Column Id → Prop} {window : Id}

/-- A silent operation, reporting what it did. -/
theorem Keeps.report {f : ScrollingSpace Id → Option (ScrollingSpace Id)} (hf : Keeps strict f)
    (h : s.Inv strict) (b : Bool) :
    Ensures (do let s' ← f s; return (s', b)) fun p => p.1.Inv strict ∧ s.Frame p.1 :=
  (hf s h).bind fun _ h' => of_pure h'

theorem focusLeft_keeps : KeepsAnd strict (focusLeft : ScrollingSpace Id → _) :=
  fun s h => Ensures.ite (fun _ => of_pure ⟨h, Frame.refl s⟩) fun _ =>
    (activateColumn_keeps fun s => s.activeColumnIdx - 1).report h true

theorem focusRight_keeps : KeepsAnd strict (focusRight : ScrollingSpace Id → _) :=
  fun s h => Ensures.ite (fun _ => of_pure ⟨h, Frame.refl s⟩) fun _ =>
    (activateColumn_keeps fun s => s.activeColumnIdx + 1).report h true

theorem focusColumnFirst_keeps : Keeps strict (focusColumnFirst : ScrollingSpace Id → _) :=
  activateColumn_keeps fun _ => 0

theorem focusColumnLast_keeps : Keeps strict (focusColumnLast : ScrollingSpace Id → _) :=
  some_keeps.ite (activateColumn_keeps fun s => s.columns.length - 1)

variable (index : ℕ)

theorem focusColumn_keeps : Keeps strict fun s : ScrollingSpace Id => s.focusColumn index :=
  some_keeps.ite (activateColumn_keeps fun s => min (index - 1) (s.columns.length - 1))

theorem withActiveColumn_keeps (hf : Column.Keeps strict f) :
    Keeps strict fun s : ScrollingSpace Id => s.withActiveColumn f :=
  some_keeps.ite fun _ h => (modifyColumn_inv h _ fun c hc => hf c (h.columns c hc)).mono
    fun _ h' => ⟨h'.1, h'.2.1⟩

theorem onActiveColumn_keeps {f : Column Id → Option (Column Id × Bool)}
    (hf : ∀ c : Column Id, c.Inv strict → Ensures (f c) fun p => p.1.Inv strict ∧ c.Frame p.1) :
    KeepsAnd strict fun s : ScrollingSpace Id => s.onActiveColumn f := by
  intro s h
  refine Ensures.ite (fun _ => of_pure ⟨h, Frame.refl s⟩) fun _ =>
    Ensures.self.bind fun column hcolumn => Ensures.self.bind fun p hp => of_pure ?_
  have hmod : s.modifyColumn s.activeColumnIdx (fun c => (f c).map Prod.fst) =
      some { s with columns := s.columns.set s.activeColumnIdx p.1 } := by
    simp [modifyColumn, Vec.modifyAt, hcolumn, hp]
  obtain ⟨hinv, hframe, -⟩ := modifyColumn_inv h s.activeColumnIdx (fun c hc c' hc' => by
    obtain ⟨q, hq, rfl⟩ := map_eq_some_iff.mp hc'
    exact hf c (h.columns c hc) q hq) _ hmod
  exact ⟨hinv, hframe⟩

theorem focusWindowInColumn_keeps :
    Keeps strict fun s : ScrollingSpace Id => s.focusWindowInColumn index :=
  withActiveColumn_keeps (focusIndex_keeps index)

theorem focusDown_keeps : KeepsAnd strict (focusDown : ScrollingSpace Id → _) :=
  onActiveColumn_keeps fun _ => focusDown_inv

theorem focusUp_keeps : KeepsAnd strict (focusUp : ScrollingSpace Id → _) :=
  onActiveColumn_keeps fun _ => focusUp_inv

theorem focusTop_keeps : Keeps strict (focusTop : ScrollingSpace Id → _) :=
  withActiveColumn_keeps Column.focusTop_keeps

theorem focusBottom_keeps : Keeps strict (focusBottom : ScrollingSpace Id → _) :=
  withActiveColumn_keeps Column.focusBottom_keeps

theorem focusOr_keeps {vertical : Column Id → Option (Column Id × Bool)}
    {horizontal : ScrollingSpace Id → Option (ScrollingSpace Id × Bool)}
    (hv : ∀ c : Column Id, c.Inv strict → Ensures (vertical c) fun p => p.1.Inv strict ∧ c.Frame p.1)
    (hh : KeepsAnd strict horizontal) :
    Keeps strict fun s : ScrollingSpace Id => s.focusOr vertical horizontal := by
  intro s h
  refine Ensures.ite (fun _ => of_pure ⟨h, Frame.refl s⟩) fun _ =>
    (onActiveColumn_keeps hv s h).bind fun p hp => ?_
  refine Ensures.ite (fun _ => of_pure hp) fun _ => (hh p.1 hp.1).bind fun q hq => ?_
  exact of_pure ⟨hq.1, hp.2.trans hq.2⟩

theorem moveDown_keeps : KeepsAnd strict (moveDown : ScrollingSpace Id → _) :=
  onActiveColumn_keeps fun _ => moveDown_inv

theorem moveUp_keeps : KeepsAnd strict (moveUp : ScrollingSpace Id → _) :=
  onActiveColumn_keeps fun _ => moveUp_inv

variable [DecidableEq Id]

/-! ## Moving a column -/

/-- **`move_column_to`**: the moved column is active afterwards, in its new place. -/
theorem moveColumnTo_keeps (newIdx : ScrollingSpace Id → ℕ) :
    Keeps strict fun s : ScrollingSpace Id => s.moveColumnTo (newIdx s) := by
  intro s h
  refine Ensures.ite (fun _ => of_pure ⟨h, Frame.refl s⟩) fun hne =>
    Ensures.self.bind fun p hp => Ensures.self.bind fun q hq =>
      Ensures.self.bind fun columns hcolumns => Ensures.self.bind fun data hdata => ?_
  obtain ⟨column, rest⟩ := p
  obtain ⟨d, restData⟩ := q
  obtain ⟨hcached, hcols, hopts, hcolumn, hopt, hperm⟩ := h.eraseCore hp hq
  obtain ⟨l, r, hlr, hl, rfl⟩ := insertAt_eq_some.mp hcolumns
  have hlr : rest = l ++ r := hlr
  have hmem : ∀ x, x ∈ l ∨ x ∈ r → x ∈ rest := fun x hx => by
    rw [hlr]
    exact mem_append.mpr hx
  have hd : column.actualWidth = some d.width := by
    have hmap := removeAt_map Column.actualWidth s.columns s.activeColumnIdx
    rw [hp, h.cached] at hmap
    have hmap' := removeAt_map (fun d : ColumnData => some d.width) s.data s.activeColumnIdx
    rw [hq] at hmap'
    exact (Prod.mk.inj (some.inj (hmap.symm.trans hmap'))).1
  have hcached' : (l ++ column :: r).map Column.actualWidth = data.map fun d => some d.width := by
    have hmap := insertAt_map Column.actualWidth rest (newIdx s) column
    rw [hcolumns, hcached, hd] at hmap
    have hmap' := insertAt_map (fun d : ColumnData => some d.width) restData (newIdx s) d
    rw [hdata] at hmap'
    exact some.inj (hmap.symm.trans hmap')
  have hstamps : ((l ++ column :: r).flatMap Column.stamps).Perm s.stamps := by
    refine List.Perm.trans ?_ hperm.symm
    rw [hlr, flatMap_append, flatMap_cons, flatMap_append]
    exact perm_append_comm_assoc _ _ _
  refine Ensures.ite (fun heq => absurd heq hne) fun _ => Ensures.ite (fun hlt =>
    of_some ⟨?_, ⟨hstamps, rfl⟩⟩) fun _ => of_none
  refine ⟨hcached', fun _ => hlt, by simp, ?_, ?_, ?_, (fun x hx => by cases hx),
    fun hr => by cases hr⟩
  · intro x hx
    rw [mem_append, mem_cons] at hx
    rcases hx with hx | rfl | hx
    · exact hcols x (hmem x (.inl hx))
    · exact hcolumn
    · exact hcols x (hmem x (.inr hx))
  · intro x hx
    rw [mem_append, mem_cons] at hx
    rcases hx with hx | rfl | hx
    · exact hopts x (hmem x (.inl hx))
    · exact hopt
    · exact hopts x (hmem x (.inr hx))
  · exact (hstamps.map Prod.fst).nodup_iff.mpr h.nodup

theorem moveColumnToIndex_keeps :
    Keeps strict fun s : ScrollingSpace Id => s.moveColumnToIndex index :=
  some_keeps.ite (moveColumnTo_keeps fun s => min (index - 1) (s.columns.length - 1))

theorem moveLeft_keeps : KeepsAnd strict (moveLeft : ScrollingSpace Id → _) :=
  fun s h => Ensures.ite (fun _ => of_pure ⟨h, Frame.refl s⟩) fun _ =>
    (moveColumnTo_keeps fun s => s.activeColumnIdx - 1).report h true

theorem moveRight_keeps : KeepsAnd strict (moveRight : ScrollingSpace Id → _) :=
  fun s h => Ensures.ite (fun _ => of_pure ⟨h, Frame.refl s⟩) fun _ =>
    (moveColumnTo_keeps fun s => s.activeColumnIdx + 1).report h true

theorem moveColumnToFirst_keeps : Keeps strict (moveColumnToFirst : ScrollingSpace Id → _) :=
  moveColumnTo_keeps fun _ => 0

theorem moveColumnToLast_keeps : Keeps strict (moveColumnToLast : ScrollingSpace Id → _) :=
  some_keeps.ite (moveColumnTo_keeps fun s => s.columns.length - 1)

/-! ## Consuming and expelling -/

/-- The only tile of a column joins another one, once the flag has been written. -/
theorem joinSingle_keeps (h : s.Inv strict) (active : Prop) [Decidable active] (prev : Bool)
    (idx target : ℕ) :
    Ensures (do
      let self := if active then { s with activatePrevColumnOnRemoval := prev } else s
      let (removed, s') ← self.removeTileByIdx idx 0
      s'.addTileToColumn target none removed.tile active) fun s' => s'.Inv strict ∧ s.Frame s' := by
  have hself : (if active then { s with activatePrevColumnOnRemoval := prev } else s).Inv strict ∧
      s.Frame (if active then { s with activatePrevColumnOnRemoval := prev } else s) := by
    split
    · exact ⟨h.setActivatePrev prev, .refl _, rfl⟩
    · exact ⟨h, Frame.refl s⟩
  exact (removeTileByIdx_inv hself.1 _ _).bind fun q hq =>
    (hq.addTileToColumn hself.1 _ _ _).mono fun _ h' => ⟨h'.1, hself.2.trans h'.2⟩

theorem consumeOrExpelWindowLeft_keeps (window : Option Id) :
    Keeps strict fun s : ScrollingSpace Id => s.consumeOrExpelWindowLeft window := by
  intro s h
  refine Ensures.ite (fun _ => of_pure ⟨h, Frame.refl s⟩) fun _ =>
    Ensures.self.bind fun p _ => Ensures.self.bind fun source _ =>
      Ensures.ite (fun _ => ?_) fun _ => ?_
  · refine Ensures.ite (fun _ => of_pure ⟨h, Frame.refl s⟩) fun _ => ?_
    exact joinSingle_keeps h _ true _ _
  · refine (removeTileByIdx_inv h _ _).bind fun q hq => (hq.addTile h _ _ _ _).bind fun s' hs' => ?_
    exact Ensures.ite (fun _ => of_pure
      ⟨hs'.1.setActivatePrev _, hs'.2.stamps, hs'.2.options⟩) fun _ =>
      of_pure hs'

theorem consumeOrExpelWindowRight_keeps (window : Option Id) :
    Keeps strict fun s : ScrollingSpace Id => s.consumeOrExpelWindowRight window := by
  intro s h
  refine Ensures.ite (fun _ => of_pure ⟨h, Frame.refl s⟩) fun _ =>
    Ensures.self.bind fun p _ => Ensures.self.bind fun source _ =>
      Ensures.ite (fun _ => ?_) fun _ => ?_
  · refine Ensures.ite (fun _ => of_pure ⟨h, Frame.refl s⟩) fun _ => ?_
    exact joinSingle_keeps h _ false _ _
  · exact (removeTileByIdx_inv h _ _).bind fun q hq => hq.addTile h _ _ _ _

theorem consumeIntoColumn_keeps : Keeps strict (consumeIntoColumn : ScrollingSpace Id → _) := by
  intro s h
  refine Ensures.ite (fun _ => of_pure ⟨h, Frame.refl s⟩) fun _ => ?_
  exact (removeTileByIdx_inv h _ _).bind fun q hq => hq.addTileToColumn h _ _ _

theorem expelFromColumn_keeps : Keeps strict (expelFromColumn : ScrollingSpace Id → _) := by
  intro s h
  refine Ensures.ite (fun _ => of_pure ⟨h, Frame.refl s⟩) fun _ =>
    Ensures.self.bind fun _ _ => Ensures.ite (fun _ => of_pure ⟨h, Frame.refl s⟩) fun _ =>
      Ensures.self.bind fun _ _ => ?_
  exact (removeTileByIdx_inv h _ _).bind fun q hq => hq.addTile h _ _ _ _

/-! ## Swapping

The swap sets the active tiles by hand at its end, so it has to be shown that the columns have
as many tiles as they had before. -/

/-- How many tiles the column at `k` holds. -/
def count (s : ScrollingSpace Id) (k : ℕ) : Option ℕ := s.columns[k]?.map (·.tiles.length)

section

omit [DecidableEq Id]

theorem count_set (s : ScrollingSpace Id) (hs : s.columns = l ++ c :: r) (c' : Column Id) (k : ℕ) :
    ((l ++ c' :: r)[k]?.map fun c => c.tiles.length) =
      if k = l.length then some c'.tiles.length else s.count k := by
  unfold count
  rw [hs]
  split_ifs with hk
  · rw [hk, Vec.getElem?_append_length]
    rfl
  · rcases lt_or_gt_of_ne hk with h | h
    · rw [List.getElem?_append_left h, List.getElem?_append_left h]
    · obtain ⟨j, rfl⟩ : ∃ j, k = l.length + (j + 1) := ⟨k - l.length - 1, by omega⟩
      rw [List.getElem?_append_right (by omega), List.getElem?_append_right (by omega)]
      simp

theorem activateColumn_columns (s : ScrollingSpace Id) (idx : ℕ) :
    Ensures (s.activateColumn idx) fun s' => s'.columns = s.columns :=
  Ensures.ite (fun _ => of_some rfl) fun _ =>
    Ensures.ite (fun _ => of_some rfl) fun _ => of_none

theorem count_of_columns (h : s'.columns = s.columns) (k : ℕ) : s'.count k = s.count k := by
  unfold count
  rw [h]

theorem addTileToColumn_count (h : s.Inv strict) (colIdx : ℕ) (tileIdx : Option ℕ) (tile : Tile Id)
    (activate : Bool) :
    Ensures (s.addTileToColumn colIdx tileIdx tile activate) fun s' => ∀ k,
      s'.count k = if k = colIdx then (s.count k).map (· + 1) else s.count k := by
  have hmod : Ensures (s.modifyColumn colIdx (addTileToTarget tileIdx tile activate)) fun s₁ =>
      ∀ k, s₁.count k = if k = colIdx then (s.count k).map (· + 1) else s.count k := by
    refine Ensures.self.bind fun columns hcolumns => of_pure fun k => ?_
    obtain ⟨l, c, c', r, hs, rfl, hfc, rfl⟩ := modifyAt_eq_some.mp hcolumns
    have hlen :=
      (addTileToTarget_inv (h.columns c (by simp [hs])) tileIdx tile activate c' hfc).2.2.2.1
    have hget : s.count l.length = some c.tiles.length := by
      simp [count, hs]
    have hset := count_set s hs c' k
    refine Eq.trans hset ?_
    split_ifs with hk
    · rw [hk, hget, hlen]
      rfl
    · rfl
  refine hmod.bind fun s₁ hs₁ => Ensures.self.bind fun s₂ hs₂ => ?_
  obtain ⟨_, _, _, _, _, _, _, _, _, rfl⟩ := updateData_eq hs₂
  refine Ensures.ite (fun _ => ?_) fun _ => of_pure hs₁
  refine (activateColumn_columns _ colIdx).mono fun s₃ hs₃ k => ?_
  rw [count_of_columns hs₃]
  exact hs₁ k

end

/-- Which columns are left after one has been removed. -/
theorem removeColumnByIdx_columns (s : ScrollingSpace Id) (idx : ℕ) :
    Ensures (s.removeColumnByIdx idx) fun p =>
      Vec.removeAt s.columns idx = some (p.1, p.2.columns) := by
  have activate : ∀ (s₁ : ScrollingSpace Id) (column : Column Id) (i : ℕ),
      Vec.removeAt s.columns idx = some (column, s₁.columns) →
      Ensures (s₁.activateColumn i >>= fun s' => pure (column, s')) fun p =>
        Vec.removeAt s.columns idx = some (p.1, p.2.columns) :=
    fun s₁ column i h₁ => (activateColumn_columns s₁ i).bind fun s' hs' => of_pure (by
      rw [h₁, hs'])
  refine Ensures.self.bind fun p hp => Ensures.self.bind fun _ _ => ?_
  refine Ensures.ite (fun _ => of_pure hp) fun _ =>
    Ensures.ite (fun _ => of_pure hp) fun _ => Ensures.ite (fun _ => ?_) fun _ => ?_
  · exact Ensures.ite (fun _ => activate _ _ _ hp) fun _ => of_pure hp
  · exact activate _ _ _ hp

theorem removeTileByIdx_count (h : s.Inv strict) (columnIdx tileIdx : ℕ) :
    Ensures (s.removeTileByIdx columnIdx tileIdx) fun p => ∀ k, p.2.count k =
        if s.count columnIdx = some 1 then s.count (if k < columnIdx then k else k + 1)
        else if k = columnIdx then (s.count k).map (· - 1) else s.count k := by
  refine Ensures.self.bind fun source hsource => ?_
  obtain ⟨l, r, hs, hl⟩ := Vec.getElem?_eq_some_split.mp hsource
  have hcount : s.count columnIdx = some source.tiles.length := by
    unfold count
    rw [hsource]
    rfl
  simp only [hcount, some.injEq]
  refine Ensures.ite (fun hone => ?_) fun hmany => ?_
  · refine (removeColumnByIdx_columns s columnIdx).bind fun p hp => Ensures.self.bind fun _ _ =>
      of_pure fun k => ?_
    obtain ⟨l', r', hs', hl', hcols⟩ := removeAt_eq_some.mp hp
    obtain ⟨rfl, hrest⟩ := append_inj (hs.symm.trans hs') (hl.trans hl'.symm)
    obtain ⟨-, rfl⟩ := List.cons.inj hrest
    unfold count
    rw [hcols, hs]
    split_ifs with hk
    · rw [getElem?_insert_of_lt (by omega)]
    · rw [getElem?_insert_of_le (by omega)]
  · refine (Column.removeTile_inv (h.columns source (by simp [hs])) tileIdx hmany).bind
      fun p hp => Ensures.self.bind fun s' hs' => of_pure fun k => ?_
    obtain ⟨_, _, _, _, _, _, _, _, _, rfl⟩ := updateData_eq hs'
    have hcols : s.columns.set columnIdx p.2 = l ++ p.2 :: r := by
      rw [hs, ← hl]
      simp
    have hset := count_set s hs p.2 k
    rw [if_neg hmany]
    unfold count at hset hcount ⊢
    rw [hcols, hset]
    by_cases hk : k = columnIdx
    · rw [if_pos (hk.trans hl.symm), if_pos hk, hk, hcount, map_some,
        show p.2.tiles.length = source.tiles.length - 1 by omega]
    · rw [if_neg (by rw [hl]; exact hk), if_neg hk]

omit [DecidableEq Id] in
theorem addTile_count (s : ScrollingSpace Id) (idx : ℕ) {tile : Tile Id} (activate : Bool)
    (width : ColumnWidth) (isFullWidth : Bool) :
    Ensures (s.addTile (some idx) tile activate width isFullWidth) fun s' => ∀ k, s'.count k =
        if k < idx then s.count k else if k = idx then some 1 else s.count (k - 1) := by
  -- How many tiles a column has does not depend on their weights.
  refine (newWithTile_inv False tile _ _ _ _ width isFullWidth).bind fun c hc => ?_
  obtain ⟨hcinv, hcst, -, -, -⟩ := hc
  refine (updateConfig_inv hcinv _ _ _ _ _ False.elim).bind fun c₁ hc₁ =>
    Ensures.self.bind fun d _ => Ensures.self.bind fun data _ =>
      Ensures.self.bind fun columns hcolumns => ?_
  have hone : c₁.tiles.length = 1 := by
    have := congrArg List.length (hc₁.2.1.trans hcst)
    simpa [Column.stamps] using this
  obtain ⟨l, r, hs, hl, rfl⟩ := insertAt_eq_some.mp hcolumns
  have hl : l.length = idx := hl
  have key : ∀ k, ((l ++ c₁ :: r)[k]?.map fun c => c.tiles.length) =
      if k < idx then s.count k else if k = idx then some 1 else s.count (k - 1) := by
    intro k
    unfold count
    rw [hs]
    split_ifs with hk hk'
    · rw [getElem?_insert_of_lt (by omega)]
    · rw [hk', ← hl, Vec.getElem?_append_length]
      simp [hone]
    · obtain ⟨j, rfl⟩ : ∃ j, k = j + 1 := ⟨k - 1, by omega⟩
      rw [getElem?_insert_of_le (by omega), Nat.add_sub_cancel]
  refine Ensures.ite (fun _ => ?_) fun _ => of_pure key
  refine (activateColumn_columns _ _).bind fun s₂ hs₂ => of_pure fun k => ?_
  refine Eq.trans ?_ (key k)
  unfold count
  rw [hs₂]

omit [DecidableEq Id] in
/-- Setting the active tile of a column that has it. -/
theorem setActiveTile_inv (h : s.Inv strict) {idx tileIdx : ℕ}
    (hlt : ∀ n, s.count idx = some n → tileIdx < n) :
    Ensures (s.setActiveTile idx tileIdx) fun s' =>
      s'.Inv strict ∧ s.Frame s' ∧ ∀ k, s'.count k = s.count k := by
  intro s' hs'
  unfold setActiveTile modifyColumn at hs'
  simp only [bind_eq_bind, bind_eq_some_iff] at hs'
  obtain ⟨columns, hcolumns, hs'⟩ := hs'
  cases hs'
  obtain ⟨l, c, c', r, hs, hl, hc', rfl⟩ := modifyAt_eq_some.mp hcolumns
  cases hc'
  have hget : s.count idx = some c.tiles.length := by
    simp [count, hs, ← hl]
  have hci := h.columns c (by simp [hs])
  obtain ⟨dl, d, dr, hd, hdl, h1, h2, h3⟩ := h.split_data hs
  have hperm := stamps_split hs
  have hci' : Column.Inv strict { c with activeTileIdx := tileIdx } :=
    ⟨⟨hci.tiles_ne, hlt _ hget, hci.cached, hci.one_fixed, hci.lone_weight, hci.preset_width,
      hci.preset_height, hci.tile_options, hci.indicator⟩, hci.expandable, hci.pending⟩
  have key := h.replace hs hci'
    (h.options c (by simp [hs])) h1 (show _ = some d.width from h2) h3 s.interactiveResize
    s.viewOffsetToRestore ((hperm.map Prod.fst).nodup_iff.mp h.nodup)
    (fun x hx => (hperm.map Prod.fst).mem_iff.mp (h.resize x hx)) ?_
  · rw [← hd] at key
    have hst : ({ s with columns := l ++ { c with activeTileIdx := tileIdx } :: r } :
        ScrollingSpace Id).stamps.Perm s.stamps :=
      (stamps_split (c := { c with activeTileIdx := tileIdx }) rfl).trans hperm.symm
    refine ⟨key, ⟨hst, rfl⟩, fun k => ?_⟩
    have := count_set s hs { c with activeTileIdx := tileIdx } k
    unfold count at this hget ⊢
    rw [this]
    split_ifs with hk
    · rw [hk, hl, hget]
    · rfl
  · intro hr
    refine .inl ⟨hr, fun hact => ?_⟩
    obtain ⟨x, hx, hmode⟩ := h.restore hr
    rw [hs, ← hact, Vec.getElem?_append_length] at hx
    cases hx
    exact hmode

/-- Putting a removed tile back where another one was. -/
theorem putBack_inv {removed : RemovedTile Id} (h : s.Removed strict removed s') (hs : s.Inv strict)
    (drained : Bool) (sourceColumnIdx sourceTileIdx : ℕ) (other : RemovedTile Id) :
    Ensures (s'.putBack drained sourceColumnIdx sourceTileIdx removed.tile other) fun s'' =>
      (s''.Inv strict ∧ s.Frame s'') ∧ ∀ k, s''.count k = if drained then
          if k < sourceColumnIdx then s'.count k
          else if k = sourceColumnIdx then some 1 else s'.count (k - 1)
        else if k = sourceColumnIdx then (s'.count k).map (· + 1) else s'.count k := by
  cases drained with
  | true =>
    exact (h.addTile hs _ _ _ _).and
      (addTile_count s' sourceColumnIdx true other.width other.isFullWidth)
  | false =>
    exact (h.addTileToColumn hs _ _ _).and
      (addTileToColumn_count h.inv sourceColumnIdx (some sourceTileIdx) removed.tile false)

omit [DecidableEq Id] in
theorem count_lt (h : s.Inv strict) {idx : ℕ} (hc : s.columns[idx]? = some c) :
    s.count idx = some c.tiles.length ∧
      c.activeTileIdx < c.tiles.length := by
  refine ⟨by simp [count, hc], (h.columns c (mem_of_getElem? hc)).active_lt⟩

/-- **`swap_window_in_direction`** exchanges two tiles, and both columns end with as many tiles
as they had. -/
theorem swapWindowInDirection_keeps (direction : ScrollDirection) :
    Keeps strict fun s : ScrollingSpace Id => s.swapWindowInDirection direction := by
  intro s h
  refine Ensures.ite (fun _ => of_pure ⟨h, Frame.refl s⟩) fun _ =>
    Ensures.ite (fun _ => of_pure ⟨h, Frame.refl s⟩) fun hedge =>
      Ensures.self.bind fun source hsource => Ensures.self.bind fun target htarget =>
        Ensures.ite (fun _ => moveColumnTo_keeps (fun _ => _) s h) fun hboth => ?_
  obtain ⟨hsc, hsl⟩ := count_lt h hsource
  obtain ⟨htc, htl⟩ := count_lt h htarget
  have htwo : some (target.tiles.length + 1) ≠ some 1 := fun h1 => by
    have := some.inj h1
    omega
  -- The neighbour is one place to the left or to the right.
  have hdir : (direction = .left ∧ 0 < s.activeColumnIdx) ∨ direction = .right := by
    cases direction with
    | left => exact .inl ⟨rfl, Nat.pos_of_ne_zero fun h0 => hedge (.inl ⟨rfl, h0⟩)⟩
    | right => exact .inr rfl
  refine ((removeTileByIdx_inv h _ _).and (removeTileByIdx_count h _ _)).bind ?_
  rintro ⟨sourceRemoved, s₁⟩ ⟨hrem₁, hcount₁⟩
  refine ((hrem₁.addTileToColumn h _ _ _).and (addTileToColumn_count hrem₁.inv _ _ _ _)).bind ?_
  rintro s₂ ⟨⟨h₂, hframe₂⟩, hcount₂⟩
  refine ((removeTileByIdx_inv h₂ _ _).and (removeTileByIdx_count h₂ _ _)).bind ?_
  rintro ⟨targetRemoved, s₃⟩ ⟨hrem₃, hcount₃⟩
  refine (putBack_inv hrem₃ h₂ _ _ _ _).bind ?_
  rintro s₄ ⟨⟨h₄, hframe₄⟩, hcount₄⟩
  have hcounts : s₄.count s.activeColumnIdx = some source.tiles.length ∧
      s₄.count (direction.neighbour s.activeColumnIdx) = some target.tiles.length := by
    by_cases hone : source.tiles.length = 1
    · have hsc1 : s.count s.activeColumnIdx = some 1 := by rw [hsc, hone]
      rcases hdir with ⟨rfl, hpos⟩ | rfl
      · -- The target stays on the left of the drained column.
        simp only [ScrollDirection.neighbour, reduceCtorEq, false_and, if_false] at *
        have ht₁ : s₁.count (s.activeColumnIdx - 1) = some target.tiles.length := by
          rw [hcount₁, if_pos hsc1, if_pos (by omega), htc]
        have ht₂ : s₂.count (s.activeColumnIdx - 1) = some (target.tiles.length + 1) := by
          rw [hcount₂, if_pos rfl, ht₁, map_some]
        have ht₃ : s₃.count (s.activeColumnIdx - 1) = some target.tiles.length := by
          rw [hcount₃, if_neg (by rw [ht₂]; exact htwo), if_pos rfl, ht₂]
          rfl
        refine ⟨?_, ?_⟩
        · rw [hcount₄, if_pos (by simpa using hone), if_neg (by omega), if_pos rfl, hone]
        · rw [hcount₄, if_pos (by simpa using hone), if_pos (by omega), ht₃]
      · -- The target moves into the place of the drained column, and out again.
        simp only [ScrollDirection.neighbour, hone, and_self, if_true, Nat.add_sub_cancel] at *
        have ht₁ : s₁.count s.activeColumnIdx = some target.tiles.length := by
          rw [hcount₁, if_pos hsc1, if_neg (by omega), htc]
        have ht₂ : s₂.count s.activeColumnIdx = some (target.tiles.length + 1) := by
          rw [hcount₂, if_pos rfl, ht₁, map_some]
        have ht₃ : s₃.count s.activeColumnIdx = some target.tiles.length := by
          rw [hcount₃, if_neg (by rw [ht₂]; exact htwo), if_pos rfl, ht₂]
          rfl
        refine ⟨?_, ?_⟩
        · rw [hcount₄]
          simp
        · rw [hcount₄]
          simp [ht₃]
    · -- Both columns stay where they are.
      have hne : direction.neighbour s.activeColumnIdx ≠ s.activeColumnIdx := by
        rcases hdir with ⟨rfl, hpos⟩ | rfl
        · simp only [ScrollDirection.neighbour]
          omega
        · simp [ScrollDirection.neighbour]
      have hsc1 : s.count s.activeColumnIdx ≠ some 1 := by
        rw [hsc]
        simpa using hone
      simp only [hone, and_false, if_false, decide_false, Bool.false_eq_true] at *
      have hs₁ : s₁.count s.activeColumnIdx = some (source.tiles.length - 1) := by
        rw [hcount₁, if_neg hsc1, if_pos rfl, hsc, map_some]
      have ht₁ : s₁.count (direction.neighbour s.activeColumnIdx) = some target.tiles.length := by
        rw [hcount₁, if_neg hsc1, if_neg hne, htc]
      have ht₂ : s₂.count (direction.neighbour s.activeColumnIdx) =
          some (target.tiles.length + 1) := by
        rw [hcount₂, if_pos rfl, ht₁, map_some]
      have hnot : s₂.count (direction.neighbour s.activeColumnIdx) ≠ some 1 := by
        rw [ht₂]
        exact htwo
      refine ⟨?_, ?_⟩
      · rw [hcount₄, if_pos rfl, hcount₃, if_neg hnot, if_neg hne.symm, hcount₂, if_neg hne.symm,
          hs₁, map_some]
        simp only [some.injEq]
        omega
      · rw [hcount₄, if_neg hne, hcount₃, if_neg hnot, if_pos rfl, ht₂]
        rfl
  refine (setActiveTile_inv h₄ ?_).bind ?_
  · intro n hn
    rw [hcounts.1] at hn
    cases hn
    exact hsl
  rintro s₅ ⟨h₅, hframe₅, hcount₅⟩
  refine (setActiveTile_inv h₅ ?_).bind ?_
  · intro n hn
    rw [hcount₅, hcounts.2] at hn
    cases hn
    exact htl
  rintro s₆ ⟨h₆, hframe₆, -⟩
  refine (activateColumn_inv h₆ _).mono fun s₇ hs₇ => ⟨hs₇.1, ?_⟩
  exact (((hframe₂.trans hframe₄).trans hframe₅).trans hframe₆).trans hs₇.2.1

/-! ## Fullscreen and maximized -/

omit [DecidableEq Id] in
/-- Data that is up to date stays as it is. -/
theorem updateData_inv (h : s.Inv strict) (idx : ℕ) :
    Ensures (s.updateData idx) fun s' => s'.Inv strict ∧ s.Frame s' := by
  intro s' hs'
  obtain ⟨c, dl, d, dr, w, hc, hd, hdl, hw, rfl⟩ := updateData_eq hs'
  obtain ⟨l, r, hs, hl⟩ := Vec.getElem?_eq_some_split.mp hc
  obtain ⟨dl', d', dr', hd', hdl', -, h2, -⟩ := h.split_data hs
  obtain ⟨rfl, hrest⟩ := append_inj (hd.symm.trans hd') (by rw [hdl, hdl', hl])
  obtain ⟨rfl, rfl⟩ := List.cons.inj hrest
  rw [hw] at h2
  cases h2
  have hsame : ({ s with data := dl ++ ⟨d.width⟩ :: dr } : ScrollingSpace Id) = s := by
    rw [show (⟨d.width⟩ : ColumnData) = d from rfl, ← hd]
  rw [hsame]
  exact ⟨h, Frame.refl s⟩

theorem isolate_inv (window : Id) (leaving : Bool) (h : s.Inv strict) (colIdx : ℕ) :
    Ensures (s.isolate window colIdx leaving) fun p => p.2.Inv strict ∧ s.Frame p.2 := by
  refine Ensures.self.bind fun _ _ => (cancelResize_inv h colIdx).bind fun s₁ hs₁ => ?_
  refine Ensures.ite (fun _ => ?_) fun _ => of_pure ⟨hs₁.1, hs₁.2.1⟩
  refine (consumeOrExpelWindowRight_keeps (some window) s₁ hs₁.1).bind fun s₂ hs₂ => ?_
  exact of_pure ⟨hs₂.1, hs₁.2.1.trans hs₂.2⟩

variable {set : Column Id → Bool → Option (Column Id)} {isPending : Column Id → Bool}

/-- Setting or clearing a mode of the column of a window. -/
theorem setMode_keeps
    (hset : ∀ (c : Column Id) (b : Bool), c.Inv strict →
      Ensures (set c b) fun c' => c'.Inv strict ∧ c.Frame c') (window : Id) (value : Bool) :
    KeepsAnd strict fun s : ScrollingSpace Id => s.setMode isPending set window value := by
  intro s h
  refine Ensures.self.bind fun colIdx _ => Ensures.self.bind fun col _ =>
    Ensures.ite (fun _ => of_pure ⟨h, Frame.refl s⟩) fun _ => ?_
  refine (isolate_inv window value h colIdx).bind fun p hp => ?_
  refine (modifyColumn_inv hp.1 _ fun c hc => hset c value (hp.1.columns c hc)).bind
    fun s₂ hs₂ => ?_
  refine (updateData_inv hs₂.1 _).bind fun s₃ hs₃ => of_pure ⟨hs₃.1, ?_⟩
  exact (hp.2.trans hs₂.2.1).trans hs₃.2

theorem setFullscreen_keeps (window : Id) (isFullscreen : Bool) :
    KeepsAnd strict fun s : ScrollingSpace Id => s.setFullscreen window isFullscreen :=
  setMode_keeps (fun _ b hc => (setFullscreen_inv hc b).mono fun _ h => ⟨h.1, h.2.1⟩)
    window isFullscreen

theorem setMaximized_keeps (window : Id) (maximize : Bool) :
    KeepsAnd strict fun s : ScrollingSpace Id => s.setMaximized window maximize :=
  setMode_keeps (fun _ b hc => (setMaximized_inv hc b).mono fun _ h => ⟨h.1, h.2.1⟩)
    window maximize

/-! ## The display mode -/

/-- The state with one column exchanged; of the rest only an interactive resize may have ended. -/
def Exchanged (s : ScrollingSpace Id) (l : List (Column Id)) (c : Column Id)
    (r : List (Column Id)) (s' : ScrollingSpace Id) : Prop :=
  ∃ dl d dr resize, dl.length = l.length ∧ c.actualWidth = some d.width ∧
    l.map Column.actualWidth = dl.map (fun d => some d.width) ∧
    r.map Column.actualWidth = dr.map (fun d => some d.width) ∧
    (∀ x, resize = some x → s.interactiveResize = some x) ∧
    s' = { s with columns := l ++ c :: r, data := dl ++ d :: dr, interactiveResize := resize }

section

omit [DecidableEq Id]

theorem Exchanged.inv {c' : Column Id} (h' : Exchanged s l c' r s') (h : s.Inv strict)
    (hs : s.columns = l ++ c :: r) (hc' : c'.Inv strict) (hst : c'.stamps.Perm c.stamps)
    (hopt : c'.options = c.options) (hmode : c'.sizingMode = c.sizingMode) :
    s'.Inv strict ∧ s.Frame s' := by
  obtain ⟨dl, d, dr, resize, hdl, hw, h1, h3, hresize, rfl⟩ := h'
  have hperm : (c'.stamps ++ (l ++ r).flatMap Column.stamps).Perm s.stamps :=
    (hst.append_right _).trans (stamps_split hs).symm
  refine ⟨h.replace hs hc' (hopt.trans (h.options c (by simp [hs]))) h1 hw h3 resize
    s.viewOffsetToRestore ((hperm.map Prod.fst).nodup_iff.mpr h.nodup)
    (fun x hx => (hperm.map Prod.fst).mem_iff.mpr (h.resize x (hresize x hx))) ?_,
    ⟨(stamps_split rfl).trans hperm, rfl⟩⟩
  intro hr
  refine .inl ⟨hr, fun hl' => ?_⟩
  obtain ⟨x, hx, hxm⟩ := h.restore hr
  rw [hs, ← hl', Vec.getElem?_append_length] at hx
  cases hx
  rw [hmode]
  exact hxm

/-- Changing the exchanged column once more, and recomputing its data. -/
theorem Exchanged.modify (h : Exchanged s l c r s')
    (hf : Ensures (f c) fun c' => P c' ∧ c'.actualWidth.isSome) :
    Ensures (s'.modifyColumn l.length f >>= (·.updateData l.length)) fun s'' =>
      ∃ c', P c' ∧ Exchanged s l c' r s'' := by
  obtain ⟨dl, d, dr, resize, hdl, hw, h1, h3, hresize, rfl⟩ := h
  refine Ensures.self.bind fun s₁ hs₁ s₂ hs₂ => ?_
  unfold modifyColumn at hs₁
  simp only [bind_eq_bind, bind_eq_some_iff] at hs₁
  obtain ⟨columns, hcolumns, hs₁⟩ := hs₁
  cases hs₁
  obtain ⟨l', c₁, c', r', hs, hl, hfc, rfl⟩ := modifyAt_eq_some.mp hcolumns
  obtain ⟨rfl, hrest⟩ := append_inj hs hl.symm
  obtain ⟨rfl, rfl⟩ := List.cons.inj hrest
  obtain ⟨hP, -⟩ := hf c' hfc
  obtain ⟨x, dl', d', dr', w, hx, hd, hdl', hw', rfl⟩ := updateData_eq hs₂
  simp only [Vec.getElem?_append_length, some.injEq] at hx
  subst hx
  obtain ⟨rfl, hrest'⟩ := append_inj hd (hdl.trans hdl'.symm)
  obtain ⟨-, rfl⟩ := List.cons.inj hrest'
  exact ⟨c', hP, dl, ⟨w⟩, dr, resize, hdl, hw', h1, h3, hresize, rfl⟩

/-- Changing the exchanged column without touching its width. -/
theorem Exchanged.modifyFrame (h : Exchanged s l c r s')
    (hf : Ensures (f c) fun c' => P c' ∧ c'.actualWidth = c.actualWidth) :
    Ensures (s'.modifyColumn l.length f) fun s'' => ∃ c', P c' ∧ Exchanged s l c' r s'' := by
  obtain ⟨dl, d, dr, resize, hdl, hw, h1, h3, hresize, rfl⟩ := h
  refine Ensures.self.bind fun columns hcolumns => of_pure ?_
  obtain ⟨l', c₁, c', r', hs, hl, hfc, rfl⟩ := modifyAt_eq_some.mp hcolumns
  obtain ⟨rfl, hrest⟩ := append_inj hs hl.symm
  obtain ⟨rfl, rfl⟩ := List.cons.inj hrest
  obtain ⟨hP, hwidth⟩ := hf c' hfc
  exact ⟨c', hP, dl, d, dr, resize, hdl, hwidth.trans hw, h1, h3, hresize, rfl⟩

end

/-- The column of a window of the exchanged column is that column. -/
theorem Exchanged.columnOf (h : Exchanged s l c r s') (hmem : window ∈ c.ids)
    (hleft : ∀ x ∈ l, window ∉ x.ids) : s'.columnOf window = some l.length := by
  obtain ⟨dl, d, dr, resize, -, -, -, -, -, rfl⟩ := h
  unfold ScrollingSpace.columnOf
  have hno : l.findIdx? (·.contains window) = none := by
    rw [List.findIdx?_eq_none_iff]
    intro x hx
    simpa [Column.contains, Column.ids] using hleft x hx
  have hyes : c.contains window = true := by
    simpa [Column.contains, Column.ids] using hmem
  rw [List.findIdx?_append, hno, List.findIdx?_cons, hyes]
  simp

/-- Leaving a mode, whatever the column looks like. -/
theorem Exchanged.setMode_false (h : Exchanged s l c r s') (hmem : window ∈ c.ids)
    (hleft : ∀ x ∈ l, window ∉ x.ids)
    (hset : Ensures (set c false) fun c' => P c' ∧ c'.actualWidth.isSome)
    (hskip : isPending c = false → P c) :
    Ensures (s'.setMode isPending set window false) fun p =>
      ∃ c', P c' ∧ Exchanged s l c' r p.1 := by
  refine Ensures.self.bind fun colIdx hcol => Ensures.self.bind fun col hget => ?_
  rw [h.columnOf hmem hleft] at hcol
  cases hcol
  obtain ⟨dl, d, dr, resize, hdl, hw, h1, h3, hresize, rfl⟩ := h
  simp only [Vec.getElem?_append_length, some.injEq] at hget
  subst hget
  refine Ensures.ite (fun heq => of_pure ⟨c, hskip heq.symm, dl, d, dr, resize, hdl, hw,
    h1, h3, hresize, rfl⟩) fun _ => ?_
  refine Ensures.self.bind fun p hp => ?_
  have hiso : p = (l.length, ({ s with
      columns := l ++ c :: r
      data := dl ++ d :: dr
      interactiveResize := cancelResizeForColumn resize c } : ScrollingSpace Id)) := by
    simp only [isolate, cancelResize, Vec.getElem?_append_length, bind_eq_bind,
      bind_some, pure_def, Bool.false_eq_true, false_and, if_false,
      some.injEq] at hp
    exact hp.symm
  rw [hiso]
  have hex : Exchanged s l c r ({ s with
      columns := l ++ c :: r
      data := dl ++ d :: dr
      interactiveResize := cancelResizeForColumn resize c } : ScrollingSpace Id) :=
    ⟨dl, d, dr, _, hdl, hw, h1, h3, fun x hx => hresize x (cancelResizeForColumn_sub hx).1, rfl⟩
  refine Ensures.self.bind fun s₁ hs₁ => Ensures.self.bind fun s₂ hs₂ => of_pure ?_
  exact (hex.modify hset).elim (bind_eq_some_iff.mpr ⟨s₁, hs₁, hs₂⟩)

omit [DecidableEq Id] in
/-- A column that may still be fullscreen or maximized although it shows several tiles, among
others. -/
theorem Loose.not_left (h : s.Inv strict) {c' : Column Id} (hs : s.columns = l ++ c :: r)
    (hc : c.Loose strict c') (hmem : window ∈ c'.ids) : ∀ x ∈ l, window ∉ x.ids := by
  intro x hx hwindow
  rw [Column.ids_eq_stamps] at hmem hwindow
  have hmem' : window ∈ c.stamps.map Prod.fst := (hc.stamps.map Prod.fst).mem_iff.mp hmem
  have hnodup := h.nodup
  unfold ScrollingSpace.stamps at hnodup
  rw [hs, flatMap_append, map_append] at hnodup
  refine (nodup_append.mp hnodup).2.2 window ?_ window ?_ rfl
  · rw [map_flatMap]
    exact mem_flatMap.mpr ⟨x, hx, hwindow⟩
  · rw [flatMap_cons, map_append]
    exact mem_append_left _ hmem'

/-- **`set_column_display`**: a column of several tiles that stops being tabbed leaves the
fullscreen and the maximized mode. -/
theorem setColumnDisplay_keeps (display : ColumnDisplay) :
    Keeps strict fun s : ScrollingSpace Id => s.setColumnDisplay display := by
  intro s h
  refine Ensures.ite (fun _ => of_pure ⟨h, Frame.refl s⟩) fun _ =>
    Ensures.self.bind fun c hc => Ensures.ite (fun _ => of_pure ⟨h, Frame.refl s⟩)
      fun _ => ?_
  obtain ⟨l, r, hs, hl⟩ := Vec.getElem?_eq_some_split.mp hc
  obtain ⟨dl, d, dr, hd, hdl, h1, h2, h3⟩ := h.split_data hs
  have hcinv := h.columns c (by simp [hs])
  rw [← hl]
  refine Ensures.self.bind fun s₁ hs₁ => Ensures.self.bind fun s₂ hs₂ =>
    Ensures.self.bind fun s₃ hs₃ => ?_
  have hex : Exchanged s l c r s₁ := by
    unfold cancelResize at hs₁
    rw [show s.columns[l.length]? = some c by rw [hl]; exact hc] at hs₁
    obtain rfl := some.inj hs₁
    refine ⟨dl, d, dr, cancelResizeForColumn s.interactiveResize c, hdl, h2, h1, h3,
      fun x hx => (cancelResizeForColumn_sub hx).1, ?_⟩
    rw [← hs, ← hd]
  -- The column changes its display, then recomputes its tiles; both steps keep it loose.
  obtain ⟨c₁, ⟨hloose₁, hdisplay₁⟩, hex₁⟩ := (hex.modify
    ((setColumnDisplay_inv hcinv display).mono fun c' hc' =>
      show (c.Loose strict c' ∧ c'.displayMode = display) ∧ c'.actualWidth.isSome from
        ⟨⟨⟨hc'.1, hc'.2.2.2.2.2, by rw [hc'.2.1], hc'.2.2.1, hc'.2.2.2.1⟩, hc'.2.2.2.2.1⟩,
          hc'.1.actualWidth_isSome⟩)).elim (bind_eq_some_iff.mpr ⟨s₂, hs₂, hs₃⟩)
  refine (hex₁.modifyFrame (hloose₁.updateTileSizes.mono fun c' hc' => hc')).bind ?_
  rintro s₄ ⟨c₂, hloose₂, hex₂⟩
  refine Ensures.self.bind fun col hcol => ?_
  have hcol₂ : col = c₂ := by
    obtain ⟨_, _, _, _, _, _, _, _, _, rfl⟩ := hex₂
    rw [Vec.getElem?_append_length] at hcol
    exact (some.inj hcol).symm
  subst hcol₂
  refine Ensures.ite (fun _ => ?_) fun hstays => of_pure ?_
  · refine Ensures.self.bind fun tile htile => ?_
    have hmem : tile.id ∈ col.ids := mem_map_of_mem (mem_of_getElem? htile)
    refine (hex₂.setMode_false hmem (Loose.not_left h hs hloose₂ hmem)
      (P := fun c' => c.Loose strict c' ∧ c'.isPendingFullscreen = false ∧ tile.id ∈ c'.ids)
      ((hloose₂.setFullscreen_false hmem).mono fun c' hc' => hc')
      fun hskip => ⟨hloose₂, hskip, hmem⟩).bind ?_
    rintro ⟨s₅, b⟩ ⟨c₃, ⟨hloose₃, hfull, hmem₃⟩, hex₃⟩
    refine (hex₃.setMode_false hmem₃ (Loose.not_left h hs hloose₃ hmem₃)
      (P := fun c' => c.Loose strict c' ∧ c'.isPendingFullscreen = false ∧
        c'.isPendingMaximized = false)
      ((hloose₃.setMaximized_false).mono fun c' hc' =>
        ⟨⟨hc'.1.1, hc'.1.2.2.trans hfull, hc'.1.2.1⟩, hc'.2⟩)
      fun hskip => ⟨hloose₃, hfull, hskip⟩).bind ?_
    rintro ⟨s₆, b'⟩ ⟨c₄, ⟨hloose₄, hfull₄, hmax₄⟩, hex₄⟩
    refine of_pure (hex₄.inv h hs (hloose₄.inv ?_) hloose₄.stamps hloose₄.options
      hloose₄.sizingMode)
    rw [expandable_iff]
    rintro (hf | hm)
    · rw [hfull₄] at hf
      cases hf
    · rw [hmax₄] at hm
      cases hm
  · -- One tile, or still tabbed.
    refine hex₂.inv h hs (hloose₂.inv fun _ => ?_) hloose₂.stamps hloose₂.options
      hloose₂.sizingMode
    by_cases htab : col.displayMode = .tabbed
    · exact .inr htab
    · have hpos := length_pos_of_ne_nil hloose₂.shape.tiles_ne
      have hle : ¬1 < col.tiles.length := fun hlt => hstays ⟨htab, hlt⟩
      exact .inl (by omega)

theorem toggleColumnTabbedDisplay_keeps :
    Keeps strict (toggleColumnTabbedDisplay : ScrollingSpace Id → _) := by
  intro s h
  refine Ensures.ite (fun _ => of_pure ⟨h, Frame.refl s⟩) fun _ =>
    Ensures.self.bind fun _ _ => setColumnDisplay_keeps _ s h

/-! ## Views and sizes -/

theorem cancelResize_keeps : Keeps strict fun s : ScrollingSpace Id => s.cancelResize (idx s) :=
  fun _ h => (cancelResize_inv h _).mono fun _ h' => ⟨h'.1, h'.2.1⟩

theorem centerColumn_keeps : Keeps strict (centerColumn : ScrollingSpace Id → _) :=
  some_keeps.ite (cancelResize_keeps fun s => s.activeColumnIdx)

theorem centerWindow_keeps (window : Option Id) :
    Keeps strict fun s : ScrollingSpace Id => s.centerWindow window :=
  fun s h => Ensures.ite (fun _ => of_pure ⟨h, Frame.refl s⟩) fun _ =>
    Ensures.self.bind fun _ _ => Ensures.ite (fun _ => centerColumn_keeps s h) fun _ =>
      of_pure ⟨h, Frame.refl s⟩

theorem alignVisibleColumns_keeps (activeVisible : Bool) :
    Keeps strict fun s : ScrollingSpace Id => s.alignVisibleColumns activeVisible :=
  some_keeps.ite (cancelResize_keeps fun s => s.activeColumnIdx)

/-- A size change of a column. -/
theorem resizeColumn_keeps (window : Option Id) {f : Option ℕ → Column Id → Option (Column Id)}
    (hf : ∀ tileIdx, Column.Keeps strict (f tileIdx)) :
    Keeps strict fun s : ScrollingSpace Id => s.resizeColumn window f := by
  intro s h
  refine Ensures.ite (fun _ => of_pure ⟨h, Frame.refl s⟩) fun _ =>
    Ensures.self.bind fun p _ => ?_
  exact andThen ((modifyColumn_inv h p.1 fun c hc => hf p.2 c (h.columns c hc)).mono
    fun _ h' => ⟨h'.1, h'.2.1⟩) (cancelResize_keeps fun _ => p.1)

theorem toggleWidth_keeps (forwards : Bool) (expected : Option ISize) :
    Keeps strict fun s : ScrollingSpace Id => s.toggleWidth forwards expected :=
  resizeColumn_keeps none fun _ _ hc => toggleWidth_inv hc none forwards expected

theorem toggleFullWidth_keeps : Keeps strict (toggleFullWidth : ScrollingSpace Id → _) :=
  resizeColumn_keeps none fun _ _ hc => toggleFullWidth_inv hc

theorem setWindowWidth_keeps (window : Option Id) (change : SizeChange) :
    Keeps strict fun s : ScrollingSpace Id => s.setWindowWidth window change :=
  resizeColumn_keeps window fun tileIdx _ hc => setColumnWidth_inv hc change tileIdx

theorem setWindowHeight_keeps (window : Option Id) (change : SizeChange) :
    Keeps strict fun s : ScrollingSpace Id => s.setWindowHeight window change :=
  resizeColumn_keeps window fun tileIdx _ hc => setWindowHeight_inv hc change tileIdx

theorem resetWindowHeight_keeps (window : Option Id) :
    Keeps strict fun s : ScrollingSpace Id => s.resetWindowHeight window :=
  resizeColumn_keeps window fun tileIdx _ hc => resetWindowHeight_inv hc tileIdx

theorem toggleWindowWidth_keeps (window : Option Id) (forwards : Bool)
    (expected : Option ISize) :
    Keeps strict fun s : ScrollingSpace Id => s.toggleWindowWidth window forwards expected :=
  resizeColumn_keeps window fun tileIdx _ hc => toggleWidth_inv hc tileIdx forwards expected

theorem toggleWindowHeight_keeps (window : Option Id) (forwards : Bool) :
    Keeps strict fun s : ScrollingSpace Id => s.toggleWindowHeight window forwards :=
  resizeColumn_keeps window fun tileIdx _ hc => toggleWindowHeight_inv hc tileIdx forwards

theorem expandColumnToAvailableWidth_keeps (view : ExpandView) :
    Keeps strict fun s : ScrollingSpace Id => s.expandColumnToAvailableWidth view := by
  intro s h
  have full : Keeps strict fun s' : ScrollingSpace Id =>
      s'.modifyColumn s.activeColumnIdx Column.toggleFullWidth :=
    fun s' h' => (modifyColumn_inv h' _ fun c hc =>
      toggleFullWidth_inv (h'.columns c hc)).mono fun _ h'' => ⟨h''.1, h''.2.1⟩
  refine Ensures.ite (fun _ => of_pure ⟨h, Frame.refl s⟩) fun _ =>
    Ensures.self.bind fun col _ => Ensures.ite (fun _ => of_pure ⟨h, Frame.refl s⟩)
      fun _ => Ensures.ite (fun _ => ?_) fun _ =>
        Ensures.ite (fun _ => of_pure ⟨h, Frame.refl s⟩) fun _ => ?_
  · exact andThen (full s h) (cancelResize_keeps fun _ => s.activeColumnIdx)
  · refine andThen (cancelResize_keeps (fun _ => s.activeColumnIdx) s h) fun s₁ h₁ =>
      Ensures.ite (fun _ => full s₁ h₁) fun _ => Ensures.self.bind fun data _ => ?_
    refine (modifyColumn_inv h₁ _ fun c hc => ?_).mono fun _ h'' => ⟨h''.1, h''.2.1⟩
    have hci := h₁.columns c hc
    refine updateTileSizes_keeps c _ ?_ (hci.expandable.of_flags rfl id rfl rfl)
      ⟨.refl _, rfl, rfl, rfl⟩
    exact ⟨hci.tiles_ne, hci.active_lt, hci.cached, hci.one_fixed, hci.lone_weight,
      (fun i hi => by cases hi), hci.preset_height, hci.tile_options, hci.indicator⟩

/-! ## Gestures and interactive resize -/

omit [DecidableEq Id] in
theorem viewOffsetGestureEnd_keeps (newColIdx : ℕ) :
    Keeps strict fun s : ScrollingSpace Id => s.viewOffsetGestureEnd newColIdx := by
  intro s h
  refine Ensures.ite (fun _ => of_some ⟨h, Frame.refl s⟩) fun hne =>
    Ensures.ite (fun hlt => of_some ⟨?_, ⟨.refl _, rfl⟩⟩) fun _ => of_none
  refine ⟨h.cached, fun _ => hlt, fun h0 => ?_, h.columns, h.options, h.nodup, h.resize, ?_⟩
  · exact absurd (isEmpty_iff.mpr h0) hne
  · split_ifs with hsame
    · rw [← hsame]
      exact h.restore
    · intro hr
      cases hr

omit [DecidableEq Id] in
theorem dndScrollGestureBegin_inv (h : s.Inv strict) (ongoing : Bool) :
    (s.dndScrollGestureBegin ongoing).Inv strict ∧ s.Frame (s.dndScrollGestureBegin ongoing) := by
  unfold dndScrollGestureBegin
  split_ifs
  · exact ⟨h, Frame.refl s⟩
  · exact ⟨h.dropResize (fun _ hx => by cases hx), ⟨.refl _, rfl⟩⟩

theorem interactiveResizeBegin_keeps (window : Id) (edges : ResizeEdge) :
    KeepsAnd strict fun s : ScrollingSpace Id => s.interactiveResizeBegin window edges := by
  intro s h
  refine Ensures.ite (fun _ => of_pure ⟨h, Frame.refl s⟩) fun _ =>
    Ensures.self.bind fun p hp => Ensures.self.bind fun col _ =>
      Ensures.ite (fun _ => of_pure ⟨h, Frame.refl s⟩) fun _ =>
        Ensures.self.bind fun tile _ => of_pure ⟨?_, ⟨.refl _, rfl⟩⟩
  refine ⟨h.cached, h.active_lt, h.active_zero, h.columns, h.options, h.nodup, ?_, h.restore⟩
  rintro x hx
  cases hx
  -- The window was found in a column of the space.
  obtain ⟨colIdx, hcol, -⟩ := bind_eq_some_iff.mp hp
  obtain ⟨c, hc, hmem⟩ := columnOf_eq_some hcol
  rw [Column.ids_eq_stamps] at hmem
  show window ∈ s.stamps.map Prod.fst
  unfold stamps
  rw [map_flatMap]
  exact mem_flatMap.mpr ⟨c, mem_of_getElem? hc, hmem⟩

theorem interactiveResizeUpdate_keeps (window : Id) (dx dy : ℚ) :
    KeepsAnd strict fun s : ScrollingSpace Id => s.interactiveResizeUpdate window dx dy := by
  intro s h
  show Ensures (s.interactiveResizeUpdate window dx dy) _
  unfold interactiveResizeUpdate
  cases s.interactiveResize with
  | none => exact of_pure ⟨h, Frame.refl s⟩
  | some resize =>
    refine Ensures.ite (fun _ => of_pure ⟨h, Frame.refl s⟩) fun _ =>
      Ensures.self.bind fun p _ => ?_
    refine (modifyColumn_inv h p.1 fun c hc => Ensures.ite
      (fun _ => setColumnWidth_inv (h.columns c hc) _ _)
      fun _ => of_some ⟨h.columns c hc, Column.Frame.refl c⟩).bind fun s₁ hs₁ => ?_
    refine (modifyColumn_inv hs₁.1 p.1 fun c hc => Ensures.ite
      (fun _ => setWindowHeight_inv (hs₁.1.columns c hc) _ _)
      fun _ => of_some ⟨hs₁.1.columns c hc, Column.Frame.refl c⟩).bind fun s₂ hs₂ => ?_
    exact of_pure ⟨hs₂.1, hs₁.2.1.trans hs₂.2.1⟩

theorem interactiveResizeEnd_inv (h : s.Inv strict) (window : Option Id) :
    (s.interactiveResizeEnd window).Inv strict ∧ s.Frame (s.interactiveResizeEnd window) := by
  have dropped : ({ s with interactiveResize := none } : ScrollingSpace Id).Inv strict ∧
      s.Frame { s with interactiveResize := none } :=
    ⟨h.dropResize (fun _ hx => by cases hx), ⟨.refl _, rfl⟩⟩
  unfold interactiveResizeEnd
  split
  · split_ifs
    · exact dropped
    · exact ⟨h, Frame.refl s⟩
  · exact dropped

/-! ## A window's commit -/

/-- **`update_window`**: the stored view offset follows the mode of the active column. -/
theorem updateWindow_keeps (window : Id) (state : WindowState) :
    Keeps strict fun s : ScrollingSpace Id => s.updateWindow window state := by
  intro s h
  refine Ensures.self.bind fun p hp => Ensures.self.bind fun c hc => ?_
  obtain ⟨colIdx, tileIdx⟩ := p
  have hpos : c.position window = some tileIdx := by
    unfold locate at hp
    simp only [bind_eq_bind, bind_eq_some_iff] at hp
    obtain ⟨i, -, col, hcol, j, hj, hij⟩ := hp
    obtain ⟨rfl, rfl⟩ := Prod.mk.inj (some.inj hij)
    rw [hcol] at hc
    cases hc
    exact hj
  obtain ⟨l, r, hs, hl⟩ := Vec.getElem?_eq_some_split.mp hc
  obtain ⟨dl, d, dr, hd, hdl, h1, -, h3⟩ := h.split_data hs
  have hl : l.length = colIdx := hl
  have hci := h.columns c (by simp [hs])
  refine (commitWindow_inv hci state hpos).bind fun c₁ hc₁ =>
    Ensures.self.bind fun d' hd' => Ensures.self.bind fun data hdata => ?_
  obtain ⟨hinv₁, hst₁, hopt₁, -⟩ := hc₁
  obtain ⟨w, hw, rfl⟩ := map_eq_some_iff.mp hd'
  obtain ⟨dl', d₁, d₂, dr', hd₁, hdl', hd₂, rfl⟩ := modifyAt_eq_some.mp hdata
  cases hd₂
  obtain ⟨rfl, hrest⟩ := append_inj (hd.symm.trans hd₁) (by rw [hdl, hl]; exact hdl'.symm)
  obtain ⟨-, rfl⟩ := List.cons.inj hrest
  refine (updateTileSizes_inv hinv₁.toShape hinv₁.expandable).bind fun c₂ hc₂ =>
    of_pure ?_
  obtain ⟨hinv₂, hframe₂, hst₂⟩ := hc₂
  have hst : c₂.stamps = c.stamps := hst₂.trans hst₁
  have hperm : (c₂.stamps ++ (l ++ r).flatMap Column.stamps).Perm s.stamps := by
    rw [hst]
    exact (stamps_split hs).symm
  have hset : s.columns.set colIdx c₂ = l ++ c₂ :: r := by
    rw [hs, ← hl]
    simp
  rw [hset]
  refine ⟨h.replace hs hinv₂ ((hframe₂.options.trans hopt₁).trans (h.options c (by simp [hs])))
    h1 (hframe₂.actualWidth.trans hw) h3 _ _ ((hperm.map Prod.fst).nodup_iff.mpr h.nodup)
    (fun x hx => (hperm.map Prod.fst).mem_iff.mpr (h.resize x hx)) ?_,
    ⟨(stamps_split rfl).trans hperm, rfl⟩⟩
  split_ifs with hact hleave hback
  · exact fun _ => .inr ⟨hl.trans hact, hleave.2⟩
  · exact fun hr => by cases hr
  · refine fun hr => .inl ⟨hr, fun _ hnormal => hback ⟨fun hwas => ?_, hnormal⟩⟩
    obtain ⟨x, hx, hmode⟩ := h.restore hr
    rw [← hact] at hx
    rw [show s.columns[colIdx]? = some c from hc] at hx
    cases hx
    exact hmode hwas
  · exact fun hr => .inl ⟨hr, fun hact' => absurd (hl.symm.trans hact') hact⟩

/-! ## The configuration -/

omit [DecidableEq Id] in
/-- Each column takes on the configuration, and its data with it. -/
theorem updateConfigColumns_inv (viewSize : Size) (workingArea parentArea : Rectangle)
    (scale : ℚ) (options : Options) :
    ∀ (columns : List (Column Id)) (data : List ColumnData),
      columns.map Column.actualWidth = data.map (fun d => some d.width) →
      (∀ c ∈ columns, c.Inv strict ∧ (strict → ¬c.ConvertsFlat options)) →
      Ensures (updateConfigColumns
        (·.updateConfig viewSize workingArea parentArea scale options) columns data) fun p =>
        (p.1.map Column.actualWidth = p.2.map fun d => some d.width) ∧
        (∀ c ∈ p.1, c.Inv strict ∧ c.options = options) ∧
        p.1.map Column.stamps = columns.map Column.stamps ∧
        p.1.map Column.sizingMode = columns.map Column.sizingMode
  | [], [], _, _ => of_some ⟨rfl, by simp, rfl, rfl⟩
  | [], _ :: _, h, _ => by cases h
  | _ :: _, [], h, _ => by cases h
  | c :: columns, _ :: data, h, hc => by
    refine (updateConfig_inv (hc c (by simp)).1 viewSize workingArea parentArea scale
      options (hc c (by simp)).2).bind fun c' hc' => Ensures.self.bind fun d hd =>
        (updateConfigColumns_inv viewSize workingArea parentArea scale options columns data
          (List.cons.inj h).2 fun x hx => hc x (mem_cons_of_mem _ hx)).bind
          fun p hp => of_pure ?_
    obtain ⟨w, hw, rfl⟩ := map_eq_some_iff.mp hd
    obtain ⟨hinv, hst, hopt, hmode, -⟩ := hc'
    obtain ⟨h1, h2, h3, h4⟩ := hp
    refine ⟨by simp [hw, h1], ?_, by simp [hst, h3], by simp [hmode, h4]⟩
    intro x hx
    rcases mem_cons.mp hx with rfl | hx
    · exact ⟨hinv, hopt⟩
    · exact h2 x hx

omit [DecidableEq Id] in
/-- **`update_config`** keeps the invariant, unless it recomputes the heights of a lone tile
that has none. -/
theorem updateConfig_inv (h : s.Inv strict) (viewSize : Size) (parentArea : Rectangle) (scale : ℚ)
    (options : Options) (hflat : strict → ∀ c ∈ s.columns, ¬c.ConvertsFlat options) :
    Ensures (s.updateConfig viewSize parentArea scale options) fun s' =>
      s'.Inv strict ∧ s'.stamps = s.stamps ∧ s'.options = options := by
  refine (updateConfigColumns_inv viewSize _ parentArea scale options s.columns s.data h.cached
    fun c hc => ⟨h.columns c hc, fun hs => hflat hs c hc⟩).bind fun p hp => of_pure ?_
  obtain ⟨columns, data⟩ := p
  obtain ⟨hcached, hcols, hst, hmode⟩ := hp
  have hlen : columns.length = s.columns.length := by
    simpa using congrArg List.length hst
  have hnil : columns = [] ↔ s.columns = [] := by
    rw [← length_eq_zero_iff, hlen, length_eq_zero_iff]
  have hstamps : columns.flatMap Column.stamps = s.stamps := by
    unfold stamps
    rw [flatMap_def, flatMap_def, hst]
  refine ⟨⟨hcached, fun hne => ?_, fun h0 => h.active_zero (hnil.mp h0),
    fun c hc => (hcols c hc).1, fun c hc => (hcols c hc).2, ?_, ?_, ?_⟩, hstamps, rfl⟩
  · rw [hlen]
    exact h.active_lt fun h0 => hne (hnil.mpr h0)
  · show ((columns.flatMap Column.stamps).map Prod.fst).Nodup
    rw [hstamps]
    exact h.nodup
  · show ∀ r, s.interactiveResize = some r →
      r.window ∈ (columns.flatMap Column.stamps).map Prod.fst
    rw [hstamps]
    exact h.resize
  · intro hr
    obtain ⟨x, hx, hxm⟩ := h.restore hr
    have hget := congrArg (·[s.activeColumnIdx]?) hmode
    simp only [List.getElem?_map, hx, map_some] at hget
    obtain ⟨y, hy, hym⟩ := map_eq_some_iff.mp hget
    exact ⟨y, hy, by rw [hym]; exact hxm⟩

/-! ## The flag of a window -/

omit [DecidableEq Id] in
/-- A tile with another flag, in its column. -/
theorem setFlag_column (h : c.Inv strict) {l r : List (Tile Id)} {x : Tile Id}
    (hc : c.tiles = l ++ x :: r) (flag : Bool) :
    let c' : Column Id := { c with tiles := l ++ { x with restoreToFloating := flag } :: r }
    c'.Inv strict ∧ c'.actualWidth = c.actualWidth ∧ c'.sizingMode = c.sizingMode ∧
      c'.ids = c.ids := by
  intro c'
  have hmode : c'.sizingMode = c.sizingMode := by
    refine sizingMode_congr ?_
    rw [hc]
    simp [c']
  have hlen : c'.tiles.length = c.tiles.length := by
    rw [hc]
    simp [c']
  have hmem : ∀ t ∈ c'.tiles, ∃ t₀ ∈ c.tiles, t.options = t₀.options ∧
      t.window.pendingSizingMode = t₀.window.pendingSizingMode := by
    intro t ht
    rcases mem_append.mp ht with ht | ht
    · exact ⟨t, by simp [hc, ht], rfl, rfl⟩
    · rcases mem_cons.mp ht with rfl | ht
      · exact ⟨x, by simp [hc], rfl, rfl⟩
      · exact ⟨t, by simp [hc, ht], rfl, rfl⟩
  refine ⟨⟨⟨?_, ?_, ?_, h.one_fixed, h.lone_weight, h.preset_width, h.preset_height, ?_,
    h.indicator⟩, ?_, ?_⟩, ?_, hmode, ?_⟩
  · simp [c']
  · rw [hlen]
    exact h.active_lt
  · rw [show c'.data = c.data from rfl, h.cached, hc]
    simp [c', Tile.tileSize, Tile.tileSizeFor, Tile.windowSize, Tile.effectiveBorderWidth]
  · intro t ht
    obtain ⟨t₀, ht₀, hopt, -⟩ := hmem t ht
    exact hopt.trans (h.tile_options t₀ ht₀)
  · intro hp
    rw [hlen]
    exact h.expandable hp
  · intro t ht
    obtain ⟨t₀, ht₀, -, hpend⟩ := hmem t ht
    exact hpend.trans (h.pending t₀ ht₀)
  · unfold Column.actualWidth
    rw [hmode, hlen]
  · rw [Column.ids, Column.ids, hc]
    simp [c', Tile.id]

/-- Writing the flag of a window keeps the invariant, and every window where it is. -/
theorem setRestoreToFloating_inv (h : s.Inv strict) (window : Id) (flag : Bool) :
    Ensures (s.setRestoreToFloating window flag) fun s' => s'.Inv strict ∧ s'.ids = s.ids := by
  refine Ensures.self.bind fun p _ => Ensures.self.bind fun columns hcolumns => of_pure ?_
  obtain ⟨l, c, c', r, hs, hl, hc', rfl⟩ := modifyAt_eq_some.mp hcolumns
  obtain ⟨tiles, htiles, hc'⟩ := bind_eq_some_iff.mp hc'
  obtain ⟨l', x, y, r', hc, -, hy, rfl⟩ := modifyAt_eq_some.mp htiles
  obtain rfl := some.inj hy
  obtain rfl := some.inj hc'
  obtain ⟨hinv, hw, hmode, hids⟩ := setFlag_column (h.columns c (by simp [hs])) hc flag
  obtain ⟨dl, d, dr, hd, hdl, h1, h2, h3⟩ := h.split_data hs
  have hsame : (l ++ { c with tiles := l' ++ { x with restoreToFloating := flag } :: r' } ::
      r).flatMap Column.ids = s.ids := by
    rw [ScrollingSpace.ids, hs]
    simp [hids]
  refine ⟨?_, hsame⟩
  have hfst : ((Column.stamps { c with tiles := l' ++ { x with restoreToFloating := flag } :: r' } ++
      (l ++ r).flatMap Column.stamps).map Prod.fst).Perm (s.stamps.map Prod.fst) := by
    refine (((stamps_split hs).map Prod.fst).trans ?_).symm
    rw [map_append, map_append, ← Column.ids_eq_stamps, ← Column.ids_eq_stamps, hids]
  have key := h.replace hs hinv (h.options c (by simp [hs])) h1 (hw.trans h2) h3
    s.interactiveResize s.viewOffsetToRestore (hfst.nodup_iff.mpr h.nodup)
    (fun y hy => hfst.mem_iff.mpr (h.resize y hy)) ?_
  · rw [← hd] at key
    exact key
  · intro hr
    refine .inl ⟨hr, fun hact => ?_⟩
    obtain ⟨y, hy, hym⟩ := h.restore hr
    rw [hs, ← hact, Vec.getElem?_append_length] at hy
    cases hy
    rw [hmode]
    exact hym

end Tiri.Layout.ScrollingSpace
