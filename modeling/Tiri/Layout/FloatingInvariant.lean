import Tiri.Layout.Floating
import Tiri.Layout.ScrollingInvariant

/-!
# The invariant of the floating space

`FloatingSpace.Inv` is what `FloatingSpace::verify_invariants` (`floating.rs`, lines 1298–1373)
asks of the tiles, the active window and the interactive resize.  Each operation keeps it, and
says what happens to the windows, as a permutation of their stamps.

Results:
* `addTileAt_inv`, `removeTileByIdx_inv`: a window comes, a window goes;
* `activateWindow_keeps`, `setWindowSize_keeps`, `updateWindow_keeps`, and one lemma for each
  of the others: no window comes or goes.
-/

namespace Tiri.Layout.FloatingSpace

open Option List Ensures Vec

variable {Id : Type}

/-- The stamps of the tiles, from top to bottom. -/
def stamps (s : FloatingSpace Id) : List (Id × Bool) := s.tiles.map Tile.stamp

variable (s : FloatingSpace Id)

theorem ids_eq_stamps : s.ids = s.stamps.map Prod.fst := by
  simp [ids, stamps, Function.comp_def, Tile.stamp]

/-- The invariant of the floating space. -/
structure Inv (s : FloatingSpace Id) : Prop where
  nodup : (s.stamps.map Prod.fst).Nodup
  active_none : s.activeWindowId = none ↔ s.tiles = []
  active_mem : ∀ id, s.activeWindowId = some id → id ∈ s.stamps.map Prod.fst
  resize : ∀ r, s.interactiveResize = some r → r.window ∈ s.stamps.map Prod.fst
  options : ∀ t ∈ s.tiles, t.options = s.options
  pending : ∀ t ∈ s.tiles, t.window.pendingSizingMode = .normal

/-- The same windows, under the same configuration. -/
structure Frame (s s' : FloatingSpace Id) : Prop where
  stamps : s'.stamps.Perm s.stamps
  options : s'.options = s.options

/-- The operation keeps the invariant and the windows. -/
def Keeps (f : FloatingSpace Id → Option (FloatingSpace Id)) : Prop :=
  ∀ s : FloatingSpace Id, s.Inv → Ensures (f s) fun s' => s'.Inv ∧ s.Frame s'

/-- The same, for an operation that answers whether it did anything. -/
def KeepsAnd (f : FloatingSpace Id → Option (FloatingSpace Id × Bool)) : Prop :=
  ∀ s : FloatingSpace Id, s.Inv → Ensures (f s) fun p => p.1.Inv ∧ s.Frame p.1

theorem Frame.refl : s.Frame s := ⟨.refl _, rfl⟩

variable {s s' : FloatingSpace Id} {s'' : FloatingSpace Id}

theorem Frame.trans (h : s.Frame s') (h' : s'.Frame s'') : s.Frame s'' :=
  ⟨h'.stamps.trans h.stamps, h'.options.trans h.options⟩

theorem KeepsAnd.fst {f : FloatingSpace Id → Option (FloatingSpace Id × Bool)}
    (hf : KeepsAnd f) : Keeps fun s => (f s).map Prod.fst := by
  intro s hs s' hs'
  obtain ⟨p, hp, rfl⟩ := map_eq_some_iff.mp hs'
  exact hf s hs p hp

theorem new_inv (viewSize : Size) (workingArea : Rectangle) (scale : ℚ) (options : Options) :
    (new viewSize workingArea scale options : FloatingSpace Id).Inv := by
  refine ⟨nodup_nil, by simp [new], ?_, ?_, by simp [new], by simp [new]⟩
  · intro id hid
    cases hid
  · intro r hr
    cases hr

theorem updateConfig_inv (h : s.Inv) (viewSize : Size) (workingArea : Rectangle) (scale : ℚ)
    (options : Options) :
    (s.updateConfig viewSize workingArea scale options).Inv ∧
      (s.updateConfig viewSize workingArea scale options).stamps = s.stamps := by
  have hst : (s.updateConfig viewSize workingArea scale options).stamps = s.stamps := by
    simp [updateConfig, stamps, Function.comp_def]
  refine ⟨⟨?_, ?_, ?_, ?_, ?_, ?_⟩, hst⟩
  · rw [hst]
    exact h.nodup
  · rw [show (s.updateConfig viewSize workingArea scale options).activeWindowId =
      s.activeWindowId from rfl, h.active_none]
    simp [updateConfig]
  · rw [hst]
    exact h.active_mem
  · rw [hst]
    exact h.resize
  · intro t ht
    obtain ⟨t₀, -, rfl⟩ := mem_map.mp ht
    rfl
  · intro t ht
    obtain ⟨t₀, ht₀, rfl⟩ := mem_map.mp ht
    exact h.pending t₀ ht₀

/-! ## Changes that move no window -/

variable {tiles : List (Tile Id)}

/-- The same tiles in another order, and an active window among them. -/
theorem Inv.reorder (h : s.Inv) (hperm : tiles.Perm s.tiles) {active : Option Id}
    (hactive : active = s.activeWindowId ∨ ∃ id, active = some id ∧ id ∈ s.ids)
    (resize : Option (InteractiveResize Id)) (hresize : ∀ r, resize = some r → r.window ∈ s.ids) :
    ({ s with tiles := tiles, activeWindowId := active, interactiveResize := resize } :
      FloatingSpace Id).Inv ∧
    s.Frame { s with tiles := tiles, activeWindowId := active, interactiveResize := resize } := by
  have hst : (tiles.map Tile.stamp).Perm s.stamps := hperm.map _
  have hids : ∀ id, id ∈ (tiles.map Tile.stamp).map Prod.fst ↔ id ∈ s.stamps.map Prod.fst :=
    fun id => (hst.map Prod.fst).mem_iff
  rw [ids_eq_stamps] at hactive hresize
  refine ⟨⟨((hst.map Prod.fst).nodup_iff).mpr h.nodup, ?_, ?_, ?_, ?_, ?_⟩, ⟨hst, rfl⟩⟩
  · have hnil : tiles = [] ↔ s.tiles = [] := by
      rw [← length_eq_zero_iff, ← length_eq_zero_iff, hperm.length_eq]
    rcases hactive with rfl | ⟨id, rfl, hid⟩
    · exact h.active_none.trans hnil.symm
    · constructor
      · intro hno
        cases hno
      · intro htiles
        rw [stamps, hnil.mp htiles] at hid
        cases hid
  · intro id hid
    refine (hids id).mpr ?_
    rcases hactive with hsame | ⟨id', hsame, hid'⟩
    · exact h.active_mem id (hsame.symm.trans hid)
    · rw [show id = id' from some.inj (hid.symm.trans hsame)]
      exact hid'
  · intro r hr
    exact (hids _).mpr (hresize r hr)
  · intro t ht
    exact h.options t (hperm.mem_iff.mp ht)
  · intro t ht
    exact h.pending t (hperm.mem_iff.mp ht)

/-- Changing one tile, but not its stamp or its options, and not out of normal sizing. -/
theorem modifyTile_inv (h : s.Inv) {idx : ℕ} {f : Tile Id → Tile Id}
    (htiles : Vec.modifyAt s.tiles idx (fun t => some (f t)) = some tiles)
    (hst : ∀ t, (f t).stamp = t.stamp) (hopt : ∀ t, (f t).options = t.options)
    (hpend : ∀ t, t.window.pendingSizingMode = .normal → (f t).window.pendingSizingMode = .normal) :
    ({ s with tiles := tiles } : FloatingSpace Id).Inv ∧ s.Frame { s with tiles := tiles } := by
  obtain ⟨l, x, y, r, hs, -, hy, rfl⟩ := modifyAt_eq_some.mp htiles
  obtain rfl := some.inj hy
  have hsame : (l ++ f x :: r).map Tile.stamp = s.stamps := by
    simp [stamps, hs, hst]
  refine ⟨⟨?_, ?_, ?_, ?_, ?_, ?_⟩, ⟨by rw [stamps, hsame], rfl⟩⟩
  · rw [stamps, hsame]
    exact h.nodup
  · rw [h.active_none, hs]
    simp
  · rw [stamps, hsame]
    exact h.active_mem
  · rw [stamps, hsame]
    exact h.resize
  · intro t ht
    rcases mem_append.mp ht with ht | ht
    · exact h.options t (by simp [hs, ht])
    · rcases mem_cons.mp ht with rfl | ht
      · rw [hopt]
        exact h.options x (by simp [hs])
      · exact h.options t (by simp [hs, ht])
  · intro t ht
    rcases mem_append.mp ht with ht | ht
    · exact h.pending t (by simp [hs, ht])
    · rcases mem_cons.mp ht with rfl | ht
      · exact hpend x (h.pending x (by simp [hs]))
      · exact h.pending t (by simp [hs, ht])

/-- Ending an interactive resize, or any of them. -/
theorem Inv.dropResize (h : s.Inv) :
    ({ s with interactiveResize := none } : FloatingSpace Id).Inv :=
  ⟨h.nodup, h.active_none, h.active_mem, (fun r hr => by cases hr), h.options, h.pending⟩

theorem interactiveResizeEnd_inv [DecidableEq Id] (h : s.Inv) (window : Option Id) :
    (s.interactiveResizeEnd window).Inv ∧ s.Frame (s.interactiveResizeEnd window) := by
  unfold interactiveResizeEnd
  split
  · split_ifs
    · exact ⟨h.dropResize, .refl _, rfl⟩
    · exact ⟨h, Frame.refl s⟩
  · exact ⟨h.dropResize, .refl _, rfl⟩

/-! ## Stacking -/

/-- The active window and the resize may already have been set for the new order. -/
structure Restacked (s s' : FloatingSpace Id) : Prop where
  tiles : s'.tiles.Perm s.tiles
  rest : s' = { s with tiles := s'.tiles }

theorem Restacked.refl (s : FloatingSpace Id) : Restacked s s := ⟨.refl _, rfl⟩

theorem Restacked.trans (h : Restacked s s') (h' : Restacked s' s'') : Restacked s s'' := by
  refine ⟨h'.tiles.trans h.tiles, ?_⟩
  rw [h'.rest, h.rest]

theorem Restacked.inv (h : Restacked s s') (hs : s.Inv) : s'.Inv ∧ s.Frame s' := by
  rw [h.rest]
  refine hs.reorder h.tiles (.inl rfl) s.interactiveResize fun r hr => ?_
  rw [ids_eq_stamps]
  exact hs.resize r hr

theorem raiseWindow_restacked (s : FloatingSpace Id) (fromIdx toIdx : ℕ) :
    Ensures (s.raiseWindow fromIdx toIdx) (Restacked s) := by
  refine Ensures.ite (fun _ => of_none) fun _ => Ensures.self.bind fun p hp =>
    Ensures.self.bind fun tiles htiles => of_pure ⟨?_, rfl⟩
  exact (insertAt_perm htiles).trans (removeAt_perm hp).symm

theorem raiseAll_restacked (idxs : List ℕ) (s : FloatingSpace Id) (idx : ℕ) :
    Ensures (s.raiseAll idxs idx) (Restacked s) := by
  induction idxs generalizing s idx with
  | nil => exact of_some (Restacked.refl s)
  | cons i idxs ih =>
    refine (raiseWindow_restacked s i idx).bind fun s₁ hs₁ => ?_
    exact (ih s₁ (idx + 1)).mono fun _ h => hs₁.trans h

variable [DecidableEq Id]

theorem bringUpDescendantsOf_restacked (s : FloatingSpace Id) (idx : ℕ) :
    Ensures (s.bringUpDescendantsOf idx) (Restacked s) :=
  Ensures.self.bind fun _ _ => raiseAll_restacked _ s idx

variable (id : Id)

theorem descendantsAdded_keeps : KeepsAnd fun s : FloatingSpace Id => s.descendantsAdded id := by
  intro s h
  show Ensures (s.descendantsAdded id) _
  unfold descendantsAdded
  cases s.idxOf id with
  | none => exact of_some ⟨h, Frame.refl s⟩
  | some idx =>
    refine (bringUpDescendantsOf_restacked s idx).bind fun s' hs' => of_pure ?_
    exact hs'.inv h

/-! ## Adding and removing -/

variable {tile : Tile Id}

/-- **`add_tile_at`** keeps the invariant: the tile is there, in normal sizing. -/
theorem addTileAt_inv (h : s.Inv) (idx : ℕ) (activate : Bool) (hfresh : tile.id ∉ s.ids) :
    Ensures (s.addTileAt idx tile activate) fun s' =>
      s'.Inv ∧ s'.stamps.Perm (tile.stamp :: s.stamps) ∧ s'.options = s.options := by
  refine Ensures.self.bind fun tiles htiles => ?_
  have hperm := insertAt_perm htiles
  have hst : (tiles.map Tile.stamp).Perm (tile.stamp :: s.stamps) := hperm.map Tile.stamp
  have hids : ∀ id, id ∈ (tiles.map Tile.stamp).map Prod.fst ↔
      id = tile.id ∨ id ∈ s.stamps.map Prod.fst := by
    intro id
    rw [(hst.map Prod.fst).mem_iff, map_cons, mem_cons]
    rfl
  rw [ids_eq_stamps] at hfresh
  have hmem : ∀ t ∈ tiles, t = (tile.updateConfig s.viewSize s.scale s.options).request .normal ∨
      t ∈ s.tiles := by
    intro t ht
    exact mem_cons.mp (hperm.mem_iff.mp ht)
  refine (bringUpDescendantsOf_restacked _ _).mono fun s' hs' => ?_
  refine ⟨(hs'.inv ⟨?_, ?_, ?_, ?_, ?_, ?_⟩).1, ?_, ?_⟩
  · refine ((hst.map Prod.fst).nodup_iff).mpr ?_
    rw [map_cons, nodup_cons]
    exact ⟨hfresh, h.nodup⟩
  · have hne : tiles ≠ [] := by
      intro hnil
      rw [hnil] at hperm
      exact cons_ne_nil _ _ hperm.symm.eq_nil
    simp only [hne, iff_false]
    split_ifs with hact
    · simp
    · rw [h.active_none]
      intro hnil
      rw [hnil] at hact
      simp at hact
  · intro id hid
    refine (hids id).mpr ?_
    split_ifs at hid with hact
    · exact .inl (some.inj hid).symm
    · exact .inr (h.active_mem id hid)
  · intro r hr
    exact (hids _).mpr (.inr (h.resize r hr))
  · intro t ht
    rcases hmem t ht with rfl | ht
    · rfl
    · exact h.options t ht
  · intro t ht
    rcases hmem t ht with rfl | ht
    · rfl
    · exact h.pending t ht
  · exact (hs'.tiles.map Tile.stamp).trans hst
  · rw [hs'.rest]

theorem addTile_inv (h : s.Inv) (activate : Bool) (hfresh : tile.id ∉ s.ids) :
    Ensures (s.addTile tile activate) fun s' =>
      s'.Inv ∧ s'.stamps.Perm (tile.stamp :: s.stamps) ∧ s'.options = s.options :=
  addTileAt_inv h 0 activate hfresh

/-- What removing a tile leaves behind. -/
structure Removed (s : FloatingSpace Id) (removed : RemovedTile Id) (s' : FloatingSpace Id) :
    Prop where
  inv : s'.Inv
  stamps : s.stamps.Perm (removed.tile.stamp :: s'.stamps)
  options : s'.options = s.options
  tile_options : removed.tile.options = s.options
  pending : removed.tile.window.pendingSizingMode = .normal
  floating : removed.isFloating = true

theorem removeTileByIdx_inv (h : s.Inv) (idx : ℕ) (expected : Option ISize) :
    Ensures (s.removeTileByIdx idx expected) fun p => s.Removed p.1 p.2 := by
  refine Ensures.self.bind fun p hp => of_pure ?_
  obtain ⟨tile, tiles⟩ := p
  have hperm : s.tiles.Perm (tile :: tiles) := removeAt_perm hp
  have hst : s.stamps.Perm (tile.stamp :: tiles.map Tile.stamp) := hperm.map Tile.stamp
  have htile : tile ∈ s.tiles := hperm.mem_iff.mpr mem_cons_self
  have hsub : ∀ t ∈ tiles, t ∈ s.tiles := fun t ht => hperm.mem_iff.mpr (mem_cons_of_mem _ ht)
  have hnodup := ((hst.map Prod.fst).nodup_iff).mp h.nodup
  rw [map_cons, nodup_cons] at hnodup
  -- Whoever is left was there, and is not the tile that went.
  have hleft : ∀ id ∈ s.stamps.map Prod.fst, id ≠ tile.id →
      id ∈ (tiles.map Tile.stamp).map Prod.fst := by
    intro id hid hne
    have hid' := (hst.map Prod.fst).mem_iff.mp hid
    rw [map_cons, mem_cons] at hid'
    exact hid'.resolve_left hne
  refine ⟨⟨hnodup.2, ?_, ?_, ?_, fun t ht => h.options t (hsub t ht),
    fun t ht => h.pending t (hsub t ht)⟩, hst, rfl, h.options tile htile, h.pending tile htile, rfl⟩
  · cases tiles with
    | nil => simp
    | cons topmost rest =>
      simp only [reduceCtorEq, iff_false]
      split_ifs
      · simp
      · rw [h.active_none]
        exact ne_nil_of_mem htile
  · cases tiles with
    | nil => simp
    | cons topmost rest =>
      intro id hid
      split_ifs at hid with hact
      · rw [← some.inj hid]
        exact mem_cons_self
      · refine hleft id (h.active_mem id hid) ?_
        rintro rfl
        exact hact hid
  · intro r hr
    obtain ⟨hr, hne⟩ := filter_eq_some_iff.mp hr
    exact hleft _ (h.resize r hr) (by simpa using hne)

theorem removeTile_inv (h : s.Inv) (id : Id) (expected : Option ISize) :
    Ensures (s.removeTile id expected) fun p => s.Removed p.1 p.2 ∧ p.1.tile.id = id := by
  refine Ensures.self.bind fun idx hidx => ?_
  refine ((removeTileByIdx_inv h idx expected).and Ensures.self).mono fun p hp => ⟨hp.1, ?_⟩
  obtain ⟨q, hq, hpq⟩ := bind_eq_some_iff.mp hp.2
  cases hpq
  obtain ⟨hlt, hid, -⟩ := List.findIdx?_eq_some_iff_getElem.mp hidx
  obtain ⟨t, ht, hqt⟩ := map_eq_some_iff.mp hq
  rw [List.getElem?_eq_getElem hlt] at ht
  cases hqt
  cases ht
  simpa using hid

theorem removeActiveTile_inv (h : s.Inv) (expected : Option ISize) :
    Ensures (s.removeActiveTile expected) fun p =>
      (∃ removed, p.1 = some removed ∧ s.Removed removed p.2) ∨ (p.1 = none ∧ p.2 = s) := by
  unfold removeActiveTile
  cases s.activeWindowId with
  | none => exact of_some (.inr ⟨rfl, rfl⟩)
  | some id =>
    refine (removeTile_inv h id expected).bind fun p hp => of_pure ?_
    exact .inl ⟨p.1, rfl, hp.1⟩

/-! ## Activating -/

theorem idxOf_mem {id : Id} {idx : ℕ} (h : s.idxOf id = some idx) : id ∈ s.ids := by
  obtain ⟨hlt, hid, -⟩ := List.findIdx?_eq_some_iff_getElem.mp h
  refine mem_map.mpr ⟨_, getElem_mem hlt, by simpa using hid⟩

theorem hasWindow_iff {id : Id} : s.hasWindow id = true ↔ id ∈ s.ids := by
  simp [hasWindow, ids]

theorem activateWindowWithoutRaising_inv (h : s.Inv) (id : Id) :
    (s.activateWindowWithoutRaising id).1.Inv ∧ s.Frame (s.activateWindowWithoutRaising id).1 := by
  unfold activateWindowWithoutRaising
  split_ifs with hid
  · refine h.reorder (.refl _) (.inr ⟨id, rfl, hasWindow_iff.mp hid⟩) _ fun r hr => ?_
    rw [ids_eq_stamps]
    exact h.resize r hr
  · exact ⟨h, Frame.refl s⟩

theorem activateWindow_keeps : KeepsAnd fun s : FloatingSpace Id => s.activateWindow id := by
  intro s h
  show Ensures (s.activateWindow id) _
  unfold activateWindow
  cases hidx : s.idxOf id with
  | none => exact of_some ⟨h, Frame.refl s⟩
  | some idx =>
    refine (raiseWindow_restacked s idx 0).bind fun s₁ hs₁ =>
      (bringUpDescendantsOf_restacked _ 0).bind fun s₂ hs₂ => of_pure ?_
    obtain ⟨h₁, hf₁⟩ := hs₁.inv h
    have hmem : id ∈ s₁.ids := by
      have hid := idxOf_mem hidx
      rw [ids_eq_stamps] at hid ⊢
      exact ((hf₁.stamps.map Prod.fst).mem_iff).mpr hid
    have hresize : ∀ r, s₁.interactiveResize = some r → r.window ∈ s₁.ids := by
      rw [ids_eq_stamps]
      exact h₁.resize
    obtain ⟨h₂, hf₂⟩ := h₁.reorder (.refl _) (.inr ⟨id, rfl, hmem⟩) _ hresize
    obtain ⟨h₃, hf₃⟩ := hs₂.inv h₂
    exact ⟨h₃, hf₁.trans (hf₂.trans hf₃)⟩

theorem focusDirectional_keeps (nearest : Option Id) :
    KeepsAnd fun s : FloatingSpace Id => s.focusDirectional nearest := by
  intro s h
  show Ensures (s.focusDirectional nearest) _
  unfold focusDirectional
  cases s.activeWindowId with
  | none => exact of_some ⟨h, Frame.refl s⟩
  | some activeId =>
    refine Ensures.self.bind fun _ _ => ?_
    cases nearest with
    | none => exact of_pure ⟨h, Frame.refl s⟩
    | some id => exact (activateWindow_keeps id s h).bind fun p hp => of_pure hp

theorem focusOutermost_keeps (outermost : Option Id) :
    Keeps fun s : FloatingSpace Id => s.focusOutermost outermost := by
  intro s h
  cases outermost with
  | none => exact of_some ⟨h, Frame.refl s⟩
  | some id => exact (activateWindow_keeps id s h).bind fun p hp => of_pure hp

/-! ## Moving, resizing, committing -/

variable (id : Option Id)

theorem moveWindow_keeps : Keeps fun s : FloatingSpace Id => s.moveWindow id := by
  intro s h
  show Ensures (s.moveWindow id) _
  unfold moveWindow
  cases s.target id with
  | none => exact of_some ⟨h, Frame.refl s⟩
  | some id => exact Ensures.self.bind fun _ _ => of_pure (interactiveResizeEnd_inv h none)

theorem setWindowSize_keeps : Keeps fun s : FloatingSpace Id => s.setWindowSize id := by
  intro s h
  show Ensures (s.setWindowSize id) _
  unfold setWindowSize
  cases s.target id with
  | none => exact of_some ⟨h, Frame.refl s⟩
  | some id =>
    refine Ensures.self.bind fun _ _ => Ensures.self.bind fun tiles htiles => of_pure ?_
    exact modifyTile_inv h htiles (fun _ => rfl) (fun _ => rfl) fun _ _ => rfl

theorem toggleWindowSize_keeps : Keeps fun s : FloatingSpace Id => s.toggleWindowSize id := by
  intro s h
  show Ensures (s.toggleWindowSize id) _
  unfold toggleWindowSize
  cases s.target id with
  | none => exact of_some ⟨h, Frame.refl s⟩
  | some id =>
    refine (setWindowSize_keeps (some id) s h).bind fun s₁ hs₁ => of_pure ?_
    obtain ⟨h₂, hf₂⟩ := interactiveResizeEnd_inv hs₁.1 (some id)
    exact ⟨h₂, hs₁.2.trans hf₂⟩

theorem updateWindow_keeps (id : Id) (state : WindowState) :
    KeepsAnd fun s : FloatingSpace Id => s.updateWindow id state := by
  intro s h
  show Ensures (s.updateWindow id state) _
  unfold updateWindow
  cases s.idxOf id with
  | none => exact of_some ⟨h, Frame.refl s⟩
  | some idx =>
    refine Ensures.self.bind fun tiles htiles => of_pure ?_
    exact modifyTile_inv h htiles (fun _ => rfl) (fun _ => rfl) fun _ ht => ht

variable (window : Id)

theorem interactiveResizeBegin_keeps (edges : ResizeEdge) :
    KeepsAnd fun s : FloatingSpace Id => s.interactiveResizeBegin window edges := by
  intro s h
  refine Ensures.ite (fun _ => of_pure ⟨h, Frame.refl s⟩) fun _ =>
    Ensures.self.bind fun tile htile => of_pure ?_
  refine h.reorder (.refl _) (.inl rfl) _ fun r hr => ?_
  obtain rfl := some.inj hr
  have hid : tile.id = window := by simpa using List.find?_some htile
  exact mem_map.mpr ⟨tile, mem_of_find?_eq_some htile, hid⟩

theorem interactiveResizeUpdate_keeps :
    KeepsAnd fun s : FloatingSpace Id => s.interactiveResizeUpdate window := by
  intro s h
  show Ensures (s.interactiveResizeUpdate window) _
  unfold interactiveResizeUpdate
  have hsize : ∀ (c : Bool) (s' : FloatingSpace Id), s'.Inv → s.Frame s' →
      Ensures (if c then s'.setWindowSize (some window) else some s') fun s'' =>
        s''.Inv ∧ s.Frame s'' := by
    intro c s' h' hf
    refine Ensures.ite (fun _ => ?_) fun _ => of_some ⟨h', hf⟩
    exact (setWindowSize_keeps (some window) s' h').mono fun _ h'' => ⟨h''.1, hf.trans h''.2⟩
  cases s.interactiveResize with
  | none => exact of_pure ⟨h, Frame.refl s⟩
  | some resize =>
    refine Ensures.ite (fun _ => of_pure ⟨h, Frame.refl s⟩) fun _ => ?_
    refine (hsize _ s h (Frame.refl s)).bind fun s₁ hs₁ =>
      (hsize _ s₁ hs₁.1 hs₁.2).bind fun s₂ hs₂ => ?_
    exact of_pure hs₂

end Tiri.Layout.FloatingSpace
