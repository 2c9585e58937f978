import Tiri.Layout.ScrollingRun
import Tiri.Layout.WorkspaceInvariant

/-!
# Which layer of a workspace has the focus

`Workspace::verify_invariants` (`workspace.rs`, lines 2034–2044) asserts that the floating space
is never active while it is empty, and active whenever the scrolling space alone is empty.  An
operation that moves a window between the spaces breaks this on the way, and mends it with the
last assignment to `floating_is_active`.

Results:
* `Op.run_layered`: every operation inside a workspace keeps it;
* `Reaches.focusLayer`: it holds in every run, and the active window is there exactly when the
  workspace has a window;
* `Ledger.balanced`: in every run, the windows that came are there, up to those that left.
-/

namespace Tiri.Layout.Workspace

open Option Ensures FloatingSpace
open List hiding pure_def
open Bool hiding not_or

variable {Id : Type}

/-- The active layer has the windows, unless no layer has any. -/
structure Layered (w : Workspace Id) : Prop where
  /-- The floating space is never active while it is empty. -/
  floating_ne : w.isFloatingActive = true → w.floating.isEmpty = false
  /-- It is active when only the scrolling space is empty. -/
  floats : w.scrolling.isEmpty = true → w.floating.isEmpty = false → w.isFloatingActive = true

/-! ## Empty spaces -/

variable {s : FloatingSpace Id} {w w' : Workspace Id}

theorem floating_isEmpty_iff : s.isEmpty = true ↔ s.ids = [] := by
  simp [FloatingSpace.isEmpty, FloatingSpace.ids]

theorem scrolling_isEmpty_iff {s : ScrollingSpace Id} (h : s.Inv False) :
    s.isEmpty = true ↔ s.ids = [] := by
  simp only [ScrollingSpace.isEmpty, ScrollingSpace.ids, List.isEmpty_iff, flatMap_eq_nil_iff]
  constructor
  · intro hnil c hc
    rw [hnil] at hc
    cases hc
  · intro hnil
    by_contra hne
    obtain ⟨c, hc⟩ := exists_mem_of_ne_nil _ hne
    have hids := hnil c hc
    simp only [Column.ids, map_eq_nil_iff] at hids
    exact (h.columns c hc).tiles_ne hids

variable {id : Id}

theorem floating_isEmpty_false (hid : id ∈ s.ids) : s.isEmpty = false := by
  rw [eq_false_iff, Ne, floating_isEmpty_iff]
  exact ne_nil_of_mem hid

theorem scrolling_isEmpty_false {s : ScrollingSpace Id} (hid : id ∈ s.ids) : s.isEmpty = false := by
  have hne : s.columns ≠ [] := by
    intro hnil
    simp [ScrollingSpace.ids, hnil] at hid
  simpa [ScrollingSpace.isEmpty] using hne

theorem floating_isEmpty_congr {s' : FloatingSpace Id} (hids : s'.ids.Perm s.ids) :
    s'.isEmpty = s.isEmpty := by
  rw [Bool.eq_iff_iff, floating_isEmpty_iff, floating_isEmpty_iff, ← List.isEmpty_iff,
    hids.isEmpty_eq, List.isEmpty_iff]

theorem scrolling_isEmpty_congr {s s' : ScrollingSpace Id} (h : s.Inv False) (h' : s'.Inv False)
    (hids : s'.ids.Perm s.ids) : s'.isEmpty = s.isEmpty := by
  rw [Bool.eq_iff_iff, scrolling_isEmpty_iff h, scrolling_isEmpty_iff h', ← List.isEmpty_iff,
    hids.isEmpty_eq, List.isEmpty_iff]

/-! ## The active window -/

section ActiveWindow

variable [DecidableEq Id]

/-- The active window of the floating space is the one it names. -/
theorem floating_activeWindow {s : FloatingSpace Id} (h : s.Inv) :
    s.activeWindow.map Window.id = s.activeWindowId := by
  unfold FloatingSpace.activeWindow
  cases hactive : s.activeWindowId with
  | none => rfl
  | some id =>
    have hid := h.active_mem id hactive
    rw [← ids_eq_stamps] at hid
    obtain ⟨t, ht, htid⟩ := mem_map.mp hid
    have hfound : (s.tiles.find? (·.id = id)).isSome := by
      rw [List.find?_isSome]
      exact ⟨t, ht, by simpa using htid⟩
    obtain ⟨u, hu⟩ := isSome_iff_exists.mp hfound
    have huid := List.find?_some hu
    simp only [decide_eq_true_eq] at huid
    simp only [hu, bind_eq_bind, bind_some, pure_def, map_some]
    rw [← huid]
    rfl

theorem floating_activeWindow_isSome {s : FloatingSpace Id} (h : s.Inv) :
    s.activeWindow.isSome = !s.isEmpty := by
  rw [← isSome_map (f := Window.id), floating_activeWindow h, ← not_isNone]
  congr 1
  rw [Bool.eq_iff_iff, isNone_iff_eq_none, h.active_none, FloatingSpace.isEmpty, List.isEmpty_iff]

omit [DecidableEq Id] in
/-- The scrolling space has an active window, one of its own, unless it is empty. -/
theorem scrolling_activeWindow {s : ScrollingSpace Id} (h : s.Inv False)
    (hne : s.isEmpty = false) : ∃ win, s.activeWindow = some win ∧ win.id ∈ s.ids := by
  have hcolumns : s.columns ≠ [] := by simpa [ScrollingSpace.isEmpty] using hne
  have hlt := h.active_lt hcolumns
  have hmem := getElem_mem hlt
  have htile := (h.columns _ hmem).active_lt
  refine ⟨(s.columns[s.activeColumnIdx].tiles[s.columns[s.activeColumnIdx].activeTileIdx]).window,
    ?_, ?_⟩
  · simp [ScrollingSpace.activeWindow, List.getElem?_eq_getElem hlt, List.getElem?_eq_getElem htile]
  · exact mem_flatMap.mpr ⟨_, hmem, mem_map.mpr ⟨_, getElem_mem htile, rfl⟩⟩

omit [DecidableEq Id] in
theorem scrolling_activeWindow_isSome {s : ScrollingSpace Id} (h : s.Inv False) :
    s.activeWindow.isSome = !s.isEmpty := by
  cases hempty : s.isEmpty with
  | true =>
    have hnil : s.columns = [] := by simpa [ScrollingSpace.isEmpty] using hempty
    simp [ScrollingSpace.activeWindow, hnil]
  | false =>
    obtain ⟨win, hwin, -⟩ := scrolling_activeWindow h hempty
    simp [hwin]

/-- **The active window** is there exactly when the workspace has a window. -/
theorem Layered.activeWindow_isSome {w : Workspace Id} (hl : w.Layered) (h : w.Inv) :
    w.activeWindow.isSome = w.hasWindows := by
  have hwindows : w.hasWindows = !(w.scrolling.isEmpty && w.floating.isEmpty) := by
    rw [hasWindows_eq]
    congr 1
    rw [Bool.eq_iff_iff, List.isEmpty_iff, ids, append_eq_nil_iff, and_eq_true,
      scrolling_isEmpty_iff h.scrolling, floating_isEmpty_iff]
  rw [hwindows, activeWindow]
  split_ifs with hactive
  · rw [floating_activeWindow_isSome h.floating, hl.floating_ne hactive]
    simp
  · rw [scrolling_activeWindow_isSome h.scrolling]
    cases hs : w.scrolling.isEmpty with
    | false => rfl
    | true =>
      cases hf : w.floating.isEmpty with
      | true => rfl
      | false => exact absurd (hl.floats hs hf) hactive

end ActiveWindow

/-! ## Windows come and go -/

theorem newEmpty_layered (id : WorkspaceId) (originalOutput : OutputId) (output : Option Output)
    (geometry : OutputGeometry) (config : Option WorkspaceConfig) (baseOptions : Options) :
    (newEmpty id originalOutput output geometry config baseOptions : Workspace Id).Layered := by
  constructor
  · intro hactive
    cases hactive
  · intro _ hne
    cases hne

/-- The same layers, with the same one active. -/
theorem Layered.same (hl : w.Layered) (hs : w'.scrolling.isEmpty = w.scrolling.isEmpty)
    (hf : w'.floating.isEmpty = w.floating.isEmpty)
    (hactive : w'.isFloatingActive = w.isFloatingActive) : w'.Layered := by
  constructor
  · rw [hf, hactive]
    exact hl.floating_ne
  · rw [hs, hf, hactive]
    exact hl.floats

theorem SameLayers.layered (h : w.SameLayers w') (hw : w.Inv) (hw' : w'.Inv) (hl : w.Layered) :
    w'.Layered := by
  apply hl.same
  · exact scrolling_isEmpty_congr hw.scrolling hw'.scrolling h.scrolling
  · exact floating_isEmpty_congr h.floating
  · rw [isFloatingActive, isFloatingActive, h.active]

theorem addToScrolling_layered (hl : w.Layered) (activate : Bool) {x : Option (ScrollingSpace Id)}
    (hx : Ensures x fun s => s.isEmpty = false) :
    Ensures (w.addToScrolling activate x) Layered := by
  refine hx.bind fun s hs => of_pure ⟨?_, ?_⟩
  · intro hactive
    cases activate with
    | true => cases hactive
    | false => exact hl.floating_ne hactive
  · intro hempty
    exact absurd (hempty.symm.trans hs) (by decide)

theorem addToFloating_layered (activate : Bool) {x : Option (FloatingSpace Id)}
    (hx : Ensures x fun s => s.isEmpty = false) : Ensures (w.addToFloating activate x) Layered := by
  refine hx.bind fun s hs => of_pure ⟨fun _ => hs, ?_⟩
  intro hempty _
  have hsome : (activate || w.scrolling.isEmpty) = true := by
    rw [show w.scrolling.isEmpty = true from hempty, Bool.or_true]
  simp [isFloatingActive, hsome]

theorem Lands.layered {stamp : Id × Bool} (h : w.Lands stamp w') (hl : w.Layered) : w'.Layered := by
  cases h with
  | scrolling activate x hx hw' =>
    refine addToScrolling_layered hl activate (hx.mono fun s hs => ?_) w' hw'
    refine scrolling_isEmpty_false (?_ : stamp.1 ∈ s.ids)
    rw [ScrollingSpace.ids_eq_stamps]
    exact (hs.2.map Prod.fst).mem_iff.mpr mem_cons_self
  | floating activate x hx hw' =>
    refine addToFloating_layered activate (hx.mono fun s hs => ?_) w' hw'
    refine floating_isEmpty_false (?_ : stamp.1 ∈ s.ids)
    rw [ids_eq_stamps]
    exact (hs.2.map Prod.fst).mem_iff.mpr mem_cons_self

/-- After a removal from the floating space, which was not empty. -/
theorem updateFocus_floating (hl : w.Layered) (hne : w.floating.isEmpty = false)
    (s : FloatingSpace Id) :
    (({ w with floating := s } : Workspace Id).updateFocusFloatingTilingAfterRemoving
      true).Layered := by
  unfold updateFocusFloatingTilingAfterRemoving
  rw [if_pos rfl]
  split_ifs with hempty
  · constructor
    · intro hactive
      cases hactive
    · intro _ hfull
      exact absurd (hempty.symm.trans hfull) (by decide)
  · constructor
    · intro _
      exact eq_false_iff.mpr hempty
    · intro hs _
      exact hl.floats hs hne

/-- After a removal from the scrolling space. -/
theorem updateFocus_scrolling (hl : w.Layered) (s : ScrollingSpace Id) :
    (({ w with scrolling := s } : Workspace Id).updateFocusFloatingTilingAfterRemoving
      false).Layered := by
  unfold updateFocusFloatingTilingAfterRemoving
  rw [if_neg Bool.false_ne_true]
  split_ifs with hempty
  · simp only [and_eq_true, not_eq_true'] at hempty
    exact ⟨fun _ => hempty.2, fun _ _ => rfl⟩
  · constructor
    · exact hl.floating_ne
    · intro hs hf
      refine absurd ?_ hempty
      simp only [and_eq_true, not_eq_true']
      exact ⟨hs, hf⟩

theorem addTileToColumn_layered (h : w.Inv) (hl : w.Layered) (colIdx : ℕ) (tileIdx : Option ℕ)
    (tile : Tile Id) (activate : Bool) (hfresh : tile.id ∉ w.ids) :
    Ensures (w.addTileToColumn colIdx tileIdx tile activate) Layered := by
  have hnodup : ([tile.stamp].map Prod.fst ++ w.ids).Nodup := nodup_cons.mpr ⟨hfresh, h.nodup⟩
  refine addToScrolling_layered hl activate ?_
  refine (ScrollingSpace.addTileToColumn_inv h.scrolling colIdx tileIdx tile activate
    (nodup_scrolling _ hnodup)).mono fun s hs => ?_
  refine scrolling_isEmpty_false (?_ : tile.id ∈ s.ids)
  rw [ScrollingSpace.ids_eq_stamps]
  exact (hs.2.1.map Prod.fst).mem_iff.mpr mem_cons_self

theorem addColumn_layered (h : w.Inv) (hl : w.Layered) {column : Column Id} (activate : Bool)
    (hcolumn : column.Inv False) (hnodup : (column.ids ++ w.ids).Nodup) :
    Ensures (w.addColumn column activate) Layered := by
  rw [Column.ids_eq_stamps] at hnodup
  refine addToScrolling_layered hl activate ?_
  refine (ScrollingSpace.addColumn_inv h.scrolling none activate hcolumn (fun hs => hs.elim)
    (nodup_scrolling _ hnodup)).mono fun s hs => ?_
  obtain ⟨t, ht⟩ := exists_mem_of_ne_nil _ hcolumn.tiles_ne
  refine scrolling_isEmpty_false (?_ : t.id ∈ s.ids)
  rw [ScrollingSpace.ids_eq_stamps]
  have hstamp : t.stamp ∈ column.stamps ++ w.scrolling.stamps :=
    mem_append_left _ (mem_map_of_mem ht)
  exact (hs.2.1.map Prod.fst).mem_iff.mpr (mem_map_of_mem hstamp)

/-! ## Operations that move the focus -/

theorem switchFocusFloatingTiling_layered (hl : w.Layered) :
    w.switchFocusFloatingTiling.Layered := by
  unfold switchFocusFloatingTiling
  split_ifs with hf hs hactive
  · exact hl
  · exact hl
  · constructor
    · intro hyes
      cases hyes
    · intro hempty
      exact absurd hempty hs
  · exact ⟨fun _ => eq_false_iff.mpr hf, fun _ _ => rfl⟩

theorem focusFloating_layered (hl : w.Layered) : w.focusFloating.Layered := by
  unfold focusFloating
  split_ifs
  · exact hl
  · exact switchFocusFloatingTiling_layered hl

theorem focusTiling_layered (hl : w.Layered) : w.focusTiling.Layered := by
  unfold focusTiling
  split_ifs
  · exact switchFocusFloatingTiling_layered hl
  · exact hl

/-- A focus on the floating space, which has windows. -/
theorem layered_of_floating (hactive : w.floatingIsActive = .yes) (hne : w.floating.isEmpty = false) :
    w.Layered :=
  ⟨fun _ => hne, fun _ _ => by rw [isFloatingActive, hactive]; rfl⟩

/-- A focus on the scrolling space, which has windows. -/
theorem layered_of_scrolling (hactive : w.floatingIsActive ≠ .yes)
    (hne : w.scrolling.isEmpty = false) : w.Layered := by
  constructor
  · intro hyes
    exact absurd (of_decide_eq_true hyes) hactive
  · intro hempty
    exact absurd (hempty.symm.trans hne) (by decide)

variable [DecidableEq Id]

/-- `KeepsLayers`: the operation keeps which layer has the focus right. -/
def KeepsLayers (f : Workspace Id → Option (Workspace Id)) : Prop :=
  ∀ w : Workspace Id, w.Inv → w.Layered → Ensures (f w) Layered

section

omit [DecidableEq Id]

theorem Lays.layered {f : Workspace Id → Option (Workspace Id)} (hf : Lays f) : KeepsLayers f :=
  fun w h hl => (hf w h).mono fun _ h' => h'.2.layered h h'.1 hl

theorem KeepsLayers.trans {f g : Workspace Id → Option (Workspace Id)} (hf : Keeps f)
    (hlf : KeepsLayers f) (hg : KeepsLayers g) : KeepsLayers fun w => f w >>= g :=
  fun w h hl => ((hf w h).and (hlf w h hl)).bind fun w' hw' => hg w' hw'.1.1 hw'.2

theorem focusColumn_layered (index : ℕ) :
    KeepsLayers fun w : Workspace Id => w.focusColumn index := by
  intro w h hl
  exact (onScrolling_lays (ScrollingSpace.focusColumn_keeps index)).layered _
    (focusTiling_frame h).1 (focusTiling_layered hl)

end

/-- A window that `activate_window` of the floating space finds is there. -/
theorem floating_activateWindow_found (h : s.Inv) (window : Id) :
    Ensures (s.activateWindow window) fun p => p.2 = true → p.1.isEmpty = false := by
  refine ((FloatingSpace.activateWindow_keeps window s h).and Ensures.self).mono fun p hp => ?_
  intro hfound
  rw [floating_isEmpty_congr hp.1.2.ids]
  have hrun : s.activateWindow window = some p := hp.2
  unfold FloatingSpace.activateWindow at hrun
  cases hidx : s.idxOf window with
  | none =>
    rw [hidx] at hrun
    cases hrun
    cases hfound
  | some idx => exact floating_isEmpty_false (idxOf_mem hidx)

theorem floating_activateWithoutRaising_found {window : Id}
    (hfound : (s.activateWindowWithoutRaising window).2 = true) :
    (s.activateWindowWithoutRaising window).1.isEmpty = false := by
  unfold FloatingSpace.activateWindowWithoutRaising at hfound ⊢
  split_ifs at hfound ⊢ with hwindow
  exact floating_isEmpty_false (FloatingSpace.hasWindow_iff.mp hwindow)

/-- A window that `activate_window` of the scrolling space finds is there. -/
theorem scrolling_activateWindow_found {s : ScrollingSpace Id} (h : s.Inv False) (window : Id) :
    Ensures (s.activateWindow window) fun p => p.2 = true → p.1.isEmpty = false := by
  refine ((ScrollingSpace.activateWindow_inv window s h).and Ensures.self).mono fun p hp => ?_
  intro hfound
  rw [scrolling_isEmpty_congr h hp.1.1 hp.1.2.ids]
  have hrun : s.activateWindow window = some p := hp.2
  unfold ScrollingSpace.activateWindow at hrun
  cases hidx : s.columnOf window with
  | none =>
    rw [hidx] at hrun
    cases hrun
    cases hfound
  | some idx =>
    obtain ⟨c, hc, hmem⟩ := ScrollingSpace.columnOf_eq_some hidx
    exact scrolling_isEmpty_false (mem_flatMap.mpr ⟨c, mem_of_getElem? hc, hmem⟩)

variable (window : Id)

theorem activateWindow_layered :
    KeepsLayers fun w : Workspace Id => quietly (·.activateWindow window) w := by
  intro w h hl
  refine Ensures.map (f := Prod.fst) ?_
  refine (floating_activateWindow_found h.floating window).bind fun p hp =>
    Ensures.ite (fun hfound => of_pure ?_) fun _ => ?_
  · exact layered_of_floating rfl (hp hfound)
  · refine (scrolling_activateWindow_found h.scrolling window).bind fun q hq =>
      Ensures.ite (fun hfound => of_pure ?_) fun _ => of_pure hl
    refine layered_of_scrolling ?_ (hq hfound)
    exact fun hyes => FloatingActive.noConfusion hyes

theorem activateWindowWithoutRaising_layered :
    KeepsLayers fun w : Workspace Id => quietly (·.activateWindowWithoutRaising window) w := by
  intro w h hl
  refine Ensures.map (f := Prod.fst) ?_
  refine Ensures.ite (fun hfound => of_pure ?_) fun _ => ?_
  · exact layered_of_floating rfl (floating_activateWithoutRaising_found hfound)
  · refine (scrolling_activateWindow_found h.scrolling window).bind fun q hq =>
      Ensures.ite (fun hfound => of_pure ?_) fun _ => of_pure hl
    refine layered_of_scrolling ?_ (hq hfound)
    split_ifs with hyes
    · exact fun hraised => FloatingActive.noConfusion hraised
    · exact hyes

omit [DecidableEq Id] in
/-- One of two windows is left when one goes. -/
theorem left_ne_nil {ids left : List Id} {gone a b : Id} (h : ids.Perm (gone :: left))
    (ha : a ∈ ids) (hb : b ∈ ids) (hne : a ≠ b) : left ≠ [] := by
  rintro rfl
  have hgone : a = gone := mem_singleton.mp (h.mem_iff.mp ha)
  have hgone' : b = gone := mem_singleton.mp (h.mem_iff.mp hb)
  exact hne (hgone.trans hgone'.symm)

theorem scrolling_removeTile_mem {s : ScrollingSpace Id} {window : Id} :
    Ensures (s.removeTile window) fun _ => window ∈ s.ids := by
  refine Ensures.bind (P := fun _ => window ∈ s.ids) ?_ fun _ hmem _ _ => hmem
  refine Ensures.self.bind fun colIdx hcol => ?_
  obtain ⟨c, hc, hmem⟩ := ScrollingSpace.columnOf_eq_some hcol
  intro _ _
  exact mem_flatMap.mpr ⟨c, mem_of_getElem? hc, hmem⟩

variable (id : Option Id)

/-- **`toggle_window_floating`**: a window that keeps the focus while another one goes is still
in its space. -/
theorem toggleWindowFloating_layered (expected : Option ISize) :
    KeepsLayers fun w : Workspace Id => w.toggleWindowFloating id expected := by
  intro w h hl
  show Ensures (w.toggleWindowFloating id expected) _
  unfold toggleWindowFloating
  dsimp only
  cases htarget : id.or (w.activeWindow.map Window.id) with
  | none => exact of_some hl
  | some window =>
    have hother : (id.isNone || decide (id = w.activeWindow.map Window.id)) ≠ true →
        w.activeWindow.map Window.id ≠ some window := by
      intro hno heq
      simp only [ne_eq, or_eq_true, decide_eq_true_eq, not_or] at hno
      cases id with
      | none => exact hno.1 rfl
      | some id' => exact hno.2 (htarget.trans heq.symm)
    refine Ensures.self.bind fun _ _ => Ensures.ite (fun hfloats => ?_) fun _ => ?_
    · refine (FloatingSpace.removeTile_inv h.floating window expected).bind fun p hp => ?_
      have hr := removed_floating h hp.1.inv hp.1.stamps
      have hnodup := hr.ids.nodup_iff.mp h.nodup
      refine (ScrollingSpace.addTile_inv h.scrolling none _ _ _ (fun hs => hs.elim)
        (@nodup_scrolling Id { w with floating := p.2 } [p.1.tile.stamp] hnodup)).bind
          fun s hs => of_pure ?_
      have hfull : s.isEmpty = false := by
        refine scrolling_isEmpty_false (?_ : p.1.tile.id ∈ s.ids)
        rw [ScrollingSpace.ids_eq_stamps]
        exact (hs.2.1.map Prod.fst).mem_iff.mpr mem_cons_self
      split_ifs with hactive
      · exact layered_of_scrolling (fun hyes => FloatingActive.noConfusion hyes) hfull
      refine ⟨fun hyes => ?_, fun hempty => absurd (hempty.symm.trans hfull) (by decide)⟩
      -- The focus stays with the active window of the floating space, which is another one.
      have hid := hother hactive
      rw [activeWindow, if_pos (show w.isFloatingActive = true from hyes),
        floating_activeWindow h.floating] at hid
      obtain ⟨a, ha⟩ := ne_none_iff_exists'.mp fun hnone =>
        absurd (hl.floating_ne hyes) (by simp [FloatingSpace.isEmpty, h.floating.active_none.mp hnone])
      have hmem := h.floating.active_mem a ha
      rw [← ids_eq_stamps] at hmem
      have hids : w.floating.ids.Perm (p.1.tile.id :: p.2.ids) := by
        rw [ids_eq_stamps, ids_eq_stamps]
        exact hp.1.stamps.map Prod.fst
      have hleft := left_ne_nil hids hmem (FloatingSpace.hasWindow_iff.mp hfloats)
        fun hsame => hid (ha.trans (congrArg some hsame))
      rw [eq_false_iff, Ne, floating_isEmpty_iff]
      exact hleft
    · refine ((ScrollingSpace.removeTile_inv h.scrolling window).and
        scrolling_removeTile_mem).bind fun p hp => ?_
      have hr := removed_scrolling h [p.1.tile.stamp] hp.1.inv hp.1.stamps
      have hnodup := hr.ids.nodup_iff.mp h.nodup
      have hfresh : p.1.tile.id ∉ w.floating.ids := fun hid =>
        (nodup_cons.mp hnodup).1 (mem_append_right p.2.ids hid)
      refine (FloatingSpace.addTile_inv h.floating _ hfresh).bind fun s hs => of_pure ?_
      have hfull : s.isEmpty = false := by
        refine floating_isEmpty_false (?_ : p.1.tile.id ∈ s.ids)
        rw [ids_eq_stamps]
        exact (hs.2.1.map Prod.fst).mem_iff.mpr mem_cons_self
      split_ifs with hactive
      · exact layered_of_floating rfl hfull
      refine ⟨fun _ => hfull, fun hempty _ => ?_⟩
      by_contra hno
      -- The focus stays with the active window of the scrolling space, which is another one.
      have hid := hother hactive
      rw [activeWindow, if_neg (show ¬w.isFloatingActive = true from hno)] at hid
      obtain ⟨win, hwin, hmem⟩ :=
        scrolling_activeWindow h.scrolling (scrolling_isEmpty_false hp.2)
      have hids : w.scrolling.ids.Perm (p.1.tile.id :: p.2.ids) := by
        rw [ScrollingSpace.ids_eq_stamps, ScrollingSpace.ids_eq_stamps]
        exact hp.1.stamps.map Prod.fst
      refine left_ne_nil hids hmem hp.2 ?_ ((scrolling_isEmpty_iff hp.1.inv).mp hempty)
      intro hsame
      rw [hwin, map_some, hsame] at hid
      exact hid rfl

theorem setWindowFloating_layered (floating : Bool) (expected : Option ISize) :
    KeepsLayers fun w : Workspace Id => w.setWindowFloating id floating expected :=
  fun w h hl => Ensures.ite (fun _ => of_some hl) fun _ =>
    toggleWindowFloating_layered id expected w h hl

theorem setFullscreen_layered (isFullscreen : Bool) (expected : Option ISize) :
    KeepsLayers fun w : Workspace Id => w.setFullscreen window isFullscreen expected := by
  have set : ∀ b, ScrollingSpace.KeepsAnd False
      fun s : ScrollingSpace Id => s.setFullscreen window b :=
    fun b => ScrollingSpace.setFullscreen_keeps window b
  have toggle := toggleWindowFloating_layered (some window) expected
  intro w h hl
  refine Ensures.ite (fun _ => Ensures.ite (fun _ => ?_) fun _ => of_pure hl) fun _ =>
    Ensures.ite (fun _ => ?_) fun _ => ?_
  · exact toggle.trans (toggleWindowFloating_keeps (some window) expected)
      (setMode_lays (set true) window true).layered w h hl
  · exact (setMode_lays (set true) window false).layered w h hl
  · refine Ensures.self.bind fun _ _ => Ensures.self.bind fun _ _ => Ensures.self.bind fun _ _ => ?_
    exact Ensures.ite (fun _ => toggle w h hl)
      fun _ => (setMode_lays (set false) window false).layered w h hl

theorem setMaximized_layered (maximize : Bool) (expected : Option ISize) :
    KeepsLayers fun w : Workspace Id => w.setMaximized window maximize expected := by
  have set : ∀ b, ScrollingSpace.KeepsAnd False
      fun s : ScrollingSpace Id => s.setMaximized window b :=
    fun b => ScrollingSpace.setMaximized_keeps window b
  have toggle := toggleWindowFloating_layered (some window) expected
  intro w h hl
  refine Ensures.ite (fun _ => Ensures.ite (fun _ => ?_) fun _ => of_pure hl) fun _ =>
    Ensures.ite (fun _ => ?_) fun _ => ?_
  · exact toggle.trans (toggleWindowFloating_keeps (some window) expected)
      (setMode_lays (set true) window true).layered w h hl
  · exact (setMode_lays (set true) window false).layered w h hl
  · refine Ensures.self.bind fun _ _ => ?_
    exact Ensures.ite (fun _ => toggle w h hl)
      fun _ => (setMode_lays (set false) window false).layered w h hl

/-- **Every operation inside a workspace** keeps the active layer the one with the windows. -/
theorem Op.run_layered (op : Op Id) : KeepsLayers fun w : Workspace Id => op.run w := by
  cases hfocus : op.movesFocus with
  | false => exact (op.run_lays hfocus).layered
  | true =>
    intro w h hl
    cases op with
    | switchFocusFloatingTiling => exact of_some (switchFocusFloatingTiling_layered hl)
    | focusFloating => exact of_some (focusFloating_layered hl)
    | focusTiling => exact of_some (focusTiling_layered hl)
    | focusColumn index => exact focusColumn_layered index w h hl
    | activateWindow window => exact activateWindow_layered window w h hl
    | activateWindowWithoutRaising window =>
      exact activateWindowWithoutRaising_layered window w h hl
    | toggleWindowFloating window expected =>
      exact toggleWindowFloating_layered window expected w h hl
    | setWindowFloating window floating expected =>
      exact setWindowFloating_layered window floating expected w h hl
    | setFullscreen window isFullscreen expected =>
      exact setFullscreen_layered window isFullscreen expected w h hl
    | toggleFullscreen window expected =>
      exact Ensures.self.bind fun _ _ => setFullscreen_layered window _ expected w h hl
    | setMaximized window maximize expected =>
      exact setMaximized_layered window maximize expected w h hl
    | toggleMaximized window expected => exact setMaximized_layered window _ expected w h hl
    | _ => exact Bool.noConfusion hfocus

/-! ## Removals and the output -/

theorem removeTile_layered (hl : w.Layered) (id : Id) (expected : Option ISize) :
    Ensures (w.removeTile id expected) fun p => p.2.Layered := by
  refine Ensures.ite (fun hfloats => ?_) fun _ => ?_
  · have hne := floating_isEmpty_false (FloatingSpace.hasWindow_iff.mp hfloats)
    exact Ensures.self.bind fun p _ => of_pure (updateFocus_floating hl hne p.2)
  · exact Ensures.self.bind fun p _ => of_pure (updateFocus_scrolling hl p.2)

theorem removeActiveTile_layered (hl : w.Layered) (expected : Option ISize) :
    Ensures (w.removeActiveTile expected) fun p => p.2.Layered := by
  refine Ensures.ite (fun hactive => ?_) fun _ => ?_
  · refine Ensures.self.bind fun p _ => Ensures.ite (fun _ => of_pure hl) fun _ => ?_
    exact of_pure (updateFocus_floating hl (hl.floating_ne hactive) p.2)
  · refine Ensures.self.bind fun p _ => Ensures.ite (fun _ => of_pure hl) fun _ => ?_
    exact of_pure (updateFocus_scrolling hl p.2)

theorem removeActiveColumn_layered (hl : w.Layered) :
    Ensures w.removeActiveColumn fun p => p.2.Layered := by
  refine Ensures.ite (fun _ => of_some hl) fun _ => Ensures.self.bind fun p _ => ?_
  refine Ensures.ite (fun _ => of_pure hl) fun _ => ?_
  exact of_pure (updateFocus_scrolling hl p.2)

omit [DecidableEq Id] in
theorem setOutput_layered (geometry : Output → OutputGeometry) (output : Option Output) (h : w.Inv)
    (hl : w.Layered) : Ensures (w.setOutput geometry output) Layered := by
  refine Ensures.ite (fun _ => of_some hl) fun _ => ?_
  cases output with
  | none => exact of_some (hl.same rfl rfl rfl)
  | some o =>
    exact (updateOutputSize_lays geometry).layered _ ⟨h.scrolling, h.floating, h.nodup⟩
      (hl.same rfl rfl rfl)

/-! ## Runs -/

/-- The workspaces that runs of the operations reach: a window that comes is new to the
workspace, and a column that comes was taken out of another one. -/
inductive Reaches : Workspace Id → Prop
  | new (id : WorkspaceId) (originalOutput : OutputId) (output : Option Output)
      (geometry : OutputGeometry) (config : Option WorkspaceConfig) (baseOptions : Options) :
      Reaches (newEmpty id originalOutput output geometry config baseOptions)
  | op {w w' : Workspace Id} (h : Reaches w) (op : Op Id) (after : op.run w = some w') : Reaches w'
  | addTile {w w' : Workspace Id} (h : Reaches w) (tile : Tile Id)
      (target : WorkspaceAddWindowTarget Id) (activate : ActivateWindow) (width : ColumnWidth)
      (isFullWidth isFloating : Bool) (fresh : tile.id ∉ w.ids)
      (after : w.addTile tile target activate width isFullWidth isFloating = some w') : Reaches w'
  | addTileToColumn {w w' : Workspace Id} (h : Reaches w) (colIdx : ℕ) (tileIdx : Option ℕ)
      (tile : Tile Id) (activate : Bool) (fresh : tile.id ∉ w.ids)
      (after : w.addTileToColumn colIdx tileIdx tile activate = some w') : Reaches w'
  | addColumn {v v' w w' : Workspace Id} {column : Column Id} (hv : Reaches v)
      (removed : v.removeActiveColumn = some (some column, v')) (h : Reaches w) (activate : Bool)
      (fresh : (column.ids ++ w.ids).Nodup) (after : w.addColumn column activate = some w') :
      Reaches w'
  | removeTile {w w' : Workspace Id} {removed : RemovedTile Id} (h : Reaches w) (id : Id)
      (expected : Option ISize) (after : w.removeTile id expected = some (removed, w')) :
      Reaches w'
  | removeActiveTile {w w' : Workspace Id} {removed : Option (RemovedTile Id)} (h : Reaches w)
      (expected : Option ISize) (after : w.removeActiveTile expected = some (removed, w')) :
      Reaches w'
  | removeActiveColumn {w w' : Workspace Id} {column : Option (Column Id)} (h : Reaches w)
      (after : w.removeActiveColumn = some (column, w')) : Reaches w'
  | setOutput {w w' : Workspace Id} (h : Reaches w) (geometry : Output → OutputGeometry)
      (output : Option Output) (after : w.setOutput geometry output = some w') : Reaches w'
  | rename {w : Workspace Id} (h : Reaches w) (name : Option String) :
      Reaches { w with name := name }

/-- What a run keeps: the invariant, and the focus on a layer with windows. -/
theorem Reaches.inv (h : Reaches w) : w.Inv ∧ w.Layered := by
  induction h with
  | new => exact ⟨newEmpty_inv _ _ _ _ _ _, newEmpty_layered _ _ _ _ _ _⟩
  | op _ op after ih =>
    exact ⟨(op.run_keeps _ ih.1 _ after).1, op.run_layered _ ih.1 ih.2 _ after⟩
  | addTile _ tile target activate width isFullWidth isFloating fresh after ih =>
    have hlands := addTile_lands ih.1 tile target activate width isFullWidth isFloating fresh
    exact ⟨(addTile_inv ih.1 tile target activate width isFullWidth isFloating fresh _ after).inv,
      (hlands _ after).layered ih.2⟩
  | addTileToColumn _ colIdx tileIdx tile activate fresh after ih =>
    exact ⟨(addTileToColumn_inv ih.1 colIdx tileIdx tile activate fresh _ after).inv,
      addTileToColumn_layered ih.1 ih.2 colIdx tileIdx tile activate fresh _ after⟩
  | addColumn _ removed _ activate fresh after ihv ih =>
    rcases removeActiveColumn_inv ihv.1 _ removed with ⟨column, hcolumn, hinv, -⟩ | ⟨hnone, -⟩
    · cases hcolumn
      exact ⟨(addColumn_inv ih.1 activate hinv fresh _ after).inv,
        addColumn_layered ih.1 ih.2 activate hinv fresh _ after⟩
    · cases hnone
  | removeTile _ id expected after ih =>
    exact ⟨(removeTile_inv ih.1 id expected _ after).inv,
      removeTile_layered ih.2 id expected _ after⟩
  | @removeActiveTile w w' _ _ expected after ih =>
    refine ⟨?_, removeActiveTile_layered ih.2 expected _ after⟩
    rcases removeActiveTile_inv ih.1 expected _ after with ⟨_, _, hremoved⟩ | ⟨_, hsame⟩
    · exact hremoved.inv
    · obtain rfl : w' = w := hsame
      exact ih.1
  | @removeActiveColumn w w' _ _ after ih =>
    refine ⟨?_, removeActiveColumn_layered ih.2 _ after⟩
    rcases removeActiveColumn_inv ih.1 _ after with ⟨_, _, _, hremoved⟩ | ⟨_, hsame⟩
    · exact hremoved.inv
    · obtain rfl : w' = w := hsame
      exact ih.1
  | setOutput _ geometry output after ih =>
    exact ⟨(setOutput_rehomed geometry output ih.1 _ after).inv,
      setOutput_layered geometry output ih.1 ih.2 _ after⟩
  | rename _ _ ih => exact ⟨⟨ih.1.scrolling, ih.1.floating, ih.1.nodup⟩, ih.2.same rfl rfl rfl⟩

/-- **The active layer** in every run: the floating layer is never active without windows, it is
active when the windows are all its own, and so the active window is there exactly when the
workspace has a window. -/
theorem Reaches.focusLayer {w : Workspace Id} (h : Reaches w) :
    (w.isFloatingActive = true → w.floating.isEmpty = false) ∧
    (w.scrolling.isEmpty = true → w.floating.isEmpty = false → w.isFloatingActive = true) ∧
    (w.activeWindow.isSome ↔ w.hasWindows = true) := by
  obtain ⟨hinv, hl⟩ := h.inv
  refine ⟨hl.floating_ne, hl.floats, ?_⟩
  rw [hl.activeWindow_isSome hinv]

/-- An empty workspace. -/
def emptyWorkspace : Workspace ℕ :=
  newEmpty 1 ⟨"DP-1"⟩ none noOutputsGeometry none Options.default

/-- An ordinary window opens in the background. -/
def openBehind (id : ℕ) (isFloating : Bool) (w : Workspace ℕ) : Option (Workspace ℕ) :=
  w.addTile (ScrollingSpace.plainTile id) .auto .no (.proportion 1) false isFloating

/-- A floating window takes the focus, since there is no other; with a second one tiled behind
it, it goes fullscreen and keeps the focus in the scrolling space. -/
theorem focusLayer_fullscreen :
    ∃ w₁ w₂ w₃, openBehind 1 true emptyWorkspace = some w₁ ∧ openBehind 2 false w₁ = some w₂ ∧
      w₂.setFullscreen 1 true none = some w₃ ∧ w₂.isFloatingActive = true ∧
      w₃.isFloatingActive = false ∧ (w₃.activeWindow.isSome ↔ w₃.hasWindows = true) := by
  obtain ⟨w₃, hw₃⟩ : ∃ w, (openBehind 1 true emptyWorkspace >>= fun w₁ => openBehind 2 false w₁ >>=
      fun w₂ => w₂.setFullscreen 1 true none) = some w :=
    isSome_iff_exists.mp (by decide +kernel)
  obtain ⟨w₁, hw₁, hw₃⟩ := bind_eq_some_iff.mp hw₃
  obtain ⟨w₂, hw₂, hw₃⟩ := bind_eq_some_iff.mp hw₃
  have hids : (openBehind 1 true emptyWorkspace).map ids = some [1] := by decide +kernel
  have hactive : (openBehind 1 true emptyWorkspace >>= fun w₁ => openBehind 2 false w₁ >>=
      fun w₂ => (w₂.setFullscreen 1 true none).map fun w₃ =>
        (w₂.isFloatingActive, w₃.isFloatingActive)) = some (true, false) := by decide +kernel
  rw [hw₁, map_some, some.injEq] at hids
  simp only [hw₁, hw₂, hw₃, bind_eq_bind, bind_some, map_some, some.injEq, Prod.mk.injEq] at hactive
  have start : Reaches emptyWorkspace := .new _ _ _ _ _ _
  have opened : Reaches w₁ := start.addTile _ _ _ _ _ _ (by decide +kernel) hw₁
  have tiled : Reaches w₂ := opened.addTile _ _ _ _ _ _ (by rw [hids]; decide +kernel) hw₂
  have fullscreen : Reaches w₃ := tiled.op (.setFullscreen 1 true none) hw₃
  exact ⟨w₁, w₂, w₃, hw₁, hw₂, hw₃, hactive.1, hactive.2, fullscreen.focusLayer.2.2⟩

/-! ## What comes and goes -/

/-- A step of a workspace, with the windows that it brings along and the ones that it takes out. -/
inductive Trade (w : Workspace Id) : List Id → List Id → Workspace Id → Prop
  | op {w' : Workspace Id} (op : Op Id) (after : op.run w = some w') : Trade w [] [] w'
  | addTile {w' : Workspace Id} (tile target activate width isFullWidth isFloating)
      (after : w.addTile tile target activate width isFullWidth isFloating = some w') :
      Trade w [tile.id] [] w'
  | addTileToColumn {w' : Workspace Id} (colIdx tileIdx tile activate)
      (after : w.addTileToColumn colIdx tileIdx tile activate = some w') : Trade w [tile.id] [] w'
  | addColumn {w' : Workspace Id} {column} (h : Column.Inv False column) (activate)
      (after : w.addColumn column activate = some w') : Trade w column.ids [] w'
  | removeTile {w' : Workspace Id} {removed} (id expected) (after : w.removeTile id expected = some (removed, w')) :
      Trade w [] [removed.tile.id] w'
  | removeActiveTile {w' : Workspace Id} {removed} (expected)
      (after : w.removeActiveTile expected = some (removed, w')) :
      Trade w [] (removed.toList.map (·.tile.id)) w'
  | removeActiveColumn {w' : Workspace Id} {column} (after : w.removeActiveColumn = some (column, w')) :
      Trade w [] (column.elim [] Column.ids) w'
  | setOutput {w' : Workspace Id} (geometry output) (after : w.setOutput geometry output = some w') :
      Trade w [] [] w'
  | rename (name) : Trade w [] [] { w with name }

variable {came left : List Id}

/-- A step leaves the workspace with what came and did not go. -/
theorem Trade.settles (h : w.Inv) (ht : w.Trade came left w') (fresh : (came ++ w.ids).Nodup) :
    w'.Inv ∧ (left ++ w'.ids).Perm (came ++ w.ids) := by
  cases ht with
  | op op after =>
    obtain ⟨hinv, hframe⟩ := op.run_keeps _ h _ after
    exact ⟨hinv, hframe.ids⟩
  | addTile tile target activate width isFullWidth isFloating after =>
    have hadded := addTile_inv h tile target activate width isFullWidth isFloating
      (nodup_cons.mp fresh).1 _ after
    exact ⟨hadded.inv, hadded.ids⟩
  | addTileToColumn colIdx tileIdx tile activate after =>
    have hadded := addTileToColumn_inv h colIdx tileIdx tile activate (nodup_cons.mp fresh).1 _ after
    exact ⟨hadded.inv, hadded.ids⟩
  | addColumn hcolumn activate after =>
    have hadded := addColumn_inv h activate hcolumn fresh _ after
    exact ⟨hadded.inv, hadded.ids⟩
  | removeTile id expected after =>
    have hremoved := removeTile_inv h id expected _ after
    exact ⟨hremoved.inv, hremoved.ids.symm⟩
  | removeActiveTile expected after =>
    rcases removeActiveTile_inv h expected _ after with ⟨_, rfl, hremoved⟩ | ⟨rfl, rfl⟩
    · exact ⟨hremoved.inv, hremoved.ids.symm⟩
    · exact ⟨h, .refl _⟩
  | removeActiveColumn after =>
    rcases removeActiveColumn_inv h _ after with ⟨_, rfl, _, hremoved⟩ | ⟨rfl, rfl⟩
    · exact ⟨hremoved.inv, hremoved.ids.symm⟩
    · exact ⟨h, .refl _⟩
  | setOutput geometry output after =>
    have hrehomed := setOutput_rehomed geometry output h _ after
    exact ⟨hrehomed.inv, hrehomed.ids⟩
  | rename => exact ⟨⟨h.scrolling, h.floating, h.nodup⟩, .refl _⟩

/-- The workspaces that steps lead to, with the windows that came so far and those that left. -/
inductive Ledger : List Id → List Id → Workspace Id → Prop
  | new (id originalOutput output geometry config baseOptions) :
      Ledger [] [] (newEmpty id originalOutput output geometry config baseOptions)
  | trade {came left new gone} {w w' : Workspace Id} (h : Ledger came left w)
      (step : w.Trade new gone w') (fresh : (new ++ w.ids).Nodup) :
      Ledger (new ++ came) (gone ++ left) w'

/-- **No window is lost**, and none is there twice: the windows of a workspace are the ones that
came, up to those that left. -/
theorem Ledger.balanced (h : Ledger came left w) : w.Inv ∧ (left ++ w.ids).Perm came := by
  induction h with
  | new => exact ⟨newEmpty_inv _ _ _ _ _ _, .refl _⟩
  | @trade came left new gone w w' h step fresh ih =>
    obtain ⟨hinv, hperm⟩ := step.settles ih.1 fresh
    refine ⟨hinv, ?_⟩
    calc gone ++ left ++ w'.ids
      _ ~ left ++ (gone ++ w'.ids) := by
        rw [← append_assoc]
        exact perm_append_comm.append_right _
      _ ~ left ++ (new ++ w.ids) := hperm.append_left _
      _ ~ new ++ (left ++ w.ids) := perm_append_comm_assoc _ _ _
      _ ~ new ++ came := ih.2.append_left _

/-- Two windows open, and the first one closes. -/
theorem balanced_twoWindows : ∃ w₁ w₂ removed w₃, openBehind 1 true emptyWorkspace = some w₁ ∧
    openBehind 2 false w₁ = some w₂ ∧ w₂.removeTile 1 none = some (removed, w₃) ∧
      (removed.tile.id :: w₃.ids).Perm [2, 1] := by
  obtain ⟨⟨removed, w₃⟩, hw₃⟩ := isSome_iff_exists.mp (by decide +kernel :
    (openBehind 1 true emptyWorkspace >>= fun w₁ => openBehind 2 false w₁ >>=
      fun w₂ => w₂.removeTile 1 none).isSome = true)
  obtain ⟨w₁, hw₁, hw₃⟩ := bind_eq_some_iff.mp hw₃
  obtain ⟨w₂, hw₂, hw₃⟩ := bind_eq_some_iff.mp hw₃
  have hids : (openBehind 1 true emptyWorkspace).map ids = some [1] := by decide +kernel
  rw [hw₁, map_some, some.injEq] at hids
  have opened : Ledger [1] [] w₁ :=
    (Ledger.new _ _ _ _ _ _).trade (.addTile _ _ _ _ _ _ hw₁) (by decide +kernel)
  have second : Ledger [2, 1] [] w₂ :=
    opened.trade (.addTile _ _ _ _ _ _ hw₂) (by rw [hids]; decide +kernel)
  have closed := second.trade (.removeTile _ _ hw₃) (second.balanced.1.nodup)
  exact ⟨w₁, w₂, removed, w₃, hw₁, hw₂, hw₃, closed.balanced.2⟩

end Tiri.Layout.Workspace
