import Tiri.Layout.ScrollingSteps
import Tiri.Lib.Run

/-!
# Runs of the scrolling space

A scrolling space starts empty, goes through its operations in any order, and takes in columns
from other spaces that did the same.  The one thing that breaks its invariant is recomputing
the heights of a column that has a single tile of no height: `convert_heights_to_auto` divides
by the median height, which is zero, so that the lone tile does not weigh 1.

Results:
* `Op.run_inv`: each operation keeps the invariant, unless it converts the heights of such a
  column;
* `reach_inv`: so does every run without such a step.
-/

namespace Tiri.Layout.ScrollingSpace

open Option List Column

variable {Id : Type} {strict : Prop}

/-- The operations on a scrolling space, with what its callers hand them. -/
inductive Op (Id : Type)
  | updateConfig (viewSize : Size) (parentArea : Rectangle) (scale : ℚ) (options : Options)
  | addTile (colIdx : Option ℕ) (tile : Tile Id) (activate : Bool) (width : ColumnWidth)
      (isFullWidth : Bool)
  | addTileToColumn (colIdx : ℕ) (tileIdx : Option ℕ) (tile : Tile Id) (activate : Bool)
  | addTileRightOf (rightOf : Id) (tile : Tile Id) (activate : Bool) (width : ColumnWidth)
      (isFullWidth : Bool)
  | addColumn (idx : Option ℕ) (column : Column Id) (activate : Bool)
  | removeActiveTile
  | removeTile (window : Id)
  | removeTileByIdx (columnIdx tileIdx : ℕ)
  | removeActiveColumn
  | removeColumnByIdx (columnIdx : ℕ)
  | updateWindow (window : Id) (state : WindowState)
  | activateWindow (window : Id)
  | focusLeft
  | focusRight
  | focusColumnFirst
  | focusColumnLast
  | focusColumn (index : ℕ)
  | focusWindowInColumn (index : ℕ)
  | focusDown
  | focusUp
  | focusDownOrLeft
  | focusDownOrRight
  | focusUpOrLeft
  | focusUpOrRight
  | focusTop
  | focusBottom
  | moveColumnToIndex (index : ℕ)
  | moveLeft
  | moveRight
  | moveColumnToFirst
  | moveColumnToLast
  | moveDown
  | moveUp
  | consumeOrExpelWindowLeft (window : Option Id)
  | consumeOrExpelWindowRight (window : Option Id)
  | consumeIntoColumn
  | expelFromColumn
  | swapWindowInDirection (direction : ScrollDirection)
  | setFullscreen (window : Id) (isFullscreen : Bool)
  | setMaximized (window : Id) (maximize : Bool)
  | setColumnDisplay (display : ColumnDisplay)
  | toggleColumnTabbedDisplay
  | centerColumn
  | centerWindow (window : Option Id)
  | alignVisibleColumns (activeVisible : Bool)
  | toggleWidth (forwards : Bool) (expected : Option ISize)
  | toggleFullWidth
  | setWindowWidth (window : Option Id) (change : SizeChange)
  | setWindowHeight (window : Option Id) (change : SizeChange)
  | resetWindowHeight (window : Option Id)
  | toggleWindowWidth (window : Option Id) (forwards : Bool) (expected : Option ISize)
  | toggleWindowHeight (window : Option Id) (forwards : Bool)
  | expandColumnToAvailableWidth (view : ExpandView)
  | viewOffsetGestureEnd (newColIdx : ℕ)
  | dndScrollGestureBegin (ongoing : Bool)
  | interactiveResizeBegin (window : Id) (edges : ResizeEdge)
  | interactiveResizeUpdate (window : Id) (dx dy : ℚ)
  | interactiveResizeEnd (window : Option Id)

namespace Op

/-- What an operation does to the space; what it returns besides is dropped. -/
def run [DecidableEq Id] (s : ScrollingSpace Id) : Op Id → Option (ScrollingSpace Id)
  | updateConfig viewSize parentArea scale options =>
    s.updateConfig viewSize parentArea scale options
  | addTile colIdx tile activate width isFullWidth =>
    s.addTile colIdx tile activate width isFullWidth
  | addTileToColumn colIdx tileIdx tile activate => s.addTileToColumn colIdx tileIdx tile activate
  | addTileRightOf rightOf tile activate width isFullWidth =>
    s.addTileRightOf rightOf tile activate width isFullWidth
  | addColumn idx column activate => s.addColumn idx column activate
  | removeActiveTile => s.removeActiveTile.map Prod.snd
  | removeTile window => (s.removeTile window).map Prod.snd
  | removeTileByIdx columnIdx tileIdx => (s.removeTileByIdx columnIdx tileIdx).map Prod.snd
  | removeActiveColumn => s.removeActiveColumn.map Prod.snd
  | removeColumnByIdx columnIdx => (s.removeColumnByIdx columnIdx).map Prod.snd
  | updateWindow window state => s.updateWindow window state
  | activateWindow window => (s.activateWindow window).map Prod.fst
  | focusLeft => s.focusLeft.map Prod.fst
  | focusRight => s.focusRight.map Prod.fst
  | focusColumnFirst => s.focusColumnFirst
  | focusColumnLast => s.focusColumnLast
  | focusColumn index => s.focusColumn index
  | focusWindowInColumn index => s.focusWindowInColumn index
  | focusDown => s.focusDown.map Prod.fst
  | focusUp => s.focusUp.map Prod.fst
  | focusDownOrLeft => s.focusDownOrLeft
  | focusDownOrRight => s.focusDownOrRight
  | focusUpOrLeft => s.focusUpOrLeft
  | focusUpOrRight => s.focusUpOrRight
  | focusTop => s.focusTop
  | focusBottom => s.focusBottom
  | moveColumnToIndex index => s.moveColumnToIndex index
  | moveLeft => s.moveLeft.map Prod.fst
  | moveRight => s.moveRight.map Prod.fst
  | moveColumnToFirst => s.moveColumnToFirst
  | moveColumnToLast => s.moveColumnToLast
  | moveDown => s.moveDown.map Prod.fst
  | moveUp => s.moveUp.map Prod.fst
  | consumeOrExpelWindowLeft window => s.consumeOrExpelWindowLeft window
  | consumeOrExpelWindowRight window => s.consumeOrExpelWindowRight window
  | consumeIntoColumn => s.consumeIntoColumn
  | expelFromColumn => s.expelFromColumn
  | swapWindowInDirection direction => s.swapWindowInDirection direction
  | setFullscreen window isFullscreen => (s.setFullscreen window isFullscreen).map Prod.fst
  | setMaximized window maximize => (s.setMaximized window maximize).map Prod.fst
  | setColumnDisplay display => s.setColumnDisplay display
  | toggleColumnTabbedDisplay => s.toggleColumnTabbedDisplay
  | centerColumn => s.centerColumn
  | centerWindow window => s.centerWindow window
  | alignVisibleColumns activeVisible => s.alignVisibleColumns activeVisible
  | toggleWidth forwards expected => s.toggleWidth forwards expected
  | toggleFullWidth => s.toggleFullWidth
  | setWindowWidth window change => s.setWindowWidth window change
  | setWindowHeight window change => s.setWindowHeight window change
  | resetWindowHeight window => s.resetWindowHeight window
  | toggleWindowWidth window forwards expected => s.toggleWindowWidth window forwards expected
  | toggleWindowHeight window forwards => s.toggleWindowHeight window forwards
  | expandColumnToAvailableWidth view => s.expandColumnToAvailableWidth view
  | viewOffsetGestureEnd newColIdx => s.viewOffsetGestureEnd newColIdx
  | dndScrollGestureBegin ongoing => some (s.dndScrollGestureBegin ongoing)
  | interactiveResizeBegin window edges => (s.interactiveResizeBegin window edges).map Prod.fst
  | interactiveResizeUpdate window dx dy => (s.interactiveResizeUpdate window dx dy).map Prod.fst
  | interactiveResizeEnd window => some (s.interactiveResizeEnd window)

/-- The ids of the windows an operation brings along. -/
def addedIds : Op Id → List Id
  | addTile _ tile _ _ _ => [tile.id]
  | addTileToColumn _ _ tile _ => [tile.id]
  | addTileRightOf _ tile _ _ _ => [tile.id]
  | addColumn _ column _ => column.ids
  | _ => []

/-- A window comes to a space that does not have it. -/
def Fresh (op : Op Id) (s : ScrollingSpace Id) : Prop := ∀ window ∈ op.addedIds, window ∉ s.ids

/-- The column an operation takes in. -/
def column : Op Id → Option (Column Id)
  | addColumn _ column _ => some column
  | _ => none

/-- **The condition.**  The operation changes the list of preset heights of a column that has a
single tile of no height: a new configuration for the space, or a column or a tile that comes
from another one. -/
def ConvertsFlat (op : Op Id) (s : ScrollingSpace Id) : Prop :=
  match op with
  | updateConfig _ _ _ options => ∃ c ∈ s.columns, c.ConvertsFlat options
  | addTile _ tile _ _ _ => s.TileConvertsFlat tile
  | addTileRightOf _ tile _ _ _ => s.TileConvertsFlat tile
  | addColumn _ column _ => s.ConvertsFlat column
  | _ => False

instance (op : Op Id) (s : ScrollingSpace Id) : Decidable (op.ConvertsFlat s) := by
  unfold ConvertsFlat ScrollingSpace.ConvertsFlat TileConvertsFlat
  cases op <;> infer_instance

end Op

/-- The spaces that runs from the empty space reach.  Each step meets the condition `Meets`; a
column that is taken in was removed from a space reached in the same way. -/
inductive Reach [DecidableEq Id] (Meets : Op Id → ScrollingSpace Id → Prop) :
    ScrollingSpace Id → Prop
  | new (viewSize : Size) (parentArea : Rectangle) (scale : ℚ) (options : Options) :
      Reach Meets (new viewSize parentArea scale options)
  | step {s s' : ScrollingSpace Id} {op : Op Id} : Reach Meets s → op.column = none →
      op.Fresh s → Meets op s → op.run s = some s' → Reach Meets s'
  | transplant {s s' t t' : ScrollingSpace Id} {columnIdx : ℕ} {column : Column Id}
      {idx : Option ℕ} {activate : Bool} : Reach Meets s → Reach Meets t →
      t.removeColumnByIdx columnIdx = some (column, t') →
      (Op.addColumn idx column activate).Fresh s → Meets (.addColumn idx column activate) s →
      (Op.addColumn idx column activate).run s = some s' → Reach Meets s'

variable {s : ScrollingSpace Id}

theorem fresh_nodup (h : s.Inv strict) {tile : Tile Id}
    (hfresh : ∀ window ∈ [tile.id], window ∉ s.ids) :
    ((tile.stamp :: s.stamps).map Prod.fst).Nodup := by
  rw [map_cons, nodup_cons]
  refine ⟨?_, h.nodup⟩
  have := hfresh tile.id (by simp)
  rw [ids_eq_stamps] at this
  exact this

theorem fresh_nodup_column (h : s.Inv strict) {column : Column Id}
    (hnodup : (column.stamps.map Prod.fst).Nodup) (hfresh : ∀ window ∈ column.ids, window ∉ s.ids) :
    ((column.stamps ++ s.stamps).map Prod.fst).Nodup := by
  rw [map_append, nodup_append]
  refine ⟨hnodup, h.nodup, fun a ha b hb hab => ?_⟩
  rw [← Column.ids_eq_stamps] at ha
  rw [← ids_eq_stamps, ← hab] at hb
  exact hfresh a ha hb

theorem Keeps.inv {f : ScrollingSpace Id → Option (ScrollingSpace Id)} (hf : Keeps strict f)
    (h : s.Inv strict) : Ensures (f s) (Inv strict) :=
  (hf s h).mono fun _ h' => h'.1

theorem KeepsAnd.inv {f : ScrollingSpace Id → Option (ScrollingSpace Id × Bool)}
    (hf : KeepsAnd strict f) (h : s.Inv strict) : Ensures ((f s).map Prod.fst) (Inv strict) :=
  (hf.fst s h).mono fun _ h' => h'.1

variable [DecidableEq Id]

/-- **Each operation** keeps the invariant, unless it converts the heights of a column with a
single tile of no height. -/
theorem Op.run_inv (h : s.Inv strict) (op : Op Id) (hfresh : op.Fresh s)
    (hcolumn : ∀ column, op.column = some column →
      column.Inv strict ∧ (column.stamps.map Prod.fst).Nodup) (hflat : strict → ¬op.ConvertsFlat s) :
    Ensures (op.run s) (Inv strict) := by
  cases op with
  | updateConfig viewSize parentArea scale options =>
    exact (updateConfig_inv h viewSize parentArea scale options
      fun hs c hc hf => hflat hs ⟨c, hc, hf⟩).mono fun _ h' => h'.1
  | addTile colIdx tile activate width isFullWidth =>
    exact (addTile_inv h colIdx activate width isFullWidth hflat
      (fresh_nodup h hfresh)).mono fun _ h' => h'.1
  | addTileToColumn colIdx tileIdx tile activate =>
    exact (addTileToColumn_inv h colIdx tileIdx tile activate
      (fresh_nodup h hfresh)).mono fun _ h' => h'.1
  | addTileRightOf rightOf tile activate width isFullWidth =>
    exact Ensures.self.bind fun _ _ => (addTile_inv h _ activate width isFullWidth hflat
      (fresh_nodup h hfresh)).mono fun _ h' => h'.1
  | addColumn idx column activate =>
    obtain ⟨hc, hnodup⟩ := hcolumn column rfl
    exact (addColumn_inv h idx activate hc hflat
      (fresh_nodup_column h hnodup hfresh)).mono fun _ h' => h'.1
  | removeActiveTile =>
    refine Ensures.map ((removeActiveTile_inv h).mono fun p hp => ?_)
    rcases hp with ⟨_, -, hr⟩ | ⟨-, hs⟩
    · exact hr.inv
    · rw [hs]
      exact h
  | removeTile window => exact Ensures.map ((removeTile_inv h window).mono fun _ hp => hp.inv)
  | removeTileByIdx columnIdx tileIdx =>
    exact Ensures.map ((removeTileByIdx_inv h columnIdx tileIdx).mono fun _ hp => hp.inv)
  | removeActiveColumn =>
    refine Ensures.map ((removeActiveColumn_inv h).mono fun p hp => ?_)
    rcases hp with ⟨_, -, hr⟩ | ⟨-, hs⟩
    · exact hr.1
    · rw [hs]
      exact h
  | removeColumnByIdx columnIdx =>
    exact Ensures.map ((removeColumnByIdx_inv h columnIdx).mono fun _ hp => hp.1)
  | updateWindow window state => exact (updateWindow_keeps window state).inv h
  | activateWindow window => exact (activateWindow_inv window).inv h
  | focusLeft => exact focusLeft_keeps.inv h
  | focusRight => exact focusRight_keeps.inv h
  | focusColumnFirst => exact focusColumnFirst_keeps.inv h
  | focusColumnLast => exact focusColumnLast_keeps.inv h
  | focusColumn index => exact (focusColumn_keeps index).inv h
  | focusWindowInColumn index => exact (focusWindowInColumn_keeps index).inv h
  | focusDown => exact focusDown_keeps.inv h
  | focusUp => exact focusUp_keeps.inv h
  | focusDownOrLeft => exact (focusOr_keeps (fun _ => focusDown_inv) focusLeft_keeps).inv h
  | focusDownOrRight =>
    exact (focusOr_keeps (fun _ => focusDown_inv) focusRight_keeps).inv h
  | focusUpOrLeft => exact (focusOr_keeps (fun _ => focusUp_inv) focusLeft_keeps).inv h
  | focusUpOrRight => exact (focusOr_keeps (fun _ => focusUp_inv) focusRight_keeps).inv h
  | focusTop => exact focusTop_keeps.inv h
  | focusBottom => exact focusBottom_keeps.inv h
  | moveColumnToIndex index => exact (moveColumnToIndex_keeps index).inv h
  | moveLeft => exact moveLeft_keeps.inv h
  | moveRight => exact moveRight_keeps.inv h
  | moveColumnToFirst => exact moveColumnToFirst_keeps.inv h
  | moveColumnToLast => exact moveColumnToLast_keeps.inv h
  | moveDown => exact moveDown_keeps.inv h
  | moveUp => exact moveUp_keeps.inv h
  | consumeOrExpelWindowLeft window => exact (consumeOrExpelWindowLeft_keeps window).inv h
  | consumeOrExpelWindowRight window => exact (consumeOrExpelWindowRight_keeps window).inv h
  | consumeIntoColumn => exact consumeIntoColumn_keeps.inv h
  | expelFromColumn => exact expelFromColumn_keeps.inv h
  | swapWindowInDirection direction => exact (swapWindowInDirection_keeps direction).inv h
  | setFullscreen window isFullscreen => exact (setFullscreen_keeps window isFullscreen).inv h
  | setMaximized window maximize => exact (setMaximized_keeps window maximize).inv h
  | setColumnDisplay display => exact (setColumnDisplay_keeps display).inv h
  | toggleColumnTabbedDisplay => exact toggleColumnTabbedDisplay_keeps.inv h
  | centerColumn => exact centerColumn_keeps.inv h
  | centerWindow window => exact (centerWindow_keeps window).inv h
  | alignVisibleColumns activeVisible => exact (alignVisibleColumns_keeps activeVisible).inv h
  | toggleWidth forwards expected => exact (toggleWidth_keeps forwards expected).inv h
  | toggleFullWidth => exact toggleFullWidth_keeps.inv h
  | setWindowWidth window change => exact (setWindowWidth_keeps window change).inv h
  | setWindowHeight window change => exact (setWindowHeight_keeps window change).inv h
  | resetWindowHeight window => exact (resetWindowHeight_keeps window).inv h
  | toggleWindowWidth window forwards expected =>
    exact (toggleWindowWidth_keeps window forwards expected).inv h
  | toggleWindowHeight window forwards => exact (toggleWindowHeight_keeps window forwards).inv h
  | expandColumnToAvailableWidth view => exact (expandColumnToAvailableWidth_keeps view).inv h
  | viewOffsetGestureEnd newColIdx => exact (viewOffsetGestureEnd_keeps newColIdx).inv h
  | dndScrollGestureBegin ongoing => exact Ensures.of_some (dndScrollGestureBegin_inv h ongoing).1
  | interactiveResizeBegin window edges => exact (interactiveResizeBegin_keeps window edges).inv h
  | interactiveResizeUpdate window dx dy =>
    exact (interactiveResizeUpdate_keeps window dx dy).inv h
  | interactiveResizeEnd window => exact Ensures.of_some (interactiveResizeEnd_inv h window).1

/-- **Runs keep the invariant**; its clause about lone weights only if no step converts the
heights of a column with a single tile of no height. -/
theorem reach_keeps {Meets : Op Id → ScrollingSpace Id → Prop} (h : Reach Meets s)
    (hmeets : strict → ∀ op s, Meets op s → ¬op.ConvertsFlat s) : s.Inv strict := by
  induction h with
  | new viewSize parentArea scale options => exact new_inv viewSize parentArea scale options
  | step _ hcolumn hfresh hflat hrun ih =>
    refine Op.run_inv ih _ hfresh (fun column hc => ?_) (fun hs => hmeets hs _ _ hflat) _ hrun
    rw [hcolumn] at hc
    cases hc
  | transplant _ _ hremove hfresh hflat hrun ih iht =>
    refine Op.run_inv ih _ hfresh (fun column hc => ?_) (fun hs => hmeets hs _ _ hflat) _ hrun
    obtain rfl := some.inj hc
    obtain ⟨-, hc, -, hperm, -⟩ := removeColumnByIdx_inv iht _ _ hremove
    refine ⟨hc, ?_⟩
    have hnodup := (hperm.map Prod.fst).nodup_iff.mp iht.nodup
    rw [map_append] at hnodup
    exact (nodup_append.mp hnodup).1

/-- **The structural invariant.**  All of it holds in every space that a run reaches whose steps
convert no heights of a column with a single tile of no height. -/
theorem reach_inv {s : ScrollingSpace Id} (h : Reach (fun op s => ¬op.ConvertsFlat s) s) :
    s.Inv True :=
  reach_keeps h fun _ _ _ hmeets => hmeets

/-! ## Runs of operations -/

/-- A window comes that the space does not have, no column comes, and no heights of a tile of no
height are converted. -/
def Op.Ready (s : ScrollingSpace Id) (op : Op Id) : Prop :=
  op.column = none ∧ op.Fresh s ∧ ¬op.ConvertsFlat s

instance (s : ScrollingSpace Id) (op : Op Id) : Decidable (op.Ready s) := by
  unfold Op.Ready Op.Fresh
  infer_instance

/-- **A run** of such operations keeps the invariant. -/
theorem run_inv {s' : ScrollingSpace Id} {ops : List (Op Id)} (h : s.Inv True)
    (hready : Run.Along Op.run Op.Ready s ops) (hrun : Run.exec Op.run s ops = some s') :
    s'.Inv True := by
  refine Run.along_invariant (fun s op s' hinv hready hstep => ?_) h hready hrun
  obtain ⟨hcolumn, hfresh, hflat⟩ := hready
  refine Op.run_inv hinv op hfresh (fun column hc => ?_) (fun _ => hflat) s' hstep
  rw [hcolumn] at hc
  exact nomatch hc

/-! ## A tile of no height

An output may be scaled by a tenth, and a window without a border may be four pixels tall; its
tile then is zero physical pixels tall. -/

/-- A client's window, four pixels tall or more. -/
def thinWindow (height : ℤ) : Window ℕ where
  id := 1
  parent := none
  state := ⟨⟨100, height⟩, ⟨0, 0⟩, ⟨0, 0⟩, .normal, {}, false⟩
  pendingSizingMode := .normal

/-- The window of an ordinary client. -/
def plainWindow (id : ℕ) : Window ℕ where
  id := id
  parent := none
  state := ⟨⟨100, 100⟩, ⟨0, 0⟩, ⟨0, 0⟩, .normal, {}, false⟩
  pendingSizingMode := .normal

/-- Its tile, on an output of 1280 by 720. -/
def plainTile (id : ℕ) : Tile ℕ := Tile.new (plainWindow id) ⟨1280, 720⟩ 1 Options.default

def plainSpace : ScrollingSpace ℕ := .new ⟨1280, 720⟩ ⟨0, 0, ⟨1280, 720⟩⟩ 1 Options.default

/-- Another list of preset heights. -/
def otherPresets : Options :=
  { Options.default with
    presetWindowHeights := [.fixed 100]
    presetWindowHeights_ne := by decide }

/-- An empty space on an output that is scaled by a tenth. -/
def thinSpace : ScrollingSpace ℕ :=
  .new ⟨12800, 7200⟩ ⟨0, 0, ⟨12800, 7200⟩⟩ (1 / 10) Options.default

/-- The window opens. -/
def openThin (height : ℤ) : Op ℕ :=
  .addTile none (Tile.new (thinWindow height) ⟨12800, 7200⟩ (1 / 10) Options.default) true
    (.proportion (1 / 2)) false

/-- The configuration is reloaded with other preset heights. -/
def reload : Op ℕ :=
  .updateConfig ⟨12800, 7200⟩ ⟨0, 0, ⟨12800, 7200⟩⟩ (1 / 10) otherPresets

theorem thin_reach {Meets : Op ℕ → ScrollingSpace ℕ → Prop} (height : ℤ)
    (hopen : Meets (openThin height) thinSpace)
    (hreload : ∀ s, (openThin height).run thinSpace = some s → Meets reload s) :
    Ensures ((openThin height).run thinSpace >>= reload.run) (Reach Meets) := by
  refine Ensures.self.bind fun s hs => fun s' hs' => ?_
  have hfresh : (openThin height).Fresh thinSpace := fun _ _ hid => by cases hid
  exact .step (.step (.new _ _ _ _) rfl hfresh hopen hs) rfl (fun _ hid => by cases hid)
    (hreload s hs) hs'

/-- A window that is tall enough keeps its weight when the presets change. -/
theorem reach_inv_thick :
    ∃ s, ((openThin 40).run thinSpace >>= reload.run) = some s ∧ s.Inv True := by
  obtain ⟨s, hs⟩ : ∃ s, ((openThin 40).run thinSpace >>= reload.run) = some s :=
    isSome_iff_exists.mp (by decide +kernel)
  refine ⟨s, hs, reach_inv (thin_reach 40 (by decide +kernel) (fun s₁ hs₁ => ?_) s hs)⟩
  have hno : ((openThin 40).run thinSpace).map (fun s => decide (reload.ConvertsFlat s)) =
      some false := by decide +kernel
  rw [hs₁, map_some, some.injEq] at hno
  exact of_decide_eq_false hno

/-- **A tile of no height** does not weigh 1 after the presets have changed. -/
theorem thin_breaks_inv :
    ∃ s, Reach (fun (_ : Op ℕ) _ => True) s ∧
      (∃ c ∈ s.columns, c.tiles.length = 1 ∧ c.data.map TileData.height = [.auto 0]) ∧
      ¬s.Inv True := by
  obtain ⟨s, hs⟩ : ∃ s, ((openThin 4).run thinSpace >>= reload.run) = some s :=
    isSome_iff_exists.mp (by decide +kernel)
  have hdata : ((openThin 4).run thinSpace >>= reload.run).map (fun s => s.columns.map fun c =>
      (c.tiles.length, c.data.map TileData.height)) = some [(1, [.auto 0])] := by decide +kernel
  rw [hs, map_some, some.injEq, map_eq_singleton_iff] at hdata
  obtain ⟨c, hc, hpair⟩ := hdata
  obtain ⟨hlen, hheight⟩ := Prod.mk.inj hpair
  have hmem : c ∈ s.columns := by simp [hc]
  refine ⟨s, thin_reach 4 trivial (fun _ _ => trivial) s hs, ⟨c, hmem, hlen, hheight⟩, ?_⟩
  intro hinv
  obtain ⟨d, hd, hauto⟩ := map_eq_singleton_iff.mp hheight
  have hweight := (hinv.columns c hmem).lone_weight trivial d hd 0 hauto
  exact absurd hweight (by decide)

end Tiri.Layout.ScrollingSpace
