import Tiri.Layout.ScrollingRun

/-!
# What an operation does to the columns, step by step

An operation of the scrolling space inserts, removes, activates and moves columns; `Op.steps` says
which and in what order.  The position of the active column and the flag of
`activate_prev_column_on_removal` (`scrolling.rs`, lines 55–65) follow from the steps alone.

Results:
* `Op.run_steps`: the steps of an operation say what it does to the number of columns, the active
  one and the flag;
* `Op.steps_shape`: an operation takes one step, or it ends without the flag.
-/

namespace Tiri.Layout.ScrollingSpace

open Option List Bool Ensures Vec

variable {Id : Type}

/-! ## The steps -/

/-- What an operation does to the columns, one thing at a time. -/
inductive ColumnStep
  | insert (idx : ℕ) (activate : Bool)
  | remove (idx : ℕ)
  | activate (idx : ℕ)
  /-- The active column is moved. -/
  | move (idx : ℕ)
  /-- A gesture of the view ends on a column. -/
  | snap (idx : ℕ)
  /-- The flag is written. -/
  | setPrev (prev : Bool)

/-- How many columns there are, which one is active, and the flag; and that there is cached data
for each column. -/
structure Head where
  count : ℕ
  active : ℕ
  prev : Bool
  cached : Bool
  deriving DecidableEq

namespace Head

/-- `activate_column`. -/
def activate (h : Head) (idx : ℕ) : Option Head :=
  if h.active = idx then some h
  else if idx < h.count then some { h with active := idx, prev := false }
  else none

/-- One step; `none` where the code panics. -/
def apply (h : Head) : ColumnStep → Option Head
  | .insert idx activate =>
    if h.count < idx then none
    else
      let h' : Head := { h with
        count := h.count + 1
        active := if h.count ≠ 0 && idx ≤ h.active then h.active + 1 else h.active }
      if activate then
        (h'.activate idx).map ({ · with prev := h.count ≠ 0 && idx = h'.active + 1 })
      else some h'
  | .remove idx =>
    if h.count ≤ idx then none
    else
      let h' : Head := { h with
        count := h.count - 1
        prev := if idx + 1 = h.active then false else h.prev }
      if h'.count = 0 then some h'
      else if idx < h.active then some { h' with active := h.active - 1, prev := false }
      else if idx = h.active ∧ h'.prev then
        if 0 < idx then h'.activate (h.active - 1) else some h'
      else h'.activate (min h.active (h'.count - 1))
  | .activate idx => h.activate idx
  | .move idx =>
    if h.active = idx then some h
    else if h.active < h.count then h.activate idx
    else none
  | .snap idx => if idx < h.count then some { h with active := idx } else none
  | .setPrev prev => some { h with prev }

/-- One step after another. -/
def run (h : Head) : List ColumnStep → Option Head
  | [] => some h
  | step :: steps => (h.apply step).bind fun h' => h'.run steps

end Head

/-- What the steps are about. -/
def head (s : ScrollingSpace Id) : Head :=
  ⟨s.columns.length, s.activeColumnIdx, s.activatePrevColumnOnRemoval,
    s.data.length = s.columns.length⟩

/-! ## The steps of the operations -/

section

variable [DecidableEq Id] (s : ScrollingSpace Id)

/-- Where `add_column` puts a column. -/
def insertIdx (idx : Option ℕ) : ℕ :=
  idx.getD (if s.columns.isEmpty then 0 else s.activeColumnIdx + 1)

/-- The column at `idx` has one tile. -/
def single (idx : ℕ) : Bool := s.columns[idx]?.any (·.tiles.length = 1)

/-- `remove_tile_by_idx`: the column goes with its last tile. -/
def removeTileSteps (columnIdx : ℕ) : List ColumnStep :=
  if s.single columnIdx then [.remove columnIdx] else []

/-- The tile of `source` is active. -/
def tileActive (columnIdx tileIdx : ℕ) : Bool :=
  s.activeColumnIdx = columnIdx && s.columns[columnIdx]?.any (·.activeTileIdx = tileIdx)

def consumeOrExpelLeftSteps (window : Option Id) : List ColumnStep :=
  match s.source window with
  | none => []
  | some (columnIdx, tileIdx) =>
    if s.single columnIdx then
      if columnIdx = 0 then []
      else if s.tileActive columnIdx tileIdx then
        [.setPrev true, .remove columnIdx, .activate (columnIdx - 1)]
      else [.remove columnIdx]
    else if s.tileActive columnIdx tileIdx then [.insert columnIdx true, .setPrev false]
    else [.insert columnIdx false]

def consumeOrExpelRightSteps (window : Option Id) : List ColumnStep :=
  match s.source window with
  | none => []
  | some (columnIdx, tileIdx) =>
    if s.single columnIdx then
      if columnIdx + 1 = s.columns.length then []
      else if s.tileActive columnIdx tileIdx then
        [.setPrev false, .remove columnIdx, .activate columnIdx]
      else [.remove columnIdx]
    else [.insert (columnIdx + 1) (s.tileActive columnIdx tileIdx)]

def swapSteps (direction : ScrollDirection) : List ColumnStep :=
  let source := s.activeColumnIdx
  let target := direction.neighbour source
  if (direction = .left ∧ source = 0) ∨ (direction = .right ∧ source = s.columns.length - 1) then []
  else if s.single source then
    if s.single target then [.move target]
    else [.remove source, .insert source true, .activate target]
  else [.activate target]

/-- `set_fullscreen` and `set_maximized` take the window out of its column. -/
def isolateSteps (isPending : Column Id → Bool) (window : Id) (value : Bool) : List ColumnStep :=
  match (s.columnOf window).bind (s.columns[·]?) with
  | none => []
  | some col =>
    if value ≠ isPending col ∧ value ∧ 1 < col.tiles.length ∧ col.displayMode ≠ .tabbed then
      s.consumeOrExpelRightSteps (some window)
    else []

/-- `focus_down_or_left` and the like. -/
def focusOrSteps (vertical : Column Id → Option (Column Id × Bool))
    (horizontal : List ColumnStep) : List ColumnStep :=
  match s.onActiveColumn vertical with
  | some (_, false) => horizontal
  | _ => []

def focusLeftSteps : List ColumnStep :=
  if s.activeColumnIdx = 0 then [] else [.activate (s.activeColumnIdx - 1)]

def focusRightSteps : List ColumnStep :=
  if s.columns.length ≤ s.activeColumnIdx + 1 then [] else [.activate (s.activeColumnIdx + 1)]

/-- The steps of an operation; most of them change no column. -/
def Op.steps : Op Id → List ColumnStep
  | .addTile colIdx _ activate _ _ => [.insert (s.insertIdx colIdx) activate]
  | .addTileToColumn colIdx _ _ activate => if activate then [.activate colIdx] else []
  | .addTileRightOf rightOf _ activate _ _ =>
    (s.columnOf rightOf).toList.map fun idx => .insert (idx + 1) activate
  | .addColumn idx _ activate => [.insert (s.insertIdx idx) activate]
  | .removeActiveTile => if s.columns.isEmpty then [] else s.removeTileSteps s.activeColumnIdx
  | .removeTile window => (s.columnOf window).toList.flatMap s.removeTileSteps
  | .removeTileByIdx columnIdx _ => s.removeTileSteps columnIdx
  | .removeActiveColumn => if s.columns.isEmpty then [] else [.remove s.activeColumnIdx]
  | .removeColumnByIdx columnIdx => [.remove columnIdx]
  | .activateWindow window => (s.columnOf window).toList.map .activate
  | .focusLeft => s.focusLeftSteps
  | .focusRight => s.focusRightSteps
  | .focusColumnFirst => [.activate 0]
  | .focusColumnLast => if s.columns.isEmpty then [] else [.activate (s.columns.length - 1)]
  | .focusColumn index =>
    if s.columns.isEmpty then [] else [.activate (min (index - 1) (s.columns.length - 1))]
  | .focusDownOrLeft =>
    if s.columns.isEmpty then [] else s.focusOrSteps Column.focusDown s.focusLeftSteps
  | .focusDownOrRight =>
    if s.columns.isEmpty then [] else s.focusOrSteps Column.focusDown s.focusRightSteps
  | .focusUpOrLeft =>
    if s.columns.isEmpty then [] else s.focusOrSteps Column.focusUp s.focusLeftSteps
  | .focusUpOrRight =>
    if s.columns.isEmpty then [] else s.focusOrSteps Column.focusUp s.focusRightSteps
  | .moveColumnToIndex index =>
    if s.columns.isEmpty then [] else [.move (min (index - 1) (s.columns.length - 1))]
  | .moveLeft => if s.activeColumnIdx = 0 then [] else [.move (s.activeColumnIdx - 1)]
  | .moveRight =>
    if s.columns.length ≤ s.activeColumnIdx + 1 then [] else [.move (s.activeColumnIdx + 1)]
  | .moveColumnToFirst => [.move 0]
  | .moveColumnToLast => if s.columns.isEmpty then [] else [.move (s.columns.length - 1)]
  | .consumeOrExpelWindowLeft window =>
    if s.columns.isEmpty then [] else s.consumeOrExpelLeftSteps window
  | .consumeOrExpelWindowRight window =>
    if s.columns.isEmpty then [] else s.consumeOrExpelRightSteps window
  | .consumeIntoColumn =>
    if s.columns.length < 2 ∨ s.activeColumnIdx = s.columns.length - 1 then []
    else s.removeTileSteps (s.activeColumnIdx + 1)
  | .expelFromColumn =>
    if s.columns.isEmpty ∨ s.single s.activeColumnIdx then []
    else [.insert (s.activeColumnIdx + 1) false]
  | .swapWindowInDirection direction => if s.columns.isEmpty then [] else s.swapSteps direction
  | .setFullscreen window isFullscreen => s.isolateSteps (·.isPendingFullscreen) window isFullscreen
  | .setMaximized window maximize => s.isolateSteps (·.isPendingMaximized) window maximize
  | .viewOffsetGestureEnd newColIdx => if s.columns.isEmpty then [] else [.snap newColIdx]
  | _ => []

end

/-! ## What the methods do to the head -/

namespace Head

@[simp] theorem run_nil (h : Head) : h.run [] = some h := rfl

@[simp] theorem run_singleton (h : Head) (step : ColumnStep) : h.run [step] = h.apply step := by
  cases hstep : h.apply step <;> simp [run, hstep]

theorem run_append (h : Head) (steps steps' : List ColumnStep) :
    h.run (steps ++ steps') = (h.run steps).bind fun h' => h'.run steps' := by
  induction steps generalizing h with
  | nil => rfl
  | cons step steps ih =>
    rw [cons_append, run, run, bind_assoc]
    congr 1
    funext h'
    exact ih h'

/-- A step and what comes after it. -/
theorem run_cons_of {h h' : Head} {step : ColumnStep} {steps : List ColumnStep}
    (hstep : h.apply step = some h') : h.run (step :: steps) = h'.run steps := by
  rw [run, hstep, bind_some]

end Head

variable {s : ScrollingSpace Id}

@[simp] theorem head_count : s.head.count = s.columns.length := rfl

@[simp] theorem head_active : s.head.active = s.activeColumnIdx := rfl

theorem head_congr {s s' : ScrollingSpace Id} (hcount : s'.columns.length = s.columns.length)
    (hdata : s'.data.length = s.data.length) (hactive : s'.activeColumnIdx = s.activeColumnIdx)
    (hprev : s'.activatePrevColumnOnRemoval = s.activatePrevColumnOnRemoval) :
    s'.head = s.head := by
  rw [head, head, hcount, hdata, hactive, hprev]

variable (idx : ℕ) (f : Column Id → Option (Column Id))

theorem modifyColumn_head : Ensures (s.modifyColumn idx f) fun s' => s'.head = s.head :=
  Ensures.self.bind fun _ hcolumns =>
    of_pure (head_congr (modifyAt_length hcolumns).1 rfl rfl rfl)

theorem updateData_head : Ensures (s.updateData idx) fun s' => s'.head = s.head :=
  Ensures.self.bind fun _ _ => Ensures.self.bind fun _ hdata =>
    of_pure (head_congr rfl (modifyAt_length hdata).1 rfl rfl)

theorem activateColumn_head :
    Ensures (s.activateColumn idx) fun s' => s.head.activate idx = some s'.head := by
  refine Ensures.ite (fun heq => of_some (if_pos heq)) fun hne =>
    Ensures.ite (fun hlt => of_some ?_) fun _ => of_none
  rw [Head.activate, head_active, head_count, if_neg hne, if_pos hlt]
  rfl

/-- Operations inside the active column. -/
theorem onActiveColumn_head (f : Column Id → Option (Column Id × Bool)) :
    Ensures (s.onActiveColumn f) fun p => p.1.head = s.head :=
  Ensures.ite (fun _ => of_pure rfl) fun _ => Ensures.self.bind fun _ _ =>
    Ensures.self.bind fun _ _ => of_pure (head_congr (by simp) rfl rfl rfl)

theorem withActiveColumn_head : Ensures (s.withActiveColumn f) fun s' => s'.head = s.head :=
  Ensures.ite (fun _ => of_some rfl) fun _ => modifyColumn_head _ f

theorem addColumn_head (idx : Option ℕ) (column : Column Id) (activate : Bool) :
    Ensures (s.addColumn idx column activate) fun s' =>
      s.head.apply (.insert (s.insertIdx idx) activate) = some s'.head := by
  refine Ensures.self.bind fun column _ => Ensures.self.bind fun d _ =>
    Ensures.self.bind fun data hdata => Ensures.self.bind fun columns hcolumns => ?_
  change Vec.insertAt s.columns (s.insertIdx idx) column = some columns at hcolumns
  obtain ⟨hlength_data, -⟩ := insertAt_length hdata
  obtain ⟨hlength, hle⟩ := insertAt_length hcolumns
  have hidx : ¬s.head.count < s.insertIdx idx := not_lt.mpr hle
  have hempty : (!s.columns.isEmpty) = decide (s.head.count ≠ 0) := by
    rw [head_count]
    cases s.columns <;> rfl
  have hinserted : ({ s with
      data := data
      columns := columns
      activeColumnIdx := if (decide (s.head.count ≠ 0) &&
        decide (s.insertIdx idx ≤ s.activeColumnIdx)) = true then s.activeColumnIdx + 1
        else s.activeColumnIdx } : ScrollingSpace Id).head =
        { s.head with
          count := s.head.count + 1
          active := if (decide (s.head.count ≠ 0) && decide (s.insertIdx idx ≤ s.head.active)) = true
            then s.head.active + 1 else s.head.active } := by
    rw [head, Head.mk.injEq]
    refine ⟨hlength, rfl, rfl, decide_eq_decide.mpr ?_⟩
    dsimp only
    omega
  unfold Head.apply
  dsimp only
  rw [if_neg hidx, hempty]
  refine Ensures.ite (fun hactivate => ?_) fun hnot => of_pure ?_
  · refine (activateColumn_head (s.insertIdx idx)).bind fun s' hs' => of_pure ?_
    rw [if_pos hactivate]
    refine (congrArg (Option.map _) (?_ : _ = some s'.head)).trans rfl
    rw [← hinserted]
    exact hs'
  · rw [if_neg hnot]
    exact congrArg some hinserted.symm

theorem addTile_head (colIdx : Option ℕ) (tile : Tile Id) (activate : Bool) (width : ColumnWidth)
    (isFullWidth : Bool) :
    Ensures (s.addTile colIdx tile activate width isFullWidth) fun s' =>
      s.head.apply (.insert (s.insertIdx colIdx) activate) = some s'.head :=
  Ensures.self.bind fun column _ => addColumn_head colIdx column activate

theorem addTileToColumn_head (colIdx : ℕ) (tileIdx : Option ℕ) (tile : Tile Id) (activate : Bool) :
    Ensures (s.addTileToColumn colIdx tileIdx tile activate) fun s' =>
      s.head.run (if activate then [.activate colIdx] else []) = some s'.head := by
  refine (modifyColumn_head colIdx _).bind fun s₁ hs₁ => (updateData_head colIdx).bind fun s₂ hs₂ => ?_
  refine Ensures.ite (fun hactivate => ?_) fun hnot => of_pure ?_
  · refine (activateColumn_head colIdx).mono fun s' hs' => ?_
    rw [hs₂, hs₁] at hs'
    rw [if_pos hactivate, Head.run_singleton]
    exact hs'
  · rw [if_neg hnot, Head.run_nil, hs₂, hs₁]

section

variable [DecidableEq Id]

theorem removeColumnByIdx_head (columnIdx : ℕ) :
    Ensures (s.removeColumnByIdx columnIdx) fun p =>
      s.head.apply (.remove columnIdx) = some p.2.head := by
  refine Ensures.self.bind fun p hp => Ensures.self.bind fun q hq => ?_
  obtain ⟨column, columns⟩ := p
  obtain ⟨hlength, hlt⟩ := removeAt_length hp
  obtain ⟨hlength_data, -⟩ := removeAt_length hq
  have hcount : columns.length = s.head.count - 1 := by
    rw [head_count]
    omega
  have hcached : decide (q.2.length = columns.length) = s.head.cached := by
    refine decide_eq_decide.mpr ?_
    omega
  have hempty : columns.isEmpty = true ↔ s.head.count - 1 = 0 := by
    rw [← hcount, isEmpty_iff_length_eq_zero]
  unfold Head.apply
  dsimp only
  rw [if_neg (show ¬s.head.count ≤ columnIdx from not_le.mpr hlt), ← hcount, ← hcached]
  rw [← hcount] at hempty
  refine Ensures.ite (fun hnil => of_pure ?_) fun hne => ?_
  · rw [if_pos (hempty.mp hnil)]
    rfl
  rw [if_neg (mt hempty.mpr hne)]
  refine Ensures.ite (fun hleft => of_pure ?_) fun hright => ?_
  · rw [if_pos (show columnIdx < s.head.active from hleft)]
    rfl
  rw [if_neg (show ¬columnIdx < s.head.active from hright)]
  refine Ensures.ite (fun hprev => Ensures.ite (fun hpos => ?_) fun hzero => of_pure ?_)
    fun hnot => ?_
  · rw [if_pos (show columnIdx = s.head.active ∧ (if columnIdx + 1 = s.head.active then false
      else s.head.prev) = true from hprev), if_pos hpos]
    exact (activateColumn_head _).bind fun s' hs' => of_pure hs'
  · rw [if_pos (show columnIdx = s.head.active ∧ (if columnIdx + 1 = s.head.active then false
      else s.head.prev) = true from hprev), if_neg hzero]
    rfl
  · rw [if_neg (show ¬(columnIdx = s.head.active ∧ (if columnIdx + 1 = s.head.active then false
      else s.head.prev) = true) from hnot)]
    exact (activateColumn_head _).bind fun s' hs' => of_pure hs'

theorem moveColumnTo_head (newIdx : ℕ) :
    Ensures (s.moveColumnTo newIdx) fun s' => s.head.apply (.move newIdx) = some s'.head := by
  refine Ensures.ite (fun heq => of_pure (if_pos heq)) fun hne => ?_
  refine Ensures.self.bind fun p hp => Ensures.self.bind fun q hq =>
    Ensures.self.bind fun columns hcolumns => Ensures.self.bind fun data hdata => ?_
  obtain ⟨hlength, hlt⟩ := removeAt_length hp
  obtain ⟨hlength', -⟩ := insertAt_length hcolumns
  obtain ⟨hlength_data, -⟩ := removeAt_length hq
  obtain ⟨hlength_data', -⟩ := insertAt_length hdata
  have hhead : ({ s with
      columns := columns
      data := data
      interactiveResize := cancelResizeForColumn s.interactiveResize p.1 } :
      ScrollingSpace Id).head = s.head :=
    head_congr (by dsimp only; omega) (by dsimp only; omega) rfl rfl
  refine (activateColumn_head newIdx).mono fun s' hs' => ?_
  rw [hhead] at hs'
  rw [Head.apply, head_active, if_neg hne, head_count, if_pos hlt]
  exact hs'

variable {columnIdx : ℕ} {h : Head} {source : Column Id}

omit [DecidableEq Id] in
theorem single_iff (h : s.columns[columnIdx]? = some source) :
    s.single columnIdx = true ↔ source.tiles.length = 1 := by
  rw [single, h, any_some, decide_eq_true_iff]

theorem removeTileByIdx_head (columnIdx tileIdx : ℕ) :
    Ensures (s.removeTileByIdx columnIdx tileIdx) fun p =>
      s.head.run (s.removeTileSteps columnIdx) = some p.2.head := by
  refine Ensures.self.bind fun source hsource => Ensures.ite (fun hone => ?_) fun hmany => ?_
  · refine (removeColumnByIdx_head columnIdx).bind fun p hp => Ensures.self.bind fun _ _ =>
      of_pure ?_
    rw [removeTileSteps, if_pos ((single_iff hsource).mpr hone), Head.run_singleton]
    exact hp
  · refine Ensures.self.bind fun p _ => (updateData_head columnIdx).bind fun s' hs' =>
      of_pure ?_
    rw [removeTileSteps, if_neg (mt (single_iff hsource).mp hmany), Head.run_nil]
    exact congrArg some (hs'.trans (head_congr (length_set ..) rfl rfl rfl)).symm

/-! ### Operations that change no column -/

omit [DecidableEq Id] in
theorem updateConfigColumns_length (f : Column Id → Option (Column Id)) :
    ∀ (columns : List (Column Id)) (data : List ColumnData),
      Ensures (updateConfigColumns f columns data) fun p =>
        p.1.length = columns.length ∧ p.2.length = data.length
  | [], _ => of_some ⟨rfl, rfl⟩
  | _ :: _, [] => of_some ⟨rfl, rfl⟩
  | _ :: columns, _ :: data =>
    Ensures.self.bind fun _ _ => Ensures.self.bind fun _ _ =>
      (updateConfigColumns_length f columns data).bind fun _ hp =>
        of_pure ⟨congrArg (· + 1) hp.1, congrArg (· + 1) hp.2⟩

theorem cancelResize_head (idx : ℕ) : Ensures (s.cancelResize idx) fun s' => s'.head = s.head :=
  Ensures.self.bind fun _ _ => of_pure rfl

variable (window : Option Id) (f : Option ℕ → Column Id → Option (Column Id))

theorem resizeColumn_head : Ensures (s.resizeColumn window f) fun s' => s'.head = s.head :=
  Ensures.ite (fun _ => of_pure rfl) fun _ => Ensures.self.bind fun _ _ =>
    (modifyColumn_head _ _).bind fun _ hs₁ => (cancelResize_head _).mono fun _ hs₂ => hs₂.trans hs₁

theorem updateWindow_head (window : Id) (state : WindowState) :
    Ensures (s.updateWindow window state) fun s' => s'.head = s.head :=
  Ensures.self.bind fun _ _ => Ensures.self.bind fun _ _ => Ensures.self.bind fun _ _ =>
    Ensures.self.bind fun _ _ => Ensures.self.bind fun _ hdata => Ensures.self.bind fun _ _ =>
      of_pure (head_congr (length_set ..) (modifyAt_length hdata).1 rfl rfl)

theorem centerColumn_head : Ensures s.centerColumn fun s' => s'.head = s.head :=
  Ensures.ite (fun _ => of_some rfl) fun _ => cancelResize_head _

theorem centerWindow_head : Ensures (s.centerWindow window) fun s' => s'.head = s.head :=
  Ensures.ite (fun _ => of_pure rfl) fun _ => Ensures.self.bind fun _ _ =>
    Ensures.ite (fun _ => centerColumn_head) fun _ => of_pure rfl

theorem alignVisibleColumns_head (activeVisible : Bool) :
    Ensures (s.alignVisibleColumns activeVisible) fun s' => s'.head = s.head :=
  Ensures.ite (fun _ => of_some rfl) fun _ => cancelResize_head _

theorem expandColumnToAvailableWidth_head (view : ExpandView) :
    Ensures (s.expandColumnToAvailableWidth view) fun s' => s'.head = s.head := by
  refine Ensures.ite (fun _ => of_pure rfl) fun _ => Ensures.self.bind fun _ _ =>
    Ensures.ite (fun _ => of_pure rfl) fun _ => Ensures.ite (fun _ => ?_) fun _ =>
      Ensures.ite (fun _ => of_pure rfl) fun _ => ?_
  · exact (modifyColumn_head _ _).bind fun _ hs₁ => (cancelResize_head _).mono fun _ hs₂ =>
      hs₂.trans hs₁
  · refine (cancelResize_head _).bind fun _ hs₁ => Ensures.ite (fun _ => ?_) fun _ => ?_
    · exact (modifyColumn_head _ _).mono fun _ hs₂ => hs₂.trans hs₁
    · exact Ensures.self.bind fun _ _ => (modifyColumn_head _ _).mono fun _ hs₂ => hs₂.trans hs₁

theorem interactiveResizeBegin_head (window : Id) (edges : ResizeEdge) :
    Ensures (s.interactiveResizeBegin window edges) fun p => p.1.head = s.head :=
  Ensures.ite (fun _ => of_pure rfl) fun _ => Ensures.self.bind fun _ _ =>
    Ensures.self.bind fun _ _ => Ensures.ite (fun _ => of_pure rfl) fun _ =>
      Ensures.self.bind fun _ _ => of_pure rfl

theorem interactiveResizeUpdate_head (window : Id) (dx dy : ℚ) :
    Ensures (s.interactiveResizeUpdate window dx dy) fun p => p.1.head = s.head := by
  unfold interactiveResizeUpdate
  split
  · exact of_pure rfl
  · exact Ensures.ite (fun _ => of_pure rfl) fun _ => Ensures.self.bind fun _ _ =>
      (modifyColumn_head _ _).bind fun _ hs₁ => (modifyColumn_head _ _).bind fun _ hs₂ =>
        of_pure (hs₂.trans hs₁)

omit [DecidableEq Id] in
theorem interactiveResizeEnd_head [DecidableEq Id] (window : Option Id) :
    (s.interactiveResizeEnd window).head = s.head := by
  unfold interactiveResizeEnd
  split
  · split_ifs <;> rfl
  · rfl

/-! ### Consuming, expelling, swapping -/

omit [DecidableEq Id] in
theorem tileActive_iff (tileIdx : ℕ) (h : s.columns[columnIdx]? = some source) :
    s.tileActive columnIdx tileIdx = true ↔
      s.activeColumnIdx = columnIdx ∧ source.activeTileIdx = tileIdx := by
  rw [tileActive, h, any_some, and_eq_true, decide_eq_true_iff, decide_eq_true_iff]

/-- The single tile of a column goes into another one, once the flag has been written. -/
theorem removeSingle_head (h : s.single columnIdx = true) (active : Prop) [Decidable active]
    (prev : Bool) (targetIdx tileIdx : ℕ) :
    Ensures (do
      let self := if active then { s with activatePrevColumnOnRemoval := prev } else s
      let (removed, s') ← self.removeTileByIdx columnIdx tileIdx
      s'.addTileToColumn targetIdx none removed.tile active) fun s' =>
      s.head.run (if active then [.setPrev prev, .remove columnIdx, .activate targetIdx]
        else [.remove columnIdx]) = some s'.head := by
  have key (s₀ : ScrollingSpace Id) (hs₀ : s₀.columns = s.columns) (activate : Bool) :
      Ensures (do
        let (removed, s') ← s₀.removeTileByIdx columnIdx tileIdx
        s'.addTileToColumn targetIdx none removed.tile activate) fun s' =>
        s₀.head.run (.remove columnIdx :: if activate then [.activate targetIdx] else []) =
          some s'.head := by
    refine (removeTileByIdx_head columnIdx tileIdx).bind fun p hp => ?_
    have hsteps : s₀.removeTileSteps columnIdx = [.remove columnIdx] := by
      have hsingle : s₀.single columnIdx = true := by
        rw [single, hs₀]
        exact h
      rw [removeTileSteps, if_pos hsingle]
    rw [hsteps, Head.run_singleton] at hp
    refine (addTileToColumn_head targetIdx none p.1.tile activate).mono fun s' hs' => ?_
    rw [Head.run_cons_of hp]
    exact hs'
  by_cases hact : active
  · rw [if_pos hact, if_pos hact, decide_eq_true hact]
    exact key { s with activatePrevColumnOnRemoval := prev } rfl true
  · rw [if_neg hact, if_neg hact, decide_eq_false hact]
    exact key s rfl false

/-- A tile that is not the only one leaves its column. -/
theorem removeMany_head (h : ¬s.single columnIdx = true) (tileIdx : ℕ) :
    Ensures (s.removeTileByIdx columnIdx tileIdx) fun p => p.2.head = s.head := by
  refine (removeTileByIdx_head columnIdx tileIdx).mono fun p hp => ?_
  rw [removeTileSteps, if_neg h, Head.run_nil, some.injEq] at hp
  exact hp.symm

theorem consumeOrExpelWindowLeft_head :
    Ensures (s.consumeOrExpelWindowLeft window) fun s' => s.head.run
      (if s.columns.isEmpty then [] else s.consumeOrExpelLeftSteps window) = some s'.head := by
  refine Ensures.ite (fun hempty => of_pure (by rw [if_pos hempty]; rfl)) fun hne => ?_
  rw [if_neg hne]
  refine Ensures.self.bind fun p hp => Ensures.self.bind fun source hsource => ?_
  obtain ⟨columnIdx, tileIdx⟩ := p
  have hactive := tileActive_iff tileIdx hsource
  unfold consumeOrExpelLeftSteps
  rw [hp]
  dsimp only at hsource hactive ⊢
  refine Ensures.ite (fun hone => ?_) fun hmany => ?_
  · have hsingle := (single_iff hsource).mpr hone
    rw [if_pos hsingle]
    refine Ensures.ite (fun hzero => of_pure (by rw [if_pos hzero]; rfl)) fun hpos => ?_
    rw [if_neg hpos]
    simp only [hactive]
    exact removeSingle_head hsingle _ true _ _
  · have hsingle := mt (single_iff hsource).mp hmany
    rw [if_neg hsingle]
    refine (removeMany_head hsingle tileIdx).bind fun p hp => (addTile_head _ _ _ _ _).bind
      fun s' hs' => ?_
    rw [hp] at hs'
    by_cases hact : s.activeColumnIdx = columnIdx ∧ source.activeTileIdx = tileIdx
    · rw [decide_eq_true hact] at hs'
      have hinsert : s.head.apply (.insert columnIdx true) = some s'.head := hs'
      rw [if_pos hact, if_pos (hactive.mpr hact), Head.run_cons_of hinsert]
      exact of_pure rfl
    · rw [decide_eq_false hact] at hs'
      rw [if_neg hact, if_neg (mt hactive.mp hact), Head.run_singleton]
      exact of_pure hs'

theorem consumeOrExpelWindowRight_head :
    Ensures (s.consumeOrExpelWindowRight window) fun s' => s.head.run
      (if s.columns.isEmpty then [] else s.consumeOrExpelRightSteps window) = some s'.head := by
  refine Ensures.ite (fun hempty => of_pure (by rw [if_pos hempty]; rfl)) fun hne => ?_
  rw [if_neg hne]
  refine Ensures.self.bind fun p hp => Ensures.self.bind fun source hsource => ?_
  obtain ⟨columnIdx, tileIdx⟩ := p
  have hactive := tileActive_iff tileIdx hsource
  unfold consumeOrExpelRightSteps
  rw [hp]
  dsimp only at hsource hactive ⊢
  refine Ensures.ite (fun hone => ?_) fun hmany => ?_
  · have hsingle := (single_iff hsource).mpr hone
    rw [if_pos hsingle]
    refine Ensures.ite (fun hlast => of_pure (by rw [if_pos hlast]; rfl)) fun hnot => ?_
    rw [if_neg hnot]
    simp only [hactive]
    exact removeSingle_head hsingle _ false _ _
  · have hsingle := mt (single_iff hsource).mp hmany
    rw [if_neg hsingle, Head.run_singleton]
    refine (removeMany_head hsingle tileIdx).bind fun p hp => (addTile_head _ _ _ _ _).mono
      fun s' hs' => ?_
    rw [hp] at hs'
    have hbool : s.tileActive columnIdx tileIdx =
        decide (s.activeColumnIdx = columnIdx ∧ source.activeTileIdx = tileIdx) :=
      eq_iff_iff.mpr (hactive.trans (decide_eq_true_iff).symm)
    rw [hbool]
    exact hs'

theorem consumeIntoColumn_head :
    Ensures s.consumeIntoColumn fun s' => s.head.run (Op.consumeIntoColumn.steps s) =
      some s'.head := by
  unfold Op.steps
  refine Ensures.ite (fun hedge => of_pure (by rw [if_pos hedge]; rfl)) fun hnot => ?_
  rw [if_neg hnot]
  refine (removeTileByIdx_head _ _).bind fun p hp => ?_
  refine (addTileToColumn_head _ none p.1.tile false).mono fun s' hs' => ?_
  rw [if_neg Bool.false_ne_true, Head.run_nil] at hs'
  rw [hp, hs']

theorem expelFromColumn_head :
    Ensures s.expelFromColumn fun s' => s.head.run (Op.expelFromColumn.steps s) = some s'.head := by
  unfold Op.steps
  dsimp only
  refine Ensures.ite (fun hempty => of_pure (by rw [if_pos (.inl hempty)]; rfl)) fun hne => ?_
  refine Ensures.self.bind fun source hsource => ?_
  have hsingle := single_iff hsource
  refine Ensures.ite (fun hone => of_pure (by rw [if_pos (.inr (hsingle.mpr hone))]; rfl))
    fun hmany => ?_
  have hnot := mt hsingle.mp hmany
  rw [if_neg (not_or.mpr ⟨hne, hnot⟩), Head.run_singleton]
  refine Ensures.self.bind fun tileIdx _ => (removeMany_head hnot tileIdx).bind fun p hp => ?_
  refine (addTile_head _ _ _ _ _).mono fun s' hs' => ?_
  rw [hp] at hs'
  exact hs'

/-- What is below the first tile of a column is not alone there. -/
theorem removeBelow_head (columnIdx tileIdx : ℕ) :
    Ensures (s.removeTileByIdx columnIdx (tileIdx + 1)) fun p => p.2.head = s.head := by
  intro p hp
  by_cases hsingle : s.single columnIdx = true
  · obtain ⟨source, hsource, hp⟩ := bind_eq_some_iff.mp hp
    have hone := (single_iff hsource).mp hsingle
    rw [if_pos hone] at hp
    obtain ⟨q, hq, hp⟩ := bind_eq_some_iff.mp hp
    obtain ⟨r, hr, -⟩ := bind_eq_some_iff.mp hp
    have hcolumn : q.1 = source := by
      obtain ⟨l, r, hcolumns, hl, -⟩ := removeAt_eq_some.mp (removeColumnByIdx_columns s _ q hq)
      rw [hcolumns, ← hl, Vec.getElem?_append_length] at hsource
      exact some.inj hsource
    have hlt := (removeAt_length hr).2
    rw [hcolumn, hone] at hlt
    omega
  · exact removeMany_head hsingle (tileIdx + 1) p hp

variable (direction : ScrollDirection)

theorem swapWindowInDirection_head :
    Ensures (s.swapWindowInDirection direction) fun s' =>
      s.head.run ((Op.swapWindowInDirection direction).steps s) = some s'.head := by
  unfold Op.steps swapSteps
  dsimp only
  refine Ensures.ite (fun hempty => of_pure (by rw [if_pos hempty]; rfl)) fun hne => ?_
  rw [if_neg hne]
  refine Ensures.ite (fun hedge => of_pure (by rw [if_pos hedge]; rfl)) fun hnot => ?_
  rw [if_neg hnot]
  refine Ensures.self.bind fun source hsource => Ensures.self.bind fun target htarget => ?_
  have hsource_single := single_iff hsource
  have htarget_single := single_iff htarget
  refine Ensures.ite (fun hboth => ?_) fun hboth => ?_
  · rw [if_pos (hsource_single.mpr hboth.1), if_pos (htarget_single.mpr hboth.2),
      Head.run_singleton]
    exact moveColumnTo_head _
  refine (removeTileByIdx_head s.activeColumnIdx _).bind fun p₁ hp₁ =>
    (addTileToColumn_head _ _ _ false).bind fun s₂ hs₂ => (removeBelow_head _ _).bind ?_
  rintro ⟨targetRemoved, s₃⟩ hs₃
  dsimp only at hs₃ ⊢
  rw [if_neg Bool.false_ne_true, Head.run_nil, some.injEq] at hs₂
  by_cases hone : source.tiles.length = 1
  · -- The source column is drained.
    have hmany : ¬target.tiles.length = 1 := fun htwo => hboth ⟨hone, htwo⟩
    rw [if_pos (hsource_single.mpr hone), if_neg (mt htarget_single.mp hmany)]
    rw [removeTileSteps, if_pos (hsource_single.mpr hone), Head.run_singleton, hs₂, ← hs₃] at hp₁
    unfold putBack
    rw [decide_eq_true hone, if_pos rfl, Head.run_cons_of hp₁]
    refine (addTile_head _ _ _ _ _).bind fun s₄ hs₄ => (modifyColumn_head _ _).bind fun s₅ hs₅ =>
      (modifyColumn_head _ _).bind fun s₆ hs₆ => (activateColumn_head _).mono fun s' hs' => ?_
    have hinsert : s₃.head.apply (.insert s.activeColumnIdx true) = some s₄.head := hs₄
    rw [hs₆, hs₅] at hs'
    rw [Head.run_cons_of hinsert, Head.run_singleton]
    exact hs'
  · rw [if_neg (mt hsource_single.mp hone)]
    rw [removeTileSteps, if_neg (mt hsource_single.mp hone), Head.run_nil, hs₂, ← hs₃,
      some.injEq] at hp₁
    unfold putBack
    rw [decide_eq_false hone, if_neg Bool.false_ne_true]
    refine (addTileToColumn_head _ _ _ false).bind fun s₄ hs₄ => (modifyColumn_head _ _).bind
      fun s₅ hs₅ => (modifyColumn_head _ _).bind fun s₆ hs₆ => (activateColumn_head _).mono
        fun s' hs' => ?_
    rw [if_neg Bool.false_ne_true, Head.run_nil, some.injEq] at hs₄
    rw [hs₆, hs₅, ← hs₄, ← hp₁] at hs'
    rw [Head.run_singleton]
    exact hs'

/-! ### The rest -/

section

omit [DecidableEq Id]

theorem focusLeft_head :
    Ensures s.focusLeft fun p => s.head.run s.focusLeftSteps = some p.1.head := by
  unfold focusLeftSteps
  refine Ensures.ite (fun hzero => of_pure (by rw [if_pos hzero]; rfl)) fun hpos => ?_
  rw [if_neg hpos, Head.run_singleton]
  exact (activateColumn_head _).bind fun s' hs' => of_pure hs'

theorem focusRight_head :
    Ensures s.focusRight fun p => s.head.run s.focusRightSteps = some p.1.head := by
  unfold focusRightSteps
  refine Ensures.ite (fun hlast => of_pure (by rw [if_pos hlast]; rfl)) fun hnot => ?_
  rw [if_neg hnot, Head.run_singleton]
  exact (activateColumn_head _).bind fun s' hs' => of_pure hs'

theorem focusOr_head (vertical : Column Id → Option (Column Id × Bool))
    {horizontal : ScrollingSpace Id → Option (ScrollingSpace Id × Bool)}
    {steps : ScrollingSpace Id → List ColumnStep}
    (hhorizontal : ∀ s', Ensures (horizontal s') fun p => s'.head.run (steps s') = some p.1.head)
    (hsteps : ∀ s', s'.head = s.head → steps s' = steps s) :
    Ensures (s.focusOr vertical horizontal) fun s' =>
      s.head.run (if s.columns.isEmpty then [] else s.focusOrSteps vertical (steps s)) =
        some s'.head := by
  refine Ensures.ite (fun hempty => of_pure (by rw [if_pos hempty]; rfl)) fun hne => ?_
  rw [if_neg hne]
  refine ((onActiveColumn_head vertical).and Ensures.self).bind fun p hp => ?_
  obtain ⟨s₁, moved⟩ := p
  obtain ⟨hs₁, hrun⟩ := hp
  unfold focusOrSteps
  rw [hrun]
  cases moved with
  | true => exact of_pure (congrArg some hs₁.symm)
  | false =>
    refine (hhorizontal s₁).bind fun p hp => of_pure ?_
    rw [hsteps s₁ hs₁, hs₁] at hp
    exact hp

variable (s' : ScrollingSpace Id)

theorem focusLeftSteps_congr (h : s'.head = s.head) : s'.focusLeftSteps = s.focusLeftSteps := by
  have hactive : s'.activeColumnIdx = s.activeColumnIdx := congrArg Head.active h
  rw [focusLeftSteps, focusLeftSteps, hactive]

theorem focusRightSteps_congr (h : s'.head = s.head) : s'.focusRightSteps = s.focusRightSteps := by
  have hactive : s'.activeColumnIdx = s.activeColumnIdx := congrArg Head.active h
  have hcount : s'.columns.length = s.columns.length := congrArg Head.count h
  rw [focusRightSteps, focusRightSteps, hactive, hcount]

end

variable (isPending : Column Id → Bool)

/-- A window that goes fullscreen or maximized may leave its column. -/
theorem setMode_head (set : Column Id → Bool → Option (Column Id)) (window : Id) (value : Bool) :
    Ensures (s.setMode isPending set window value) fun p =>
      s.head.run (s.isolateSteps isPending window value) = some p.1.head := by
  refine Ensures.self.bind fun colIdx hcolIdx => Ensures.self.bind fun col hcol => ?_
  have hfound : (s.columnOf window).bind (s.columns[·]?) = some col := by
    rw [hcolIdx, bind_some, hcol]
  unfold isolateSteps
  rw [hfound]
  dsimp only
  refine Ensures.ite (fun hsame => of_pure ?_) fun hdiffers => ?_
  · rw [if_neg fun h => h.1 hsame]
    rfl
  have hisolate : Ensures (s.isolate window colIdx value) fun p => s.head.run
      (if value ≠ isPending col ∧ value ∧ 1 < col.tiles.length ∧ col.displayMode ≠ .tabbed then
        s.consumeOrExpelRightSteps (some window) else []) = some p.2.head := by
    refine Ensures.self.bind fun col' hcol' => Ensures.self.bind fun s₁ hs₁ => ?_
    obtain rfl : col = col' := some.inj (hcol.symm.trans hcol')
    have hs₁_head : s₁.head = s.head := cancelResize_head colIdx s₁ hs₁
    refine Ensures.ite (fun hleaves => ?_) fun hstays => of_pure ?_
    · obtain ⟨_, -, hs₁⟩ := bind_eq_some_iff.mp hs₁
      have hne : ¬s.columns.isEmpty = true := fun hempty => by
        rw [isEmpty_iff.mp hempty] at hcol
        exact nomatch hcol
      rw [if_pos ⟨fun heq => hdiffers heq, hleaves⟩]
      refine (consumeOrExpelWindowRight_head (some window)).bind fun s₂ hs₂ => of_pure ?_
      obtain rfl := some.inj hs₁
      rw [if_neg hne, hs₁_head] at hs₂
      exact hs₂
    · rw [if_neg fun h => hstays h.2]
      exact congrArg some hs₁_head.symm
  refine hisolate.bind fun p hp => (modifyColumn_head _ _).bind fun s₂ hs₂ =>
    (updateData_head _).bind fun s₃ hs₃ => of_pure ?_
  rw [hs₃, hs₂]
  exact hp

theorem setColumnDisplay_head (display : ColumnDisplay) :
    Ensures (s.setColumnDisplay display) fun s' => s'.head = s.head := by
  refine Ensures.ite (fun _ => of_pure rfl) fun _ => Ensures.self.bind fun col hcol =>
    Ensures.ite (fun _ => of_pure rfl) fun _ => (cancelResize_head _).bind fun s₁ hs₁ =>
      (modifyColumn_head _ _).bind fun s₂ hs₂ => (updateData_head _).bind fun s₃ hs₃ =>
        (modifyColumn_head _ _).bind fun s₄ hs₄ => Ensures.self.bind fun _ _ => ?_
  have hhead : s₄.head = s.head := hs₄.trans (hs₃.trans (hs₂.trans hs₁))
  have hleaves (s₅ : ScrollingSpace Id) (isPending : Column Id → Bool) (window : Id) :
      s₅.isolateSteps isPending window false = [] := by
    unfold isolateSteps
    split
    · rfl
    · exact if_neg fun h => Bool.false_ne_true h.2.1
  refine Ensures.ite (fun _ => ?_) fun _ => of_pure hhead
  refine Ensures.self.bind fun tile _ => (setMode_head _ Column.setFullscreen tile.id false).bind
    fun p hp => (setMode_head _ Column.setMaximized tile.id false).bind fun q hq => of_pure ?_
  rw [hleaves, Head.run_nil, some.injEq] at hp hq
  exact hq.symm.trans (hp.symm.trans hhead)

omit [DecidableEq Id] in
/-- An operation that changes no column takes no step. -/
theorem Head.run_of_eq {s' : ScrollingSpace Id} (h : s'.head = s.head) :
    s.head.run [] = some s'.head := congrArg some h.symm

theorem resizeColumn_steps :
    Ensures (s.resizeColumn window f) fun s' => s.head.run [] = some s'.head :=
  (resizeColumn_head window f).mono fun _ => Head.run_of_eq

variable (op : Op Id)

/-- **The steps of an operation** say what it does to the number of columns, the active one and the
flag. -/
theorem Op.run_steps : Ensures (op.run s) fun s' => s.head.run (op.steps s) = some s'.head := by
  cases op with
  | updateConfig viewSize parentArea scale options =>
    exact (updateConfigColumns_length _ _ _).bind fun p hp =>
      of_pure (Head.run_of_eq (head_congr hp.1 hp.2 rfl rfl))
  | addTile colIdx tile activate width isFullWidth =>
    exact (addTile_head _ _ _ _ _).mono fun s' hs' => (Head.run_singleton _ _).trans hs'
  | addTileToColumn colIdx tileIdx tile activate => exact addTileToColumn_head _ _ _ _
  | addTileRightOf rightOf tile activate width isFullWidth =>
    refine Ensures.self.bind fun idx hidx => (addTile_head _ _ _ _ _).mono fun s' hs' => ?_
    rw [steps, hidx]
    exact (Head.run_singleton _ _).trans hs'
  | addColumn idx column activate =>
    exact (addColumn_head _ _ _).mono fun s' hs' => (Head.run_singleton _ _).trans hs'
  | removeActiveTile =>
    refine Ensures.map (Ensures.ite (fun hempty => of_pure ?_) fun hne => ?_)
    · rw [steps, if_pos hempty]
      rfl
    · rw [steps, if_neg hne]
      exact Ensures.self.bind fun _ _ => (removeTileByIdx_head _ _).bind fun p hp =>
        of_pure hp
  | removeTile window =>
    refine Ensures.map (Ensures.self.bind fun p hp => ?_)
    obtain ⟨colIdx, hcolIdx, hp⟩ := bind_eq_some_iff.mp hp
    obtain ⟨_, _, hp⟩ := bind_eq_some_iff.mp hp
    obtain ⟨_, _, hp⟩ := bind_eq_some_iff.mp hp
    obtain rfl := some.inj hp
    rw [steps, hcolIdx, toList_some, flatMap_singleton]
    exact removeTileByIdx_head _ _
  | removeTileByIdx columnIdx tileIdx => exact Ensures.map (removeTileByIdx_head _ _)
  | removeActiveColumn =>
    refine Ensures.map (Ensures.ite (fun hempty => of_pure ?_) fun hne => ?_)
    · rw [steps, if_pos hempty]
      rfl
    · rw [steps, if_neg hne, Head.run_singleton]
      exact (removeColumnByIdx_head _).bind fun p hp => of_pure hp
  | removeColumnByIdx columnIdx =>
    exact Ensures.map ((removeColumnByIdx_head _).mono fun p hp => (Head.run_singleton _ _).trans hp)
  | updateWindow window state =>
    exact (updateWindow_head window state).mono fun _ => Head.run_of_eq
  | activateWindow window =>
    refine Ensures.map ?_
    unfold ScrollingSpace.activateWindow
    rw [steps]
    cases s.columnOf window with
    | none => exact of_some rfl
    | some columnIdx =>
      refine (modifyColumn_head _ _).bind fun s₁ hs₁ => (activateColumn_head _).bind fun s' hs' =>
        of_pure ?_
      rw [hs₁] at hs'
      exact (Head.run_singleton _ _).trans hs'
  | focusLeft => exact Ensures.map focusLeft_head
  | focusRight => exact Ensures.map focusRight_head
  | focusColumnFirst =>
    exact (activateColumn_head _).mono fun s' hs' => (Head.run_singleton _ _).trans hs'
  | focusColumnLast | focusColumn =>
    refine Ensures.ite (fun hempty => of_some ?_) fun hne => ?_
    · rw [steps, if_pos hempty]
      rfl
    · rw [steps, if_neg hne, Head.run_singleton]
      exact activateColumn_head _
  | focusWindowInColumn | focusTop | focusBottom =>
    exact (withActiveColumn_head _).mono fun _ => Head.run_of_eq
  | focusDown | focusUp | moveDown | moveUp => exact Ensures.map ((onActiveColumn_head _).mono fun _ => Head.run_of_eq)
  | focusDownOrLeft | focusUpOrLeft => exact focusOr_head _ (fun _ => focusLeft_head) focusLeftSteps_congr
  | focusDownOrRight | focusUpOrRight => exact focusOr_head _ (fun _ => focusRight_head) focusRightSteps_congr
  | moveColumnToIndex | moveColumnToLast =>
    refine Ensures.ite (fun hempty => of_some ?_) fun hne => ?_
    · rw [steps, if_pos hempty]
      rfl
    · rw [steps, if_neg hne, Head.run_singleton]
      exact moveColumnTo_head _
  | moveLeft =>
    refine Ensures.map (Ensures.ite (fun hzero => of_pure ?_) fun hpos => ?_)
    · rw [steps, if_pos hzero]
      rfl
    · rw [steps, if_neg hpos, Head.run_singleton]
      exact (moveColumnTo_head _).bind fun _ hs' => of_pure hs'
  | moveRight =>
    refine Ensures.map (Ensures.ite (fun hlast => of_pure ?_) fun hnot => ?_)
    · rw [steps, if_pos hlast]
      rfl
    · rw [steps, if_neg hnot, Head.run_singleton]
      exact (moveColumnTo_head _).bind fun _ hs' => of_pure hs'
  | moveColumnToFirst =>
    exact (moveColumnTo_head _).mono fun s' hs' => (Head.run_singleton _ _).trans hs'
  | consumeOrExpelWindowLeft window => exact consumeOrExpelWindowLeft_head window
  | consumeOrExpelWindowRight window => exact consumeOrExpelWindowRight_head window
  | consumeIntoColumn => exact consumeIntoColumn_head
  | expelFromColumn => exact expelFromColumn_head
  | swapWindowInDirection direction => exact swapWindowInDirection_head direction
  | setFullscreen window isFullscreen => exact Ensures.map (setMode_head _ _ window isFullscreen)
  | setMaximized window maximize => exact Ensures.map (setMode_head _ _ window maximize)
  | setColumnDisplay display =>
    exact (setColumnDisplay_head display).mono fun _ => Head.run_of_eq
  | toggleColumnTabbedDisplay =>
    exact Ensures.ite (fun _ => of_pure rfl) fun _ => Ensures.self.bind fun _ _ =>
      (setColumnDisplay_head _).mono fun _ => Head.run_of_eq
  | centerColumn => exact centerColumn_head.mono fun _ => Head.run_of_eq
  | centerWindow window => exact (centerWindow_head window).mono fun _ => Head.run_of_eq
  | alignVisibleColumns activeVisible =>
    exact (alignVisibleColumns_head activeVisible).mono fun _ => Head.run_of_eq
  | toggleWidth forwards expected =>
    unfold Op.run ScrollingSpace.toggleWidth
    exact resizeColumn_steps _ _
  | toggleFullWidth =>
    unfold Op.run ScrollingSpace.toggleFullWidth
    exact resizeColumn_steps _ _
  | setWindowWidth window change =>
    unfold Op.run ScrollingSpace.setWindowWidth
    exact resizeColumn_steps _ _
  | setWindowHeight window change =>
    unfold Op.run ScrollingSpace.setWindowHeight
    exact resizeColumn_steps _ _
  | resetWindowHeight window =>
    unfold Op.run ScrollingSpace.resetWindowHeight
    exact resizeColumn_steps _ _
  | toggleWindowWidth window forwards expected =>
    unfold Op.run ScrollingSpace.toggleWindowWidth
    exact resizeColumn_steps _ _
  | toggleWindowHeight window forwards =>
    unfold Op.run ScrollingSpace.toggleWindowHeight
    exact resizeColumn_steps _ _
  | expandColumnToAvailableWidth view =>
    exact (expandColumnToAvailableWidth_head view).mono fun _ => Head.run_of_eq
  | viewOffsetGestureEnd newColIdx =>
    refine Ensures.ite (fun hempty => of_some ?_) fun hne =>
      Ensures.ite (fun hlt => of_some ?_) fun _ => of_none
    · rw [steps, if_pos hempty]
      rfl
    · rw [steps, if_neg hne, Head.run_singleton]
      exact if_pos hlt
  | dndScrollGestureBegin ongoing =>
    refine of_some (Head.run_of_eq ?_)
    unfold ScrollingSpace.dndScrollGestureBegin
    split_ifs <;> rfl
  | interactiveResizeBegin window edges =>
    exact Ensures.map ((interactiveResizeBegin_head window edges).mono fun _ => Head.run_of_eq)
  | interactiveResizeUpdate window dx dy =>
    exact Ensures.map ((interactiveResizeUpdate_head window dx dy).mono fun _ => Head.run_of_eq)
  | interactiveResizeEnd window =>
    exact of_some (Head.run_of_eq (interactiveResizeEnd_head window))

/-! ## One step, or the flag is gone -/

/-- At most one step, which is not the flag alone. -/
def OneStep (steps : List ColumnStep) : Prop :=
  steps = [] ∨ ∃ step, steps = [step] ∧ ∀ prev, step ≠ .setPrev prev

/-- The steps open no column behind the active one's back, and the flag is gone after them. -/
structure Head.Settles (h : Head) (steps : List ColumnStep) : Prop where
  opens : ∀ idx, .insert idx false ∉ steps
  snaps : ∀ idx, .snap idx ∉ steps
  prev : Ensures (h.run steps) fun h' => h'.prev = false

theorem OneStep.nil : OneStep [] := .inl rfl

theorem OneStep.singleton {step : ColumnStep} (h : ∀ prev, step ≠ .setPrev prev) :
    OneStep [step] := .inr ⟨step, rfl, h⟩

theorem OneStep.ite {c : Prop} [Decidable c] {steps : List ColumnStep} (h : OneStep steps) :
    OneStep (if c then [] else steps) := by
  split_ifs
  · exact .nil
  · exact h

namespace Head

/-- Another column becomes active. -/
theorem activate_prev {h : Head} {idx : ℕ} (hprev : h.active = idx → h.prev = false) :
    Ensures (h.activate idx) fun h' => h'.prev = false :=
  Ensures.ite (fun heq => of_some (hprev heq)) fun _ =>
    Ensures.ite (fun _ => of_some rfl) fun _ => of_none

theorem insert_true_active (h : Head) (idx : ℕ) :
    Ensures (h.apply (.insert idx true)) fun h' => h'.active = idx := by
  refine Ensures.ite (fun _ => of_none) fun _ => ?_
  refine Ensures.map ?_
  exact Ensures.ite (fun heq => of_some heq) fun _ =>
    Ensures.ite (fun _ => of_some rfl) fun _ => of_none

theorem remove_prev {h : Head} {idx : ℕ} (hprev : h.prev = true → h.active = idx ∧ 0 < idx) :
    Ensures (h.apply (.remove idx)) fun h' => h'.prev = false := by
  refine Ensures.ite (fun _ => of_none) fun hlt => ?_
  have hflag : (if idx + 1 = h.active then false else h.prev) = true → h.active = idx ∧ 0 < idx := by
    intro hp
    split_ifs at hp
    exact hprev hp
  refine Ensures.ite (fun hempty => of_some ?_) fun _ =>
    Ensures.ite (fun _ => of_some rfl) fun _ =>
      Ensures.ite (fun hactive => Ensures.ite (fun hpos => ?_) fun hzero => ?_) fun hnot => ?_
  · refine eq_false_iff.mpr fun hp => ?_
    have hpos := (hflag hp).2
    dsimp only at hempty
    omega
  · refine activate_prev fun heq => ?_
    dsimp only at heq
    omega
  · exact absurd (hflag hactive.2).2 hzero
  · refine activate_prev fun _ => eq_false_iff.mpr fun hp => ?_
    exact hnot ⟨(hflag hp).1.symm, hp⟩

theorem Settles.of_concat {h : Head} (steps : List ColumnStep) {step : ColumnStep}
    (opens : ∀ idx, .insert idx false ∉ steps ++ [step]) (snaps : ∀ idx, .snap idx ∉ steps ++ [step])
    (prev : Ensures (h.run steps) fun h' => Ensures (h'.apply step) fun h'' => h''.prev = false) :
    h.Settles (steps ++ [step]) where
  opens := opens
  snaps := snaps
  prev := by
    rw [run_append]
    refine prev.bind fun h' hh' => ?_
    rw [run_singleton]
    exact hh'

end Head

/-- The active column goes left. -/
theorem settles_mergeLeft {idx : ℕ} (hactive : h.active = idx) (hpos : idx ≠ 0) :
    h.Settles [.setPrev true, .remove idx, .activate (idx - 1)] := by
  refine Head.Settles.of_concat [.setPrev true, .remove idx] (by simp) (by simp) ?_
  rw [Head.run_cons_of rfl, Head.run_singleton]
  have hremove := @Head.remove_prev { h with prev := true } idx fun _ => ⟨hactive, by omega⟩
  refine hremove.mono fun h' hh' => ?_
  exact Head.activate_prev fun _ => hh'

/-- The active column goes right. -/
theorem settles_mergeRight {idx : ℕ} : h.Settles [.setPrev false, .remove idx, .activate idx] := by
  refine Head.Settles.of_concat [.setPrev false, .remove idx] (by simp) (by simp) ?_
  rw [Head.run_cons_of rfl, Head.run_singleton]
  have hremove := @Head.remove_prev { h with prev := false } idx fun hp => absurd hp Bool.false_ne_true
  refine hremove.mono fun h' hh' => ?_
  exact Head.activate_prev fun _ => hh'

/-- The active tile leaves its column to the left. -/
theorem settles_expelLeft {idx : ℕ} : h.Settles [.insert idx true, .setPrev false] :=
  Head.Settles.of_concat [.insert idx true] (by simp) (by simp) fun _ _ =>
    of_some rfl

/-- The active column is put back. -/
theorem settles_swap {source target : ℕ} (hne : source ≠ target) :
    h.Settles [.remove source, .insert source true, .activate target] := by
  refine Head.Settles.of_concat [.remove source, .insert source true] (by simp) (by simp) ?_
  refine (Ensures.self).bind fun h₁ _ => ?_
  rw [Head.run_singleton]
  refine (Head.insert_true_active h₁ source).mono fun h₂ hh₂ => ?_
  exact Head.activate_prev fun heq => absurd (hh₂.symm.trans heq) hne

theorem consumeOrExpelLeftSteps_shape :
    OneStep (s.consumeOrExpelLeftSteps window) ∨
      s.head.Settles (s.consumeOrExpelLeftSteps window) := by
  unfold consumeOrExpelLeftSteps
  split
  · exact .inl .nil
  rename_i columnIdx tileIdx _
  have hactive (h : s.tileActive columnIdx tileIdx = true) : s.head.active = columnIdx := by
    rw [tileActive, and_eq_true, decide_eq_true_iff] at h
    exact h.1
  split_ifs with hsingle hzero hact hact
  · exact .inl .nil
  · exact .inr (settles_mergeLeft (hactive hact) hzero)
  · exact .inl (.singleton fun _ => nofun)
  · exact .inr settles_expelLeft
  · exact .inl (.singleton fun _ => nofun)

theorem consumeOrExpelRightSteps_shape :
    OneStep (s.consumeOrExpelRightSteps window) ∨
      s.head.Settles (s.consumeOrExpelRightSteps window) := by
  unfold consumeOrExpelRightSteps
  split
  · exact .inl .nil
  split_ifs
  · exact .inl .nil
  · exact .inr settles_mergeRight
  · exact .inl (.singleton fun _ => nofun)
  · exact .inl (.singleton fun _ => nofun)

omit [DecidableEq Id] in
theorem swapSteps_shape :
    OneStep (s.swapSteps direction) ∨ s.head.Settles (s.swapSteps direction) := by
  unfold swapSteps
  dsimp only
  split_ifs with hedge
  · exact .inl .nil
  · exact .inl (.singleton fun _ => nofun)
  · refine .inr (settles_swap ?_)
    cases direction with
    | left =>
      have hne : s.activeColumnIdx ≠ 0 := fun h => hedge (.inl ⟨rfl, h⟩)
      change s.activeColumnIdx ≠ s.activeColumnIdx - 1
      omega
    | right => exact Nat.ne_of_lt (Nat.lt_succ_self _)
  · exact .inl (.singleton fun _ => nofun)

theorem isolateSteps_shape (window : Id) (value : Bool) :
    OneStep (s.isolateSteps isPending window value) ∨
      s.head.Settles (s.isolateSteps isPending window value) := by
  unfold isolateSteps
  split
  · exact .inl .nil
  · split_ifs
    · exact consumeOrExpelRightSteps_shape _
    · exact .inl .nil

omit [DecidableEq Id] in
theorem removeTileSteps_shape (columnIdx : ℕ) : OneStep (s.removeTileSteps columnIdx) := by
  unfold removeTileSteps
  split_ifs
  · exact .singleton fun _ => nofun
  · exact .nil

omit [DecidableEq Id] in
theorem focusOrSteps_shape {vertical : Column Id → Option (Column Id × Bool)}
    {horizontal : List ColumnStep} (h : OneStep horizontal) :
    OneStep (s.focusOrSteps vertical horizontal) := by
  unfold focusOrSteps
  split
  · exact h
  · exact .nil

/-- **An operation takes one step, or it ends without the flag** and opens no column that it does
not activate. -/
theorem Op.steps_shape : OneStep (op.steps s) ∨ s.head.Settles (op.steps s) := by
  have hleft : OneStep s.focusLeftSteps := .ite (.singleton fun _ => nofun)
  have hright : OneStep s.focusRightSteps := .ite (.singleton fun _ => nofun)
  cases op with
  | addTile | addColumn | removeColumnByIdx | focusColumnFirst | moveColumnToFirst =>
    exact .inl (.singleton fun _ => nofun)
  | addTileToColumn colIdx tileIdx tile activate =>
    unfold steps
    dsimp only
    split_ifs
    · exact .inl (.singleton fun _ => nofun)
    · exact .inl .nil
  | addTileRightOf rightOf tile activate width isFullWidth =>
    unfold steps
    dsimp only
    cases s.columnOf rightOf with
    | none => exact .inl .nil
    | some idx => exact .inl (.singleton fun _ => nofun)
  | removeTile window =>
    unfold steps
    dsimp only
    cases s.columnOf window with
    | none => exact .inl .nil
    | some idx =>
      rw [toList_some, flatMap_singleton]
      exact .inl (removeTileSteps_shape idx)
  | activateWindow window =>
    unfold steps
    dsimp only
    cases s.columnOf window with
    | none => exact .inl .nil
    | some idx => exact .inl (.singleton fun _ => nofun)
  | removeActiveTile | consumeIntoColumn => exact .inl (.ite (removeTileSteps_shape _))
  | removeTileByIdx columnIdx tileIdx => exact .inl (removeTileSteps_shape _)
  | focusLeft => exact .inl hleft
  | focusRight => exact .inl hright
  | focusDownOrLeft | focusUpOrLeft => exact .inl (.ite (focusOrSteps_shape hleft))
  | focusDownOrRight | focusUpOrRight => exact .inl (.ite (focusOrSteps_shape hright))
  | removeActiveColumn | focusColumnLast | focusColumn | moveColumnToIndex | moveLeft | moveRight
  | moveColumnToLast | expelFromColumn | viewOffsetGestureEnd =>
    exact .inl (.ite (.singleton fun _ => nofun))
  | consumeOrExpelWindowLeft window =>
    unfold steps
    dsimp only
    split_ifs
    · exact .inl .nil
    · exact consumeOrExpelLeftSteps_shape window
  | consumeOrExpelWindowRight window =>
    unfold steps
    dsimp only
    split_ifs
    · exact .inl .nil
    · exact consumeOrExpelRightSteps_shape window
  | swapWindowInDirection direction =>
    unfold steps
    dsimp only
    split_ifs
    · exact .inl .nil
    · exact swapSteps_shape direction
  | setFullscreen window isFullscreen => exact isolateSteps_shape _ window isFullscreen
  | setMaximized window maximize => exact isolateSteps_shape _ window maximize
  | _ => exact .inl .nil

end

end Tiri.Layout.ScrollingSpace
