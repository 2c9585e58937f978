import Tiri.Layout.Workspace
import Tiri.Lib.Yields

/-!
# Monitors

`struct Monitor` and its methods (`monitor.rs`, lines 49–2060): the workspaces of an output, one
of which is active, and the switch between workspaces that may be in progress.  Of an animation
the model keeps where it leads, of a gesture where it started and where it is; what a clock or
a tracker answers is an argument.  Rendering, and the hints where a window will land, are left
out.
-/

namespace Tiri.Layout

/-- Code of the layout: it reads the geometry of the outputs, draws workspace ids from the
global counter, and may panic. -/
abbrev LayoutM := Comp (Output → OutputGeometry) ℕ

/-- `WorkspaceId::next`. -/
def nextWorkspaceId : LayoutM WorkspaceId := do
  let id ← get
  set (id + 1)
  return id

/-- `struct WorkspaceSwitchGesture` (`monitor.rs`, lines 93–123). -/
structure WorkspaceSwitchGesture where
  centerIdx : ℕ
  currentIdx : ℚ
  isTouchpad : Bool
  isClamped : Bool
  /-- Whether the gesture is for drag-and-drop scrolling. -/
  isDnd : Bool

/-- `enum WorkspaceSwitch`; of an animation, `to()`. -/
inductive WorkspaceSwitch
  | animation (target : ℚ)
  | gesture (gesture : WorkspaceSwitchGesture)

inductive MonitorAddWindowTarget (Id : Type)
  | auto
  | workspace (id : WorkspaceId) (columnIdx : Option ℕ)
  | nextTo (window : Id)

/-- `struct Monitor` (`monitor.rs`, lines 49–92). -/
structure Monitor (Id : Type) where
  output : Output
  workspaces : List (Workspace Id)
  activeWorkspaceIdx : ℕ
  previousWorkspaceId : Option WorkspaceId
  workspaceSwitch : Option WorkspaceSwitch
  overviewOpen : Bool
  baseOptions : Options
  options : Options
  layoutConfig : Option LayoutPart

variable {Id : Type}

namespace WorkspaceSwitch

def targetIdx : WorkspaceSwitch → ℚ
  | animation target => target
  | gesture g => g.currentIdx

/-- `offset`, by one. -/
def offset : WorkspaceSwitch → WorkspaceSwitch
  | animation target => animation (target + 1)
  | gesture g => gesture { g with
      centerIdx := g.centerIdx + 1
      currentIdx := g.currentIdx + 1 }

end WorkspaceSwitch

/-- `min_max`: the workspaces a gesture may lead to. -/
def WorkspaceSwitchGesture.minMax (self : WorkspaceSwitchGesture) (workspaceCount : ℕ) : ℕ × ℕ :=
  if self.isClamped then (self.centerIdx - 1, min (self.centerIdx + 1) (workspaceCount - 1))
  else (0, workspaceCount - 1)

/-- A new, empty workspace of an output. -/
def newWorkspace (output : Output) (options : Options) : LayoutM (Workspace Id) := do
  let id ← nextWorkspaceId
  let geometry ← read
  return Workspace.new id geometry output options

/-- Bring a workspace to an output. -/
def adoptWorkspace (output : Output) (options : Options) (ws : Workspace Id) :
    LayoutM (Workspace Id) := do
  let geometry ← read
  let ws ← ws.setOutput geometry (some output)
  ws.updateConfig options

namespace Monitor

/-! ## Reading a monitor -/

variable (self : Monitor Id)

/-- `empty_workspace_above_first`, as this monitor is configured. -/
def emptyAboveFirst : Bool := self.options.emptyWorkspaceAboveFirst

/-- The ids of the windows, workspace by workspace. -/
def ids : List Id := self.workspaces.flatMap Workspace.ids

def activeWorkspace : Option (Workspace Id) :=
  self.workspaces[self.activeWorkspaceIdx]?

def activeWindow [DecidableEq Id] (self : Monitor Id) : Option (Window Id) :=
  self.activeWorkspace.bind Workspace.activeWindow

def hasWindow [DecidableEq Id] (self : Monitor Id) (window : Id) : Bool :=
  self.workspaces.any (·.hasWindow window)

/-- The workspace that holds `window`. -/
def workspaceIdxOf [DecidableEq Id] (self : Monitor Id) (window : Id) : Option ℕ :=
  self.workspaces.findIdx? (·.hasWindow window)

/-- Change the workspace at `idx`. -/
def modifyWorkspace (idx : ℕ) (f : Workspace Id → Option (Workspace Id)) : Option (Monitor Id) := do
  let workspaces ← Vec.modifyAt self.workspaces idx f
  return { self with workspaces := workspaces }

/-! ## Adding workspaces -/

/-- `add_workspace_at` (`monitor.rs`, lines 419–436). -/
def addWorkspaceAt (idx : ℕ) : LayoutM (Monitor Id) := do
  let ws ← newWorkspace self.output self.options
  let workspaces ← Vec.insertAt self.workspaces idx ws
  return { self with
    workspaces := workspaces
    activeWorkspaceIdx :=
      if idx ≤ self.activeWorkspaceIdx then self.activeWorkspaceIdx + 1
      else self.activeWorkspaceIdx
    workspaceSwitch := self.workspaceSwitch.map fun switch =>
      if (idx : ℚ) ≤ switch.targetIdx then switch.offset else switch }

def addWorkspaceTop : LayoutM (Monitor Id) := self.addWorkspaceAt 0

def addWorkspaceBottom : LayoutM (Monitor Id) :=
  self.addWorkspaceAt self.workspaces.length

/-- Add a workspace at the bottom when the last one is no longer spare. -/
def bottomIf (c : Bool) : LayoutM (Monitor Id) :=
  if c then self.addWorkspaceBottom else return self

/-- Add a workspace at the top when the first one is no longer spare, and the monitor is to
have a spare one there. -/
def topIf (c : Bool) : LayoutM (Monitor Id) :=
  if self.emptyAboveFirst && c then self.addWorkspaceTop else return self

/-- Where the workspace at `idx` is after `topIf`. -/
def shiftedIdx (c : Bool) (idx : ℕ) : ℕ :=
  if self.emptyAboveFirst && c then idx + 1 else idx

/-- `Monitor::new` (`monitor.rs`, lines 291–360). -/
def new (output : Output) (workspaces : List (Workspace Id))
    (wsIdToActivate : Option WorkspaceId) (baseOptions : Options)
    (layoutConfig : Option LayoutPart) : LayoutM (Monitor Id) := do
  let options := baseOptions.withMergedLayout layoutConfig
  let workspaces ← workspaces.mapM fun ws =>
    if ws.hasWindowsOrName then adoptWorkspace output options ws else (none : Option _)
  let activeWorkspaceIdx :=
    (Vec.rposition (fun ws => some ws.id = wsIdToActivate) workspaces).getD 0
  let onTop := options.emptyWorkspaceAboveFirst && !workspaces.isEmpty
  let top ← (if onTop then do return [← newWorkspace output options] else return [])
  let bottom ← newWorkspace output options
  return {
    output := output
    workspaces := top ++ workspaces ++ [bottom]
    activeWorkspaceIdx := if onTop then activeWorkspaceIdx + 1 else activeWorkspaceIdx
    previousWorkspaceId := none
    workspaceSwitch := none
    overviewOpen := false
    baseOptions := baseOptions
    options := options
    layoutConfig := layoutConfig }

/-! ## Activating workspaces -/

/-- `activate_workspace` (`monitor.rs`, lines 447–495). -/
def activateWorkspace (idx : ℕ) : Option (Monitor Id) := do
  let previous ← self.workspaces[self.activeWorkspaceIdx]?
  let self' : Monitor Id := { self with
    activeWorkspaceIdx := idx
    previousWorkspaceId :=
      if self.activeWorkspaceIdx ≠ idx then some previous.id else self.previousWorkspaceId }
  match self.workspaceSwitch with
  | some (.gesture gesture) =>
    if gesture.isDnd then
      -- During a DnD scroll, animate even if `idx` is the active workspace.
      return { self' with
        workspaceSwitch := some (.gesture { gesture with centerIdx := idx, currentIdx := idx }) }
    else if self.activeWorkspaceIdx = idx then return self'
    else return { self' with workspaceSwitch := some (.animation idx) }
  | _ =>
    -- Don't animate if nothing changed.
    if self.activeWorkspaceIdx = idx then return self'
    else return { self' with workspaceSwitch := some (.animation idx) }

/-- `activate_workspace`, under a condition. -/
def activateWorkspaceIf (c : Bool) (idx : ℕ) : Option (Monitor Id) :=
  if c then self.activateWorkspace idx else some self

/-! ## Clean-up -/

/-- One round of the loop of `clean_up_workspaces`. -/
def cleanUpStep (idx : ℕ) : Option (Monitor Id) :=
  if self.activeWorkspaceIdx = idx then some self
  else do
    let ws ← self.workspaces[idx]?
    if ws.hasWindowsOrName then
      return self
    else
      return { self with
        workspaces := self.workspaces.eraseIdx idx
        activeWorkspaceIdx :=
          if idx < self.activeWorkspaceIdx then self.activeWorkspaceIdx - 1
          else self.activeWorkspaceIdx }

/-- The loop: `n` rounds, from the end, down to `start`. -/
def cleanUpLoop (start : ℕ) : ℕ → Monitor Id → Option (Monitor Id)
  | 0, self => some self
  | n + 1, self => do
    let self ← self.cleanUpStep (start + n)
    cleanUpLoop start n self

/-- The special case of `clean_up_workspaces`: the spare workspaces at both ends, and none in
between, are one too many. -/
def mergeEnds : Option (Monitor Id) :=
  match self.workspaces with
  | [first, last] =>
    if self.emptyAboveFirst then
      if first.hasWindowsOrName || last.hasWindowsOrName then none
      else some { self with workspaces := [first], activeWorkspaceIdx := 0 }
    else some self
  | _ => some self

/-- `clean_up_workspaces` (`monitor.rs`, lines 625–655): asserts that no switch is in
progress. -/
def cleanUpWorkspaces : Option (Monitor Id) :=
  if self.workspaceSwitch.isSome then none
  else do
    let rangeStart := if self.emptyAboveFirst then 1 else 0
    let self ← cleanUpLoop rangeStart (self.workspaces.length - 1 - rangeStart) self
    self.mergeEnds

/-- `clean_up_workspaces`, unless a switch is in progress. -/
def cleanUpIfIdle : Option (Monitor Id) :=
  if self.workspaceSwitch.isNone then self.cleanUpWorkspaces else some self

/-- End the switch that may be in progress, and clean up. -/
def stopSwitchAndCleanUp : Option (Monitor Id) :=
  ({ self with workspaceSwitch := none } : Monitor Id).cleanUpWorkspaces

def unnameWorkspace (id : WorkspaceId) : Option (Monitor Id × Bool) :=
  match self.workspaces.findIdx? (·.id = id) with
  | none => some (self, false)
  | some idx => do
    let self ← self.modifyWorkspace idx fun ws => some ws.unname
    let self ← self.cleanUpIfIdle
    return (self, true)

/-! ## Windows in and out -/

def resolveAddWindowTarget [DecidableEq Id] (self : Monitor Id) :
    MonitorAddWindowTarget Id → Option (ℕ × WorkspaceAddWindowTarget Id)
  | .auto => some (self.activeWorkspaceIdx, .auto)
  | .workspace id columnIdx => do
    let idx ← self.workspaces.findIdx? (·.id = id)
    return (idx, match columnIdx with
      | some columnIdx => .newColumnAt columnIdx
      | none => .auto)
  | .nextTo window => do
    let idx ← self.workspaceIdxOf window
    return (idx, .nextTo window)

/-- After getting a window, an unnamed workspace becomes this output's own. -/
def own (ws : Workspace Id) : Workspace Id :=
  if ws.name.isNone then { ws with originalOutput := OutputId.new self.output } else ws

/-- Change a workspace that gets a window by it. -/
def fillWorkspace (idx : ℕ) (f : Workspace Id → Option (Workspace Id)) : Option (Monitor Id) :=
  self.modifyWorkspace idx fun ws => (f ws).map self.own

/-- Keep a spare workspace at the ends after the one at `idx` got a window, and activate it
there. -/
def settle (idx : ℕ) (activate : Bool) : LayoutM (Monitor Id) := do
  let self ← self.bottomIf (idx + 1 = self.workspaces.length)
  let idx' := self.shiftedIdx (idx = 0) idx
  let self ← self.topIf (idx = 0)
  self.activateWorkspaceIf activate idx'

/-- `add_tile` (`monitor.rs`, lines 567–603). -/
def addTile [DecidableEq Id] (self : Monitor Id) (tile : Tile Id)
    (target : MonitorAddWindowTarget Id) (activate : ActivateWindow)
    (allowToActivateWorkspace : Bool) (width : ColumnWidth) (isFullWidth isFloating : Bool) :
    LayoutM (Monitor Id) := do
  let (workspaceIdx, target) ← self.resolveAddWindowTarget target
  let self ← self.fillWorkspace workspaceIdx
    (·.addTile tile target activate width isFullWidth isFloating)
  self.settle workspaceIdx (allowToActivateWorkspace && activate.mapSmart false)

/-- `add_window` (`monitor.rs`, lines 515–538). -/
def addWindow [DecidableEq Id] (self : Monitor Id) (window : Window Id)
    (target : MonitorAddWindowTarget Id) (activate : ActivateWindow) (width : ColumnWidth)
    (isFullWidth isFloating : Bool) : LayoutM (Monitor Id) := do
  let first ← self.workspaces[0]?
  self.addTile (first.makeTile window) target activate true width isFullWidth isFloating

/-- `add_column` (`monitor.rs`, lines 540–563). -/
def addColumn [DecidableEq Id] (self : Monitor Id) (workspaceIdx : ℕ) (column : Column Id)
    (activate : Bool) : LayoutM (Monitor Id) := do
  let self ← self.fillWorkspace workspaceIdx (·.addColumn column activate)
  self.settle workspaceIdx activate

/-- `add_tile_to_column` (`monitor.rs`, lines 605–628): the workspace has a column, so that it
is not a spare one. -/
def addTileToColumn [DecidableEq Id] (self : Monitor Id) (workspaceIdx columnIdx : ℕ)
    (tileIdx : Option ℕ) (tile : Tile Id) (activate allowToActivateWorkspace : Bool) :
    Option (Monitor Id) := do
  let self ← self.fillWorkspace workspaceIdx (·.addTileToColumn columnIdx tileIdx tile activate)
  self.activateWorkspaceIf (allowToActivateWorkspace && activate) workspaceIdx

/-- Take a window out of the workspace at `idx`. -/
def takeTile [DecidableEq Id] (self : Monitor Id) (idx : ℕ) (window : Id)
    (expected : Option ISize) : Option (RemovedTile Id × Monitor Id) := do
  let ws ← self.workspaces[idx]?
  let (removed, ws) ← ws.removeTile window expected
  return (removed, { self with workspaces := self.workspaces.set idx ws })

/-- Take the active window out of the workspace at `idx`, if there is one. -/
def takeActiveTile [DecidableEq Id] (self : Monitor Id) (idx : ℕ) (expected : Option ISize) :
    Option (Option (RemovedTile Id) × Monitor Id) := do
  let ws ← self.workspaces[idx]?
  let (removed, ws) ← ws.removeActiveTile expected
  return (removed, { self with workspaces := self.workspaces.set idx ws })

/-- Take the active column out of the workspace at `idx`, if there is one. -/
def takeActiveColumn [DecidableEq Id] (self : Monitor Id) (idx : ℕ) :
    Option (Option (Column Id) × Monitor Id) := do
  let ws ← self.workspaces[idx]?
  let (column, ws) ← ws.removeActiveColumn
  return (column, { self with workspaces := self.workspaces.set idx ws })

/-! ## Workspaces in and out -/

/-- `remove_workspace_by_idx` (`monitor.rs`, lines 672–697). -/
def removeWorkspaceByIdx (idx : ℕ) : LayoutM (Workspace Id × Monitor Id) := do
  let geometry ← read
  let self ← self.bottomIf (idx + 1 = self.workspaces.length)
  let idx' := self.shiftedIdx (idx = 0) idx
  let self ← self.topIf (idx = 0)
  let (ws, workspaces) ← Vec.removeAt self.workspaces idx'
  let ws ← ws.setOutput geometry none
  -- Focus the previous workspace rather than the next.
  let self ← ({ self with
    workspaces := workspaces
    activeWorkspaceIdx :=
      if idx' ≤ self.activeWorkspaceIdx ∧ 0 < self.activeWorkspaceIdx then
        self.activeWorkspaceIdx - 1
      else self.activeWorkspaceIdx } : Monitor Id).stopSwitchAndCleanUp
  return (ws, self)

/-- `insert_workspace` (`monitor.rs`, lines 699–726). -/
def insertWorkspace (ws : Workspace Id) (idx : ℕ) (activate : Bool) : LayoutM (Monitor Id) := do
  let ws ← adoptWorkspace self.output self.options ws
  -- Don't insert past the last empty workspace.
  let idx := if idx = self.workspaces.length then idx - 1 else idx
  let idx' := self.shiftedIdx (idx = 0) idx
  let self ← self.topIf (idx = 0)
  let workspaces ← Vec.insertAt self.workspaces idx' ws
  let self : Monitor Id := { self with
    workspaces := workspaces
    activeWorkspaceIdx :=
      if idx' ≤ self.activeWorkspaceIdx then self.activeWorkspaceIdx + 1
      else self.activeWorkspaceIdx
    workspaceSwitch := if activate then none else self.workspaceSwitch }
  let self ← self.activateWorkspaceIf activate idx'
  self.stopSwitchAndCleanUp

/-- `append_workspaces` (`monitor.rs`, lines 728–768). -/
def appendWorkspaces (workspaces : List (Workspace Id)) : LayoutM (Monitor Id) := do
  if workspaces.isEmpty then
    return self
  let workspaces ← workspaces.mapM (adoptWorkspace self.output self.options)
  let emptyWasFocused := self.activeWorkspaceIdx + 1 = self.workspaces.length
  let (empty, own) ← Vec.removeAt self.workspaces (self.workspaces.length - 1)
  let self : Monitor Id := { self with workspaces := own ++ workspaces ++ [empty] }
  let first ← self.workspaces[0]?
  let self ← self.topIf first.hasWindowsOrName
  -- If the empty workspace was focused, keep it focused.
  let self : Monitor Id := { self with
    activeWorkspaceIdx :=
      if emptyWasFocused then self.workspaces.length - 1 else self.activeWorkspaceIdx }
  self.stopSwitchAndCleanUp

/-! ## Moving windows between workspaces -/

section Moves

variable [DecidableEq Id]

variable (self : Monitor Id)

/-- The index above the active workspace. -/
def idxUp : ℕ := self.activeWorkspaceIdx - 1

/-- The index below the active workspace. -/
def idxDown : ℕ :=
  min (self.activeWorkspaceIdx + 1) (self.workspaces.length - 1)

/-- `move_to_workspace_up` and `move_to_workspace_down`: the active window goes to the
workspace at `newIdx`. -/
def moveToWorkspaceAt (newIdx : ℕ) (focus : Bool) (expected : Option ISize) :
    LayoutM (Monitor Id) := do
  if newIdx = self.activeWorkspaceIdx then
    return self
  let target ← self.workspaces[newIdx]?
  let (removed, self) ← self.takeActiveTile self.activeWorkspaceIdx expected
  match removed with
  | none => return self
  | some removed =>
    self.addTile removed.tile (.workspace target.id none) (if focus then .yes else .smart) true
      removed.width removed.isFullWidth removed.isFloating

def moveToWorkspaceUp (focus : Bool) (expected : Option ISize) : LayoutM (Monitor Id) :=
  self.moveToWorkspaceAt self.idxUp focus expected

def moveToWorkspaceDown (focus : Bool) (expected : Option ISize) : LayoutM (Monitor Id) :=
  self.moveToWorkspaceAt self.idxDown focus expected

/-- The tile that `move_to_workspace` takes: of the window named, or the active one. -/
def takeTarget (idx : ℕ) (expected : Option ISize) :
    Option Id → Option (Option (RemovedTile Id) × Monitor Id)
  | some window => do
    let (removed, self) ← self.takeTile idx window expected
    return (some removed, self)
  | none => self.takeActiveTile idx expected

/-- `move_to_workspace` (`monitor.rs`, lines 868–930). -/
def moveToWorkspace (window : Option Id) (idx : ℕ) (activate : ActivateWindow)
    (expected : Option ISize) : LayoutM (Monitor Id) := do
  let sourceWorkspaceIdx ← (match window with
    | some window => self.workspaceIdxOf window
    | none => some self.activeWorkspaceIdx)
  let newIdx := min idx (self.workspaces.length - 1)
  if newIdx = sourceWorkspaceIdx then
    return self
  let target ← self.workspaces[newIdx]?
  let activate := activate.mapSmart
    (window.isNone || self.activeWindow.map Window.id = window)
  let (removed, self) ← self.takeTarget sourceWorkspaceIdx expected window
  match removed with
  | none => return self
  | some removed =>
    let self ← self.addTile removed.tile (.workspace target.id none)
      (if activate then .yes else .no) true removed.width removed.isFullWidth removed.isFloating
    self.cleanUpIfIdle

/-- `move_column_to_workspace_up` and the like: the active column goes to the workspace at
`newIdx`; where the floating space is active, `instead` moves the window. -/
def moveColumnToWorkspaceAt (newIdx : ℕ) (activate : Bool) (instead : LayoutM (Monitor Id)) :
    LayoutM (Monitor Id) := do
  if newIdx = self.activeWorkspaceIdx then
    return self
  let workspace ← self.activeWorkspace
  if workspace.isFloatingActive then
    instead
  else
    let (column, self) ← self.takeActiveColumn self.activeWorkspaceIdx
    match column with
    | none => return self
    | some column => self.addColumn newIdx column activate

def moveColumnToWorkspaceUp (activate : Bool) (expected : Option ISize) : LayoutM (Monitor Id) :=
  self.moveColumnToWorkspaceAt self.idxUp activate (self.moveToWorkspaceUp activate expected)

def moveColumnToWorkspaceDown (activate : Bool) (expected : Option ISize) : LayoutM (Monitor Id) :=
  self.moveColumnToWorkspaceAt self.idxDown activate (self.moveToWorkspaceDown activate expected)

def moveColumnToWorkspace (idx : ℕ) (activate : Bool) (expected : Option ISize) :
    LayoutM (Monitor Id) :=
  self.moveColumnToWorkspaceAt (min idx (self.workspaces.length - 1)) activate
    (self.moveToWorkspace none idx (if activate then .smart else .no) expected)

end Moves

/-! ## Switching workspaces -/

/-- The apparent workspace next to the one a DnD scroll is at. -/
def apparentIdx (new : ℤ) : ℕ :=
  (max 0 (min new (self.workspaces.length - 1 : ℕ))).toNat

def switchWorkspaceUp : Option (Monitor Id) :=
  self.activateWorkspace (match self.workspaceSwitch with
    | some (.gesture gesture) =>
      if gesture.isDnd then self.apparentIdx (⌈gesture.currentIdx⌉ - 1) else self.idxUp
    | _ => self.idxUp)

def switchWorkspaceDown : Option (Monitor Id) :=
  self.activateWorkspace (match self.workspaceSwitch with
    | some (.gesture gesture) =>
      if gesture.isDnd then self.apparentIdx (⌊gesture.currentIdx⌋ + 1) else self.idxDown
    | _ => self.idxDown)

def previousWorkspaceIdx : Option ℕ := do
  let id ← self.previousWorkspaceId
  self.workspaces.findIdx? (·.id = id)

def switchWorkspace (idx : ℕ) : Option (Monitor Id) :=
  self.activateWorkspace (min idx (self.workspaces.length - 1))

def switchWorkspacePrevious : Option (Monitor Id) :=
  match self.previousWorkspaceIdx with
  | some idx => self.switchWorkspace idx
  | none => some self

def switchWorkspaceAutoBackAndForth (idx : ℕ) : Option (Monitor Id) :=
  if min idx (self.workspaces.length - 1) = self.activeWorkspaceIdx then
    self.switchWorkspacePrevious
  else self.switchWorkspace idx

/-- `advance_animations`: with the end of its animation a switch ends. -/
def advanceAnimations (isDone : Bool) : Option (Monitor Id) :=
  match self.workspaceSwitch with
  | some (.animation _) => if isDone then self.stopSwitchAndCleanUp else some self
  | _ => some self

/-! ## Gestures -/

/-- `workspace_switch_gesture_begin`; `renderIdx` is where the view is. -/
def workspaceSwitchGestureBegin (isTouchpad : Bool) (renderIdx : ℚ) : Monitor Id :=
  { self with
    workspaceSwitch := some (.gesture
      { centerIdx := self.activeWorkspaceIdx
        currentIdx := renderIdx
        isTouchpad := isTouchpad
        isClamped := !self.overviewOpen
        isDnd := false }) }

/-- `dnd_scroll_gesture_begin`: only in the overview. -/
def dndScrollGestureBegin (renderIdx : ℚ) : Monitor Id :=
  let begun : Monitor Id := { self with
    workspaceSwitch := some (.gesture
      { centerIdx := self.activeWorkspaceIdx
        currentIdx := renderIdx
        isTouchpad := false
        isClamped := false
        isDnd := true }) }
  match self.workspaceSwitch with
  | some (.gesture gesture) =>
    if gesture.isDnd then self else if self.overviewOpen then begun else self
  | _ => if self.overviewOpen then begun else self

/-- `workspace_switch_gesture_update` and `dnd_scroll_gesture_scroll`: the gesture is at
`newIdx` now. -/
def workspaceSwitchGestureUpdate (newIdx : ℚ) : Monitor Id :=
  match self.workspaceSwitch with
  | some (.gesture gesture) =>
    { self with workspaceSwitch := some (.gesture { gesture with currentIdx := newIdx }) }
  | _ => self

/-- `workspace_switch_gesture_end` (`monitor.rs`, lines 1960–2020); `projected` is where the
gesture would come to rest.  Clamping aborts on bounds that are the wrong way round. -/
def workspaceSwitchGestureEnd (isTouchpad : Option Bool) (projected : ℚ) : Option (Monitor Id) :=
  match self.workspaceSwitch with
  | some (.gesture gesture) =>
    if isTouchpad.any (gesture.isTouchpad ≠ ·) then some self
    else
      let (min, max) := gesture.minMax self.workspaces.length
      if max < min then none
      else do
        let newIdx := (roundHalfAway (clamp projected min max)).toNat
        let previous ← self.workspaces[self.activeWorkspaceIdx]?
        return { self with
          activeWorkspaceIdx := newIdx
          previousWorkspaceId :=
            if self.activeWorkspaceIdx ≠ newIdx then some previous.id
            else self.previousWorkspaceId
          workspaceSwitch := some (.animation newIdx) }
  | _ => some self

def dndScrollGestureEnd (projected : ℚ) : Option (Monitor Id) :=
  match self.workspaceSwitch with
  | some (.gesture gesture) =>
    if gesture.isDnd then self.workspaceSwitchGestureEnd none projected else some self
  | _ => some self

/-! ## Configuration -/

/-- The part of `update_config` that follows a change of `empty_workspace_above_first`. -/
def toggleTop (emptyAboveFirst : Bool) : LayoutM (Monitor Id) := do
  if self.emptyAboveFirst ≠ emptyAboveFirst ∧ 1 < self.workspaces.length then
    if emptyAboveFirst then
      self.addWorkspaceTop
    else if self.workspaceSwitch.isNone ∧ self.activeWorkspaceIdx ≠ 0 then
      return { self with
        workspaces := self.workspaces.tail
        activeWorkspaceIdx := self.activeWorkspaceIdx - 1 }
    else
      return self
  else
    return self

/-- `update_config` (`monitor.rs`, lines 1176–1208). -/
def updateConfig (baseOptions : Options) : LayoutM (Monitor Id) := do
  let options := baseOptions.withMergedLayout self.layoutConfig
  let self ← self.toggleTop options.emptyWorkspaceAboveFirst
  let workspaces ← self.workspaces.mapM (·.updateConfig options)
  return { self with workspaces := workspaces, baseOptions := baseOptions, options := options }

def updateLayoutConfig (layoutConfig : Option LayoutPart) : LayoutM (Monitor Id) :=
  if self.layoutConfig = layoutConfig then return self
  else ({ self with layoutConfig := layoutConfig } : Monitor Id).updateConfig self.baseOptions

def updateOutputSize : LayoutM (Monitor Id) := do
  let geometry ← read
  let workspaces ← self.workspaces.mapM (·.updateOutputSize geometry)
  return { self with workspaces := workspaces }

/-! ## Moving workspaces -/

/-- The end of `move_workspace_down` and `move_workspace_up`: the moved workspace is active, and
the previous workspace stays what it was. -/
def followMoved (newIdx : ℕ) : Option (Monitor Id) := do
  let previousWorkspaceId := self.previousWorkspaceId
  let self ← self.activateWorkspace newIdx
  ({ self with previousWorkspaceId := previousWorkspaceId } : Monitor Id).stopSwitchAndCleanUp

/-- `move_workspace_down` (`monitor.rs`, lines 1240–1268). -/
def moveWorkspaceDown : LayoutM (Monitor Id) := do
  let newIdx := self.idxDown
  if newIdx = self.activeWorkspaceIdx then
    return self
  let activeWasFirst : Bool := self.activeWorkspaceIdx = 0
  let workspaces ← Vec.swap self.workspaces self.activeWorkspaceIdx newIdx
  let self : Monitor Id := { self with workspaces := workspaces }
  let self ← self.bottomIf (newIdx + 1 = self.workspaces.length)
  let newIdx := self.shiftedIdx activeWasFirst newIdx
  let self ← self.topIf activeWasFirst
  self.followMoved newIdx

/-- `move_workspace_up` (`monitor.rs`, lines 1270–1298). -/
def moveWorkspaceUp : LayoutM (Monitor Id) := do
  let newIdx := self.idxUp
  if newIdx = self.activeWorkspaceIdx then
    return self
  let workspaces ← Vec.swap self.workspaces self.activeWorkspaceIdx newIdx
  let self : Monitor Id := { self with workspaces := workspaces }
  let self ← self.bottomIf (self.activeWorkspaceIdx + 1 = self.workspaces.length)
  let newIdx' := self.shiftedIdx (newIdx = 0) newIdx
  let self ← self.topIf (newIdx = 0)
  self.followMoved newIdx'

/-- Which workspace is active after the one at `oldIdx` has moved to `newIdx`. -/
def activeAfterMove (active oldIdx newIdx : ℕ) : ℕ :=
  if active = oldIdx then newIdx
  else if newIdx ≤ active ∧ active < oldIdx then active + 1
  else if active ≤ newIdx ∧ oldIdx < active then active - 1
  else active

/-- `move_workspace_to_idx` (`monitor.rs`, lines 1300–1350). -/
def moveWorkspaceToIdx (oldIdx newIdx : ℕ) : LayoutM (Monitor Id) := do
  if self.workspaces.length ≤ oldIdx then
    return self
  let newIdx := min newIdx (self.workspaces.length - 1)
  if oldIdx = newIdx then
    return self
  let (ws, workspaces) ← Vec.removeAt self.workspaces oldIdx
  let workspaces ← Vec.insertAt workspaces newIdx ws
  let self : Monitor Id := { self with workspaces := workspaces }
  -- The lower and the upper end of the move.
  let self ← self.bottomIf (max oldIdx newIdx + 1 = self.workspaces.length)
  let newIdx' := self.shiftedIdx (min oldIdx newIdx = 0) newIdx
  let self ← self.topIf (min oldIdx newIdx = 0)
  ({ self with
    activeWorkspaceIdx := activeAfterMove self.activeWorkspaceIdx oldIdx newIdx' } :
    Monitor Id).stopSwitchAndCleanUp

end Monitor

end Tiri.Layout
