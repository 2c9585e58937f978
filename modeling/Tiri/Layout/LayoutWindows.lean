import Tiri.Layout.Layout

set_option linter.dupNamespace false

/-!
# Windows in the layout

Windows come, and are moved between the outputs (`layout/mod.rs`, lines 904–1113 and 3332–3470).
-/

namespace Tiri.Layout

variable {Id : Type} [DecidableEq Id]

/-- The default height that `add_window` sets for scrolling windows. -/
def Workspace.setDefaultHeight (self : Workspace Id) (window : Id) (height : Option SizeChange)
    (isFloating : Bool) : Option (Workspace Id) :=
  match height with
  | some change => if isFloating then some self else self.setWindowHeight (some window) change
  | none => some self

/-- The same, on the monitor that got the window. -/
def Monitor.setDefaultHeight (self : Monitor Id) (window : Id) (height : Option SizeChange)
    (isFloating : Bool) : Option (Monitor Id) :=
  match height with
  | some _ =>
    if isFloating then some self
    else do
      let idx ← self.workspaceIdxOf window
      self.modifyWorkspace idx (·.setDefaultHeight window height isFloating)
  | none => some self

namespace Layout

/-! ## Windows in -/

variable (self : Layout Id)

/-- The monitor for a new window, and the target on it. -/
def resolveAddWindowTarget (monitors : List (Monitor Id)) (activeMonitorIdx : ℕ) :
    AddWindowTarget Id → Option (ℕ × MonitorAddWindowTarget Id)
  | .auto => some (activeMonitorIdx, .auto)
  | .output output => do
    let monIdx ← monitors.findIdx? (·.output = output)
    return (monIdx, .auto)
  | .workspace wsId => do
    let monIdx ← monitors.findIdx? fun mon => mon.workspaces.any (·.id = wsId)
    return (monIdx, .workspace wsId none)
  | .nextTo nextTo =>
    match self.moving.filter fun data => data.tile.id = nextTo with
    | some data =>
      -- The window is being interactively moved.
      some ((monitors.findIdx? (·.output = data.output)).getD activeMonitorIdx, .auto)
    | none => do
      let monIdx ← monitors.findIdx? (·.hasWindow nextTo)
      return (monIdx, .nextTo nextTo)

/-- Without outputs, a window may find no workspace at all. -/
def someWorkspace (workspaces : List (Workspace Id)) : LayoutM (List (Workspace Id)) := do
  if workspaces.isEmpty then
    let id ← nextWorkspaceId
    return [Workspace.newNoOutputs id self.options]
  else
    return workspaces

/-- The workspaces without outputs, and which of them a new window goes to. -/
def resolveNoOutputsTarget (workspaces : List (Workspace Id)) :
    AddWindowTarget Id → LayoutM (List (Workspace Id) × ℕ × WorkspaceAddWindowTarget Id)
  | .auto => do
    return (← self.someWorkspace workspaces, 0, .auto)
  | .output _ => (none : Option _)
  | .workspace wsId => do
    let wsIdx ← workspaces.findIdx? (·.id = wsId)
    return (workspaces, wsIdx, .auto)
  | .nextTo nextTo => do
    if (self.moving.filter fun data => data.tile.id = nextTo).isSome then
      return (← self.someWorkspace workspaces, 0, .auto)
    else
      let wsIdx ← workspaces.findIdx? (·.hasWindow nextTo)
      return (workspaces, wsIdx, .nextTo nextTo)

/-- `add_window` (`layout/mod.rs`, lines 928–1113). -/
def addWindow (window : Window Id) (target : AddWindowTarget Id) (width : ColumnWidth)
    (height : Option SizeChange) (isFullWidth isFloating : Bool) (activate : ActivateWindow) :
    LayoutM (Layout Id) := do
  match self.monitorSet with
  | .normal monitors primaryIdx activeMonitorIdx =>
    let (monIdx, target) ← self.resolveAddWindowTarget monitors activeMonitorIdx target
    let mon ← monitors[monIdx]?
    let mon ← mon.addWindow window target activate width isFullWidth isFloating
    let mon ← mon.setDefaultHeight window.id height isFloating
    return { self with
      monitorSet := .normal (monitors.set monIdx mon) primaryIdx
        (if activate.mapSmart false then monIdx else activeMonitorIdx) }
  | .noOutputs workspaces =>
    let (workspaces, wsIdx, target) ← self.resolveNoOutputsTarget workspaces target
    let workspaces ← Vec.modifyAt workspaces wsIdx fun ws => do
      let ws ← ws.addTile (ws.makeTile window) target activate width isFullWidth isFloating
      ws.setDefaultHeight window.id height isFloating
    return { self with monitorSet := .noOutputs workspaces }

/-! ## Between outputs -/

/-- `move_to_output` (`layout/mod.rs`, lines 3332–3432). -/
def moveToOutput (window : Option Id) (output : Output) (targetWsIdx : Option ℕ)
    (activate : ActivateWindow) (expected : Option ISize) : LayoutM (Layout Id) := do
  if self.isMoving window then
    return self
  match self.monitorSet with
  | .normal monitors primaryIdx activeMonitorIdx =>
    let newIdx ← monitors.findIdx? (·.output = output)
    let (monIdx, wsIdx) ← (match window with
      | some window => MonitorSet.findMonitorWorkspaceByRef.findPosition monitors (·.hasWindow window)
      | none => (monitors[activeMonitorIdx]?).map fun mon =>
          (activeMonitorIdx, mon.activeWorkspaceIdx))
    let new ← monitors[newIdx]?
    let workspaceIdx := targetWsIdx.getD new.activeWorkspaceIdx
    if monIdx = newIdx ∧ wsIdx = workspaceIdx then
      return self
    if new.workspaces.length ≤ workspaceIdx then
      return self
    let target ← new.workspaces[workspaceIdx]?
    let mon ← monitors[monIdx]?
    let activate := activate.mapSmart
      (window.isNone || (monIdx = activeMonitorIdx && mon.activeWindow.map Window.id = window))
    let (removed, mon) ← mon.takeTarget wsIdx expected window
    match removed with
    | none => return self
    | some removed =>
      let monitors := monitors.set monIdx mon
      let new ← monitors[newIdx]?
      let new ← new.addTile removed.tile (.workspace target.id none)
        (if activate then .yes else .no) true removed.width removed.isFullWidth removed.isFloating
      let monitors := monitors.set newIdx new
      let mon ← monitors[monIdx]?
      let mon ← mon.cleanUpIfIdle
      return { self with
        monitorSet := .normal (monitors.set monIdx mon) primaryIdx
          (if activate then newIdx else activeMonitorIdx) }
  | .noOutputs _ => return self

/-- `move_column_to_output` (`layout/mod.rs`, lines 3434–3468). -/
def moveColumnToOutput (output : Output) (targetWsIdx : Option ℕ) (activate : Bool)
    (expected : Option ISize) : LayoutM (Layout Id) := do
  match self.monitorSet with
  | .normal monitors primaryIdx activeMonitorIdx =>
    let newIdx ← monitors.findIdx? (·.output = output)
    let current ← monitors[activeMonitorIdx]?
    let ws ← current.activeWorkspace
    if ws.isFloatingActive then
      self.moveToOutput none output none .smart expected
    else
      let (column, current) ← current.takeActiveColumn current.activeWorkspaceIdx
      match column with
      | none => return self
      | some column =>
        let monitors := monitors.set activeMonitorIdx current
        let new ← monitors[newIdx]?
        let workspaceIdx := min (targetWsIdx.getD new.activeWorkspaceIdx) (new.workspaces.length - 1)
        let new ← new.addColumn workspaceIdx column activate
        return { self with
          monitorSet := .normal (monitors.set newIdx new) primaryIdx
            (if activate then newIdx else activeMonitorIdx) }
  | .noOutputs _ => return self

/-! ## The window that is being moved -/

/-- What a moved tile becomes on an output, under the options of the output and the workspace. -/
def adjustMoved (geometry : OutputGeometry) (data : InteractiveMoveData Id) :
    InteractiveMoveData Id :=
  let options := (self.options.withMergedLayout data.outputConfig).withMergedLayout
    (data.workspaceConfig.map Prod.snd)
  { data with
    tile := data.tile.updateConfig geometry.viewSize geometry.scale
      (options.adjustedForScale geometry.scale) }

end Layout

end Tiri.Layout
