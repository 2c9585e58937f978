import Tiri.Layout.Monitor

set_option linter.dupNamespace false

/-!
# The layout: monitors, and workspaces without them

`struct Layout` (`layout/mod.rs`, lines 337–530), with what it searches for and its outputs
coming.  Animations, render elements and the positions of pointers are left out; what geometry
and clocks answer is an argument, as in `Monitor`.
-/

namespace Tiri.Layout

structure InteractiveMoveData (Id : Type) where
  tile : Tile Id
  /-- Where the window is currently. -/
  output : Output
  width : ColumnWidth
  isFullWidth : Bool
  /-- Whether the window targets the floating layout. -/
  isFloating : Bool
  outputConfig : Option LayoutPart
  workspaceConfig : Option (WorkspaceId × LayoutPart)

inductive InteractiveMoveState (Id : Type)
  /-- The window remains in the layout. -/
  | starting (windowId : Id)
  /-- The window is no longer in the layout. -/
  | moving (data : InteractiveMoveData Id)

inductive DndHoldTarget (Id : Type)
  | window (id : Id)
  | workspace (id : WorkspaceId)

structure DndData (Id : Type) where
  output : Output
  hold : Option (DndHoldTarget Id)

inductive MonitorSet (Id : Type)
  /-- At least one output is connected. -/
  | normal (monitors : List (Monitor Id)) (primaryIdx activeMonitorIdx : ℕ)
  | noOutputs (workspaces : List (Workspace Id))

structure Layout (Id : Type) where
  monitorSet : MonitorSet Id
  /-- By the name of a removed monitor, the workspace that was active on it. -/
  lastActiveWorkspaceId : String → Option WorkspaceId
  interactiveMove : Option (InteractiveMoveState Id)
  dnd : Option (DndData Id)
  overviewOpen : Bool
  options : Options

inductive AddWindowTarget (Id : Type)
  | auto
  | output (output : Output)
  | workspace (id : WorkspaceId)
  | nextTo (window : Id)

inductive WorkspaceReference
  | id (id : WorkspaceId)
  | index (index : ℕ)
  | name (name : String)

/-- What the layout reads of a `Config`. -/
structure Config where
  options : Options
  workspaces : List WorkspaceConfig

variable {Id : Type}

/-- `name().is_some_and(|name| name.eq_ignore_ascii_case(target))`. -/
def Workspace.isNamed (target : String) (ws : Workspace Id) : Bool :=
  ws.name.any (eqIgnoreAsciiCase · target)

namespace MonitorSet

def monitors : MonitorSet Id → List (Monitor Id)
  | normal monitors _ _ => monitors
  | noOutputs _ => []

def workspaces : MonitorSet Id → List (Workspace Id)
  | normal monitors _ _ => monitors.flatMap Monitor.workspaces
  | noOutputs workspaces => workspaces

/-- Change every workspace: a loop over `workspaces_mut`. -/
def mapWorkspaces (f : Workspace Id → Option (Workspace Id)) :
    MonitorSet Id → Option (MonitorSet Id)
  | normal monitors primaryIdx activeMonitorIdx => do
    let monitors ← monitors.mapM fun mon => do
      let workspaces ← mon.workspaces.mapM f
      return { mon with workspaces := workspaces }
    return normal monitors primaryIdx activeMonitorIdx
  | noOutputs workspaces => do
    let workspaces ← workspaces.mapM f
    return noOutputs workspaces

/-- Change every monitor: a loop over `monitors_mut`. -/
def mapMonitors (f : Monitor Id → LayoutM (Monitor Id)) : MonitorSet Id → LayoutM (MonitorSet Id)
  | normal monitors primaryIdx activeMonitorIdx => do
    let monitors ← monitors.mapM f
    return normal monitors primaryIdx activeMonitorIdx
  | noOutputs workspaces => return noOutputs workspaces

/-- `find_monitor_workspace_by_ref`: the monitor of a workspace, and where it is on it. -/
def findMonitorWorkspaceByRef (monitors : List (Monitor Id)) (activeMonitorIdx : ℕ) :
    WorkspaceReference → Option (ℕ × ℕ)
  | .index index => do
    let mon ← monitors[activeMonitorIdx]?
    return (activeMonitorIdx, min (index - 1) (mon.workspaces.length - 1))
  | .name refName => findPosition (Workspace.isNamed refName)
  | .id id => findPosition fun ws => ws.id = id
where
  findPosition (p : Workspace Id → Bool) : Option (ℕ × ℕ) := do
    let monIdx ← monitors.findIdx? fun mon => mon.workspaces.any p
    let mon ← monitors[monIdx]?
    let idx ← mon.workspaces.findIdx? p
    return (monIdx, idx)

end MonitorSet

namespace Layout

/-! ## New layouts -/

def withOptions (options : Options) : Layout Id where
  monitorSet := .noOutputs []
  lastActiveWorkspaceId _ := none
  interactiveMove := none
  dnd := none
  overviewOpen := false
  options := options

/-- `Layout::new`: a workspace for each one that the config names. -/
def new (config : Config) : LayoutM (Layout Id) := do
  let workspaces ← config.workspaces.mapM fun ws => do
    let id ← nextWorkspaceId
    return Workspace.newWithConfigNoOutputs id (some ws) config.options
  return { withOptions config.options with monitorSet := .noOutputs workspaces }

/-! ## Reading a layout -/

variable (self : Layout Id)

def workspaces : List (Workspace Id) := self.monitorSet.workspaces

def findWorkspaceByName (workspaceName : String) : Option (Workspace Id) :=
  self.workspaces.find? (Workspace.isNamed workspaceName)

/-- `find_workspace_by_ref`: the id of the workspace. -/
def findWorkspaceByRef : WorkspaceReference → Option (Option WorkspaceId)
  | .index index =>
    match self.monitorSet with
    | .normal monitors _ activeMonitorIdx => do
      let mon ← monitors[activeMonitorIdx]?
      return mon.workspaces[index - 1]?.map Workspace.id
    | .noOutputs _ => some none
  | .name refName => some ((self.workspaces.find? (Workspace.isNamed refName)).map Workspace.id)
  | .id id => some ((self.workspaces.find? fun ws => ws.id = id).map Workspace.id)

/-- The data of an interactive move that has taken the window out of the layout. -/
def moving : Option (InteractiveMoveData Id) :=
  match self.interactiveMove with
  | some (.moving data) => some data
  | some (.starting _) | none => none

/-- Whether the window, or the focused one, is being moved. -/
def isMoving [DecidableEq Id] (self : Layout Id) (window : Option Id) : Bool :=
  self.moving.any fun data => window.all (· = data.tile.id)

/-! ## Changing parts of a layout -/

/-- Change the monitors. -/
def onMonitorSet (f : MonitorSet Id → LayoutM (MonitorSet Id)) : LayoutM (Layout Id) := do
  let monitorSet ← f self.monitorSet
  return { self with monitorSet := monitorSet }

/-- Change every workspace. -/
def mapWorkspaces (f : Workspace Id → Option (Workspace Id)) : LayoutM (Layout Id) :=
  self.onMonitorSet fun set => (set.mapWorkspaces f : Option _)

/-! ## Outputs -/

/-- The state of the loop that takes its workspaces from the primary monitor for a new one. -/
structure Reclaim (Id : Type) where
  primary : Monitor Id
  stoppedPrimaryWsSwitch : Bool
  workspaces : List (Workspace Id)

/-- One round of the loop.  The source pushes the workspaces and reverses them afterwards. -/
def reclaimStep (output : Output) (i : ℕ) (s : Reclaim Id) : Option (Reclaim Id) := do
  let ws ← s.primary.workspaces[i]?
  if ws.originalOutput.matchesOutput output then
    let primary := s.primary
    return {
      primary := { primary with
        workspaces := primary.workspaces.eraseIdx i
        workspaceSwitch := none
        -- The workspace above is active, unless that is the empty one above the first.
        activeWorkspaceIdx :=
          if i ≤ primary.activeWorkspaceIdx ∧
              ¬(primary.emptyAboveFirst ∧ primary.activeWorkspaceIdx = 1) then
            primary.activeWorkspaceIdx - 1
          else primary.activeWorkspaceIdx }
      stoppedPrimaryWsSwitch := s.stoppedPrimaryWsSwitch || primary.workspaceSwitch.isSome
      workspaces := if ws.hasWindowsOrName then ws :: s.workspaces else s.workspaces }
  else
    return s

/-- The loop, from the last workspace to the first. -/
def reclaim (output : Output) : ℕ → Reclaim Id → Option (Reclaim Id)
  | 0, s => some s
  | n + 1, s => do
    let s ← reclaimStep output n s
    reclaim output n s

/-- The new monitor of `add_output`, and the memory of the workspace that was active on it. -/
def newMonitor (output : Output) (workspaces : List (Workspace Id))
    (layoutConfig : Option LayoutPart) : LayoutM (Monitor Id) := do
  let wsIdToActivate := self.lastActiveWorkspaceId output.name.connector
  let monitor ← Monitor.new output workspaces wsIdToActivate self.options layoutConfig
  return { monitor with overviewOpen := self.overviewOpen }

/-- `add_output` (`layout/mod.rs`, lines 738–844). -/
def addOutput (output : Output) (layoutConfig : Option LayoutPart) : LayoutM (Layout Id) := do
  let forgotten : Layout Id := { self with
    lastActiveWorkspaceId :=
      Function.update self.lastActiveWorkspaceId output.name.connector none }
  match self.monitorSet with
  | .normal monitors primaryIdx activeMonitorIdx =>
    let primary ← monitors[primaryIdx]?
    let s ← reclaim output primary.workspaces.length ⟨primary, false, []⟩
    let primary ←
      (if s.stoppedPrimaryWsSwitch ||
          (s.primary.emptyAboveFirst && s.primary.workspaces.length = 2) then
        s.primary.cleanUpWorkspaces
      else some s.primary)
    let monitor ← self.newMonitor output s.workspaces layoutConfig
    return { forgotten with
      monitorSet :=
        .normal (monitors.set primaryIdx primary ++ [monitor]) primaryIdx activeMonitorIdx }
  | .noOutputs workspaces =>
    let monitor ← self.newMonitor output workspaces layoutConfig
    return { forgotten with monitorSet := .normal [monitor] 0 0 }

end Layout

end Tiri.Layout
