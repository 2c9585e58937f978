import Tiri.Layout.LayoutWindows

set_option linter.dupNamespace false

/-!
# Workspaces in the layout

Workspaces are added, removed and lose their names (`layout/mod.rs`, lines 1370–1405, 2955–2995 and
4525–4775), and follow the configuration (lines 2997–3036), which `State::reload_config` (`niri.rs`,
lines 1472–1491) brings.
-/

namespace Tiri.Layout

inductive WorkspaceInsertionPosition
  | before
  | after

/-- The index next to the one referred to. -/
def WorkspaceInsertionPosition.insertIdx : WorkspaceInsertionPosition → ℕ → ℕ
  | before, refIdx => refIdx
  | after, refIdx => refIdx + 1

variable {Id : Type}

/-- `Workspace::new_with_config`, with a new id. -/
def newWorkspaceWithConfig (output : Output) (config : WorkspaceConfig) (options : Options) :
    LayoutM (Workspace Id) := do
  let id ← nextWorkspaceId
  let geometry ← read
  return Workspace.newWithConfig id geometry output (some config) options

/-- `Workspace::new_with_config_no_outputs`, with a new id. -/
def newWorkspaceNoOutputs (config : WorkspaceConfig) (options : Options) :
    LayoutM (Workspace Id) := do
  let id ← nextWorkspaceId
  return Workspace.newWithConfigNoOutputs id (some config) options

namespace Layout

/-! ## Naming workspaces -/

variable (self : Layout Id)

def unnameWorkspaceById (id : WorkspaceId) : LayoutM (Layout Id) := do
  match self.monitorSet with
  | .normal monitors primaryIdx activeMonitorIdx =>
    match monitors.findIdx? fun mon => mon.workspaces.any (·.id = id) with
    | none => return self
    | some monIdx =>
      let mon ← monitors[monIdx]?
      let (mon, _) ← mon.unnameWorkspace id
      return { self with
        monitorSet := .normal (monitors.set monIdx mon) primaryIdx activeMonitorIdx }
  | .noOutputs workspaces =>
    match workspaces.findIdx? (·.id = id) with
    | none => return self
    | some idx =>
      let ws ← workspaces[idx]?
      -- Clean up empty workspaces.
      return { self with
        monitorSet := .noOutputs
          (if ws.hasWindows then workspaces.set idx ws.unname else workspaces.eraseIdx idx) }

def unnameWorkspaceByRef (reference : WorkspaceReference) : LayoutM (Layout Id) := do
  let id ← self.findWorkspaceByRef reference
  match id with
  | some id => self.unnameWorkspaceById id
  | none => return self

def unnameWorkspace (workspaceName : String) : LayoutM (Layout Id) :=
  self.unnameWorkspaceByRef (.name workspaceName)

variable (workspaces : List (Workspace Id))

/-- Where `add_named_workspace` inserts a workspace while there are no outputs. -/
def refIdxNoOutputs : Option WorkspaceReference → Option ℕ
  | some (.index index) => some (min (index - 1) (workspaces.length - 1))
  | some (.name refName) => workspaces.findIdx? (Workspace.isNamed refName)
  | some (.id id) => workspaces.findIdx? (·.id = id)
  | none => some (workspaces.length - 1)

/-- `add_named_workspace` (`layout/mod.rs`, lines 4570–4665). -/
def addNamedWorkspace (name : String) (reference : Option WorkspaceReference)
    (position : WorkspaceInsertionPosition) (activate : Bool) : LayoutM (Layout Id) := do
  if name.isEmpty ∨ (self.findWorkspaceByName name).isSome then
    return self
  let wsConfig : WorkspaceConfig := ⟨name, none, none⟩
  match self.monitorSet with
  | .normal monitors primaryIdx activeMonitorIdx =>
    let found ← (match reference with
      | some reference =>
        some (MonitorSet.findMonitorWorkspaceByRef monitors activeMonitorIdx reference)
      | none => (monitors[activeMonitorIdx]?).map fun mon =>
          some (activeMonitorIdx, mon.activeWorkspaceIdx))
    match found with
    | none => return self
    | some (monIdx, refIdx) =>
      let mon ← monitors[monIdx]?
      let ws ← newWorkspaceWithConfig mon.output wsConfig self.options
      let mon ← mon.insertWorkspace ws (position.insertIdx refIdx) activate
      return { self with
        monitorSet := .normal (monitors.set monIdx mon) primaryIdx
          (if activate then monIdx else activeMonitorIdx) }
  | .noOutputs workspaces =>
    match refIdxNoOutputs workspaces reference with
    | none => return self
    | some refIdx =>
      let ws ← newWorkspaceNoOutputs wsConfig self.options
      let workspaces ← Vec.insertAt workspaces
        (min (position.insertIdx refIdx) workspaces.length) ws
      return { self with monitorSet := .noOutputs workspaces }

/-- The workspace that `remove_workspace` removes while there are no outputs. -/
def removalIdxNoOutputs : WorkspaceReference → Option ℕ
  | .index index => if index - 1 < workspaces.length then some (index - 1) else none
  | .name refName => workspaces.findIdx? (Workspace.isNamed refName)
  | .id id => workspaces.findIdx? (·.id = id)

/-- `remove_workspace` (`layout/mod.rs`, lines 4667–4711): only one without windows. -/
def removeWorkspace (reference : WorkspaceReference) : LayoutM (Layout Id) := do
  match self.monitorSet with
  | .normal monitors primaryIdx activeMonitorIdx =>
    match MonitorSet.findMonitorWorkspaceByRef monitors activeMonitorIdx reference with
    | none => return self
    | some (monIdx, wsIdx) =>
      let mon ← monitors[monIdx]?
      let ws ← mon.workspaces[wsIdx]?
      if ws.hasWindows then
        return self
      let (_, mon) ← mon.removeWorkspaceByIdx wsIdx
      return { self with
        monitorSet := .normal (monitors.set monIdx mon) primaryIdx activeMonitorIdx }
  | .noOutputs workspaces =>
    match removalIdxNoOutputs workspaces reference with
    | none => return self
    | some wsIdx =>
      let ws ← workspaces[wsIdx]?
      if ws.hasWindows then
        return self
      return { self with monitorSet := .noOutputs (workspaces.eraseIdx wsIdx) }

/-- `ensure_named_workspace` (`layout/mod.rs`, lines 2955–2995). -/
def ensureNamedWorkspace (wsConfig : WorkspaceConfig) : LayoutM (Layout Id) := do
  if (self.findWorkspaceByName wsConfig.name).isSome then
    return self
  match self.monitorSet with
  | .normal monitors primaryIdx activeMonitorIdx =>
    let monIdx :=
      match wsConfig.openOnOutput with
      | some name =>
        (monitors.findIdx? fun mon => outputMatchesName mon.output name).getD primaryIdx
      | none => activeMonitorIdx
    let mon ← monitors[monIdx]?
    let ws ← newWorkspaceWithConfig mon.output wsConfig self.options
    let mon ← mon.insertWorkspace ws 0 false
    return { self with
      monitorSet := .normal (monitors.set monIdx mon) primaryIdx activeMonitorIdx }
  | .noOutputs workspaces =>
    let ws ← newWorkspaceNoOutputs wsConfig self.options
    return { self with monitorSet := .noOutputs (ws :: workspaces) }

/-! ## Configuration -/

/-- `update_options`: also of a tile that is being moved. -/
def updateOptions (options : Options) : LayoutM (Layout Id) := do
  let geometry ← read
  let self : Layout Id := { self with
    interactiveMove := self.interactiveMove.map fun
      | .moving data => .moving
          (adjustMoved { self with options := options } (geometry data.output) data)
      | .starting windowId => .starting windowId }
  let monitorSet ← (match self.monitorSet with
    | .normal _ _ _ => self.monitorSet.mapMonitors (·.updateConfig options)
    | .noOutputs _ => (self.monitorSet.mapWorkspaces (·.updateConfig options) : Option _))
  return { self with monitorSet := monitorSet, options := options }

/-- The workspace-specific part of `update_config`: by the name exactly. -/
def updateNamed (config : Config) (ws : Workspace Id) : Option (Workspace Id) :=
  match ws.name with
  | none => some ws
  | some name =>
    match config.workspaces.find? (·.name = name) with
    | none => some ws
    | some wsConfig => ws.updateLayoutConfig wsConfig.layout

def updateConfig (config : Config) : LayoutM (Layout Id) := do
  let self ← self.mapWorkspaces (updateNamed config)
  self.updateOptions config.options

/-- The names of the workspaces that are in the old config only. -/
def removedWorkspaces (old new : Config) : List String :=
  (old.workspaces.filter fun ws => !new.workspaces.any (·.name = ws.name)).map (·.name)

/-- The part of `State::reload_config` that is about the layout: workspaces that the config no longer
    has lose their names, and those that it has are created. -/
def reloadConfig (old new : Config) : LayoutM (Layout Id) := do
  let self ← (removedWorkspaces old new).foldlM unnameWorkspace self
  let self ← self.updateConfig new
  new.workspaces.foldlM ensureNamedWorkspace self

end Layout

end Tiri.Layout
