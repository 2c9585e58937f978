import Tiri.Protocols.WorkspaceView

/-!
# The ext-workspace protocol

`src/protocols/ext_workspace.rs`: how the workspaces and the outputs of the layout are kept up with
the clients that have bound a manager.
-/

namespace Tiri.Protocols.ExtWorkspace

open Function

/-! ## The layout -/

/-- What is read of a monitor. -/
structure LayoutMonitor (Output : Type) where
  output : Output
  activeWorkspaceIdx : ℕ

/-- What is read of a workspace, with the monitor that it is on and its index. -/
structure LayoutWorkspace (Output WorkspaceId : Type) where
  mon : Option (LayoutMonitor Output)
  wsIdx : ℕ
  id : WorkspaceId
  name : Option String
  isUrgent : Bool

/-- What is read of the compositor: `layout.workspaces()`, whose ids are unique, and
`sorted_outputs`. -/
structure Layout (Output WorkspaceId : Type) where
  workspaces : List (LayoutWorkspace Output WorkspaceId)
  sortedOutputs : List Output
  nodup : (workspaces.map LayoutWorkspace.id).Nodup

/-- There is nothing yet. -/
def Layout.empty (Output WorkspaceId : Type) : Layout Output WorkspaceId where
  workspaces := []
  sortedOutputs := []
  nodup := List.nodup_nil

namespace LayoutWorkspace

variable {Output WorkspaceId : Type}

variable (ws : LayoutWorkspace Output WorkspaceId)

/-- The output that the workspace is on. -/
def output : Option Output :=
  ws.mon.map LayoutMonitor.output

/-- The state of the workspace. -/
def state : WorkspaceState where
  active := ws.mon.any fun mon => mon.activeWorkspaceIdx = ws.wsIdx
  urgent := ws.isUrgent

def buildName : String :=
  ws.name.getD (toString (ws.wsIdx + 1))

/-- What clients are to know of the workspace. -/
def info : Info where
  id := ws.name
  name := some ws.buildName
  coordinates := some (0, ws.wsIdx)
  state := some ws.state

end LayoutWorkspace

/-! ## Resources -/

/-- A resource of a client, whose data is the manager. -/
structure Handle (M : Type) where
  id : ℕ
  manager : M

/-- The display: it creates resources, and passes events on to the clients. -/
structure Display (M : Type) where
  nextHandle : ℕ
  clients : M → Client

namespace Display

variable {M : Type} [DecidableEq M]

variable (display : Display M)

/-- The client of a manager changes. -/
def modify (manager : M) (f : Client → Client) : Display M :=
  { display with
    clients := update display.clients manager (f (display.clients manager)) }

/-- An event is sent to the client of a manager. -/
def send (manager : M) (event : Event) : Display M :=
  display.modify manager fun client => client.receive event

def createResource (manager : M) : Handle M × Display M :=
  ({ id := display.nextHandle, manager }, { display with nextHandle := display.nextHandle + 1 })

variable (manager : M) (f : Client → Client)

@[simp] theorem nextHandle_modify :
    (display.modify manager f).nextHandle = display.nextHandle := rfl

@[simp] theorem clients_modify_self :
    (display.modify manager f).clients manager = f (display.clients manager) :=
  update_self ..

theorem clients_modify_of_ne {manager m : M} (hne : m ≠ manager) (f : Client → Client) :
    (display.modify manager f).clients m = display.clients m :=
  update_of_ne hne ..

theorem modify_modify (f f' : Client → Client) :
    (display.modify manager f).modify manager f' = display.modify manager fun c => f' (f c) := by
  unfold modify
  simp only [update_self, update_idem]

end Display

/-- `ExtWorkspaceGroupData`. -/
structure GroupData (M : Type) where
  instances : List (Handle M)

/-- `ExtWorkspaceData`. -/
structure WorkspaceData (M Output : Type) where
  id : Option String
  name : String
  coordinates : ℕ × ℕ
  state : WorkspaceState
  instances : List (Handle M)
  output : Option Output

/-- `ExtWorkspaceManagerState`; of `instances` there are the keys. -/
structure ExtWorkspaceManagerState (M Output WorkspaceId : Type) where
  display : Display M
  instances : Finset M
  workspaceGroups : HashMap Output (GroupData M)
  workspaces : HashMap WorkspaceId (WorkspaceData M Output)

variable {M Output WorkspaceId : Type} [DecidableEq M] [DecidableEq Output] [DecidableEq WorkspaceId]

/-- The instances of a manager: `instance.data() == Some(manager)`. -/
def instancesOf (manager : M) (instances : List (Handle M)) : List (Handle M) :=
  instances.filter fun handle => handle.manager = manager

/-- `ExtWorkspaceGroupData::add_instance`. -/
def GroupData.addInstance (data : GroupData M) (display : Display M) (manager : M) :
    Handle M × GroupData M × Display M :=
  let (group, display) := display.createResource manager
  let display := display.send manager (.workspaceGroup group.id)
  (group, { data with instances := data.instances ++ [group] }, display)

/-- `ExtWorkspaceData::add_instance`. -/
def WorkspaceData.addInstance (data : WorkspaceData M Output) (display : Display M) (manager : M) :
    Handle M × WorkspaceData M Output × Display M :=
  let (workspace, display) := display.createResource manager
  let display := display.send manager (.workspace workspace.id)
  let display := match data.id with
    | some id => display.send manager (.id workspace.id id)
    | none => display
  let display := display.send manager (.name workspace.id data.name)
  let display := display.send manager (.coordinates workspace.id data.coordinates)
  let display := display.send manager (.state workspace.id data.state)
  (workspace, { data with instances := data.instances ++ [workspace] }, display)

/-- The loop that creates a handle for each manager instance. -/
def WorkspaceData.addInstances (managers : List M) (data : WorkspaceData M Output)
    (display : Display M) : WorkspaceData M Output × Display M :=
  managers.foldl (fun (data, display) manager => (data.addInstance display manager).2)
    (data, display)

/-- The loop that creates a group handle for each manager instance. -/
def GroupData.addInstances (managers : List M) (data : GroupData M) (display : Display M) :
    GroupData M × Display M :=
  managers.foldl (fun (data, display) manager => (data.addInstance display manager).2)
    (data, display)

variable (workspaceGroups : HashMap Output (GroupData M))

def sendWorkspaceEnterLeave (data : WorkspaceData M Output) (enter : Bool) (display : Display M) :
    Display M :=
  match data.output.bind fun output => workspaceGroups.lookup output with
  | none => display
  | some groupData =>
    groupData.instances.foldl (fun display group =>
      (instancesOf group.manager data.instances).foldl (fun display workspace =>
        if enter then display.send group.manager (.workspaceEnter group.id workspace.id)
        else display.send group.manager (.workspaceLeave group.id workspace.id)) display) display

def removeWorkspaceInstances (data : WorkspaceData M Output) (display : Display M) : Display M :=
  let display := sendWorkspaceEnterLeave workspaceGroups data false display
  data.instances.foldl (fun display workspace =>
    display.send workspace.manager (.workspaceRemoved workspace.id)) display

/-! ## Refreshing -/

/-- The instances of a workspace whose name got changed or unset are created again. -/
def recreateInstances (managers : List M) (data : WorkspaceData M Output) (display : Display M) :
    WorkspaceData M Output × Display M :=
  let display := removeWorkspaceInstances workspaceGroups data display
  let (data, display) := { data with instances := [] }.addInstances managers display
  (data, sendWorkspaceEnterLeave workspaceGroups data true display)

/-- What changed is sent to an instance of a workspace. -/
def sendChange (idSet nameChanged coordinatesChanged stateChanged : Bool)
    (data : WorkspaceData M Output) (display : Display M) (handle : Handle M) : Display M :=
  let display := match data.id with
    | some id => if idSet then display.send handle.manager (.id handle.id id) else display
    | none => display
  let display :=
    if nameChanged then display.send handle.manager (.name handle.id data.name) else display
  let display :=
    if coordinatesChanged then display.send handle.manager (.coordinates handle.id data.coordinates)
    else display
  if stateChanged then display.send handle.manager (.state handle.id data.state) else display

/-- The first branch of `refresh_workspace`: an existing workspace. -/
def refreshExisting (managers : List M) (ws : LayoutWorkspace Output WorkspaceId)
    (data : WorkspaceData M Output) (display : Display M) :
    WorkspaceData M Output × Display M × Bool :=
  let recreate := data.id ≠ ws.name && data.id.isSome
  let idSet := data.id ≠ ws.name && data.id.isNone
  let coordinatesChanged := decide (data.coordinates.2 ≠ ws.wsIdx)
  let stateChanged := decide (data.state ≠ ws.state)
  -- Recreate means name got changed or unset.  A workspace that got named goes from its index to
  -- its name, and an unnamed one has its index.
  let check := recreate || if ws.name.isSome then idSet else coordinatesChanged
  let nameChanged := check && data.name ≠ ws.buildName
  let outputChanged := decide (data.output ≠ ws.output)
  let display :=
    if outputChanged then sendWorkspaceEnterLeave workspaceGroups data false display else display
  let data := { data with
    id := ws.name
    coordinates := (data.coordinates.1, ws.wsIdx)
    state := ws.state
    name := if nameChanged then ws.buildName else data.name
    output := ws.output }
  if recreate then
    let (data, display) := recreateInstances workspaceGroups managers data display
    (data, display, true)
  else
    -- If the group doesn't exist yet, the workspace enters when the group is created.
    let display :=
      if outputChanged then sendWorkspaceEnterLeave workspaceGroups data true display else display
    let somethingChanged := idSet || nameChanged || coordinatesChanged || stateChanged
    let display :=
      if somethingChanged then
        data.instances.foldl
          (sendChange idSet nameChanged coordinatesChanged stateChanged data) display
      else display
    (data, display, outputChanged || somethingChanged)

/-- The second branch of `refresh_workspace`: a new workspace. -/
def refreshNew (managers : List M) (ws : LayoutWorkspace Output WorkspaceId) (display : Display M) :
    WorkspaceData M Output × Display M :=
  let data : WorkspaceData M Output :=
    { id := ws.name
      name := ws.buildName
      coordinates := (0, ws.wsIdx)
      state := ws.state
      instances := []
      output := ws.output }
  let (data, display) := data.addInstances managers display
  (data, sendWorkspaceEnterLeave workspaceGroups data true display)

namespace ExtWorkspaceManagerState

/-- `refresh_workspace`, with the order of the manager instances. -/
def refreshWorkspace (managers : List M) (s : ExtWorkspaceManagerState M Output WorkspaceId)
    (ws : LayoutWorkspace Output WorkspaceId) :
    ExtWorkspaceManagerState M Output WorkspaceId × Bool :=
  match s.workspaces.lookup ws.id with
  | some data =>
    let (data, display, changed) :=
      refreshExisting s.workspaceGroups managers ws data s.display
    ({ s with display, workspaces := s.workspaces.insert ws.id data }, changed)
  | none =>
    let (data, display) := refreshNew s.workspaceGroups managers ws s.display
    ({ s with display, workspaces := s.workspaces.insert ws.id data }, true)

/-- The instances of the manager for the workspaces on the output. -/
def instancesOn (s : ExtWorkspaceManagerState M Output WorkspaceId) (order : List WorkspaceId)
    (output : Output) (manager : M) : List (Handle M) :=
  ((HashMap.values s.workspaces order).filter fun ws => ws.output = some output).flatMap fun ws =>
    instancesOf manager ws.instances

/-- `refresh_workspace_group`, with the orders of the manager instances and of the workspaces. -/
def refreshWorkspaceGroup (managers : List M) (order : List WorkspaceId)
    (s : ExtWorkspaceManagerState M Output WorkspaceId) (output : Output) :
    ExtWorkspaceManagerState M Output WorkspaceId × Bool :=
  if output ∈ s.workspaceGroups then (s, false)
  else
    let (data, display) := GroupData.addInstances managers { instances := [] } s.display
    let display := data.instances.foldl (fun display group =>
      (s.instancesOn order output group.manager).foldl (fun display workspace =>
        display.send group.manager (.workspaceEnter group.id workspace.id)) display) display
    ({ s with display, workspaceGroups := s.workspaceGroups.insert output data }, true)

variable (layout : Layout Output WorkspaceId)

/-- A workspace is retained where the layout has it. -/
def retainWorkspace (s : ExtWorkspaceManagerState M Output WorkspaceId) (id : WorkspaceId) :
    ExtWorkspaceManagerState M Output WorkspaceId × Bool :=
  match s.workspaces.lookup id with
  | none => (s, false)
  | some data =>
    if id ∈ layout.workspaces.map LayoutWorkspace.id then (s, false)
    else
      let display := removeWorkspaceInstances s.workspaceGroups data s.display
      ({ s with display, workspaces := s.workspaces.erase id }, true)

/-- A group is retained where its output is there. -/
def retainGroup (order : List WorkspaceId) (s : ExtWorkspaceManagerState M Output WorkspaceId)
    (output : Output) : ExtWorkspaceManagerState M Output WorkspaceId × Bool :=
  match s.workspaceGroups.lookup output with
  | none => (s, false)
  | some data =>
    if output ∈ layout.sortedOutputs then (s, false)
    else
      let display := data.instances.foldl (fun display group =>
        let display := (s.instancesOn order output group.manager).foldl (fun display workspace =>
          display.send group.manager (.workspaceLeave group.id workspace.id)) display
        display.send group.manager (.groupRemoved group.id)) s.display
      ({ s with display, workspaceGroups := s.workspaceGroups.erase output }, true)

end ExtWorkspaceManagerState

/-- The loop of `refresh` over a list, with whether anything changed. -/
def refreshEach {α σ : Type} (f : σ → α → σ × Bool) (l : List α) (acc : σ × Bool) : σ × Bool :=
  l.foldl (fun acc a => ((f acc.1 a).1, acc.2 || (f acc.1 a).2)) acc

/-- The orders in which the hash maps are iterated in a refresh. -/
structure Order (M Output WorkspaceId : Type) where
  managers : List M
  workspaces : List WorkspaceId
  groups : List Output
  /-- The workspaces after they are refreshed. -/
  updated : List WorkspaceId

/-- The orders have the keys of the maps. -/
structure Order.Valid (s : ExtWorkspaceManagerState M Output WorkspaceId)
    (layout : Layout Output WorkspaceId) (order : Order M Output WorkspaceId) : Prop where
  managers : order.managers.Nodup ∧ order.managers.toFinset = s.instances
  workspaces : order.workspaces.Nodup ∧ order.workspaces.toFinset = s.workspaces.keys
  groups : order.groups.Nodup ∧ order.groups.toFinset = s.workspaceGroups.keys
  updated : order.updated.Perm (layout.workspaces.map LayoutWorkspace.id)

instance (s : ExtWorkspaceManagerState M Output WorkspaceId) (layout : Layout Output WorkspaceId)
    (order : Order M Output WorkspaceId) : Decidable (order.Valid s layout) :=
  decidable_of_iff
    ((order.managers.Nodup ∧ order.managers.toFinset = s.instances) ∧
      (order.workspaces.Nodup ∧ order.workspaces.toFinset = s.workspaces.keys) ∧
      (order.groups.Nodup ∧ order.groups.toFinset = s.workspaceGroups.keys) ∧
      order.updated.Perm (layout.workspaces.map LayoutWorkspace.id))
    ⟨fun ⟨h₁, h₂, h₃, h₄⟩ => ⟨h₁, h₂, h₃, h₄⟩, fun ⟨h₁, h₂, h₃, h₄⟩ => ⟨h₁, h₂, h₃, h₄⟩⟩

namespace ExtWorkspaceManagerState

variable (s : ExtWorkspaceManagerState M Output WorkspaceId)

def refresh (layout : Layout Output WorkspaceId) (order : Order M Output WorkspaceId) :
    ExtWorkspaceManagerState M Output WorkspaceId :=
  -- Remove workspaces that no longer exist (sending workspace_leave to workspace groups).
  let acc := refreshEach (retainWorkspace layout) order.workspaces (s, false)
  -- Remove workspace groups for outputs that no longer exist.
  let acc := refreshEach (retainGroup layout order.workspaces) order.groups acc
  -- Update existing workspaces and create new ones.
  let acc := refreshEach (refreshWorkspace order.managers) layout.workspaces acc
  -- Update workspace groups and create new ones, sending workspace_enter events as needed.
  let (s, changed) :=
    refreshEach (refreshWorkspaceGroup order.managers order.updated) layout.sortedOutputs acc
  if changed then
    let display := order.managers.foldl (fun display manager => display.send manager .done) s.display
    { s with display }
  else s

/-- One workspace of `bind`: its instance for the manager, and the new workspaces by their
outputs. -/
def bindWorkspace (manager : M)
    (acc : ExtWorkspaceManagerState M Output WorkspaceId × HashMap Output (List (Handle M)))
    (id : WorkspaceId) :
    ExtWorkspaceManagerState M Output WorkspaceId × HashMap Output (List (Handle M)) :=
  match acc.1.workspaces.lookup id with
  | none => acc
  | some data =>
    let (workspace, data, display) := data.addInstance acc.1.display manager
    let workspaces := acc.1.workspaces.insert id data
    ({ acc.1 with display, workspaces },
      match data.output with
      | none => acc.2
      | some output => acc.2.insert output ((acc.2.lookup output).getD [] ++ [workspace]))

/-- One group of `bind`. -/
def bindGroup (manager : M) (newWorkspaces : HashMap Output (List (Handle M)))
    (s : ExtWorkspaceManagerState M Output WorkspaceId) (output : Output) :
    ExtWorkspaceManagerState M Output WorkspaceId :=
  match s.workspaceGroups.lookup output with
  | none => s
  | some data =>
    let (group, data, display) := data.addInstance s.display manager
    let display := ((newWorkspaces.lookup output).getD []).foldl (fun display workspace =>
      display.send manager (.workspaceEnter group.id workspace.id)) display
    { s with display, workspaceGroups := s.workspaceGroups.insert output data }

/-- `bind`, of a new manager, with the orders of the workspaces and of the groups. -/
def bind (manager : M) (workspaces : List WorkspaceId) (groups : List Output) :
    ExtWorkspaceManagerState M Output WorkspaceId :=
  let display := s.display.modify manager fun _ => Client.new
  let (s, newWorkspaces) := workspaces.foldl (bindWorkspace manager) ({ s with display }, ∅)
  let s := groups.foldl (bindGroup manager newWorkspaces) s
  let display := s.display.send manager .done
  { s with display, instances := insert manager s.instances }

/-- The `Stop` request. -/
def stop (manager : M) : ExtWorkspaceManagerState M Output WorkspaceId :=
  { s with
    instances := s.instances.erase manager
    workspaceGroups := HashMap.mapValues (fun data =>
      let instances := data.instances.filter fun handle => handle.manager ≠ manager
      { data with instances }) s.workspaceGroups
    workspaces := HashMap.mapValues (fun data =>
      let instances := data.instances.filter fun handle => handle.manager ≠ manager
      { data with instances }) s.workspaces }

end ExtWorkspaceManagerState

/-! ## Runs -/

/-- The state of the protocol, and the layout of the last refresh. -/
structure World (M Output WorkspaceId : Type) where
  state : ExtWorkspaceManagerState M Output WorkspaceId
  layout : Layout Output WorkspaceId

/-- What happens, with the orders in which the hash maps are iterated. -/
inductive Step (M Output WorkspaceId : Type)
  | refresh (layout : Layout Output WorkspaceId) (order : Order M Output WorkspaceId)
  | bind (manager : M) (workspaces : List WorkspaceId) (groups : List Output)
  | stop (manager : M)

namespace World

/-- No manager is bound, and nothing was refreshed. -/
def start : World M Output WorkspaceId where
  state :=
    { display := { nextHandle := 0, clients := fun _ => Client.new }
      instances := ∅
      workspaceGroups := ∅
      workspaces := ∅ }
  layout := Layout.empty Output WorkspaceId

/-- What a step does, where it can happen. -/
def step (w : World M Output WorkspaceId) :
    Step M Output WorkspaceId → Option (World M Output WorkspaceId)
  | .refresh layout order =>
    if order.Valid w.state layout then some { state := w.state.refresh layout order, layout }
    else none
  | .bind manager workspaces groups =>
    if manager ∉ w.state.instances ∧
        (workspaces.Nodup ∧ workspaces.toFinset = w.state.workspaces.keys) ∧
        (groups.Nodup ∧ groups.toFinset = w.state.workspaceGroups.keys) then
      some { w with state := w.state.bind manager workspaces groups }
    else none
  | .stop manager => some { w with state := w.state.stop manager }

end World

end Tiri.Protocols.ExtWorkspace
