import Tiri.Lib.HashMap
import Tiri.Protocols.HeadView

/-!
# The wlr-output-management protocol

`src/protocols/output_management.rs`: how the outputs are kept up with the clients that have bound
the manager, and how the clients configure them.

The serial is a `u32`, and its overflow is a panic.
-/

namespace Tiri.Protocols.OutputManagement

/-- `i32::MAX`. -/
def i32Max : ℕ := 2147483647

/-- `u32::MAX`. -/
def u32Max : ℕ := 4294967295

def VERSION : ℕ := 4

def evtMakeSince : ℕ := 2

def evtModelSince : ℕ := 2

def evtSerialNumberSince : ℕ := 2

def evtAdaptiveSyncSince : ℕ := 4

/-! ## Resources -/

/-- `zwlr_output_configuration_v1::Error`. -/
inductive ConfigurationError
  | alreadyConfiguredHead
  | unconfiguredHead
  | alreadyUsed

/-- The events of `zwlr_output_configuration_v1`, with the errors that are posted on it. -/
inductive ConfigurationEvent
  | succeeded
  | failed
  | cancelled
  | error (code : ConfigurationError) (message : String)

/-- `zwlr_output_configuration_head_v1::Error`. -/
inductive ConfigurationHeadError
  | alreadySet
  | invalidMode
  | invalidCustomMode
  | invalidTransform
  | invalidScale
  | invalidAdaptiveSyncState

/-- `ZwlrOutputHeadV1`. -/
structure Head where
  id : ℕ
  version : ℕ

/-- `ZwlrOutputConfigurationV1`, whose data is the serial it was created with. -/
structure Configuration where
  id : ℕ
  serial : ℕ

/-- `ZwlrOutputManagerV1`: it creates resources for its client and passes events on to it.  The
client takes the heads as they are at a `done`. -/
structure Manager where
  version : ℕ
  nextId : ℕ
  pending : View
  current : View
  doneSerial : Option ℕ
  isFinished : Bool
  /-- What was sent on each configuration. -/
  configurations : ℕ → List ConfigurationEvent
  /-- What was posted on each head of a configuration. -/
  configurationHeads : ℕ → List (ConfigurationHeadError × String)

/-- A manager that was just bound. -/
def Manager.new (version : ℕ) : Manager where
  version := version
  nextId := 0
  pending := fun _ => none
  current := fun _ => none
  doneSerial := none
  isFinished := false
  configurations := fun _ => []
  configurationHeads := fun _ => []

/-- An event of the manager. -/
def Manager.send (manager : Manager) (event : ManagerEvent) : Manager :=
  { manager with
    pending := manager.pending.manager event
    current := match event with
      | .done _ => manager.pending
      | _ => manager.current
    doneSerial := match event with
      | .done serial => some serial
      | _ => manager.doneSerial
    isFinished := manager.isFinished || decide (event = .finished) }

inductive OutputConfigurationState (OutputId : Type)
  | ongoing (config : HashMap OutputId NiriConfig.Output)
  | finished

inductive OutputConfigurationHeadState (OutputId : Type)
  | cancelled
  | ok (output : OutputId) (conf : Configuration)

structure ClientData (OutputId : Type) where
  heads : HashMap OutputId (Head × List ℕ)
  confs : HashMap ℕ (OutputConfigurationState OutputId)
  manager : Manager

structure OutputManagementManagerState (OutputId ClientId : Type) where
  serial : ℕ
  clients : HashMap ClientId (ClientData OutputId)
  currentState : HashMap OutputId NiriIpc.Output
  currentConfig : NiriConfig.Outputs

variable {OutputId ClientId : Type}

namespace ClientData

variable (data : ClientData OutputId)

/-- `manager.head`, `manager.done`, `manager.finished`. -/
def send (event : ManagerEvent) : ClientData OutputId :=
  { data with manager := data.manager.send event }

/-- An event of a head. -/
def sendHead (head : Head) (event : HeadEvent) : ClientData OutputId :=
  { data with manager.pending := data.manager.pending.head head.id event }

/-- Events of a head, one after the other. -/
def sendHeads (head : Head) (events : List HeadEvent) : ClientData OutputId :=
  events.foldl (fun data event => data.sendHead head event) data

/-- An event of a mode. -/
def sendMode (mode : ℕ) (event : ModeEvent) : ClientData OutputId :=
  { data with manager.pending := data.manager.pending.mode mode event }

/-- An event of a configuration. -/
def sendConfiguration (conf : ℕ) (event : ConfigurationEvent) : ClientData OutputId :=
  let configurations := data.manager.configurations
  { data with
    manager.configurations :=
      Function.update configurations conf (configurations conf ++ [event]) }

/-- An error of a head of a configuration. -/
def postHeadError (confHead : ℕ) (code : ConfigurationHeadError) (message : String) :
    ClientData OutputId :=
  let configurationHeads := data.manager.configurationHeads
  { data with
    manager.configurationHeads := Function.update configurationHeads confHead
      (configurationHeads confHead ++ [(code, message)]) }

def createResource : ℕ × ClientData OutputId :=
  (data.manager.nextId, { data with manager.nextId := data.manager.nextId + 1 })

/-- The refresh rate is sent where it is an `i32`. -/
def sendRefresh (wlMode : ℕ) (mode : NiriIpc.Mode) : ClientData OutputId :=
  if mode.refreshRate ≤ i32Max then data.sendMode wlMode (.refresh mode.refreshRate) else data

/-- `wl_mode.size` and `wl_mode.refresh`. -/
def sendSize (wlMode : ℕ) (mode : NiriIpc.Mode) : ClientData OutputId :=
  (data.sendMode wlMode (.size mode.width mode.height)).sendRefresh wlMode mode

variable [DecidableEq OutputId]

variable (output : OutputId)

/-- `if let Some((head, modes)) = client.heads.get(output)`. -/
def withHead (f : Head → List ℕ → ClientData OutputId → ClientData OutputId)
    (data : ClientData OutputId) : ClientData OutputId :=
  match data.heads.lookup output with
  | some (head, modes) => f head modes data
  | none => data

/-! ## New and removed heads -/

variable (conf : NiriIpc.Output)

/-- A mode of a new head. -/
def sendNewMode (newHead : Head) (acc : ClientData OutputId × List ℕ) (entry : NiriIpc.Mode × ℕ) :
    ClientData OutputId × List ℕ :=
  let (data, newModes) := acc
  let (mode, index) := entry
  let (newMode, data) := data.createResource
  let data := data.sendHead newHead (.mode newMode)
  let data := data.sendMode newMode (.size mode.width mode.height)
  let data := if mode.isPreferred then data.sendMode newMode .preferred else data
  let data := data.sendRefresh newMode mode
  let data :=
    if some index = conf.currentMode then data.sendHead newHead (.currentMode newMode) else data
  (data, newModes ++ [newMode])

/-- What is told of a new head before its modes. -/
def introductionEvents : List HeadEvent :=
  -- Format matches what Output::new() does internally.
  let make := conf.make
  let model := conf.model
  let name := conf.name
  [.name conf.name, .description s!"{make} - {model} - {name}"] ++ match conf.physicalSize with
    | some (width, height) =>
      if width ≤ i32Max ∧ height ≤ i32Max then [.physicalSize width height] else []
    | none => []

/-- Where a new logical output is, and how it is scaled and transformed. -/
def logicalEvents (logical : NiriIpc.LogicalOutput) : List HeadEvent :=
  [.position logical.x logical.y, .transform logical.transform, .scale logical.scale]

variable (version : ℕ)

/-- Adaptive sync is told to a head that knows of it. -/
def adaptiveSyncEvents (conf : NiriIpc.Output) : List HeadEvent :=
  if evtAdaptiveSyncSince ≤ version then [.adaptiveSync conf.vrrEnabled] else []

/-- Make, model and serial are told to a head that knows of them. -/
def identityEvents (conf : NiriIpc.Output) : List HeadEvent :=
  (if evtMakeSince ≤ version then [.make conf.make] else []) ++
  (if evtModelSince ≤ version then [.model conf.model] else []) ++
  if evtSerialNumberSince ≤ version then
    match conf.serial with
    | some serial => [.serialNumber serial]
    | none => []
  else []

/-- What is told of a new head after its modes. -/
def descriptionEvents (conf : NiriIpc.Output) : List HeadEvent :=
  (match conf.logical with
    | some logical => logicalEvents logical
    | none => []) ++
  [.enabled conf.currentMode.isSome] ++ identityEvents version conf ++
  adaptiveSyncEvents version conf

def sendNewHead (conf : NiriIpc.Output) (data : ClientData OutputId) : ClientData OutputId :=
  let (id, data) := data.createResource
  let newHead : Head := { id, version := data.manager.version }
  let data := data.send (.head newHead.id)
  let data := data.sendHeads newHead (introductionEvents conf)
  let (data, newModes) := conf.modes.zipIdx.foldl (sendNewMode conf newHead) (data, [])
  let data := data.sendHeads newHead (descriptionEvents newHead.version conf)
  { data with heads := data.heads.insert output (newHead, newModes) }

/-- A client that binds the manager is told of an output that is there. -/
def sendOutput (currentState : HashMap OutputId NiriIpc.Output) (data : ClientData OutputId)
    (output : OutputId) : ClientData OutputId :=
  match currentState.lookup output with
  | some conf => data.sendNewHead output conf
  | none => data

/-- The body of `notify_removed_head`. -/
def removeHead (data : ClientData OutputId) : ClientData OutputId :=
  data.withHead output fun head mods data =>
    let data := { data with heads := data.heads.erase output }
    let data := mods.foldl (fun data m => data.sendMode m .finished) data
    data.sendHead head .finished

/-! ## Changes of a head -/

/-- Adaptive sync is sent to a head that knows of it. -/
def sendAdaptiveSync (conf : NiriIpc.Output) (data : ClientData OutputId) : ClientData OutputId :=
  data.withHead output fun head _ data =>
    data.sendHeads head (adaptiveSyncEvents head.version conf)

/-- A mode was added. -/
def addMode (head : Head) (acc : ClientData OutputId × List ℕ) (mode : NiriIpc.Mode) :
    ClientData OutputId × List ℕ :=
  let (data, modes) := acc
  let (newMode, data) := data.createResource
  let data := data.sendHead head (.mode newMode)
  (data.sendSize newMode mode, modes ++ [newMode])

/-- The modes are patched: those that are there change, and the rest are added or removed. -/
def patchModes (conf : NiriIpc.Output) (data : ClientData OutputId) : ClientData OutputId :=
  data.withHead output fun head modes data =>
    -- Ends on the shortest list.
    let zwlrModesWithModes := modes.zip conf.modes
    let leastModesLen := zwlrModesWithModes.length
    let data := zwlrModesWithModes.foldl (fun data entry => data.sendSize entry.1 entry.2) data
    if leastModesLen < conf.modes.length then
      -- One or more modes were added.
      let (data, modes) := (conf.modes.drop leastModesLen).foldl (addMode head) (data, modes)
      { data with heads := data.heads.insert output (head, modes) }
    else if leastModesLen < modes.length then
      -- One or more modes were removed.
      let data := (modes.drop leastModesLen).foldl (fun data m => data.sendMode m .finished) data
      { data with heads := data.heads.insert output (head, modes.take leastModesLen) }
    else data

/-- `head.current_mode`, where the client has the mode. -/
def sendCurrentMode (newIndex : ℕ) (data : ClientData OutputId) : ClientData OutputId :=
  data.withHead output fun head modes data =>
    match modes[newIndex]? with
    | some newMode => data.sendHead head (.currentMode newMode)
    | none => data

/-- What changed of the logical output. -/
def logicalChangeEvents (oldLogical newLogical : NiriIpc.LogicalOutput) : List HeadEvent :=
  (if oldLogical.x ≠ newLogical.x ∨ oldLogical.y ≠ newLogical.y then
    [.position newLogical.x newLogical.y]
  else []) ++
  (if oldLogical.scale ≠ newLogical.scale then [.scale newLogical.scale] else []) ++
  if oldLogical.transform ≠ newLogical.transform then [.transform newLogical.transform] else []

/-- Events of the head of an output. -/
def sendHeadsOf (events : List HeadEvent) (data : ClientData OutputId) : ClientData OutputId :=
  data.withHead output fun head _ data => data.sendHeads head events

/-- The changes are done: `manager.done`, and the configurations are cancelled. -/
def finishChange (serial : ℕ) (data : ClientData OutputId) : ClientData OutputId :=
  let data := data.send (.done serial)
  let configurations := data.manager.configurations
  { data with
    manager.configurations := fun conf =>
      if conf ∈ data.confs then configurations conf ++ [.cancelled] else configurations conf }

end ClientData

/-! ## Changes of the outputs -/

variable [DecidableEq OutputId] [DecidableEq ClientId]

/-- The clients, and whether anything changed. -/
abbrev Changes (OutputId ClientId : Type) := HashMap ClientId (ClientData OutputId) × Bool

namespace Changes

/-- Something changed, and each client is told. -/
def tell (acc : Changes OutputId ClientId) (f : ClientData OutputId → ClientData OutputId) :
    Changes OutputId ClientId :=
  (HashMap.mapValues f acc.1, true)

variable (output : OutputId)

/-- Variable refresh rate. -/
def diffVrr (old conf : NiriIpc.Output) (acc : Changes OutputId ClientId) :
    Changes OutputId ClientId :=
  if old.vrrEnabled ≠ conf.vrrEnabled then acc.tell (ClientData.sendAdaptiveSync output conf)
  else acc

/-- The modes. -/
def diffModes (old conf : NiriIpc.Output) (acc : Changes OutputId ClientId) :
    Changes OutputId ClientId :=
  if old.modes ≠ conf.modes then acc.tell (ClientData.patchModes output conf) else acc

/-- The current mode. -/
def diffCurrentMode (old conf : NiriIpc.Output) (acc : Changes OutputId ClientId) :
    Changes OutputId ClientId :=
  match old.currentMode, conf.currentMode with
  | some oldIndex, some newIndex =>
    if old.modes.length = conf.modes.length ∧ (old.modes ≠ conf.modes ∨ oldIndex ≠ newIndex) then
      acc.tell (ClientData.sendCurrentMode output newIndex)
    else acc
  | some _, none => acc.tell (ClientData.sendHeadsOf output [.enabled false])
  | none, some newIndex =>
    if old.modes.length = conf.modes.length then
      acc.tell fun data =>
        (data.sendHeadsOf output [.enabled true]).sendCurrentMode output newIndex
    else acc
  | none, none => acc

/-- The logical output. -/
def diffLogical (old conf : NiriIpc.Output) (acc : Changes OutputId ClientId) :
    Changes OutputId ClientId :=
  match old.logical, conf.logical with
  | some oldLogical, some newLogical =>
    if oldLogical ≠ newLogical then
      acc.tell (ClientData.sendHeadsOf output
        (ClientData.logicalChangeEvents oldLogical newLogical))
    else acc
  -- The head is enabled with the modes.
  | none, some newLogical =>
    acc.tell (ClientData.sendHeadsOf output (ClientData.logicalEvents newLogical))
  -- The head is disabled with the modes.
  | some _, none => acc
  | none, none => acc

/-- An output of the new state. -/
def notifyOutput (currentState : HashMap OutputId NiriIpc.Output) (output : OutputId)
    (conf : NiriIpc.Output) (acc : Changes OutputId ClientId) : Changes OutputId ClientId :=
  match currentState.lookup output with
  | some old =>
    let acc := acc.diffVrr output old conf
    let acc := acc.diffModes output old conf
    let acc := acc.diffCurrentMode output old conf
    acc.diffLogical output old conf
  | none => acc.tell (ClientData.sendNewHead output conf)

end Changes

namespace OutputManagementManagerState

variable (s : OutputManagementManagerState OutputId ClientId)

/-- What the clients are told of the new state, with the orders in which it and the current state
are iterated. -/
def changes (newState : HashMap OutputId NiriIpc.Output) (newOrder oldOrder : List OutputId) :
    Changes OutputId ClientId :=
  let acc := newOrder.foldl (fun acc output =>
    match newState.lookup output with
    | some conf => Changes.notifyOutput s.currentState output conf acc
    | none => acc) (s.clients, false)
  oldOrder.foldl (fun acc old =>
    if old ∈ newState then acc else acc.tell (ClientData.removeHead old)) acc

def notifyChanges (newState : HashMap OutputId NiriIpc.Output) (newOrder oldOrder : List OutputId) :
    Option (OutputManagementManagerState OutputId ClientId) :=
  let (clients, changed) := s.changes newState newOrder oldOrder
  if changed then
    let serial := s.serial + 1
    if serial ≤ u32Max then
      some { s with
        currentState := newState
        serial
        clients := HashMap.mapValues (ClientData.finishChange serial) clients }
    else none
  else some { s with clients }

/-- `bind`, with the order in which the current state is iterated. -/
def bind (client : ClientId) (version : ℕ) (order : List OutputId) :
    OutputManagementManagerState OutputId ClientId :=
  let clientData : ClientData OutputId :=
    { heads := ∅, confs := ∅, manager := Manager.new version }
  let clientData := order.foldl (ClientData.sendOutput s.currentState) clientData
  { s with clients := s.clients.insert client (clientData.send (.done s.serial)) }

end OutputManagementManagerState

end Tiri.Protocols.OutputManagement
