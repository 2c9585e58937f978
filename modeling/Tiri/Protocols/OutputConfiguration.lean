import Tiri.Protocols.OutputManagement

/-!
# Output configurations

The requests on `zwlr_output_configuration_v1` and on its heads: a configuration collects the heads
that a client enables or disables, and is applied or tested once.
-/

namespace Tiri.Protocols.OutputManagement

variable {OutputId ClientId : Type}

/-- The requests of `zwlr_output_configuration_head_v1`.  A value that the protocol does not know is
`none`. -/
inductive ConfigurationHeadRequest
  | setMode (mode : ℕ)
  | setCustomMode (width height refresh : ℤ)
  | setPosition (x y : ℤ)
  | setTransform (transform : Option NiriIpc.Transform)
  | setScale (scale : ℚ)
  | setAdaptiveSync (state : Option Bool)

namespace ClientData

variable [DecidableEq OutputId]

/-- What a request of a head makes of its entry, or the error that is posted instead.  Without an
entry the request is ignored. -/
def setHead (data : ClientData OutputId) (currentState : HashMap OutputId NiriIpc.Output)
    (output : OutputId) (newConfig : NiriConfig.Output) :
    ConfigurationHeadRequest →
    Except (ConfigurationHeadError × String) (Option NiriConfig.Output)
  | .setMode mode =>
    match (data.heads.lookup output).bind fun entry => entry.2.findIdx? fun m => m = mode with
    | none => .error (.invalidMode, "failed to find requested mode")
    | some index =>
      match (currentState.lookup output).bind fun currentConfig => currentConfig.modes[index]? with
      | none => .ok none
      | some mode => .ok (some { newConfig with
          mode := some ⟨false, ⟨mode.width, mode.height, some mode.refreshRate⟩⟩
          modeline := none })
  | .setCustomMode width height refresh =>
    if 0 ≤ width ∧ width < 65536 ∧ 0 ≤ height ∧ height < 65536 ∧ 0 < refresh then
      .ok (some { newConfig with
        mode := some ⟨true, ⟨width.toNat, height.toNat, some refresh.toNat⟩⟩
        modeline := none })
    else .ok none
  | .setPosition x y => .ok (some { newConfig with position := some (x, y) })
  | .setTransform none => .error (.invalidTransform, "unknown transform value")
  | .setTransform (some transform) => .ok (some { newConfig with transform })
  | .setScale scale =>
    if scale ≤ 0 then .error (.invalidScale, "scale is negative or zero")
    else .ok (some { newConfig with scale := some scale })
  | .setAdaptiveSync none => .error (.invalidAdaptiveSyncState, "unknown adaptive sync value")
  | .setAdaptiveSync (some enabled) =>
    .ok (some { newConfig with
      variableRefreshRate := if enabled then some ⟨false⟩ else none })

end ClientData

variable [DecidableEq OutputId] [DecidableEq ClientId]

namespace OutputManagementManagerState

variable (s : OutputManagementManagerState OutputId ClientId)

/-- The data of a client changes, where it has any. -/
def modifyClient (client : ClientId) (f : ClientData OutputId → ClientData OutputId) :
    OutputManagementManagerState OutputId ClientId :=
  match s.clients.lookup client with
  | some data => { s with clients := s.clients.insert client (f data) }
  | none => s

/-- An event of a configuration, for a client that has data. -/
def sendConfiguration (client : ClientId) (conf : Configuration) (event : ConfigurationEvent) :
    OutputManagementManagerState OutputId ClientId :=
  s.modifyClient client fun data => data.sendConfiguration conf.id event

/-- The state of a configuration of a client. -/
def conf (client : ClientId) (id : ℕ) : Option (OutputConfigurationState OutputId) :=
  (s.clients.lookup client).bind fun data => data.confs.lookup id

/-- The state of a configuration changes. -/
def setConf (client : ClientId) (id : ℕ) (state : OutputConfigurationState OutputId) :
    OutputManagementManagerState OutputId ClientId :=
  s.modifyClient client fun data => { data with confs := data.confs.insert id state }

/-- `CreateConfiguration`. -/
def createConfiguration (client : ClientId) (conf : Configuration) :
    OutputManagementManagerState OutputId ClientId :=
  let s := if conf.serial ≠ s.serial then s.sendConfiguration client conf .cancelled else s
  s.setConf client conf.id (.ongoing ∅)

/-- `Stop` and `destroyed`: the data of the client goes. -/
def removeClient (client : ClientId) : OutputManagementManagerState OutputId ClientId :=
  { s with clients := s.clients.erase client }

/-- A head is destroyed by its client. -/
def destroyHead (client : ClientId) (output : OutputId) :
    OutputManagementManagerState OutputId ClientId :=
  s.modifyClient client fun data => { data with heads := data.heads.erase output }

def onConfigChanged (newConfig : NiriConfig.Outputs) :
    OutputManagementManagerState OutputId ClientId :=
  { s with currentConfig := newConfig }

/-- What a head of a configuration starts from: its entry in the config, or a new one. -/
def configFor (currentConfig : NiriIpc.Output) : NiriConfig.Output :=
  let name := NiriConfig.OutputName.fromIpcOutput currentConfig
  (s.currentConfig.find name).getD
    (NiriConfig.Output.named name.formatMakeModelSerialOrConnector)

/-- `EnableHead`, with the output of the head, and the data of the new head of the
configuration. -/
def enableHead (client : ClientId) (conf : Configuration) (head : Option OutputId) :
    OutputManagementManagerState OutputId ClientId × OutputConfigurationHeadState OutputId :=
  match head with
  | none => (s, .cancelled)
  | some output =>
    if conf.serial ≠ s.serial then (s, .cancelled)
    else
      match s.conf client conf.id with
      | none => (s, .cancelled)
      | some .finished =>
        (s.sendConfiguration client conf
          (.error .alreadyUsed "configuration had already been used"), .cancelled)
      | some (.ongoing newConfig) =>
        match s.currentState.lookup output with
        | none => (s, .cancelled)
        | some currentConfig =>
          if output ∈ newConfig then
            (s.sendConfiguration client conf
              (.error .alreadyConfiguredHead "head has been already configured"), .cancelled)
          else
            let config := { s.configFor currentConfig with off := false }
            (s.setConf client conf.id (.ongoing (newConfig.insert output config)), .ok output conf)

/-- `DisableHead`, with the output of the head. -/
def disableHead (client : ClientId) (conf : Configuration) (head : Option OutputId) :
    OutputManagementManagerState OutputId ClientId :=
  if conf.serial ≠ s.serial then s
  else
    match head with
    | none => s
    | some output =>
      match s.conf client conf.id with
      | none => s
      | some .finished =>
        s.sendConfiguration client conf
          (.error .alreadyUsed "configuration had already been used")
      | some (.ongoing newConfig) =>
        match s.currentState.lookup output with
        | none => s
        | some currentConfig =>
          if output ∈ newConfig then
            s.sendConfiguration client conf
              (.error .alreadyConfiguredHead "head has been already configured")
          else
            let config := { s.configFor currentConfig with off := true }
            s.setConf client conf.id (.ongoing (newConfig.insert output config))

/-- `new_config.values().any(|c| !c.off)`. -/
def anyEnabled (newConfig : HashMap OutputId NiriConfig.Output) : Bool :=
  !HashMap.all (fun c => c.off) newConfig

/-- `Apply`, and the config that `apply_output_config` is called with. -/
def apply (client : ClientId) (conf : Configuration) (order : List OutputId) :
    OutputManagementManagerState OutputId ClientId × Option (HashMap OutputId NiriConfig.Output) :=
  if conf.serial ≠ s.serial then (s.sendConfiguration client conf .cancelled, none)
  else
    match s.conf client conf.id with
    | none => (s, none)
    | some .finished =>
      (s.sendConfiguration client conf
        (.error .alreadyUsed "configuration had already been used"), none)
    | some (.ongoing newConfig) =>
      let s := s.setConf client conf.id .finished
      if anyEnabled newConfig then
        -- The config of the outputs becomes the one that is applied.
        let s := s.onConfigChanged (HashMap.values newConfig order)
        (s.sendConfiguration client conf .succeeded, some newConfig)
      else (s.sendConfiguration client conf .failed, none)

def test (client : ClientId) (conf : Configuration) :
    OutputManagementManagerState OutputId ClientId :=
  if conf.serial ≠ s.serial then s.sendConfiguration client conf .cancelled
  else
    match s.conf client conf.id with
    | none => s
    | some .finished =>
      s.sendConfiguration client conf
        (.error .alreadyUsed "configuration had already been used")
    | some (.ongoing newConfig) =>
      let s := s.setConf client conf.id .finished
      if anyEnabled newConfig then s.sendConfiguration client conf .succeeded
      else s.sendConfiguration client conf .failed

def destroy (client : ClientId) (conf : Configuration) :
    OutputManagementManagerState OutputId ClientId :=
  s.modifyClient client fun data => { data with confs := data.confs.erase conf.id }

/-- A request on a head of a configuration. -/
def headRequest (client : ClientId) (confHead : ℕ) (data : OutputConfigurationHeadState OutputId)
    (request : ConfigurationHeadRequest) : OutputManagementManagerState OutputId ClientId :=
  match s.clients.lookup client, data with
  | some clientData, .ok output conf =>
    if conf.serial ≠ s.serial then s
    else
      match clientData.confs.lookup conf.id with
      | none => s
      | some .finished =>
        s.sendConfiguration client conf
          (.error .alreadyUsed "configuration had already been used")
      | some (.ongoing newConfig) =>
        match newConfig.lookup output with
        | none => s
        | some config =>
          match clientData.setHead s.currentState output config request with
          | .ok none => s
          | .ok (some config) =>
            s.setConf client conf.id (.ongoing (newConfig.insert output config))
          | .error (code, message) =>
            s.modifyClient client fun data => data.postHeadError confHead code message
  | _, _ => s

end OutputManagementManagerState

/-! ## Runs -/

/-- The state of the protocol, with the objects that the clients hold. -/
structure World (OutputId ClientId : Type) where
  state : OutputManagementManagerState OutputId ClientId
  /-- The configurations, by whom they are held and the serial they were created with. -/
  confs : HashMap ℕ (ClientId × ℕ)
  /-- The heads of configurations. -/
  confHeads : HashMap ℕ (ClientId × OutputConfigurationHeadState OutputId)
  /-- The configurations that were ever created. -/
  created : Finset ℕ

/-- What happens, with the orders in which the hash maps are iterated. -/
inductive Event (OutputId ClientId : Type)
  | notifyChanges (newState : HashMap OutputId NiriIpc.Output) (newOrder oldOrder : List OutputId)
  | onConfigChanged (newConfig : NiriConfig.Outputs)
  | bind (client : ClientId) (version : ℕ) (order : List OutputId)
  | removeClient (client : ClientId)
  | destroyHead (client : ClientId) (output : OutputId)
  | createConfiguration (client : ClientId) (id serial : ℕ)
  | enableHead (id confHead : ℕ) (head : Option OutputId)
  | disableHead (id : ℕ) (head : Option OutputId)
  | apply (id : ℕ) (order : List OutputId)
  | test (id : ℕ)
  | destroy (id : ℕ)
  | headRequest (confHead : ℕ) (request : ConfigurationHeadRequest)

namespace World

/-- There are no outputs and no clients yet. -/
def start : World OutputId ClientId where
  state := ⟨0, ∅, ∅, []⟩
  confs := ∅
  confHeads := ∅
  created := ∅

variable (w : World OutputId ClientId)

/-- What an event does, where it can happen. -/
def step : Event OutputId ClientId → Option (World OutputId ClientId)
  | .notifyChanges newState newOrder oldOrder =>
    if HashMap.Lists newOrder newState ∧ HashMap.Lists oldOrder w.state.currentState then
      (w.state.notifyChanges newState newOrder oldOrder).map fun state => { w with state }
    else none
  | .onConfigChanged newConfig => some { w with state := w.state.onConfigChanged newConfig }
  | .bind client version order =>
    if HashMap.Lists order w.state.currentState then
      some { w with state := w.state.bind client version order }
    else none
  | .removeClient client => some { w with state := w.state.removeClient client }
  | .destroyHead client output => some { w with state := w.state.destroyHead client output }
  | .createConfiguration client id serial =>
    if id ∉ w.created then
      some { w with
        state := w.state.createConfiguration client ⟨id, serial⟩
        confs := w.confs.insert id (client, serial)
        created := insert id w.created }
    else none
  | .enableHead id confHead head =>
    (w.confs.lookup id).bind fun (client, serial) =>
      if confHead ∉ w.confHeads then
        let (state, data) := w.state.enableHead client ⟨id, serial⟩ head
        some { w with state, confHeads := w.confHeads.insert confHead (client, data) }
      else none
  | .disableHead id head =>
    (w.confs.lookup id).map fun (client, serial) =>
      { w with state := w.state.disableHead client ⟨id, serial⟩ head }
  | .apply id order =>
    (w.confs.lookup id).map fun (client, serial) =>
      { w with state := (w.state.apply client ⟨id, serial⟩ order).1 }
  | .test id =>
    (w.confs.lookup id).map fun (client, serial) =>
      { w with state := w.state.test client ⟨id, serial⟩ }
  | .destroy id =>
    (w.confs.lookup id).map fun (client, serial) =>
      { w with
        state := w.state.destroy client ⟨id, serial⟩
        confs := w.confs.erase id }
  | .headRequest confHead request =>
    (w.confHeads.lookup confHead).map fun (client, data) =>
      { w with state := w.state.headRequest client confHead data request }

/-- The config that the event calls `apply_output_config` with, if it does. -/
def applies : Event OutputId ClientId → Option (HashMap OutputId NiriConfig.Output)
  | .apply id order => (w.confs.lookup id).bind fun (client, serial) =>
    (w.state.apply client ⟨id, serial⟩ order).2
  | _ => none

end World

end Tiri.Protocols.OutputManagement
