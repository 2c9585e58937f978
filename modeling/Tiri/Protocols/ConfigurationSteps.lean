import Tiri.Lib.Fold
import Tiri.Protocols.OutputConfiguration

/-!
# What becomes of a configuration

Results:
* `notifyChanges_spec`: what the clients are told of the outputs leaves the configurations alone;
* `Requested.frame`, `frame_apply`: a request leaves the outputs alone, and every other
  configuration;
* `Requested.conf`, `conf_apply`: what it makes of its own configuration.
-/

namespace Tiri.Protocols.OutputManagement

open Option Finmap ClientData

variable {OutputId ClientId : Type}

/-! ## What is told of the outputs -/

namespace ClientData

variable {o : OutputId} {conf : NiriIpc.Output} {head : Head} {data data' : ClientData OutputId}

@[simp] theorem confs_send (event : ManagerEvent) : (data.send event).confs = data.confs := rfl

@[simp] theorem confs_sendHead (event : HeadEvent) : (data.sendHead head event).confs = data.confs :=
  rfl

variable {ε : Type}

/-- Updates that leave the configurations alone, one after the other. -/
theorem confs_foldl {f : ClientData OutputId → ε → ClientData OutputId}
    (hf : ∀ data e, (f data e).confs = data.confs) (events : List ε) (data : ClientData OutputId) :
    (events.foldl f data).confs = data.confs :=
  Fold.foldl_invariant (I := fun data' => data'.confs = data.confs)
    (fun e _ data' h => (hf data' e).trans h) rfl

@[simp] theorem confs_sendHeads (events : List HeadEvent) :
    (data.sendHeads head events).confs = data.confs :=
  confs_foldl (f := fun data event => data.sendHead head event) (fun _ _ => rfl) events data

variable (wlMode : ℕ)

@[simp] theorem confs_sendRefresh (mode : NiriIpc.Mode) :
    (data.sendRefresh wlMode mode).confs = data.confs := by
  unfold sendRefresh
  split <;> rfl

@[simp] theorem confs_sendSize (mode : NiriIpc.Mode) :
    (data.sendSize wlMode mode).confs = data.confs := by
  rw [sendSize, confs_sendRefresh]
  rfl

/-- A loop that creates modes. -/
theorem confs_foldl_modes {f : ClientData OutputId × List ℕ → ε → ClientData OutputId × List ℕ}
    (hf : ∀ acc e, (f acc e).1.confs = acc.1.confs) (events : List ε)
    (acc : ClientData OutputId × List ℕ) : (events.foldl f acc).1.confs = acc.1.confs :=
  Fold.foldl_invariant (I := fun acc' => acc'.1.confs = acc.1.confs)
    (fun e _ acc' h => (hf acc' e).trans h) rfl

variable (acc : ClientData OutputId × List ℕ)

theorem confs_addMode (mode : NiriIpc.Mode) : (addMode head acc mode).1.confs = acc.1.confs := by
  simp only [addMode, confs_sendSize, confs_sendHead]
  rfl

theorem confs_sendNewMode (entry : NiriIpc.Mode × ℕ) :
    (sendNewMode conf head acc entry).1.confs = acc.1.confs := by
  simp only [sendNewMode]
  split
  · rw [confs_sendHead, confs_sendRefresh]
    split <;> rfl
  · rw [confs_sendRefresh]
    split <;> rfl

variable [DecidableEq OutputId]

/-- What is done with a head leaves the configurations alone. -/
theorem confs_withHead {f : Head → List ℕ → ClientData OutputId → ClientData OutputId}
    (hf : ∀ head modes, (f head modes data).confs = data.confs) :
    (data.withHead o f).confs = data.confs := by
  unfold withHead
  split
  · exact hf _ _
  · rfl

@[simp] theorem confs_sendNewHead (o : OutputId) (conf : NiriIpc.Output)
    (data : ClientData OutputId) : (data.sendNewHead o conf).confs = data.confs := by
  simp only [sendNewHead, confs_sendHeads]
  rw [confs_foldl_modes (fun acc entry => confs_sendNewMode acc entry)]
  simp only [confs_sendHeads, confs_send]
  rfl

@[simp] theorem confs_sendOutput (currentState : HashMap OutputId NiriIpc.Output)
    (data : ClientData OutputId) (o : OutputId) :
    (data.sendOutput currentState o).confs = data.confs := by
  unfold sendOutput
  split
  · exact confs_sendNewHead o _ data
  · rfl

@[simp] theorem confs_removeHead (o : OutputId) (data : ClientData OutputId) :
    (data.removeHead o).confs = data.confs := by
  refine confs_withHead fun head modes => ?_
  exact confs_foldl (f := fun data m => data.sendMode m .finished) (fun _ _ => rfl) modes _

@[simp] theorem confs_sendAdaptiveSync (o : OutputId) (conf : NiriIpc.Output)
    (data : ClientData OutputId) : (data.sendAdaptiveSync o conf).confs = data.confs :=
  confs_withHead fun _ _ => confs_sendHeads _

@[simp] theorem confs_sendHeadsOf (o : OutputId) (events : List HeadEvent)
    (data : ClientData OutputId) : (data.sendHeadsOf o events).confs = data.confs :=
  confs_withHead fun _ _ => confs_sendHeads _

@[simp] theorem confs_sendCurrentMode (o : OutputId) (newIndex : ℕ)
    (data : ClientData OutputId) : (data.sendCurrentMode o newIndex).confs = data.confs := by
  refine confs_withHead fun head modes => ?_
  split <;> rfl

@[simp] theorem confs_patchModes (o : OutputId) (conf : NiriIpc.Output)
    (data : ClientData OutputId) : (data.patchModes o conf).confs = data.confs := by
  refine confs_withHead fun head modes => ?_
  have hzip : ((modes.zip conf.modes).foldl
      (fun data entry => data.sendSize entry.1 entry.2) data).confs = data.confs :=
    confs_foldl (f := fun data (entry : ℕ × NiriIpc.Mode) => data.sendSize entry.1 entry.2)
      (fun _ _ => confs_sendSize _ _) _ data
  simp only
  split
  · exact (confs_foldl_modes (fun acc mode => confs_addMode acc mode) _ _).trans hzip
  · split
    · exact (confs_foldl (f := fun data m => data.sendMode m .finished) (fun _ _ => rfl) _ _).trans
        hzip
    · exact hzip

end ClientData

/-- The client has the configurations that it had. -/
def SameConfs (data data' : ClientData OutputId) : Prop := data'.confs = data.confs

section Notify

variable [DecidableEq OutputId] [DecidableEq ClientId]
variable {o : OutputId} {old conf : NiriIpc.Output} {acc : Changes OutputId ClientId}

section

omit [DecidableEq OutputId]

/-- What leaves the configurations of a client alone is told to each. -/
theorem sameConfs_tell {f : ClientData OutputId → ClientData OutputId}
    (hf : ∀ data, (f data).confs = data.confs) (acc : Changes OutputId ClientId) :
    HashMap.Related SameConfs acc.1 (acc.tell f).1 :=
  HashMap.related_mapValues hf acc.1

theorem sameConfs_refl (m : HashMap ClientId (ClientData OutputId)) :
    HashMap.Related SameConfs m m :=
  HashMap.Related.refl (R := SameConfs) (fun _ => rfl) m

theorem sameConfs_trans {m m' m'' : HashMap ClientId (ClientData OutputId)}
    (h : HashMap.Related SameConfs m m') (h' : HashMap.Related SameConfs m' m'') :
    HashMap.Related SameConfs m m'' :=
  h.trans h' fun _ _ _ hv hv' => Eq.trans hv' hv

end

theorem sameConfs_diffVrr : HashMap.Related SameConfs acc.1 (acc.diffVrr o old conf).1 := by
  unfold Changes.diffVrr
  split
  · exact sameConfs_tell (confs_sendAdaptiveSync o conf) acc
  · exact sameConfs_refl acc.1

theorem sameConfs_diffModes : HashMap.Related SameConfs acc.1 (acc.diffModes o old conf).1 := by
  unfold Changes.diffModes
  split
  · exact sameConfs_tell (confs_patchModes o conf) acc
  · exact sameConfs_refl acc.1

theorem sameConfs_diffCurrentMode :
    HashMap.Related SameConfs acc.1 (acc.diffCurrentMode o old conf).1 := by
  unfold Changes.diffCurrentMode
  split
  · split
    · exact sameConfs_tell (confs_sendCurrentMode o _) acc
    · exact sameConfs_refl acc.1
  · exact sameConfs_tell (confs_sendHeadsOf o _) acc
  · split
    · refine sameConfs_tell (fun data => ?_) acc
      rw [confs_sendCurrentMode, confs_sendHeadsOf]
    · exact sameConfs_refl acc.1
  · exact sameConfs_refl acc.1

theorem sameConfs_diffLogical :
    HashMap.Related SameConfs acc.1 (acc.diffLogical o old conf).1 := by
  unfold Changes.diffLogical
  split
  · split
    · exact sameConfs_tell (confs_sendHeadsOf o _) acc
    · exact sameConfs_refl acc.1
  · exact sameConfs_tell (confs_sendHeadsOf o _) acc
  · exact sameConfs_refl acc.1
  · exact sameConfs_refl acc.1

theorem sameConfs_notifyOutput (currentState : HashMap OutputId NiriIpc.Output) :
    HashMap.Related SameConfs acc.1 (Changes.notifyOutput currentState o conf acc).1 := by
  unfold Changes.notifyOutput
  split
  · exact sameConfs_trans (sameConfs_trans (sameConfs_trans sameConfs_diffVrr sameConfs_diffModes)
      sameConfs_diffCurrentMode) sameConfs_diffLogical
  · exact sameConfs_tell (confs_sendNewHead o conf) acc

theorem sameConfs_changes (s : OutputManagementManagerState OutputId ClientId)
    (newState : HashMap OutputId NiriIpc.Output) (newOrder oldOrder : List OutputId) :
    HashMap.Related SameConfs s.clients (s.changes newState newOrder oldOrder).1 := by
  let I : Changes OutputId ClientId → Prop := fun acc =>
    HashMap.Related SameConfs s.clients acc.1
  refine Fold.foldl_invariant (I := I) (fun o _ acc h => ?_)
    (Fold.foldl_invariant (I := I) (fun o _ acc h => ?_) (sameConfs_refl s.clients))
  · split
    · exact h
    · exact sameConfs_trans h (sameConfs_tell (confs_removeHead o) acc)
  · split
    · exact sameConfs_trans h (sameConfs_notifyOutput s.currentState)
    · exact h

end Notify

namespace OutputManagementManagerState

variable [DecidableEq ClientId] {s s' : OutputManagementManagerState OutputId ClientId}

/-- What the clients are told of the outputs leaves the configurations alone. -/
theorem conf_eq_of_related {m' : HashMap ClientId (ClientData OutputId)}
    (h : HashMap.Related SameConfs s.clients m') (hm' : s'.clients = m') (client : ClientId)
    (id : ℕ) : s'.conf client id = s.conf client id := by
  unfold conf
  have hclient := h client
  rw [hm']
  generalize s.clients.lookup client = a at hclient
  generalize m'.lookup client = b at hclient
  cases hclient with
  | none => rfl
  | some hdata => exact congrArg (fun confs => Finmap.lookup id confs) hdata

/-- A change of the outputs has a new serial. -/
theorem notifyChanges_spec [DecidableEq OutputId] {newState : HashMap OutputId NiriIpc.Output}
    {newOrder oldOrder : List OutputId}
    (h : s.notifyChanges newState newOrder oldOrder = some s') :
    (∀ client id, s'.conf client id = s.conf client id) ∧
    s'.currentConfig = s.currentConfig ∧
      (s'.serial = s.serial ∧ s'.currentState = s.currentState ∨
        s'.serial = s.serial + 1 ∧ s'.currentState = newState) := by
  have hrelated := sameConfs_changes s newState newOrder oldOrder
  unfold notifyChanges at h
  generalize s.changes newState newOrder oldOrder = acc at h hrelated
  obtain ⟨clients, changed⟩ := acc
  cases changed with
  | false =>
    obtain rfl := some.inj h
    exact ⟨conf_eq_of_related hrelated rfl, rfl, .inl ⟨rfl, rfl⟩⟩
  | true =>
    obtain ⟨-, rfl⟩ := ite_some_none_eq_some.mp h
    have hfinish : HashMap.Related SameConfs clients
        (HashMap.mapValues (ClientData.finishChange (s.serial + 1)) clients) :=
      HashMap.related_mapValues (R := SameConfs) (f := ClientData.finishChange (s.serial + 1))
        (fun _ => rfl) clients
    exact ⟨conf_eq_of_related (sameConfs_trans hrelated hfinish) rfl, rfl, .inr ⟨rfl, rfl⟩⟩

/-! ## Requests on a configuration -/

variable (client : ClientId) (f : ClientData OutputId → ClientData OutputId)

@[simp] theorem serial_modifyClient : (s.modifyClient client f).serial = s.serial := by
  unfold modifyClient
  split <;> rfl

@[simp] theorem currentState_modifyClient :
    (s.modifyClient client f).currentState = s.currentState := by
  unfold modifyClient
  split <;> rfl

@[simp] theorem currentConfig_modifyClient :
    (s.modifyClient client f).currentConfig = s.currentConfig := by
  unfold modifyClient
  split <;> rfl

theorem conf_modifyClient (client' : ClientId) (id' : ℕ) :
    (s.modifyClient client f).conf client' id' =
      if client' = client then (s.clients.lookup client).bind fun data => (f data).confs.lookup id'
      else s.conf client' id' := by
  unfold modifyClient conf
  split
  · rename_i data hdata
    by_cases hclient : client' = client
    · subst hclient
      rw [if_pos rfl, lookup_insert, hdata]
      rfl
    · rw [if_neg hclient, lookup_insert_of_ne _ hclient]
  · rename_i hnone
    by_cases hclient : client' = client
    · subst hclient
      rw [if_pos rfl, hnone]
      rfl
    · rw [if_neg hclient]

/-- A request on a configuration of a client leaves the outputs and every other configuration
alone. -/
structure Frame (client : ClientId) (id : ℕ) (s s' : OutputManagementManagerState OutputId ClientId) :
    Prop where
  serial : s'.serial = s.serial
  currentState : s'.currentState = s.currentState
  conf : ∀ client' id', client' ≠ client ∨ id' ≠ id → s'.conf client' id' = s.conf client' id'

variable {client : ClientId} {id : ℕ} {configuration : Configuration}

theorem Frame.refl (client : ClientId) (id : ℕ)
    (s : OutputManagementManagerState OutputId ClientId) : Frame client id s s :=
  ⟨rfl, rfl, fun _ _ _ => rfl⟩

theorem Frame.trans {s'' : OutputManagementManagerState OutputId ClientId}
    (h : Frame client id s s') (h' : Frame client id s' s'') : Frame client id s s'' where
  serial := h'.serial.trans h.serial
  currentState := h'.currentState.trans h.currentState
  conf := fun client' id' hne => (h'.conf client' id' hne).trans (h.conf client' id' hne)

theorem frame_modifyClient {f : ClientData OutputId → ClientData OutputId}
    (hf : ∀ data id', id' ≠ id → (f data).confs.lookup id' = data.confs.lookup id') :
    Frame client id s (s.modifyClient client f) where
  serial := serial_modifyClient client f
  currentState := currentState_modifyClient client f
  conf := by
    intro client' id' hne
    rw [conf_modifyClient]
    split
    · rename_i hclient
      subst hclient
      have hid : id' ≠ id := hne.resolve_left fun h => h rfl
      congr 1
      funext data
      exact hf data id' hid
    · rfl

/-- What leaves the configurations of the client alone. -/
theorem conf_modifyClient_of_confs {f : ClientData OutputId → ClientData OutputId}
    (hf : ∀ data, (f data).confs = data.confs) (client client' : ClientId) (id' : ℕ) :
    (s.modifyClient client f).conf client' id' = s.conf client' id' := by
  rw [conf_modifyClient]
  split
  · rename_i hclient
    subst hclient
    congr 1
    funext data
    rw [hf data]
  · rfl

@[simp] theorem conf_sendConfiguration (client : ClientId) (configuration : Configuration)
    (event : ConfigurationEvent) (client' : ClientId) (id' : ℕ) :
    (s.sendConfiguration client configuration event).conf client' id' = s.conf client' id' :=
  conf_modifyClient_of_confs (f := fun data => data.sendConfiguration configuration.id event)
    (fun _ => rfl) client client' id'

theorem frame_sendConfiguration (client : ClientId) (id : ℕ) (configuration : Configuration)
    (event : ConfigurationEvent) :
    Frame client id s (s.sendConfiguration client configuration event) :=
  frame_modifyClient (f := fun data => data.sendConfiguration configuration.id event)
    fun _ _ _ => rfl

theorem frame_setConf (client : ClientId) (id : ℕ) (state : OutputConfigurationState OutputId) :
    Frame client id s (s.setConf client id state) :=
  frame_modifyClient fun _ _ hne => lookup_insert_of_ne _ hne

theorem conf_setConf (client : ClientId) (id : ℕ) (state : OutputConfigurationState OutputId) :
    (s.setConf client id state).conf client id = (s.clients.lookup client).map fun _ => state := by
  unfold setConf
  rw [conf_modifyClient, if_pos rfl]
  cases s.clients.lookup client with
  | none => rfl
  | some data => exact lookup_insert _

/-- What is set is there, where there was a configuration. -/
theorem conf_setConf_of_conf {old : OutputConfigurationState OutputId}
    (h : s.conf client id = some old) (state : OutputConfigurationState OutputId) :
    (s.setConf client id state).conf client id = some state := by
  obtain ⟨data, hdata, -⟩ := bind_eq_some_iff.mp h
  rw [conf_setConf, hdata]
  rfl

variable {f : OutputConfigurationState OutputId → OutputConfigurationState OutputId}

/-- A request on a configuration: it stays, or becomes what `f` makes of it, and the client may be
told. -/
inductive Requested (client : ClientId) (configuration : Configuration)
    (f : OutputConfigurationState OutputId → OutputConfigurationState OutputId)
    (s : OutputManagementManagerState OutputId ClientId) :
    OutputManagementManagerState OutputId ClientId → Prop
  | stays (h : (s.conf client configuration.id).map f = s.conf client configuration.id) :
    Requested client configuration f s s
  | sets {old state} (h : s.conf client configuration.id = some old) (hf : f old = state) :
    Requested client configuration f s (s.setConf client configuration.id state)
  | tells {t} (h : Requested client configuration f s t) (event : ConfigurationEvent) :
    Requested client configuration f s (t.sendConfiguration client configuration event)

section

variable (h : Requested client configuration f s s')
include h

theorem Requested.frame : Frame client configuration.id s s' := by
  induction h with
  | stays => exact Frame.refl client configuration.id s
  | sets => exact frame_setConf client configuration.id _
  | tells _ event ih => exact ih.trans (frame_sendConfiguration client _ configuration event)

theorem Requested.conf :
    s'.conf client configuration.id = (s.conf client configuration.id).map f := by
  induction h with
  | stays h => exact h.symm
  | sets h hf =>
    rw [conf_setConf_of_conf h, h, map_some, hf]
  | tells _ _ ih => rw [conf_sendConfiguration, ih]

theorem Requested.currentConfig : s'.currentConfig = s.currentConfig := by
  induction h with
  | stays => rfl
  | sets => exact currentConfig_modifyClient client _
  | tells _ _ ih => exact (currentConfig_modifyClient client _).trans ih

end

/-! ### What a request makes of its configuration -/

variable [DecidableEq OutputId]

/-- What enabling or disabling a head makes of a configuration. -/
def configured (s : OutputManagementManagerState OutputId ClientId) (serial : ℕ)
    (head : Option OutputId) (off : Bool) :
    OutputConfigurationState OutputId → OutputConfigurationState OutputId
  | .finished => .finished
  | .ongoing newConfig =>
    match head with
    | none => .ongoing newConfig
    | some output =>
      match s.currentState.lookup output with
      | none => .ongoing newConfig
      | some currentConfig =>
        if serial = s.serial ∧ output ∉ newConfig then
          .ongoing (newConfig.insert output { s.configFor currentConfig with off })
        else .ongoing newConfig

omit [DecidableEq OutputId] [DecidableEq ClientId] in
/-- The entry that a head starts from is one for its output. -/
theorem matchesTarget_configFor (s : OutputManagementManagerState OutputId ClientId)
    (currentConfig : NiriIpc.Output) :
    (NiriConfig.OutputName.fromIpcOutput currentConfig).matchesTarget
      (s.configFor currentConfig).name = true := by
  unfold configFor
  dsimp only
  cases hfind : s.currentConfig.find (NiriConfig.OutputName.fromIpcOutput currentConfig) with
  | none => exact NiriConfig.OutputName.matchesTarget_format _
  | some entry =>
    have hmatches := List.find?_some hfind
    exact hmatches

/-- The state that `EnableHead` and `DisableHead` leave. -/
def configureHead (client : ClientId) (conf : Configuration) (head : Option OutputId)
    (off : Bool) : OutputManagementManagerState OutputId ClientId :=
  match head with
  | none => s
  | some output =>
    if conf.serial ≠ s.serial then s
    else
      match s.conf client conf.id with
      | none => s
      | some .finished =>
        s.sendConfiguration client conf (.error .alreadyUsed "configuration had already been used")
      | some (.ongoing newConfig) =>
        match s.currentState.lookup output with
        | none => s
        | some currentConfig =>
          if output ∈ newConfig then
            s.sendConfiguration client conf
              (.error .alreadyConfiguredHead "head has been already configured")
          else
            let config := { s.configFor currentConfig with off }
            s.setConf client conf.id (.ongoing (newConfig.insert output config))

theorem enableHead_fst (client : ClientId) (configuration : Configuration)
    (head : Option OutputId) :
    (s.enableHead client configuration head).1 =
      s.configureHead client configuration head false := by
  cases head with
  | none => rfl
  | some output =>
    unfold enableHead configureHead
    dsimp only
    split_ifs
    · rfl
    · cases s.conf client configuration.id with
      | none => rfl
      | some state =>
        cases state with
        | finished => rfl
        | ongoing newConfig =>
          dsimp only
          cases s.currentState.lookup output with
          | none => rfl
          | some currentConfig =>
            dsimp only
            split_ifs <;> rfl

theorem disableHead_eq (client : ClientId) (configuration : Configuration)
    (head : Option OutputId) :
    s.disableHead client configuration head = s.configureHead client configuration head true := by
  cases head with
  | none => exact ite_self s
  | some output => rfl

theorem requested_configureHead (client : ClientId) (configuration : Configuration)
    (head : Option OutputId) (off : Bool) :
    Requested client configuration (s.configured configuration.serial head off) s
      (s.configureHead client configuration head off) := by
  have hstays (h : ∀ newConfig, s.conf client configuration.id = some (.ongoing newConfig) →
      s.configured configuration.serial head off (.ongoing newConfig) = .ongoing newConfig) :
      Requested client configuration (s.configured configuration.serial head off) s s := by
    refine .stays ?_
    cases hconf : s.conf client configuration.id with
    | none => rfl
    | some state =>
      cases state with
      | finished => rfl
      | ongoing newConfig => exact congrArg some (h newConfig hconf)
  unfold configureHead
  cases head with
  | none => exact hstays fun _ _ => rfl
  | some output =>
    dsimp only
    split_ifs with hserial
    · refine hstays fun newConfig _ => ?_
      unfold configured
      dsimp only
      split
      · rfl
      · exact if_neg fun h => hserial h.1
    · split
      · rename_i hconf
        exact hstays fun _ h => nomatch hconf.symm.trans h
      · rename_i hconf
        exact (hstays fun _ h => nomatch hconf.symm.trans h).tells _
      · rename_i newConfig hconf
        split
        · rename_i hcurrent
          refine hstays fun _ _ => ?_
          simp only [configured, hcurrent]
        · rename_i currentConfig hcurrent
          split_ifs with hmem
          · refine (hstays fun _ h => ?_).tells _
            cases hconf.symm.trans h
            simp only [configured, hcurrent]
            exact if_neg fun h => h.2 hmem
          · refine .sets hconf ?_
            simp only [configured, hcurrent]
            exact if_pos ⟨not_not.mp hserial, hmem⟩

theorem requested_enableHead (client : ClientId) (configuration : Configuration)
    (head : Option OutputId) :
    Requested client configuration (s.configured configuration.serial head false) s
      (s.enableHead client configuration head).1 := by
  rw [enableHead_fst]
  exact requested_configureHead client configuration head false

theorem requested_disableHead (client : ClientId) (configuration : Configuration)
    (head : Option OutputId) :
    Requested client configuration (s.configured configuration.serial head true) s
      (s.disableHead client configuration head) := by
  rw [disableHead_eq]
  exact requested_configureHead client configuration head true

omit [DecidableEq OutputId] in
/-- What applying or testing makes of a configuration. -/
def consumed (s : OutputManagementManagerState OutputId ClientId) (serial : ℕ)
    (state : OutputConfigurationState OutputId) : OutputConfigurationState OutputId :=
  if serial = s.serial then .finished else state

/-- What the outputs are configured with is what the configuration holds, and some head of it is
enabled. -/
theorem apply_eq_some {order : List OutputId} {newConfig : HashMap OutputId NiriConfig.Output}
    (h : (s.apply client configuration order).2 = some newConfig) :
    configuration.serial = s.serial ∧
    s.conf client configuration.id = some (.ongoing newConfig) ∧ anyEnabled newConfig = true := by
  unfold apply at h
  split at h
  · cases h
  · rename_i hserial
    split at h
    · cases h
    · cases h
    · rename_i m hconf
      split at h
      · rename_i henabled
        obtain rfl := some.inj h
        exact ⟨not_not.mp hserial, hconf, henabled⟩
      · cases h

section

omit [DecidableEq OutputId]

theorem requested_test (client : ClientId) (configuration : Configuration) :
    Requested client configuration (s.consumed configuration.serial) s
      (s.test client configuration) := by
  unfold test
  split_ifs with hserial
  · refine (Requested.stays ?_).tells _
    have hsame : s.consumed configuration.serial = id := funext fun _ => if_neg hserial
    rw [hsame, map_id]
    rfl
  · have hfinish : ∀ state, s.consumed configuration.serial state = .finished :=
      fun _ => if_pos (not_not.mp hserial)
    split
    · rename_i hconf
      exact .stays (by rw [hconf]; rfl)
    · rename_i hconf
      exact (Requested.stays (by rw [hconf, map_some, hfinish])).tells _
    · rename_i newConfig hconf
      dsimp only
      split_ifs
      · exact (Requested.sets hconf (hfinish _)).tells _
      · exact (Requested.sets hconf (hfinish _)).tells _

end

/-- Applying is testing, but for the config of the outputs, which changes with the outputs only. -/
theorem apply_fst (client : ClientId) (configuration : Configuration) (order : List OutputId) :
    ∃ config, (s.apply client configuration order).1 =
        { s.test client configuration with currentConfig := config } ∧
      ((s.apply client configuration order).2 = none → config = s.currentConfig) := by
  unfold apply test
  split
  · exact ⟨_, rfl, fun _ => currentConfig_modifyClient client _⟩
  · split
    · exact ⟨_, rfl, fun _ => rfl⟩
    · exact ⟨_, rfl, fun _ => currentConfig_modifyClient client _⟩
    · rename_i newConfig hconf
      dsimp only
      split_ifs
      · refine ⟨HashMap.values newConfig order, ?_, nofun⟩
        unfold sendConfiguration modifyClient onConfigChanged
        dsimp only
        split <;> rfl
      · exact ⟨_, rfl, fun _ =>
          (currentConfig_modifyClient client _).trans (currentConfig_modifyClient client _)⟩

theorem frame_apply (client : ClientId) (configuration : Configuration) (order : List OutputId) :
    Frame client configuration.id s (s.apply client configuration order).1 := by
  obtain ⟨config, heq, -⟩ := s.apply_fst client configuration order
  rw [heq]
  exact ⟨(requested_test ..).frame.1, (requested_test ..).frame.2, (requested_test ..).frame.3⟩

theorem conf_apply (client : ClientId) (configuration : Configuration) (order : List OutputId) :
    (s.apply client configuration order).1.conf client configuration.id =
      (s.conf client configuration.id).map (s.consumed configuration.serial) := by
  obtain ⟨config, heq, -⟩ := s.apply_fst client configuration order
  rw [heq]
  exact (requested_test client configuration).conf

section

omit [DecidableEq OutputId]

theorem frame_destroy (client : ClientId) (configuration : Configuration) :
    Frame client configuration.id s (s.destroy client configuration) :=
  frame_modifyClient fun _ _ hne => lookup_erase_ne hne

theorem conf_destroy (client : ClientId) (configuration : Configuration) :
    (s.destroy client configuration).conf client configuration.id = none := by
  unfold destroy
  rw [conf_modifyClient, if_pos rfl]
  cases s.clients.lookup client with
  | none => rfl
  | some data => exact lookup_erase _ _

end

end OutputManagementManagerState

/-- A request of a head does not turn it on or off, nor give its entry another name. -/
theorem setHead_kept {data : ClientData OutputId} [DecidableEq OutputId]
    {currentState : HashMap OutputId NiriIpc.Output} {output : OutputId}
    {newConfig config : NiriConfig.Output} {request : ConfigurationHeadRequest}
    (h : data.setHead currentState output newConfig request = .ok (some config)) :
    config.off = newConfig.off ∧ config.name = newConfig.name := by
  unfold ClientData.setHead at h
  split at h
  · split at h
    · cases h
    · split at h
      · cases h
      · cases h
        exact ⟨rfl, rfl⟩
  · split at h
    · cases h
      exact ⟨rfl, rfl⟩
    · cases h
  · cases h
    exact ⟨rfl, rfl⟩
  · cases h
  · cases h
    exact ⟨rfl, rfl⟩
  · split at h
    · cases h
    · cases h
      exact ⟨rfl, rfl⟩
  · cases h
  · cases h
    exact ⟨rfl, rfl⟩

namespace OutputManagementManagerState

variable [DecidableEq OutputId] [DecidableEq ClientId]
variable {s : OutputManagementManagerState OutputId ClientId} {client : ClientId}

/-- A request of a head changes the entry that it has in the configuration that is going on. -/
theorem headRequest_spec (client : ClientId) (confHead : ℕ)
    (data : OutputConfigurationHeadState OutputId) (request : ConfigurationHeadRequest) :
    ((s.headRequest client confHead data request).serial = s.serial ∧
      (s.headRequest client confHead data request).currentState = s.currentState ∧
      (s.headRequest client confHead data request).currentConfig = s.currentConfig ∧
      ∀ client' id', (s.headRequest client confHead data request).conf client' id' =
        s.conf client' id') ∨
    ∃ output configuration newConfig config config', data = .ok output configuration ∧
      configuration.serial = s.serial ∧
      s.conf client configuration.id = some (.ongoing newConfig) ∧
      newConfig.lookup output = some config ∧
      (config'.off = config.off ∧ config'.name = config.name) ∧
      s.headRequest client confHead data request =
        s.setConf client configuration.id (.ongoing (newConfig.insert output config')) := by
  have hsame : ∀ {f : ClientData OutputId → ClientData OutputId},
      (∀ data, (f data).confs = data.confs) →
      ((s.modifyClient client f).serial = s.serial ∧
        (s.modifyClient client f).currentState = s.currentState ∧
        (s.modifyClient client f).currentConfig = s.currentConfig ∧
        ∀ client' id', (s.modifyClient client f).conf client' id' = s.conf client' id') :=
    fun hf => ⟨serial_modifyClient client _, currentState_modifyClient client _,
      currentConfig_modifyClient client _, conf_modifyClient_of_confs hf client⟩
  unfold headRequest
  split
  · rename_i clientData output configuration hclient
    split
    · exact .inl ⟨rfl, rfl, rfl, fun _ _ => rfl⟩
    · rename_i hserial
      split
      · exact .inl ⟨rfl, rfl, rfl, fun _ _ => rfl⟩
      · exact .inl (hsame fun _ => rfl)
      · rename_i newConfig hconf
        split
        · exact .inl ⟨rfl, rfl, rfl, fun _ _ => rfl⟩
        · rename_i config hlookup
          split
          · exact .inl ⟨rfl, rfl, rfl, fun _ _ => rfl⟩
          · rename_i config' hset
            refine .inr ⟨output, configuration, newConfig, config, config', rfl, not_not.mp hserial,
              ?_, hlookup, setHead_kept hset, rfl⟩
            unfold conf
            rw [hclient]
            exact hconf
          · exact .inl (hsame fun _ => rfl)
  · exact .inl ⟨rfl, rfl, rfl, fun _ _ => rfl⟩

variable {client' : ClientId} {state : OutputConfigurationState OutputId} {id : ℕ}

omit [DecidableEq OutputId] in
theorem conf_removeClient (h : (s.removeClient client).conf client' id = some state) :
    s.conf client' id = some state := by
  unfold removeClient conf at h
  by_cases hclient : client' = client
  · subst hclient
    rw [lookup_erase] at h
    cases h
  · rw [lookup_erase_ne hclient] at h
    exact h

/-- A client that binds the manager has no configurations. -/
theorem conf_bind {version : ℕ} {order : List OutputId}
    (h : (s.bind client version order).conf client' id = some state) :
    s.conf client' id = some state := by
  unfold OutputManagementManagerState.bind conf at h
  by_cases hclient : client' = client
  · subst hclient
    rw [lookup_insert, bind_some, confs_send,
      confs_foldl (fun data o => confs_sendOutput s.currentState data o),
      lookup_empty] at h
    cases h
  · rw [lookup_insert_of_ne _ hclient] at h
    exact h

omit [DecidableEq OutputId] in
theorem conf_createConfiguration {configuration : Configuration}
    (h : (s.createConfiguration client configuration).conf client' id = some state) :
    s.conf client' id = some state ∨
      client' = client ∧ id = configuration.id ∧ state = .ongoing ∅ := by
  obtain ⟨s', hs'⟩ : ∃ s', s' = if configuration.serial ≠ s.serial then
    s.sendConfiguration client configuration .cancelled else s := ⟨_, rfl⟩
  have hconf : ∀ client' id, s'.conf client' id = s.conf client' id := by
    rw [hs']
    split
    · exact conf_sendConfiguration client configuration _
    · exact fun _ _ => rfl
  unfold createConfiguration at h
  simp only [← hs'] at h
  by_cases htarget : client' = client ∧ id = configuration.id
  · obtain ⟨rfl, rfl⟩ := htarget
    rw [conf_setConf] at h
    obtain ⟨-, -, heq⟩ := map_eq_some_iff.mp h
    exact .inr ⟨rfl, rfl, heq.symm⟩
  · rw [(frame_setConf client configuration.id (.ongoing ∅)).conf client' id
      (not_and_or.mp htarget), hconf] at h
    exact .inl h

omit [DecidableEq OutputId] in
theorem outputs_createConfiguration (client : ClientId) (configuration : Configuration) :
    (s.createConfiguration client configuration).serial = s.serial ∧
      (s.createConfiguration client configuration).currentState = s.currentState := by
  unfold createConfiguration setConf sendConfiguration
  simp only [serial_modifyClient, currentState_modifyClient]
  split
  · exact ⟨serial_modifyClient client _, currentState_modifyClient client _⟩
  · exact ⟨rfl, rfl⟩

end OutputManagementManagerState

end Tiri.Protocols.OutputManagement
