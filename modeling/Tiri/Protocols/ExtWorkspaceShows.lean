import Tiri.Protocols.ExtWorkspace

/-!
# What the ext-workspace clients are shown

For each manager, the state has the workspaces and the groups that its client is shown.  Every
function of the protocol keeps what the client sees and what the state has in step.

Results:
* `clients_enterLeave`, `addInstances_spec`: what the loops over instances are for one manager;
* `Inv.retainWorkspace`, `Inv.retainGroup`, `Inv.refreshWorkspace`, `Inv.refreshWorkspaceGroup`:
  the parts of a refresh keep the clients up.
-/

namespace Tiri.Protocols.ExtWorkspace

open Option List Function Display Client
open Finmap hiding mem_singleton

variable {M Output WorkspaceId : Type}

/-! ## The data of a workspace -/

variable (data : WorkspaceData M Output)

/-- What the client is to know of the workspace. -/
def WorkspaceData.info : Info where
  id := data.id
  name := some data.name
  coordinates := some data.coordinates
  state := some data.state

/-- The data has the name that goes with its id and its coordinates. -/
def WorkspaceData.Named : Prop :=
  data.name = data.id.getD (toString (data.coordinates.2 + 1)) ∧ data.coordinates.1 = 0

/-- The data of a workspace once it is refreshed. -/
def WorkspaceData.updated (ws : LayoutWorkspace Output WorkspaceId) : WorkspaceData M Output :=
  { data with
    id := ws.name
    coordinates := (data.coordinates.1, ws.wsIdx)
    state := ws.state
    name := ws.buildName
    output := ws.output }

/-- The data is what the layout has. -/
structure WorkspaceData.Matches (ws : LayoutWorkspace Output WorkspaceId)
    (data : WorkspaceData M Output) : Prop where
  info : data.info = ws.info
  output : data.output = ws.output

variable {data : WorkspaceData M Output}

theorem WorkspaceData.Named.matches_updated (h : data.Named)
    (ws : LayoutWorkspace Output WorkspaceId) : (data.updated ws).Matches ws := by
  refine ⟨?_, rfl⟩
  unfold WorkspaceData.info WorkspaceData.updated LayoutWorkspace.info
  rw [h.2]

theorem WorkspaceData.Named.updated (h : data.Named) (ws : LayoutWorkspace Output WorkspaceId) :
    (data.updated ws).Named :=
  ⟨rfl, h.2⟩

/-- Whether the name of an existing workspace changes: it is looked at only where it can. -/
def WorkspaceData.nameChanged (ws : LayoutWorkspace Output WorkspaceId) : Bool :=
  ((decide (data.id ≠ ws.name) && data.id.isSome) ||
    if ws.name.isSome then decide (data.id ≠ ws.name) && data.id.isNone
    else decide (data.coordinates.2 ≠ ws.wsIdx)) && decide (data.name ≠ ws.buildName)

/-- A name that did not have to change was the right one. -/
theorem WorkspaceData.Named.name_eq (h : data.Named) (ws : LayoutWorkspace Output WorkspaceId) :
    (if data.nameChanged ws then ws.buildName else data.name) = ws.buildName := by
  unfold WorkspaceData.nameChanged
  by_cases hname : data.name = ws.buildName
  · simp [hname]
  · -- The name has changed, so it is checked.
    have hcheck : ((decide (data.id ≠ ws.name) && data.id.isSome) ||
        if ws.name.isSome then decide (data.id ≠ ws.name) && data.id.isNone
        else decide (data.coordinates.2 ≠ ws.wsIdx)) = true := by
      rw [h.1] at hname
      unfold LayoutWorkspace.buildName at hname
      cases hid : data.id with
      | none =>
        cases hws : ws.name with
        | none =>
          rw [hid, hws] at hname
          have hne : data.coordinates.2 ≠ ws.wsIdx := by
            intro heq
            exact hname (by rw [heq])
          simp [hne]
        | some name => simp
      | some id =>
        cases hws : ws.name with
        | none => simp
        | some name =>
          rw [hid, hws] at hname
          have hne : id ≠ name := hname
          simp [hne]
    rw [hcheck, decide_eq_true hname]
    rfl

/-- What is told of the changes makes up what there is to know of the workspace. -/
theorem WorkspaceData.Named.info_updated (h : data.Named) (ws : LayoutWorkspace Output WorkspaceId)
    (hrecreate : (decide (data.id ≠ ws.name) && data.id.isSome) = false) :
    (⟨(if decide (data.id ≠ ws.name) then ws.name else none).or data.info.id,
      (if data.nameChanged ws then some ws.buildName else none).or data.info.name,
      (if decide (data.coordinates.2 ≠ ws.wsIdx) then some (data.coordinates.1, ws.wsIdx)
        else none).or data.info.coordinates,
      (if decide (data.state ≠ ws.state) then some ws.state else none).or data.info.state⟩ : Info) =
      (data.updated ws).info := by
  have hid : (if decide (data.id ≠ ws.name) then ws.name else none).or data.id = ws.name := by
    by_cases heq : data.id = ws.name
    · simp [heq]
    · have hnone : data.id = none := by simpa [heq] using hrecreate
      simp [hnone]
  have hname : (if data.nameChanged ws then some ws.buildName else none).or (some data.name) =
      some ws.buildName := by
    have hname := h.name_eq ws
    cases hchanged : data.nameChanged ws with
    | true => rfl
    | false =>
      rw [hchanged] at hname
      exact congrArg some hname
  have hcoordinates : (if decide (data.coordinates.2 ≠ ws.wsIdx) then
      some (data.coordinates.1, ws.wsIdx) else none).or (some data.coordinates) =
      some (data.coordinates.1, ws.wsIdx) := by
    by_cases heq : data.coordinates.2 = ws.wsIdx
    · simp [← heq]
    · simp [heq]
  have hstate : (if decide (data.state ≠ ws.state) then some ws.state else none).or
      (some data.state) = some ws.state := by
    by_cases heq : data.state = ws.state
    · simp [heq]
    · simp [heq]
  unfold WorkspaceData.info WorkspaceData.updated
  rw [hid, hname, hcoordinates, hstate]

section Refresh

variable [DecidableEq M] [DecidableEq Output]

/-- The move of a workspace from its output to another is sent wrongly: its instances are created
again, and leave the group of the other output, that they never entered. -/
def Misleaves (workspaceGroups : HashMap Output (GroupData M))
    (ws : LayoutWorkspace Output WorkspaceId) (data : WorkspaceData M Output) : Bool :=
  data.id ≠ ws.name && data.id.isSome && data.output ≠ ws.output &&
    (ws.output.bind fun output => workspaceGroups.lookup output).isSome

variable {workspaceGroups : HashMap Output (GroupData M)} {ws : LayoutWorkspace Output WorkspaceId}

variable {display : Display M} {managers : List M}

/-- A workspace whose name got changed or unset. -/
theorem refreshExisting_recreate {data : WorkspaceData M Output} (hnamed : data.Named)
    (hrecreate : (decide (data.id ≠ ws.name) && data.id.isSome) = true) :
    refreshExisting workspaceGroups managers ws data display =
      ((recreateInstances workspaceGroups managers (data.updated ws)
          (if data.output ≠ ws.output then sendWorkspaceEnterLeave workspaceGroups data false display
            else display)).1,
        (recreateInstances workspaceGroups managers (data.updated ws)
          (if data.output ≠ ws.output then sendWorkspaceEnterLeave workspaceGroups data false display
            else display)).2, true) := by
  have hname := hnamed.name_eq ws
  unfold WorkspaceData.nameChanged at hname
  unfold refreshExisting WorkspaceData.updated
  simp only [hname]
  simp only [hrecreate, if_true, decide_eq_true_eq]

/-- A workspace that keeps its instances. -/
theorem refreshExisting_keep {data : WorkspaceData M Output} (hnamed : data.Named)
    (hrecreate : (decide (data.id ≠ ws.name) && data.id.isSome) = false) :
    let idSet := decide (data.id ≠ ws.name)
    let coordinatesChanged := decide (data.coordinates.2 ≠ ws.wsIdx)
    let stateChanged := decide (data.state ≠ ws.state)
    let somethingChanged := idSet || data.nameChanged ws || coordinatesChanged || stateChanged
    let moved :=
      if data.output ≠ ws.output then
        sendWorkspaceEnterLeave workspaceGroups (data.updated ws) true
          (sendWorkspaceEnterLeave workspaceGroups data false display)
      else display
    refreshExisting workspaceGroups managers ws data display = (data.updated ws,
        if somethingChanged then
          data.instances.foldl
            (sendChange idSet (data.nameChanged ws) coordinatesChanged stateChanged
              (data.updated ws)) moved
        else moved,
        decide (data.output ≠ ws.output) || somethingChanged) := by
  have hname := hnamed.name_eq ws
  have hidSet : (decide (data.id ≠ ws.name) && data.id.isNone) = decide (data.id ≠ ws.name) := by
    cases hid : data.id with
    | none => simp
    | some id =>
      rw [hid] at hrecreate
      simpa using hrecreate
  unfold WorkspaceData.nameChanged at hname ⊢
  unfold refreshExisting WorkspaceData.updated
  simp only [hname]
  simp only [hrecreate, hidSet, if_false, decide_eq_true_eq, Bool.false_eq_true]
  by_cases hout : data.output = ws.output
  · simp [hout]
  · simp [hout]

end Refresh

variable [DecidableEq M]

/-! ## The instances of one manager -/

section Instances

variable {instances : List (Handle M)} {display : Display M} {m : M}

/-- The handle that the client of the manager has. -/
def handleOf (manager : M) (instances : List (Handle M)) : Option ℕ :=
  (instancesOf manager instances).head?.map Handle.id

theorem instancesOf_cons_self (handle : Handle M) :
    instancesOf handle.manager (handle :: instances) =
      handle :: instancesOf handle.manager instances := by
  unfold instancesOf
  rw [filter_cons_of_pos (by simp)]

theorem instancesOf_cons_of_ne {handle : Handle M} (hne : handle.manager ≠ m) :
    instancesOf m (handle :: instances) = instancesOf m instances := by
  unfold instancesOf
  rw [filter_cons_of_neg (by simpa using hne)]

theorem instancesOf_eq_nil (hm : m ∉ instances.map Handle.manager) : instancesOf m instances = [] := by
  unfold instancesOf
  rw [filter_eq_nil_iff]
  intro handle hhandle heq
  exact hm (mem_map.mpr ⟨handle, hhandle, of_decide_eq_true heq⟩)

/-- A manager has one instance at most. -/
theorem instancesOf_eq (hnodup : (instances.map Handle.manager).Nodup) (m : M) :
    instancesOf m instances = (handleOf m instances).toList.map fun id => ⟨id, m⟩ := by
  induction instances with
  | nil => rfl
  | cons handle instances ih =>
    rw [map_cons, nodup_cons] at hnodup
    by_cases heq : handle.manager = m
    · subst heq
      unfold handleOf
      rw [instancesOf_cons_self, instancesOf_eq_nil hnodup.1]
      rfl
    · unfold handleOf at ih ⊢
      rw [instancesOf_cons_of_ne heq]
      exact ih hnodup.2

theorem instancesOf_singleton (hnodup : (instances.map Handle.manager).Nodup) {handle : ℕ}
    (hhandle : handleOf m instances = some handle) : instancesOf m instances = [⟨handle, m⟩] := by
  rw [instancesOf_eq hnodup, hhandle]
  rfl

/-- A manager that is among the instances has a handle. -/
theorem handleOf_isSome (hm : m ∈ instances.map Handle.manager) :
    ∃ h, handleOf m instances = some h := by
  obtain ⟨handle, hhandle, rfl⟩ := mem_map.mp hm
  have hmem : handle ∈ instancesOf handle.manager instances :=
    mem_filter.mpr ⟨hhandle, decide_eq_true rfl⟩
  unfold handleOf
  cases hl : instancesOf handle.manager instances with
  | nil =>
    rw [hl] at hmem
    cases hmem
  | cons handle' l => exact ⟨handle'.id, rfl⟩

theorem handleOf_eq_none (hm : m ∉ instances.map Handle.manager) : handleOf m instances = none := by
  unfold handleOf
  rw [instancesOf_eq_nil hm]
  rfl

theorem handleOf_append (handle : Handle M) (hm : handle.manager ∉ instances.map Handle.manager) :
    handleOf m (instances ++ [handle]) =
      if handle.manager = m then some handle.id else handleOf m instances := by
  unfold handleOf instancesOf
  rw [filter_append]
  by_cases heq : handle.manager = m
  · subst heq
    have hnil := instancesOf_eq_nil hm
    unfold instancesOf at hnil
    rw [hnil, if_pos rfl]
    simp
  · rw [if_neg heq, filter_cons_of_neg (by simpa using heq)]
    simp

/-- **A loop over instances** that does something for the client of each: a client sees what is done
for its own. -/
theorem foldl_modify {F : Display M → Handle M → Display M} {φ : Handle M → Client → Client}
    (hF : ∀ display handle, F display handle = display.modify handle.manager (φ handle))
    (instances : List (Handle M)) (display : Display M) :
    (instances.foldl F display).nextHandle = display.nextHandle ∧
      ∀ m, (instances.foldl F display).clients m =
        (instancesOf m instances).foldl (fun c handle => φ handle c) (display.clients m) := by
  induction instances generalizing display with
  | nil => exact ⟨rfl, fun _ => rfl⟩
  | cons handle instances ih =>
    obtain ⟨hnext, hclients⟩ := ih (F display handle)
    rw [foldl_cons]
    refine ⟨hnext.trans (by rw [hF]; rfl), fun m => ?_⟩
    rw [hclients, hF]
    by_cases heq : handle.manager = m
    · subst heq
      rw [instancesOf_cons_self, foldl_cons, clients_modify_self]
    · rw [instancesOf_cons_of_ne heq, clients_modify_of_ne _ fun h => heq h.symm]

/-- A loop that sends to one manager only. -/
theorem foldl_send {α : Type} (event : α → Event) (l : List α) (display : Display M) (manager : M) :
    l.foldl (fun display a => display.send manager (event a)) display =
      display.modify manager fun c => l.foldl (fun c a => c.receive (event a)) c := by
  induction l generalizing display with
  | nil =>
    unfold Display.modify
    simp only [foldl_nil, update_eq_self]
  | cons a l ih =>
    rw [foldl_cons, ih]
    unfold Display.send
    rw [modify_modify]
    rfl

end Instances

/-! ## What a manager has -/

/-- The workspace as the client of the manager is shown it. -/
def WorkspaceData.entry (manager : M) (data : WorkspaceData M Output) : Option (Entry Output) :=
  (handleOf manager data.instances).map fun handle =>
    { handle, info := data.info, output := data.output }

variable [DecidableEq WorkspaceId]

/-- The workspaces that the client of the manager is shown. -/
def shownWorkspaces (manager : M) (workspaces : HashMap WorkspaceId (WorkspaceData M Output))
    (id : WorkspaceId) : Option (Entry Output) :=
  (workspaces.lookup id).bind (WorkspaceData.entry manager)

section Shown

variable (m : M) (workspaces : HashMap WorkspaceId (WorkspaceData M Output)) (id : WorkspaceId)

theorem shownWorkspaces_insert (data : WorkspaceData M Output) :
    shownWorkspaces m (workspaces.insert id data) =
      update (shownWorkspaces m workspaces) id (data.entry m) := by
  funext id'
  unfold shownWorkspaces
  by_cases heq : id' = id
  · subst heq
    rw [lookup_insert, update_self]
    rfl
  · rw [lookup_insert_of_ne _ heq, update_of_ne heq]

theorem shownWorkspaces_erase :
    shownWorkspaces m (workspaces.erase id) = update (shownWorkspaces m workspaces) id none := by
  funext id'
  unfold shownWorkspaces
  by_cases heq : id' = id
  · subst heq
    rw [lookup_erase, update_self]
    rfl
  · rw [lookup_erase_ne heq, update_of_ne heq]

variable {managers : List M} {data : WorkspaceData M Output}
variable {workspaceGroups : HashMap Output (GroupData M)}

/-- **Handles are created** for the managers one after the other, and each client is greeted with
its own. -/
theorem foldl_addInstance {D : Type} (K : D → Prop) (instances : D → List (Handle M))
    (add : D → Display M → M → D × Display M) (greet : ℕ → Client → Client)
    (hK : ∀ d display m, K d → K (add d display m).1)
    (hadd : ∀ d display m, K d → instances (add d display m).1 =
        instances d ++ [⟨display.nextHandle, m⟩] ∧
      (add d display m).2.nextHandle = display.nextHandle + 1 ∧
      (add d display m).2.clients m = greet display.nextHandle (display.clients m) ∧
      ∀ m', m' ≠ m → (add d display m).2.clients m' = display.clients m') (hnodup : managers.Nodup)
    {d : D} (hd : K d) (display : Display M)
    (hnew : ∀ m ∈ managers, m ∉ (instances d).map Handle.manager) :
    let r := managers.foldl (fun acc m => add acc.1 acc.2 m) (d, display)
    K r.1 ∧ (instances r.1).map Handle.manager = (instances d).map Handle.manager ++ managers ∧
      display.nextHandle ≤ r.2.nextHandle ∧
      (∀ m ∉ managers, r.2.clients m = display.clients m ∧
        handleOf m (instances r.1) = handleOf m (instances d)) ∧
      ∀ m ∈ managers, ∃ handle, display.nextHandle ≤ handle ∧ handle < r.2.nextHandle ∧
        handleOf m (instances r.1) = some handle ∧
        r.2.clients m = greet handle (display.clients m) := by
  induction managers generalizing d display with
  | nil => exact ⟨hd, (append_nil _).symm, le_refl _, fun _ _ => ⟨rfl, rfl⟩, nofun⟩
  | cons manager managers ih =>
    rw [nodup_cons] at hnodup
    have hmanager := hnew manager (mem_cons_self ..)
    obtain ⟨hinst, hnext, hself, hother⟩ := hadd d display manager hd
    have hinstances : (instances (add d display manager).1).map Handle.manager =
        (instances d).map Handle.manager ++ [manager] := by
      rw [hinst, map_append]
      rfl
    have hrest : ∀ m ∈ managers, m ∉ (instances (add d display manager).1).map Handle.manager := by
      intro m hm
      rw [hinstances, mem_append, mem_singleton, not_or]
      refine ⟨hnew m (mem_cons_of_mem _ hm), ?_⟩
      rintro rfl
      exact hnodup.1 hm
    obtain ⟨hK', hmap, hle, hout, hin⟩ :=
      ih hnodup.2 (hK d display manager hd) (add d display manager).2 hrest
    rw [hnext] at hle
    refine ⟨hK', ?_, ?_, ?_, ?_⟩
    · refine hmap.trans ?_
      rw [hinstances, append_assoc]
      rfl
    · exact le_trans (Nat.le_succ _) hle
    · intro m hm
      rw [mem_cons, not_or] at hm
      obtain ⟨hclient, hhandle⟩ := hout m hm.2
      refine ⟨hclient.trans (hother m hm.1), hhandle.trans ?_⟩
      rw [hinst, handleOf_append _ hmanager]
      exact if_neg fun heq => hm.1 heq.symm
    · intro m hm
      by_cases heq : m = manager
      · subst heq
        obtain ⟨hclient, hhandle⟩ := hout m hnodup.1
        refine ⟨display.nextHandle, le_refl _, hle, hhandle.trans ?_, hclient.trans hself⟩
        rw [hinst, handleOf_append _ hmanager]
        exact if_pos rfl
      · obtain ⟨handle, hle', hlt, hhandle, hclient⟩ :=
          hin m ((mem_cons.mp hm).resolve_left heq)
        refine ⟨handle, by omega, hlt, hhandle, hclient.trans ?_⟩
        rw [hother m heq]

/-- A client is introduced to a new handle of the workspace. -/
theorem WorkspaceData.addInstance_spec (data : WorkspaceData M Output) (display : Display M)
    (m : M) :
    (data.addInstance display m).2.2.nextHandle = display.nextHandle + 1 ∧
      (data.addInstance display m).2.2.clients m = (display.clients m).introduce
        display.nextHandle data.id data.name data.coordinates data.state ∧
      ∀ m', m' ≠ m → (data.addInstance display m).2.2.clients m' = display.clients m' := by
  unfold WorkspaceData.addInstance Display.send Client.introduce
  cases data.id with
  | none | some =>
    simp only [Display.createResource, nextHandle_modify, clients_modify_self, true_and]
    intro m' hne
    simp only [clients_modify_of_ne _ hne]

/-- Each client is introduced to its handle of the workspace. -/
theorem WorkspaceData.addInstances_spec (hnodup : managers.Nodup) (data : WorkspaceData M Output)
    (display : Display M) (hnew : ∀ m ∈ managers, m ∉ data.instances.map Handle.manager) :
    let r := data.addInstances managers display
    r.1 = { data with instances := r.1.instances } ∧
      r.1.instances.map Handle.manager = data.instances.map Handle.manager ++ managers ∧
      display.nextHandle ≤ r.2.nextHandle ∧
      (∀ m ∉ managers, r.2.clients m = display.clients m ∧
        handleOf m r.1.instances = handleOf m data.instances) ∧
      ∀ m ∈ managers, ∃ handle, display.nextHandle ≤ handle ∧ handle < r.2.nextHandle ∧
        handleOf m r.1.instances = some handle ∧
        r.2.clients m = (display.clients m).introduce handle data.id data.name data.coordinates
          data.state := by
  refine foldl_addInstance (fun d => d = { data with instances := d.instances })
    WorkspaceData.instances (fun d display m => (d.addInstance display m).2)
    (fun handle => Client.introduce handle data.id data.name data.coordinates data.state)
    ?_ ?_ hnodup rfl display hnew
  · intro d display m hd
    rw [hd]
    rfl
  · intro d display m hd
    rw [hd]
    exact ⟨rfl, WorkspaceData.addInstance_spec _ display m⟩

/-- **Sending what changed**: a client is told what changed of its own handle. -/
theorem foldl_sendChange (hdata : (data.instances.map Handle.manager).Nodup)
    (idSet nameChanged coordinatesChanged stateChanged : Bool) (display : Display M) :
    let display' := data.instances.foldl
      (sendChange idSet nameChanged coordinatesChanged stateChanged data) display
    display'.nextHandle = display.nextHandle ∧
      ∀ m handle, handleOf m data.instances = some handle →
        display'.clients m = (display.clients m).change handle
          (if idSet then data.id else none) (if nameChanged then some data.name else none)
          (if coordinatesChanged then some data.coordinates else none)
          (if stateChanged then some data.state else none) := by
  have hloop : ∀ (display : Display M) (handle : Handle M),
      sendChange idSet nameChanged coordinatesChanged stateChanged data display handle =
      display.modify handle.manager (Client.change handle.id
        (if idSet then data.id else none) (if nameChanged then some data.name else none)
        (if coordinatesChanged then some data.coordinates else none)
        (if stateChanged then some data.state else none)) := by
    intro display handle
    have hnone : display.modify handle.manager (fun c => c) = display := by
      unfold Display.modify
      rw [update_eq_self]
    unfold sendChange Client.change Client.tell Display.send
    cases data.id <;> cases idSet <;> cases nameChanged <;> cases coordinatesChanged <;>
      cases stateChanged <;> simp [modify_modify, hnone]
  obtain ⟨hnext, hclients⟩ := foldl_modify hloop data.instances display
  refine ⟨hnext, fun m handle hhandle => ?_⟩
  rw [hclients m, instancesOf_singleton hdata hhandle]
  rfl

variable [DecidableEq Output]

/-- The groups that the client of the manager is shown. -/
def shownGroups (manager : M) (workspaceGroups : HashMap Output (GroupData M)) (output : Output) :
    Option ℕ :=
  (workspaceGroups.lookup output).bind fun data => handleOf manager data.instances

theorem shownGroups_insert (workspaceGroups : HashMap Output (GroupData M)) (output : Output)
    (data : GroupData M) :
    shownGroups m (workspaceGroups.insert output data) =
      update (shownGroups m workspaceGroups) output (handleOf m data.instances) := by
  funext output'
  unfold shownGroups
  by_cases heq : output' = output
  · subst heq
    rw [lookup_insert, update_self]
    rfl
  · rw [lookup_insert_of_ne _ heq, update_of_ne heq]

theorem shownGroups_erase (workspaceGroups : HashMap Output (GroupData M)) (output : Output) :
    shownGroups m (workspaceGroups.erase output) =
      update (shownGroups m workspaceGroups) output none := by
  funext output'
  unfold shownGroups
  by_cases heq : output' = output
  · subst heq
    rw [lookup_erase, update_self]
    rfl
  · rw [lookup_erase_ne heq, update_of_ne heq]

/-! ## Loops over instances -/

section

variable (hdata : (data.instances.map Handle.manager).Nodup)
include hdata

/-- **Entering and leaving**: the client of a manager gets one event, where its manager has both the
group and the workspace. -/
theorem clients_enterLeave
    (hgroups : ∀ output groupData, workspaceGroups.lookup output = some groupData →
      (groupData.instances.map Handle.manager).Nodup) (enter : Bool) (display : Display M) :
    (sendWorkspaceEnterLeave workspaceGroups data enter display).nextHandle = display.nextHandle ∧
      ∀ m, (sendWorkspaceEnterLeave workspaceGroups data enter display).clients m =
        (display.clients m).enterLeave enter (data.output.bind (shownGroups m workspaceGroups))
          (handleOf m data.instances) := by
  have hbind : ∀ m, data.output.bind (shownGroups m workspaceGroups) =
      (data.output.bind fun output => workspaceGroups.lookup output).bind fun groupData =>
        handleOf m groupData.instances := by
    intro m
    rw [bind_assoc]
    rfl
  simp only [hbind]
  unfold sendWorkspaceEnterLeave
  cases hgroup : data.output.bind fun output => workspaceGroups.lookup output with
  | none => exact ⟨rfl, fun _ => rfl⟩
  | some groupData =>
    obtain ⟨output, -, hlookup⟩ := bind_eq_some_iff.mp hgroup
    have hinner : ∀ (display : Display M) (group : Handle M),
        (instancesOf group.manager data.instances).foldl (fun display workspace =>
          if enter then display.send group.manager (.workspaceEnter group.id workspace.id)
          else display.send group.manager (.workspaceLeave group.id workspace.id)) display =
        display.modify group.manager
          (Client.enterLeave enter (some group.id) (handleOf group.manager data.instances)) := by
      intro display group
      rw [instancesOf_eq hdata]
      cases handleOf group.manager data.instances with
      | none =>
        exact congrArg (Display.mk _) (update_eq_self _ _).symm
      | some workspace =>
        cases enter with
        | true => rfl
        | false => rfl
    obtain ⟨hnext, hclients⟩ := foldl_modify hinner groupData.instances display
    refine ⟨hnext, fun m => ?_⟩
    refine (hclients m).trans ?_
    rw [instancesOf_eq (hgroups output groupData hlookup), bind_some]
    cases handleOf m groupData.instances with
    | none => rfl
    | some group => rfl

omit hdata in
/-- Each client is told its handle of the group. -/
theorem GroupData.addInstances_spec (hnodup : managers.Nodup) (data : GroupData M)
    (display : Display M) (hnew : ∀ m ∈ managers, m ∉ data.instances.map Handle.manager) :
    let r := data.addInstances managers display
    r.1.instances.map Handle.manager = data.instances.map Handle.manager ++ managers ∧
      display.nextHandle ≤ r.2.nextHandle ∧
      (∀ m ∉ managers, r.2.clients m = display.clients m ∧
        handleOf m r.1.instances = handleOf m data.instances) ∧
      ∀ m ∈ managers, ∃ handle, display.nextHandle ≤ handle ∧ handle < r.2.nextHandle ∧
        handleOf m r.1.instances = some handle ∧
        r.2.clients m = (display.clients m).receive (.workspaceGroup handle) := by
  refine (foldl_addInstance (fun _ => True) GroupData.instances
    (fun d display m => (d.addInstance display m).2)
    (fun handle c => c.receive (.workspaceGroup handle))
    (fun _ _ _ _ => trivial) ?_ hnodup trivial display hnew).2
  intro d display m _
  unfold GroupData.addInstance Display.send
  simp only [Display.createResource, nextHandle_modify, clients_modify_self, true_and]
  intro m' hne
  exact clients_modify_of_ne _ hne _

/-- **Removing the instances** of a workspace: it leaves its group and is gone. -/
theorem clients_removeWorkspaceInstances
    (hgroups : ∀ output groupData, workspaceGroups.lookup output = some groupData →
      (groupData.instances.map Handle.manager).Nodup) (display : Display M) :
    (removeWorkspaceInstances workspaceGroups data display).nextHandle = display.nextHandle ∧
      ∀ m handle, handleOf m data.instances = some handle →
        (removeWorkspaceInstances workspaceGroups data display).clients m =
          ((display.clients m).enterLeave false (data.output.bind (shownGroups m workspaceGroups))
            (some handle)).receive (.workspaceRemoved handle) := by
  obtain ⟨hnext, hclients⟩ := clients_enterLeave hdata hgroups false display
  obtain ⟨hnext', hclients'⟩ := foldl_modify
    (F := fun display workspace => display.send workspace.manager (.workspaceRemoved workspace.id))
    (φ := fun workspace c => c.receive (.workspaceRemoved workspace.id)) (fun _ _ => rfl)
    data.instances (sendWorkspaceEnterLeave workspaceGroups data false display)
  refine ⟨hnext'.trans hnext, fun m handle hhandle => ?_⟩
  refine (hclients' m).trans ?_
  rw [instancesOf_eq hdata, hhandle, hclients m, hhandle]
  rfl

/-- **Creating the instances again**: a client sees the workspace leave its group, sees it removed,
and is introduced to its new handle, which enters the group. -/
theorem recreateInstances_spec
    (hgroups : ∀ output groupData, workspaceGroups.lookup output = some groupData →
      (groupData.instances.map Handle.manager).Nodup) (hmanagers : managers.Nodup)
    (display : Display M) :
    let r := recreateInstances workspaceGroups managers data display
    r.1 = { data with instances := r.1.instances } ∧
      r.1.instances.map Handle.manager = managers ∧
      ∀ m ∈ managers, ∀ old, handleOf m data.instances = some old →
        ∃ handle, display.nextHandle ≤ handle ∧ handle < r.2.nextHandle ∧
          handleOf m r.1.instances = some handle ∧
          r.2.clients m = ((((display.clients m).enterLeave false
              (data.output.bind (shownGroups m workspaceGroups)) (some old)).receive
                (.workspaceRemoved old)).introduce handle data.id data.name data.coordinates
                  data.state).enterLeave true
                    (data.output.bind (shownGroups m workspaceGroups)) (some handle) := by
  obtain ⟨hnext, hclients⟩ := clients_removeWorkspaceInstances hdata hgroups display
  obtain ⟨hsame, hmap, -, -, hadded⟩ := WorkspaceData.addInstances_spec hmanagers
    { data with instances := [] } (removeWorkspaceInstances workspaceGroups data display)
    fun _ _ => nofun
  obtain ⟨data', display', hr⟩ : ∃ data' display', WorkspaceData.addInstances managers
      { data with instances := [] } (removeWorkspaceInstances workspaceGroups data display) =
        (data', display') := ⟨_, _, rfl⟩
  rw [hr] at hsame hmap hadded
  have heq : recreateInstances workspaceGroups managers data display =
      (data', sendWorkspaceEnterLeave workspaceGroups data' true display') := by
    unfold recreateInstances
    simp only [hr]
  have hnodup : (data'.instances.map Handle.manager).Nodup := by
    rw [hmap]
    exact hmanagers
  have hsame : data' = { data with instances := data'.instances } := hsame
  have houtput : data'.output = data.output := by rw [hsame]
  obtain ⟨hnext', hclients'⟩ := clients_enterLeave hnodup hgroups true display'
  simp only [heq]
  refine ⟨hsame, hmap, ?_⟩
  intro m hm old hold
  obtain ⟨handle, hle, hlt, hhandle, hclient⟩ := hadded m hm
  refine ⟨handle, hnext ▸ hle, hnext'.symm ▸ hlt, hhandle, ?_⟩
  rw [hclients' m, houtput, hhandle, hclient, hclients m old hold]

end

end Shown

/-! ## The invariant -/

/-- The instances are those of the managers, one for each. -/
structure Owned (managers : Finset M) (instances : List (Handle M)) : Prop where
  nodup : (instances.map Handle.manager).Nodup
  mem_iff : ∀ m, m ∈ instances.map Handle.manager ↔ m ∈ managers

variable [DecidableEq Output]

/-- Every client sees what the state has for its manager. -/
structure ExtWorkspaceManagerState.Inv (s : ExtWorkspaceManagerState M Output WorkspaceId) :
    Prop where
  shows : ∀ m ∈ s.instances, Shows s.display.nextHandle (shownWorkspaces m s.workspaces)
    (shownGroups m s.workspaceGroups) (s.display.clients m).pending
  workspaces : ∀ id data, s.workspaces.lookup id = some data → Owned s.instances data.instances
  groups : ∀ output data, s.workspaceGroups.lookup output = some data →
    Owned s.instances data.instances
  named : ∀ id data, s.workspaces.lookup id = some data → data.Named

namespace ExtWorkspaceManagerState

variable {s s' s'' : ExtWorkspaceManagerState M Output WorkspaceId}

/-- A part of a refresh: every client sees it, it is balanced where it is `fair`, and nothing is
sent where nothing `changed`. -/
structure Follows (fair : Bool) (s s' : ExtWorkspaceManagerState M Output WorkspaceId)
    (changed : Bool) : Prop where
  inv : s'.Inv
  instances : s'.instances = s.instances
  current : ∀ m ∈ s.instances, (s'.display.clients m).current = (s.display.clients m).current
  balanced : ∀ m ∈ s.instances, (s'.display.clients m).balanced =
    ((s.display.clients m).balanced && fair)
  idle : changed = false → s'.display.clients = s.display.clients

theorem Follows.refl (h : s.Inv) : Follows true s s false where
  inv := h
  instances := rfl
  current _ _ := rfl
  balanced _ _ := (Bool.and_true _).symm
  idle _ := rfl

theorem Follows.trans {fair fair' changed changed' : Bool} (h : Follows fair s s' changed)
    (h' : Follows fair' s' s'' changed') : Follows (fair && fair') s s'' (changed || changed') where
  inv := h'.inv
  instances := h'.instances.trans h.instances
  current m hm := (h'.current m (h.instances ▸ hm)).trans (h.current m hm)
  balanced m hm := by
    rw [h'.balanced m (h.instances ▸ hm), h.balanced m hm, Bool.and_assoc]
  idle hidle := by
    rw [Bool.or_eq_false_iff] at hidle
    rw [h'.idle hidle.2, h.idle hidle.1]

/-- A loop whose parts are all balanced, while the state is as they need it. -/
theorem Follows.refreshEach {α : Type}
    {f : ExtWorkspaceManagerState M Output WorkspaceId → α →
      ExtWorkspaceManagerState M Output WorkspaceId × Bool}
    {J : ExtWorkspaceManagerState M Output WorkspaceId → Prop}
    (hf : ∀ s a, J s → s.Inv → J (f s a).1 ∧ Follows true s (f s a).1 (f s a).2) (l : List α)
    {fair changed : Bool} {s₀ : ExtWorkspaceManagerState M Output WorkspaceId} (hJ : J s)
    (h : Follows fair s₀ s changed) :
    J (ExtWorkspace.refreshEach f l (s, changed)).1 ∧
      Follows fair s₀ (ExtWorkspace.refreshEach f l (s, changed)).1
        (ExtWorkspace.refreshEach f l (s, changed)).2 := by
  induction l generalizing s changed with
  | nil => exact ⟨hJ, h⟩
  | cons a l ih =>
    obtain ⟨hJ', hstep⟩ := hf s a hJ h.inv
    have hstep := h.trans hstep
    rw [Bool.and_true] at hstep
    exact ih hJ' hstep

variable {m : M} {order : List WorkspaceId} {managers : List M}

/-- A manager that is bound has a handle of every workspace. -/
theorem Inv.entry (h : s.Inv) (hm : m ∈ s.instances) {id : WorkspaceId}
    {data : WorkspaceData M Output} (hlookup : s.workspaces.lookup id = some data) :
    ∃ handle, handleOf m data.instances = some handle ∧
      shownWorkspaces m s.workspaces id =
        some { handle, info := data.info, output := data.output } := by
  obtain ⟨handle, hhandle⟩ := handleOf_isSome (((h.workspaces id data hlookup).mem_iff m).mpr hm)
  refine ⟨handle, hhandle, ?_⟩
  unfold shownWorkspaces WorkspaceData.entry
  rw [hlookup, bind_some, hhandle]
  rfl

theorem Inv.nodup_groups (h : s.Inv) : ∀ output groupData,
    s.workspaceGroups.lookup output = some groupData →
      (groupData.instances.map Handle.manager).Nodup :=
  fun output groupData hlookup => (h.groups output groupData hlookup).nodup

/-! ## The parts of a refresh -/

/-- **A workspace that no longer exists** leaves its group and is removed. -/
theorem Inv.retainWorkspace (h : s.Inv) (layout : Layout Output WorkspaceId) (id : WorkspaceId) :
    Follows true s (s.retainWorkspace layout id).1 (s.retainWorkspace layout id).2 := by
  unfold ExtWorkspaceManagerState.retainWorkspace
  cases hlookup : s.workspaces.lookup id with
  | none => exact Follows.refl h
  | some data =>
    by_cases hmem : id ∈ layout.workspaces.map LayoutWorkspace.id
    · simp only [if_pos hmem]
      exact Follows.refl h
    · simp only [if_neg hmem]
      obtain ⟨hnext, hclients⟩ := clients_removeWorkspaceInstances
        (h.workspaces id data hlookup).nodup h.nodup_groups s.display
      have hkeeps : ∀ {id' data'}, (s.workspaces.erase id).lookup id' = some data' →
          s.workspaces.lookup id' = some data' := by
        intro id' data' hlookup'
        by_cases heq : id' = id
        · rw [heq, lookup_erase] at hlookup'
          cases hlookup'
        · rwa [lookup_erase_ne heq] at hlookup'
      refine ⟨⟨?_, ?_, h.groups, ?_⟩, rfl, ?_, ?_, nofun⟩
      · intro m hm
        obtain ⟨handle, hhandle, hentry⟩ := h.entry hm hlookup
        obtain ⟨hleave, -⟩ := (h.shows m hm).leaves hentry
        have hhide := hleave.hide (update_self ..) rfl
        rw [update_idem, ← shownWorkspaces_erase] at hhide
        simp only [hnext, hclients m handle hhandle]
        exact hhide
      · exact fun id' data' hlookup' => h.workspaces id' data' (hkeeps hlookup')
      · exact fun id' data' hlookup' => h.named id' data' (hkeeps hlookup')
      · intro m hm
        obtain ⟨handle, hhandle, -⟩ := h.entry hm hlookup
        simp only [hclients m handle hhandle]
        exact enterLeave_current ..
      · intro m hm
        obtain ⟨handle, hhandle, hentry⟩ := h.entry hm hlookup
        obtain ⟨-, hbalanced⟩ := (h.shows m hm).leaves hentry
        simp only [hclients m handle hhandle]
        show (_ && true) = _
        rw [Bool.and_true, Bool.and_true]
        exact hbalanced

/-- The instances on an output are the workspaces that are shown on it. -/
theorem Inv.instancesOn_ids (h : s.Inv) (order : List WorkspaceId) (output : Output) :
    (s.instancesOn order output m).map Handle.id = order.filterMap fun id =>
      (shownWorkspaces m s.workspaces id).bind fun e =>
        if e.output = some output then some e.handle else none := by
  unfold instancesOn HashMap.values
  induction order with
  | nil => rfl
  | cons id order ih =>
    unfold shownWorkspaces at ih ⊢
    cases hlookup : s.workspaces.lookup id with
    | none =>
      simp only [filterMap_cons, hlookup, bind_none]
      exact ih
    | some data =>
      simp only [filterMap_cons, hlookup, bind_some]
      by_cases hout : data.output = some output
      · rw [filter_cons_of_pos (by simpa using hout), flatMap_cons, map_append, ih,
          instancesOf_eq (h.workspaces id data hlookup).nodup]
        unfold WorkspaceData.entry
        cases handleOf m data.instances with
        | none => rfl
        | some handle =>
          simp only [map_some, bind_some, if_pos hout]
          rfl
      · rw [filter_cons_of_neg (by simpa using hout), ih]
        unfold WorkspaceData.entry
        cases handleOf m data.instances with
        | none => rfl
        | some handle => simp only [map_some, bind_some, if_neg hout]

/-- The order has every workspace once. -/
def Lists (order : List WorkspaceId) (s : ExtWorkspaceManagerState M Output WorkspaceId) : Prop :=
  order.Nodup ∧ ∀ id data, s.workspaces.lookup id = some data → id ∈ order

theorem Inv.mem_instancesOn (h : s.Inv) (horder : s.Lists order) (output : Output) (handle : ℕ) :
    handle ∈ (s.instancesOn order output m).map Handle.id ↔
      ∃ id e, shownWorkspaces m s.workspaces id = some e ∧ e.handle = handle ∧
        e.output = some output := by
  rw [h.instancesOn_ids, mem_filterMap]
  constructor
  · rintro ⟨id, -, hbind⟩
    obtain ⟨e, he, hite⟩ := bind_eq_some_iff.mp hbind
    obtain ⟨hout, hhandle⟩ := ite_none_right_eq_some.mp hite
    exact ⟨id, e, he, some.inj hhandle, hout⟩
  · rintro ⟨id, e, he, rfl, hout⟩
    refine ⟨id, ?_, ?_⟩
    · obtain ⟨data, hlookup, -⟩ := bind_eq_some_iff.mp he
      exact horder.2 id data hlookup
    · rw [he, bind_some, if_pos hout]

theorem Inv.nodup_instancesOn (h : s.Inv) (hm : m ∈ s.instances) (horder : s.Lists order)
    (output : Output) : ((s.instancesOn order output m).map Handle.id).Nodup := by
  rw [h.instancesOn_ids]
  refine horder.1.filterMap ?_
  intro id id' handle hhandle hhandle'
  obtain ⟨e, he, hite⟩ := bind_eq_some_iff.mp hhandle
  obtain ⟨e', he', hite'⟩ := bind_eq_some_iff.mp hhandle'
  obtain ⟨-, heq⟩ := ite_none_right_eq_some.mp hite
  obtain ⟨-, heq'⟩ := ite_none_right_eq_some.mp hite'
  exact (h.shows m hm).handle_inj id id' e e' he he'
    ((some.inj heq).trans (some.inj heq').symm)

/-- A manager that is bound has a handle of every group. -/
theorem Inv.group (h : s.Inv) (hm : m ∈ s.instances) {output : Output} {data : GroupData M}
    (hlookup : s.workspaceGroups.lookup output = some data) :
    ∃ handle, handleOf m data.instances = some handle ∧
      shownGroups m s.workspaceGroups output = some handle := by
  obtain ⟨handle, hhandle⟩ := handleOf_isSome (((h.groups output data hlookup).mem_iff m).mpr hm)
  refine ⟨handle, hhandle, ?_⟩
  unfold shownGroups
  rw [hlookup, bind_some, hhandle]

/-- **A group whose output no longer exists** is left by its workspaces and removed. -/
theorem Inv.retainGroup (h : s.Inv) (layout : Layout Output WorkspaceId) (horder : s.Lists order)
    (output : Output) :
    Follows true s (s.retainGroup layout order output).1
      (s.retainGroup layout order output).2 := by
  unfold ExtWorkspaceManagerState.retainGroup
  cases hlookup : s.workspaceGroups.lookup output with
  | none => exact Follows.refl h
  | some data =>
    by_cases hmem : output ∈ layout.sortedOutputs
    · simp only [if_pos hmem]
      exact Follows.refl h
    · simp only [if_neg hmem]
      have hloop : ∀ (display : Display M) (group : Handle M),
          ((s.instancesOn order output group.manager).foldl (fun display workspace =>
            display.send group.manager (.workspaceLeave group.id workspace.id)) display).send
              group.manager (.groupRemoved group.id) =
          display.modify group.manager fun c =>
            ((s.instancesOn order output group.manager).foldl (fun c workspace =>
              c.receive (.workspaceLeave group.id workspace.id)) c).receive
                (.groupRemoved group.id) := by
        intro display group
        rw [foldl_send (fun workspace : Handle M => .workspaceLeave group.id workspace.id)]
        exact modify_modify _ _ _ _
      obtain ⟨hnext, hclients⟩ := foldl_modify hloop data.instances s.display
      have hinstances : ∀ {m handle}, handleOf m data.instances = some handle →
          instancesOf m data.instances = [⟨handle, m⟩] :=
        instancesOf_singleton (h.groups output data hlookup).nodup
      have hkeeps : ∀ {output' data'}, (s.workspaceGroups.erase output).lookup output' =
          some data' → s.workspaceGroups.lookup output' = some data' := by
        intro output' data' hlookup'
        by_cases heq : output' = output
        · rw [heq, lookup_erase] at hlookup'
          cases hlookup'
        · rwa [lookup_erase_ne heq] at hlookup'
      refine ⟨⟨?_, h.workspaces, ?_, h.named⟩, rfl, ?_, ?_, nofun⟩
      · intro m hm
        obtain ⟨handle, hhandle, hgroup⟩ := h.group hm hlookup
        obtain ⟨hworkspaces, hgroups, -, hmembers, -⟩ := foldl_leave Handle.id handle
          (s.instancesOn order output m) (s.display.clients m)
        simp only [hnext, hclients m, hinstances hhandle, shownGroups_erase, foldl_cons, foldl_nil]
        have hshows := h.shows m hm
        refine hshows.hideGroup hgroup ?_ hworkspaces ?_
        · exact congrArg (fun groups => groups.erase handle) hgroups
        · intro g h'
          refine (hmembers g h').trans ?_
          rw [h.mem_instancesOn horder]
          refine and_congr_right fun hmem' => not_congr ⟨And.left, fun hg => ⟨hg, ?_⟩⟩
          obtain ⟨id, e, he, rfl, hout⟩ := (hshows.members_iff _ _).mp hmem'
          obtain ⟨output', houtput, hgroup'⟩ := bind_eq_some_iff.mp hout
          refine ⟨id, e, he, rfl, houtput.trans (congrArg some ?_)⟩
          exact hshows.group_inj output' output handle (hg ▸ hgroup') hgroup
      · exact fun output' data' hlookup' => h.groups output' data' (hkeeps hlookup')
      · intro m hm
        obtain ⟨handle, hhandle, -⟩ := h.group hm hlookup
        obtain ⟨-, -, hcurrent, -⟩ := foldl_leave Handle.id handle
          (s.instancesOn order output m) (s.display.clients m)
        simp only [hclients m, hinstances hhandle, foldl_cons, foldl_nil]
        exact hcurrent
      · intro m hm
        obtain ⟨handle, hhandle, hgroup⟩ := h.group hm hlookup
        obtain ⟨-, -, -, -, hbalanced⟩ := foldl_leave Handle.id handle
          (s.instancesOn order output m) (s.display.clients m)
        simp only [hclients m, hinstances hhandle, foldl_cons, foldl_nil]
        show (_ && true) = _
        rw [Bool.and_true, Bool.and_true]
        refine hbalanced (h.nodup_instancesOn hm horder output) ?_
        intro h' hh'
        obtain ⟨id, e, he, rfl, hout⟩ := (h.mem_instancesOn horder output h').mp hh'
        exact ((h.shows m hm).mem_members he).mpr (by rw [hout]; exact hgroup)

/-- The order has every manager once. -/
def Manages (managers : List M) (s : ExtWorkspaceManagerState M Output WorkspaceId) : Prop :=
  managers.Nodup ∧ ∀ m, m ∈ managers ↔ m ∈ s.instances

/-- **A group for a new output** is shown, and entered by the workspaces on it. -/
theorem Inv.refreshWorkspaceGroup (h : s.Inv) (hmanagers : s.Manages managers)
    (horder : s.Lists order) (output : Output) :
    Follows true s (s.refreshWorkspaceGroup managers order output).1
      (s.refreshWorkspaceGroup managers order output).2 := by
  unfold ExtWorkspaceManagerState.refreshWorkspaceGroup
  by_cases hmem : output ∈ s.workspaceGroups
  · simp only [if_pos hmem]
    exact Follows.refl h
  · simp only [if_neg hmem]
    have hlookup : s.workspaceGroups.lookup output = none := lookup_eq_none.mpr hmem
    obtain ⟨hmap, hle, -, hadded⟩ :=
      GroupData.addInstances_spec hmanagers.1 { instances := [] } s.display fun _ _ => nofun
    generalize GroupData.addInstances managers { instances := [] } s.display = r at *
    obtain ⟨data, display⟩ := r
    have hnodup : (data.instances.map Handle.manager).Nodup := by
      rw [hmap]
      exact hmanagers.1
    have hloop : ∀ (display : Display M) (group : Handle M),
        (s.instancesOn order output group.manager).foldl (fun display workspace =>
          display.send group.manager (.workspaceEnter group.id workspace.id)) display =
        display.modify group.manager fun c =>
          (s.instancesOn order output group.manager).foldl (fun c workspace =>
            c.receive (.workspaceEnter group.id workspace.id)) c := by
      intro display group
      exact foldl_send (fun workspace : Handle M => .workspaceEnter group.id workspace.id) _ _ _
    obtain ⟨hnext, hclients⟩ := foldl_modify hloop data.instances display
    have hclient : ∀ m ∈ s.instances, ∃ handle, s.display.nextHandle ≤ handle ∧
        handle < display.nextHandle ∧ handleOf m data.instances = some handle ∧
        (data.instances.foldl (fun display group =>
          (s.instancesOn order output group.manager).foldl (fun display workspace =>
            display.send group.manager (.workspaceEnter group.id workspace.id)) display)
          display).clients m = (s.instancesOn order output m).foldl (fun c workspace =>
            c.receive (.workspaceEnter handle workspace.id))
            ((s.display.clients m).receive (.workspaceGroup handle)) := by
      intro m hm
      obtain ⟨handle, hle', hlt, hhandle, hadd⟩ := hadded m ((hmanagers.2 m).mpr hm)
      refine ⟨handle, hle', hlt, hhandle, ?_⟩
      rw [hclients m, instancesOf_singleton hnodup hhandle, hadd]
      rfl
    refine ⟨⟨?_, h.workspaces, ?_, h.named⟩, rfl, ?_, ?_, nofun⟩
    · intro m hm
      obtain ⟨handle, hle', hlt, hhandle, hclient⟩ := hclient m hm
      obtain ⟨hworkspaces, hgroups, -, hmembers, -⟩ := foldl_enter Handle.id handle
        (s.instancesOn order output m) ((s.display.clients m).receive (.workspaceGroup handle))
      have hnone : shownGroups m s.workspaceGroups output = none := by
        unfold shownGroups
        rw [hlookup]
        rfl
      simp only [hnext, hclient, shownGroups_insert, hhandle]
      refine ((h.shows m hm).mono hle').showGroup hnone hgroups hworkspaces ?_ hlt
      intro g h'
      refine (hmembers g h').trans (or_congr_right (and_congr_right fun _ => ?_))
      exact h.mem_instancesOn horder output h'
    · intro output' data' hlookup'
      by_cases heq : output' = output
      · rw [heq, lookup_insert] at hlookup'
        obtain rfl := some.inj hlookup'
        refine ⟨hnodup, fun m => ?_⟩
        rw [hmap]
        exact hmanagers.2 m
      · rw [lookup_insert_of_ne _ heq] at hlookup'
        exact h.groups output' data' hlookup'
    · intro m hm
      obtain ⟨handle, -, -, -, hclient⟩ := hclient m hm
      obtain ⟨-, -, hcurrent, -⟩ := foldl_enter Handle.id handle
        (s.instancesOn order output m) ((s.display.clients m).receive (.workspaceGroup handle))
      simp only [hclient]
      exact hcurrent
    · intro m hm
      obtain ⟨handle, hle', -, -, hclient⟩ := hclient m hm
      obtain ⟨-, -, -, -, hbalanced⟩ := foldl_enter Handle.id handle
        (s.instancesOn order output m) ((s.display.clients m).receive (.workspaceGroup handle))
      simp only [hclient]
      refine hbalanced (h.nodup_instancesOn hm horder output) ?_
      intro h' _ hmem'
      obtain ⟨id, e, -, -, hout⟩ := ((h.shows m hm).members_iff handle h').mp hmem'
      obtain ⟨output', -, hgroup⟩ := bind_eq_some_iff.mp hout
      have hlt := (h.shows m hm).group_lt output' handle hgroup
      omega

/-- A client that is bound is shown every group. -/
theorem Inv.isNone_shownGroups (h : s.Inv) (hm : m ∈ s.instances) (output : Option Output) :
    (output.bind (shownGroups m s.workspaceGroups)).isNone =
      !(output.bind fun output => s.workspaceGroups.lookup output).isSome := by
  cases output with
  | none => rfl
  | some output =>
    rw [bind_some, bind_some]
    cases hlookup : s.workspaceGroups.lookup output with
    | none =>
      unfold shownGroups
      rw [hlookup]
      rfl
    | some data =>
      obtain ⟨handle, -, hgroup⟩ := h.group hm hlookup
      rw [hgroup]
      rfl

variable {ws : LayoutWorkspace Output WorkspaceId}

/-- **An existing workspace** is refreshed: every client sees it as the layout has it. -/
theorem Inv.refreshExisting (h : s.Inv) (hmanagers : s.Manages managers)
    {data : WorkspaceData M Output} (hlookup : s.workspaces.lookup ws.id = some data) :
    let r := ExtWorkspace.refreshExisting s.workspaceGroups managers ws data s.display
    r.1.Matches ws ∧ r.1.Named ∧ Owned s.instances r.1.instances ∧
      (r.2.2 = false → r.2.1.clients = s.display.clients) ∧
      ∀ m ∈ s.instances, Shows r.2.1.nextHandle
          (update (shownWorkspaces m s.workspaces) ws.id (r.1.entry m))
          (shownGroups m s.workspaceGroups) (r.2.1.clients m).pending ∧
        (r.2.1.clients m).current = (s.display.clients m).current ∧
        (r.2.1.clients m).balanced =
          ((s.display.clients m).balanced && !Misleaves s.workspaceGroups ws data) := by
  have hnamed := h.named ws.id data hlookup
  have howned := h.workspaces ws.id data hlookup
  obtain ⟨hnext, hclients⟩ :=
    clients_enterLeave howned.nodup h.nodup_groups false s.display
  by_cases hrecreate : (decide (data.id ≠ ws.name) && data.id.isSome) = true
  · rw [refreshExisting_recreate hnamed hrecreate]
    obtain ⟨display, hdisplay⟩ : ∃ display, display = if data.output ≠ ws.output then
      sendWorkspaceEnterLeave s.workspaceGroups data false s.display else s.display := ⟨_, rfl⟩
    rw [← hdisplay]
    -- The workspace leaves its group, and if it moved, the group of its new output as well.
    have hleft : ∀ m ∈ s.instances, ∀ old, handleOf m data.instances = some old →
        shownWorkspaces m s.workspaces ws.id = some ⟨old, data.info, data.output⟩ →
        Shows s.display.nextHandle
          (update (shownWorkspaces m s.workspaces) ws.id (some ⟨old, data.info, none⟩))
          (shownGroups m s.workspaceGroups) ((display.clients m).enterLeave false
            (ws.output.bind (shownGroups m s.workspaceGroups)) (some old)).pending ∧
        ((display.clients m).enterLeave false
          (ws.output.bind (shownGroups m s.workspaceGroups)) (some old)).balanced =
            ((s.display.clients m).balanced && !Misleaves s.workspaceGroups ws data) ∧
        (display.clients m).current = (s.display.clients m).current := by
      intro m hm old hold hentry
      unfold Misleaves
      rw [hrecreate, hdisplay]
      by_cases hout : data.output = ws.output
      · rw [if_neg (not_not.mpr hout), ← hout]
        obtain ⟨hleft, hbalanced⟩ := (h.shows m hm).leaves hentry
        refine ⟨hleft, hbalanced.trans ?_, rfl⟩
        simp
      · rw [if_pos hout, hclients m, hold]
        obtain ⟨hleft, hbalanced⟩ := (h.shows m hm).leaves_again hentry
          (ws.output.bind (shownGroups m s.workspaceGroups))
        refine ⟨hleft, hbalanced.trans ?_, enterLeave_current ..⟩
        rw [h.isNone_shownGroups hm]
        simp [hout]
    have hdisplayNext : display.nextHandle = s.display.nextHandle := by
      rw [hdisplay]
      by_cases hout : data.output = ws.output
      · rw [if_neg (not_not.mpr hout)]
      · rw [if_pos hout, hnext]
    have hupdated : ((data.updated ws).instances.map Handle.manager).Nodup := howned.nodup
    obtain ⟨hsame, hmap, hadded⟩ :=
      recreateInstances_spec hupdated h.nodup_groups hmanagers.1 display
    obtain ⟨data', display', hr⟩ : ∃ data' display', recreateInstances s.workspaceGroups managers
        (data.updated ws) display = (data', display') := ⟨_, _, rfl⟩
    rw [hr] at hsame hmap hadded ⊢
    have hsame : data' = { data.updated ws with instances := data'.instances } := hsame
    have hinfo : data'.info = (data.updated ws).info := by
      rw [hsame]
      rfl
    have houtput : data'.output = ws.output := by
      rw [hsame]
      rfl
    have hname : data'.Named := by
      rw [hsame]
      exact hnamed.updated ws
    refine ⟨⟨hinfo.trans (hnamed.matches_updated ws).info, houtput⟩, hname, ⟨?_, ?_⟩, nofun, ?_⟩
    · rw [hmap]
      exact hmanagers.1
    · rw [hmap]
      exact hmanagers.2
    · intro m hm
      obtain ⟨old, hold, hentry⟩ := h.entry hm hlookup
      obtain ⟨hleft, hbalanced, hcurrent⟩ := hleft m hm old hold hentry
      obtain ⟨handle, hle, hlt, hhandle, hclient⟩ := hadded m ((hmanagers.2 m).mpr hm) old hold
      let left := (display.clients m).enterLeave false
        (ws.output.bind (shownGroups m s.workspaceGroups)) (some old)
      have hhide : Shows s.display.nextHandle
          (update (shownWorkspaces m s.workspaces) ws.id none)
          (shownGroups m s.workspaceGroups) (left.receive (.workspaceRemoved old)).pending := by
        have hhide := hleft.hide (update_self ..) rfl
        rwa [update_idem] at hhide
      have hnone : (none : Option Output).bind (shownGroups m s.workspaceGroups) = none := rfl
      have hintroduced := hhide.introduce (update_self ..) hnone
        (hdisplayNext ▸ hle) hlt (data.updated ws).id (data.updated ws).name
        (data.updated ws).coordinates (data.updated ws).state
      rw [update_idem] at hintroduced
      obtain ⟨hentered, hbalanced'⟩ :=
        hintroduced.enters (update_self ..) rfl (data.updated ws).output
      rw [update_idem] at hentered
      have hentry' : data'.entry m = some ⟨handle, (data.updated ws).info, ws.output⟩ := by
        unfold WorkspaceData.entry
        rw [hhandle, hinfo, houtput]
        rfl
      obtain ⟨hcurrent', hbalanced''⟩ := introduce_frame handle (data.updated ws).id
        (data.updated ws).name (data.updated ws).coordinates (data.updated ws).state
        (left.receive (.workspaceRemoved old))
      have hclient : display'.clients m = _ := hclient
      simp only [hclient, hentry']
      refine ⟨hentered, ?_, ?_⟩
      · refine (enterLeave_current ..).trans (hcurrent'.trans ?_)
        exact (enterLeave_current ..).trans hcurrent
      · refine hbalanced'.trans (hbalanced''.trans ?_)
        exact (Bool.and_true _).trans hbalanced
  · have hrecreate := Bool.not_eq_true _ |>.mp hrecreate
    have hfair : Misleaves s.workspaceGroups ws data = false := by
      unfold Misleaves
      rw [hrecreate, Bool.false_and, Bool.false_and]
    rw [refreshExisting_keep hnamed hrecreate, hfair]
    -- The workspace moves to the group of its output.
    obtain ⟨moved, hmoved⟩ : ∃ moved, moved = if data.output ≠ ws.output then
      sendWorkspaceEnterLeave s.workspaceGroups (data.updated ws) true
        (sendWorkspaceEnterLeave s.workspaceGroups data false s.display)
      else s.display := ⟨_, rfl⟩
    have hupdated : ((data.updated ws).instances.map Handle.manager).Nodup := howned.nodup
    obtain ⟨hnext', hclients'⟩ := clients_enterLeave hupdated h.nodup_groups true
      (sendWorkspaceEnterLeave s.workspaceGroups data false s.display)
    have hmovedNext : moved.nextHandle = s.display.nextHandle := by
      rw [hmoved]
      by_cases hout : data.output = ws.output
      · rw [if_neg (not_not.mpr hout)]
      · rw [if_pos hout, hnext', hnext]
    have hmovedShows : ∀ m ∈ s.instances, ∀ handle, handleOf m data.instances = some handle →
        shownWorkspaces m s.workspaces ws.id = some ⟨handle, data.info, data.output⟩ →
        Shows s.display.nextHandle
          (update (shownWorkspaces m s.workspaces) ws.id
            (some ⟨handle, data.info, ws.output⟩))
          (shownGroups m s.workspaceGroups) (moved.clients m).pending ∧
        (moved.clients m).balanced = (s.display.clients m).balanced ∧
        (moved.clients m).current = (s.display.clients m).current := by
      intro m hm handle hhandle hentry
      rw [hmoved]
      by_cases hout : data.output = ws.output
      · rw [if_neg (not_not.mpr hout), ← hout, ← hentry, update_eq_self]
        exact ⟨h.shows m hm, rfl, rfl⟩
      · rw [if_pos hout, hclients' m, hclients m, hhandle]
        have hhandle' : handleOf m (data.updated ws).instances = some handle := hhandle
        rw [hhandle']
        obtain ⟨hmoves, hbalanced⟩ := (h.shows m hm).moves hentry ws.output
        exact ⟨hmoves, hbalanced, (enterLeave_current ..).trans (enterLeave_current ..)⟩
    simp only [← hmoved]
    obtain ⟨hnextChange, hclientsChange⟩ := foldl_sendChange hupdated
      (decide (data.id ≠ ws.name)) (data.nameChanged ws)
      (decide (data.coordinates.2 ≠ ws.wsIdx)) (decide (data.state ≠ ws.state)) moved
    obtain ⟨display, hdisplay⟩ : ∃ display, display =
        if (decide (data.id ≠ ws.name) || data.nameChanged ws ||
            decide (data.coordinates.2 ≠ ws.wsIdx) || decide (data.state ≠ ws.state)) = true then
          data.instances.foldl (sendChange (decide (data.id ≠ ws.name)) (data.nameChanged ws)
            (decide (data.coordinates.2 ≠ ws.wsIdx)) (decide (data.state ≠ ws.state))
            (data.updated ws)) moved
        else moved := ⟨_, rfl⟩
    rw [← hdisplay]
    have hdisplayNext : display.nextHandle = s.display.nextHandle := by
      rw [hdisplay, ← hmovedNext]
      split
      · exact hnextChange
      · rfl
    have hclient : ∀ m handle, handleOf m data.instances = some handle →
        display.clients m = (moved.clients m).change handle
          (if decide (data.id ≠ ws.name) then ws.name else none)
          (if data.nameChanged ws then some ws.buildName else none)
          (if decide (data.coordinates.2 ≠ ws.wsIdx) then some (data.coordinates.1, ws.wsIdx)
            else none)
          (if decide (data.state ≠ ws.state) then some ws.state else none) := by
      intro m handle hhandle
      rw [hdisplay]
      split
      · exact hclientsChange m handle hhandle
      · next hsame =>
        simp only [Bool.or_eq_true, not_or, Bool.not_eq_true] at hsame
        obtain ⟨⟨⟨hid, hname⟩, hcoordinates⟩, hstate⟩ := hsame
        rw [hid, hname, hcoordinates, hstate]
        rfl
    refine ⟨hnamed.matches_updated ws, hnamed.updated ws, howned, ?_, ?_⟩
    · intro hidle
      rw [Bool.or_eq_false_iff] at hidle
      have hout : data.output = ws.output := not_not.mp (of_decide_eq_false hidle.1)
      show display.clients = _
      rw [hdisplay, hidle.2, hmoved, if_neg (not_not.mpr hout)]
      rfl
    · intro m hm
      obtain ⟨handle, hhandle, hentry⟩ := h.entry hm hlookup
      obtain ⟨hshows, hbalanced, hcurrent⟩ := hmovedShows m hm handle hhandle hentry
      have hchanges := hshows.changes (update_self ..)
        (if decide (data.id ≠ ws.name) then ws.name else none)
        (if data.nameChanged ws then some ws.buildName else none)
        (if decide (data.coordinates.2 ≠ ws.wsIdx) then some (data.coordinates.1, ws.wsIdx)
          else none)
        (if decide (data.state ≠ ws.state) then some ws.state else none)
      rw [update_idem] at hchanges
      have hentry' : (data.updated ws).entry m =
          some ⟨handle, (data.updated ws).info, ws.output⟩ := by
        unfold WorkspaceData.entry
        have hhandle' : handleOf m (data.updated ws).instances = some handle := hhandle
        rw [hhandle']
        rfl
      obtain ⟨hcurrent', hbalanced'⟩ := change_frame handle
        (if decide (data.id ≠ ws.name) then ws.name else none)
        (if data.nameChanged ws then some ws.buildName else none)
        (if decide (data.coordinates.2 ≠ ws.wsIdx) then some (data.coordinates.1, ws.wsIdx)
          else none)
        (if decide (data.state ≠ ws.state) then some ws.state else none) (moved.clients m)
      rw [hnamed.info_updated ws hrecreate, ← hdisplayNext] at hchanges
      rw [hclient m handle hhandle, hentry']
      refine ⟨hchanges, hcurrent'.trans hcurrent, hbalanced'.trans (hbalanced.trans ?_)⟩
      exact (Bool.and_true _).symm

/-- **A new workspace** is introduced to every client, and enters its group. -/
theorem Inv.refreshNew (h : s.Inv) (hmanagers : s.Manages managers)
    (hlookup : s.workspaces.lookup ws.id = none) :
    let r := ExtWorkspace.refreshNew s.workspaceGroups managers ws s.display
    r.1.Matches ws ∧ r.1.Named ∧ Owned s.instances r.1.instances ∧
      ∀ m ∈ s.instances, Shows r.2.nextHandle
          (update (shownWorkspaces m s.workspaces) ws.id (r.1.entry m))
          (shownGroups m s.workspaceGroups) (r.2.clients m).pending ∧
        (r.2.clients m).current = (s.display.clients m).current ∧
        (r.2.clients m).balanced = (s.display.clients m).balanced := by
  let data₀ : WorkspaceData M Output :=
    { id := ws.name
      name := ws.buildName
      coordinates := (0, ws.wsIdx)
      state := ws.state
      instances := []
      output := ws.output }
  obtain ⟨hsame, hmap, -, -, hadded⟩ :=
    WorkspaceData.addInstances_spec hmanagers.1 data₀ s.display fun _ _ => nofun
  obtain ⟨data, display, hr⟩ : ∃ data display,
      WorkspaceData.addInstances managers data₀ s.display = (data, display) := ⟨_, _, rfl⟩
  rw [hr] at hsame hmap hadded
  have hsame : data = { data₀ with instances := data.instances } := hsame
  have hnodup : (data.instances.map Handle.manager).Nodup := by
    rw [hmap]
    exact hmanagers.1
  have hinfo : data.info = ws.info := by
    rw [hsame]
    rfl
  have houtput : data.output = ws.output := by
    rw [hsame]
  obtain ⟨hnext, hclients⟩ := clients_enterLeave hnodup h.nodup_groups true display
  have heq : ExtWorkspace.refreshNew s.workspaceGroups managers ws s.display =
      (data, sendWorkspaceEnterLeave s.workspaceGroups data true display) := by
    unfold ExtWorkspace.refreshNew
    simp only [data₀] at hr
    simp only [hr]
  rw [heq]
  refine ⟨⟨hinfo, houtput⟩, ?_, ⟨hnodup, ?_⟩, ?_⟩
  · rw [hsame]
    exact ⟨rfl, rfl⟩
  · rw [hmap]
    exact hmanagers.2
  · intro m hm
    obtain ⟨handle, hle, hlt, hhandle, hclient⟩ := hadded m ((hmanagers.2 m).mpr hm)
    have hclient : display.clients m = (s.display.clients m).introduce handle ws.name ws.buildName
        (0, ws.wsIdx) ws.state := hclient
    have hnew : shownWorkspaces m s.workspaces ws.id = none := by
      unfold shownWorkspaces
      rw [hlookup]
      rfl
    have hnone : (none : Option Output).bind (shownGroups m s.workspaceGroups) = none := rfl
    have hintroduced := (h.shows m hm).introduce hnew hnone hle hlt ws.name ws.buildName
      (0, ws.wsIdx) ws.state
    obtain ⟨hentered, hbalanced⟩ := hintroduced.enters (update_self ..) rfl ws.output
    rw [update_idem] at hentered
    have hentry : data.entry m = some ⟨handle, ws.info, ws.output⟩ := by
      unfold WorkspaceData.entry
      rw [hhandle, hinfo, houtput]
      rfl
    obtain ⟨hcurrent', hbalanced'⟩ := introduce_frame handle ws.name ws.buildName
      (0, ws.wsIdx) ws.state (s.display.clients m)
    simp only [hnext, hclients m, hhandle, houtput, hclient, hentry]
    exact ⟨hentered, (enterLeave_current ..).trans hcurrent', hbalanced.trans hbalanced'⟩

/-- The refresh of the workspace is balanced. -/
def Fair (s : ExtWorkspaceManagerState M Output WorkspaceId)
    (ws : LayoutWorkspace Output WorkspaceId) : Bool :=
  !(s.workspaces.lookup ws.id).any (Misleaves s.workspaceGroups ws)

/-- **A workspace is refreshed**: what is kept of it is what the layout has. -/
theorem Inv.refreshWorkspace (h : s.Inv) (hmanagers : s.Manages managers)
    (ws : LayoutWorkspace Output WorkspaceId) :
    Follows (s.Fair ws) s (s.refreshWorkspace managers ws).1
        (s.refreshWorkspace managers ws).2 ∧
      (s.refreshWorkspace managers ws).1.workspaceGroups = s.workspaceGroups ∧
      ∃ data, data.Matches ws ∧
        (s.refreshWorkspace managers ws).1.workspaces = s.workspaces.insert ws.id data := by
  -- What is stored is owned by the managers, and has its name.
  have hinsert : ∀ {P : WorkspaceData M Output → Prop} {data : WorkspaceData M Output}, P data →
      (∀ id data, s.workspaces.lookup id = some data → P data) →
      ∀ id data', (s.workspaces.insert ws.id data).lookup id = some data' → P data' := by
    intro P data hdata hall id data' hlookup'
    by_cases heq : id = ws.id
    · rw [heq, lookup_insert] at hlookup'
      exact some.inj hlookup' ▸ hdata
    · rw [lookup_insert_of_ne _ heq] at hlookup'
      exact hall id data' hlookup'
  unfold ExtWorkspaceManagerState.refreshWorkspace Fair
  cases hlookup : s.workspaces.lookup ws.id with
  | some data =>
    obtain ⟨hmatches, hnamed, howned, hidle, hclients⟩ := h.refreshExisting hmanagers hlookup
    obtain ⟨data', display, changed, hr⟩ : ∃ data' display changed, ExtWorkspace.refreshExisting
        s.workspaceGroups managers ws data s.display = (data', display, changed) := ⟨_, _, _, rfl⟩
    rw [hr] at hmatches hnamed howned hidle hclients
    simp only [hr]
    refine ⟨⟨⟨?_, hinsert howned h.workspaces, h.groups, hinsert hnamed h.named⟩, rfl, ?_, ?_,
      hidle⟩, trivial, data', hmatches, rfl⟩
    · intro m hm
      simp only [shownWorkspaces_insert]
      exact (hclients m hm).1
    · exact fun m hm => (hclients m hm).2.1
    · exact fun m hm => (hclients m hm).2.2
  | none =>
    obtain ⟨hmatches, hnamed, howned, hclients⟩ := h.refreshNew hmanagers hlookup
    obtain ⟨data', display, hr⟩ : ∃ data' display, ExtWorkspace.refreshNew
        s.workspaceGroups managers ws s.display = (data', display) := ⟨_, _, rfl⟩
    rw [hr] at hmatches hnamed howned hclients
    simp only [hr]
    refine ⟨⟨⟨?_, hinsert howned h.workspaces, h.groups, hinsert hnamed h.named⟩, rfl, ?_, ?_,
      nofun⟩, trivial, data', hmatches, rfl⟩
    · intro m hm
      simp only [shownWorkspaces_insert]
      exact (hclients m hm).1
    · exact fun m hm => (hclients m hm).2.1
    · exact fun m hm => (hclients m hm).2.2.trans (Bool.and_true _).symm

end ExtWorkspaceManagerState

end Tiri.Protocols.ExtWorkspace
