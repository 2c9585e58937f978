import Tiri.Ipc.State
import Tiri.Lib.Fold

/-!
# The workspaces of the event stream

`State::ipc_refresh_workspaces` (`ipc/server.rs`, lines 816–913) compares what the server has
told its clients with the layout, and sends either the whole list of workspaces or, when only
activity, urgency and active windows have changed, one event for each change.

Results:
* `refreshWorkspaces_exact`: applied in order, the events lead from what an earlier refresh has
  left to exactly the snapshot of the layout.
-/

namespace Tiri.Ipc

open Option Finmap HashMap
open List hiding map_map

/-! ## What the refresh reads -/

/-- A workspace of the layout, as the refresh sees it. -/
structure WorkspaceView where
  id : ℕ
  name : Option String
  isUrgent : Bool
  activeWindow : Option ℕ

/-- A monitor of the layout. -/
structure MonitorView where
  outputName : String
  activeWorkspaceIdx : ℕ
  workspaces : List WorkspaceView

/-- The layout: its monitors, or its workspaces while no output is connected. -/
inductive LayoutView
  | normal (monitors : List MonitorView) (activeMonitorIdx : ℕ)
  | noOutputs (workspaces : List WorkspaceView)

/-- An item of `layout.workspaces()`. -/
structure WorkspaceEntry where
  mon : Option MonitorView
  wsIdx : ℕ
  ws : WorkspaceView

namespace WorkspaceEntry

variable (self : WorkspaceEntry)

/-- `mon.is_some_and(|mon| mon.active_workspace_idx() == ws_idx)`. -/
def isActive : Bool :=
  self.mon.any fun mon => mon.activeWorkspaceIdx = self.wsIdx

/-- `mon.map(|mon| mon.output_name())`. -/
def output : Option String := self.mon.map MonitorView.outputName

/-- `u8::try_from(ws_idx + 1).unwrap_or(u8::MAX)`. -/
def idx : ℕ := min (self.wsIdx + 1) 255

/-- The `Workspace` that goes to the clients. -/
def toIpc (focusedWsId : Option ℕ) : Workspace where
  id := self.ws.id
  idx := self.idx
  name := self.ws.name
  output := self.output
  isUrgent := self.ws.isUrgent
  isActive := self.isActive
  isFocused := some self.ws.id = focusedWsId
  activeWindowId := self.ws.activeWindow

end WorkspaceEntry

namespace LayoutView

/-- `layout.workspaces()` (`layout/mod.rs`, lines 5116–5148). -/
def workspaces : LayoutView → List WorkspaceEntry
  | normal monitors _ => monitors.flatMap fun mon =>
    mon.workspaces.zipIdx.map fun p => ⟨some mon, p.2, p.1⟩
  | noOutputs workspaces => workspaces.zipIdx.map fun p => ⟨none, p.2, p.1⟩

/-- `layout.active_workspace()`: indexing the active monitor or its active workspace may
panic. -/
def activeWorkspace : LayoutView → Option (Option WorkspaceView)
  | normal monitors activeMonitorIdx => do
    let mon ← monitors[activeMonitorIdx]?
    let ws ← mon.workspaces[mon.activeWorkspaceIdx]?
    return some ws
  | noOutputs _ => some none

/-- The snapshot: what a client should see. -/
def snapshot (self : LayoutView) (focusedWsId : Option ℕ) : WorkspacesState :=
  ⟨HashMap.collect (self.workspaces.map fun entry => (entry.ws.id, entry.toIpc focusedWsId))⟩

end LayoutView

/-! ## The refresh -/

variable (state : WorkspacesState)

/-- The body of the loop: the events for one workspace, or nothing where the change cannot be
signalled as individual events. -/
def diffWorkspace (focusedWsId : Option ℕ) (entry : WorkspaceEntry) : Option (List Event) := do
  -- A new workspace was added.
  let ipcWs ← state.workspaces.lookup entry.ws.id
  if ipcWs.idx ≠ entry.idx ∨ ipcWs.name ≠ entry.ws.name ∨ ipcWs.output ≠ entry.output then
    none
  else
    let id := entry.ws.id
    let activeWindow :=
      if ipcWs.activeWindowId ≠ entry.ws.activeWindow then
        [.workspaceActiveWindowChanged id entry.ws.activeWindow]
      else []
    let urgency :=
      if entry.ws.isUrgent ≠ ipcWs.isUrgent then
        [.workspaceUrgencyChanged id entry.ws.isUrgent]
      else []
    let activated :=
      if some id = focusedWsId ∧ ¬ipcWs.isFocused then [.workspaceActivated id true]
      else if entry.isActive ∧ ¬ipcWs.isActive then [.workspaceActivated id false]
      else []
    return activeWindow ++ urgency ++ activated

/-- The loop over the workspaces; nothing where `need_workspaces_changed` was set. -/
def diffWorkspaces (state : WorkspacesState) (focusedWsId : Option ℕ) :
    List WorkspaceEntry → Option (List Event)
  | [] => some []
  | entry :: entries => do
    let events ← diffWorkspace state focusedWsId entry
    let rest ← diffWorkspaces state focusedWsId entries
    return events ++ rest

/-- `ipc_refresh_workspaces`: the events it emits. -/
def refreshWorkspaces (layout : LayoutView) : Option (List Event) := do
  let active ← layout.activeWorkspace
  let focusedWsId := active.map WorkspaceView.id
  let changed : List Event :=
    [.workspacesChanged (layout.workspaces.map (·.toIpc focusedWsId))]
  match diffWorkspaces state focusedWsId layout.workspaces with
  | none => return changed
  | some events =>
    -- Check if any workspaces were removed.
    if ∃ id ∈ state.workspaces.keys, id ∉ layout.workspaces.map (·.ws.id) then return changed
    else return events

namespace WorkspacesState

/-- A client that keeps the workspaces only. -/
def applyAll (self : WorkspacesState) (events : List Event) : Option WorkspacesState :=
  applyEvents apply self events

end WorkspacesState

/-! ## Layouts the refresh is called on -/

namespace LayoutView

/-- Workspace ids and output names are unique, and each monitor has an active workspace; one of
the monitors is the active one. -/
structure WF (layout : LayoutView) : Prop where
  ids : (layout.workspaces.map (·.ws.id)).Nodup
  outputs : ∀ monitors i, layout = normal monitors i → (monitors.map MonitorView.outputName).Nodup
  active : ∀ monitors i, layout = normal monitors i →
    ∀ mon ∈ monitors, mon.activeWorkspaceIdx < mon.workspaces.length
  focused : ∀ monitors i, layout = normal monitors i → i < monitors.length

variable {layout : LayoutView}

theorem WF.activeWorkspace_eq (h : layout.WF) : ∃ active, layout.activeWorkspace = some active := by
  cases layout with
  | normal monitors i =>
    have hi := h.focused _ _ rfl
    have hactive := h.active _ _ rfl monitors[i] (getElem_mem hi)
    refine ⟨some (monitors[i].workspaces[monitors[i].activeWorkspaceIdx]), ?_⟩
    simp [activeWorkspace, hi, hactive]
  | noOutputs workspaces => exact ⟨none, rfl⟩

variable {entry : WorkspaceEntry}

theorem mem_workspaces_normal {monitors : List MonitorView} {i : ℕ} :
    entry ∈ (normal monitors i).workspaces ↔
      ∃ mon ∈ monitors, entry.mon = some mon ∧ mon.workspaces[entry.wsIdx]? = some entry.ws := by
  obtain ⟨entryMon, wsIdx, ws⟩ := entry
  simp only [workspaces, mem_flatMap, List.mem_map, Prod.exists, mem_zipIdx_iff_getElem?,
    WorkspaceEntry.mk.injEq]
  constructor
  · rintro ⟨mon, hmon, ws', idx, hget, rfl, rfl, rfl⟩
    exact ⟨mon, hmon, rfl, hget⟩
  · rintro ⟨mon, hmon, rfl, hget⟩
    exact ⟨mon, hmon, ws, wsIdx, hget, rfl, rfl, rfl⟩

/-- The active workspace of an output. -/
theorem WF.active_of_output (h : layout.WF) (hentry : entry ∈ layout.workspaces) {output : String}
    (hout : entry.output = some output) :
    ∃ a ∈ layout.workspaces, a.isActive = true ∧ a.output = some output ∧
      ∀ b ∈ layout.workspaces, b.isActive = true → b.output = some output → b = a := by
  cases layout with
  | noOutputs workspaces =>
    simp only [LayoutView.workspaces, List.mem_map] at hentry
    obtain ⟨p, -, rfl⟩ := hentry
    cases hout
  | normal monitors i =>
    obtain ⟨mon, hmon, heq, hget⟩ := mem_workspaces_normal.mp hentry
    have hname : mon.outputName = output := by
      unfold WorkspaceEntry.output at hout
      rw [heq] at hout
      exact some.inj hout
    have hlt := h.active _ _ rfl mon hmon
    refine ⟨⟨some mon, mon.activeWorkspaceIdx, mon.workspaces[mon.activeWorkspaceIdx]⟩,
      mem_workspaces_normal.mpr ⟨mon, hmon, rfl, List.getElem?_eq_getElem hlt⟩, ?_, ?_, ?_⟩
    · simp [WorkspaceEntry.isActive]
    · simp [WorkspaceEntry.output, hname]
    · rintro ⟨bmon, bidx, bws⟩ hb hbactive hbout
      obtain ⟨mon', hmon', heq', hget'⟩ := mem_workspaces_normal.mp hb
      subst heq'
      have hname' : mon'.outputName = output := some.inj hbout
      obtain rfl : mon' = mon :=
        inj_on_of_nodup_map (h.outputs _ _ rfl) hmon' hmon (hname'.trans hname.symm)
      have hidx : mon'.activeWorkspaceIdx = bidx := by
        simpa [WorkspaceEntry.isActive] using hbactive
      subst hidx
      rw [List.getElem?_eq_getElem hlt] at hget'
      cases hget'
      rfl

/-- The focused workspace is the active one of its output. -/
theorem focused_entry {active : WorkspaceView} (h : layout.activeWorkspace = some (some active)) :
    ∃ a ∈ layout.workspaces, a.isActive = true ∧ a.ws = active ∧ a.output ≠ none := by
  cases layout with
  | noOutputs workspaces => cases h
  | normal monitors i =>
    simp only [activeWorkspace, bind_eq_bind, bind_eq_some_iff] at h
    obtain ⟨mon, hmon, ws, hws, heq⟩ := h
    obtain rfl := some.inj (some.inj heq)
    refine ⟨⟨some mon, mon.activeWorkspaceIdx, ws⟩,
      mem_workspaces_normal.mpr ⟨mon, mem_of_getElem? hmon, rfl, hws⟩, ?_, rfl, ?_⟩
    · simp [WorkspaceEntry.isActive]
    · simp [WorkspaceEntry.output]

/-- Without outputs nothing is focused. -/
theorem output_of_unfocused (h : layout.activeWorkspace = some none)
    (hentry : entry ∈ layout.workspaces) : entry.output = none := by
  cases layout with
  | normal monitors i =>
    simp only [activeWorkspace, bind_eq_bind, bind_eq_some_iff] at h
    obtain ⟨mon, -, ws, -, heq⟩ := h
    cases heq
  | noOutputs workspaces =>
    simp only [LayoutView.workspaces, List.mem_map] at hentry
    obtain ⟨p, -, rfl⟩ := hentry
    rfl

theorem WF.eq_of_id (h : layout.WF) {a b : WorkspaceEntry} (ha : a ∈ layout.workspaces)
    (hb : b ∈ layout.workspaces) (hid : a.ws.id = b.ws.id) : a = b :=
  inj_on_of_nodup_map h.ids ha hb hid

/-- What a client sees of a workspace. -/
theorem WF.lookup_snapshot (h : layout.WF) (hentry : entry ∈ layout.workspaces)
    (focusedWsId : Option ℕ) :
    (layout.snapshot focusedWsId).workspaces.lookup entry.ws.id =
      some (entry.toIpc focusedWsId) := by
  refine lookup_collect ?_ (mem_map_of_mem (f := fun entry : WorkspaceEntry =>
    (entry.ws.id, entry.toIpc focusedWsId)) hentry)
  rw [List.map_map]
  exact h.ids

variable {focusedWsId : Option ℕ} {id : ℕ}

theorem lookup_snapshot_of_notMem (hid : id ∉ layout.workspaces.map (·.ws.id)) :
    (layout.snapshot focusedWsId).workspaces.lookup id = none := by
  refine lookup_collect_of_notMem ?_
  rw [List.map_map]
  exact hid

theorem WF.mem_of_lookup_snapshot (h : layout.WF) {ws : Workspace}
    (hws : (layout.snapshot focusedWsId).workspaces.lookup id = some ws) :
    ∃ entry ∈ layout.workspaces, entry.ws.id = id ∧ ws = entry.toIpc focusedWsId := by
  by_cases hid : id ∈ layout.workspaces.map (·.ws.id)
  · obtain ⟨entry, hentry, rfl⟩ := List.mem_map.mp hid
    rw [h.lookup_snapshot hentry] at hws
    exact ⟨entry, hentry, rfl, (some.inj hws).symm⟩
  · rw [lookup_snapshot_of_notMem hid] at hws
    cases hws

end LayoutView

/-! ## What an earlier refresh has left -/

/-- The shape of a mirrored state: one active workspace for each output, one focused workspace
in all, and neither without an output. -/
structure WorkspacesState.Coherent (state : WorkspacesState) : Prop where
  keyed : HashMap.Keyed Workspace.id state.workspaces
  active : ∀ i j v w, state.workspaces.lookup i = some v → state.workspaces.lookup j = some w →
    v.isActive = true → w.isActive = true → v.output = w.output → i = j
  focused : ∀ i j v w, state.workspaces.lookup i = some v → state.workspaces.lookup j = some w →
    v.isFocused = true → w.isFocused = true → i = j
  noOutput : ∀ i v, state.workspaces.lookup i = some v → v.output = none →
    v.isActive = false ∧ v.isFocused = false

theorem coherent_default : WorkspacesState.default.Coherent := by
  refine ⟨keyed_empty _, fun i j v w hv => ?_, fun i j v w hv => ?_, fun i v hv => ?_⟩ <;>
  · cases hv

variable {layout : LayoutView}

theorem LayoutView.WF.coherent (h : layout.WF) {active : Option WorkspaceView}
    (hactive : layout.activeWorkspace = some active) :
    (layout.snapshot (active.map WorkspaceView.id)).Coherent := by
  have hfocus : ∀ entry ∈ layout.workspaces, some entry.ws.id = active.map WorkspaceView.id →
      entry.output ≠ none := by
    intro entry hentry hid
    cases active with
    | none => cases hid
    | some active =>
      obtain ⟨a, ha, -, rfl, hout⟩ := focused_entry hactive
      rw [h.eq_of_id hentry ha (some.inj hid)]
      exact hout
  refine ⟨fun i v hv => ?_, fun i j v w hv hw hva hwa hout => ?_,
    fun i j v w hv hw hvf hwf => ?_, fun i v hv hout => ?_⟩
  · obtain ⟨entry, -, rfl, rfl⟩ := h.mem_of_lookup_snapshot hv
    rfl
  · obtain ⟨a, ha, rfl, rfl⟩ := h.mem_of_lookup_snapshot hv
    obtain ⟨b, hb, rfl, rfl⟩ := h.mem_of_lookup_snapshot hw
    cases hao : a.output with
    | none =>
      have hnone : a.mon = none := by simpa [WorkspaceEntry.output] using hao
      simp [WorkspaceEntry.toIpc, WorkspaceEntry.isActive, hnone] at hva
    | some output =>
      obtain ⟨c, -, -, -, huniq⟩ := h.active_of_output ha hao
      rw [huniq a ha hva hao, huniq b hb hwa (hout.symm.trans hao)]
  · obtain ⟨a, ha, rfl, rfl⟩ := h.mem_of_lookup_snapshot hv
    obtain ⟨b, hb, rfl, rfl⟩ := h.mem_of_lookup_snapshot hw
    have h1 : some a.ws.id = active.map WorkspaceView.id := of_decide_eq_true hvf
    have h2 : some b.ws.id = active.map WorkspaceView.id := of_decide_eq_true hwf
    exact some.inj (h1.trans h2.symm)
  · obtain ⟨a, ha, rfl, rfl⟩ := h.mem_of_lookup_snapshot hv
    have hout : a.output = none := hout
    have hnone : a.mon = none := by simpa [WorkspaceEntry.output] using hout
    refine ⟨by simp [WorkspaceEntry.toIpc, WorkspaceEntry.isActive, hnone], ?_⟩
    exact decide_eq_false fun hid => hfocus a ha hid hout

/-! ## Individual events -/

/-- The workspace an individual event is about. -/
def Event.workspace? : Event → Option ℕ
  | .workspaceUrgencyChanged id _ => some id
  | .workspaceActivated id _ => some id
  | .workspaceActiveWindowChanged id _ => some id
  | _ => none

/-- What an individual event does to a workspace; `out` tells the outputs, which such events
leave as they are. -/
def Event.effect (out : ℕ → Option String) (ws : Workspace) : Event → Workspace
  | .workspaceUrgencyChanged id urgent =>
    if ws.id = id then { ws with isUrgent := urgent } else ws
  | .workspaceActivated id focused => WorkspacesState.activated id (out id) focused ws
  | .workspaceActiveWindowChanged id activeWindowId =>
    if ws.id = id then { ws with activeWindowId := activeWindowId } else ws
  | _ => ws

/-- An event changes none of these. -/
theorem Event.effect_fixed (out : ℕ → Option String) (ws : Workspace) (event : Event) :
    (event.effect out ws).id = ws.id ∧ (event.effect out ws).idx = ws.idx ∧
      (event.effect out ws).name = ws.name ∧ (event.effect out ws).output = ws.output := by
  cases event with
  | workspaceUrgencyChanged | workspaceActiveWindowChanged =>
    simp only [effect]
    split_ifs <;> exact ⟨rfl, rfl, rfl, rfl⟩
  | _ => exact ⟨rfl, rfl, rfl, rfl⟩

/-- The outputs of the workspaces of a state. -/
def WorkspacesState.outputs (id : ℕ) : Option String :=
  (state.workspaces.lookup id).bind Workspace.output

namespace WorkspacesState

variable {state : WorkspacesState}

/-- An individual event about a workspace that exists acts on each workspace by itself. -/
theorem apply_effect (hkeyed : HashMap.Keyed Workspace.id state.workspaces) {event : Event}
    {id : ℕ} (hid : event.workspace? = some id) (hmem : id ∈ state.workspaces) :
    ∃ state', state.apply event = some (state', none) ∧ ∀ k, state'.workspaces.lookup k =
        (state.workspaces.lookup k).map fun ws => event.effect state.outputs ws := by
  obtain ⟨old, hold⟩ := mem_iff.mp hmem
  cases event with
  | workspaceUrgencyChanged id' urgent =>
    refine ⟨_, rfl, fun k => ?_⟩
    rw [lookup_mapValues]
    rfl
  | workspaceActivated id' focused =>
    cases hid
    have hout : state.outputs id = old.output := by
      unfold outputs
      rw [hold]
      rfl
    refine ⟨⟨HashMap.mapValues (activated id old.output focused) state.workspaces⟩, ?_, fun k => ?_⟩
    · simp only [apply, hold, bind_eq_bind, bind_some]
      rfl
    · rw [lookup_mapValues, ← hout]
      rfl
  | workspaceActiveWindowChanged id' activeWindowId =>
    cases hid
    refine ⟨⟨state.workspaces.insert id { old with activeWindowId := activeWindowId }⟩, ?_,
      fun k => ?_⟩
    · simp only [apply, hold, bind_eq_bind, bind_some]
      rfl
    · by_cases hk : k = id
      · subst hk
        rw [lookup_insert, hold, map_some]
        simp only [Event.effect, hkeyed k old hold, if_true]
      · rw [lookup_insert_of_ne _ hk]
        cases hw : state.workspaces.lookup k with
        | none => rfl
        | some ws =>
          have hws : ws.id ≠ id := by
            rw [hkeyed k ws hw]
            exact hk
          rw [map_some, Event.effect, if_neg hws]
  | _ => cases hid

/-- Individual events act on each workspace by itself, one after the other. -/
theorem applyAll_effect (hkeyed : HashMap.Keyed Workspace.id state.workspaces)
    {events : List Event}
    (hevents : ∀ event ∈ events, ∃ id, event.workspace? = some id ∧ id ∈ state.workspaces) :
    ∃ final, state.applyAll events = some final ∧ ∀ k,
      final.workspaces.lookup k = (state.workspaces.lookup k).map fun ws =>
        events.foldl (fun ws event => event.effect state.outputs ws) ws := by
  induction events generalizing state with
  | nil => exact ⟨state, rfl, fun k => by simp⟩
  | cons event events ih =>
    obtain ⟨id, hid, hmem⟩ := hevents event (by simp)
    obtain ⟨state', happly, hlookup⟩ := apply_effect hkeyed hid hmem
    have hout : state'.outputs = state.outputs := by
      funext k
      unfold outputs
      rw [hlookup]
      cases state.workspaces.lookup k with
      | none => rfl
      | some ws => exact (event.effect_fixed state.outputs ws).2.2.2
    have hkeyed' : HashMap.Keyed Workspace.id state'.workspaces := apply_keyed hkeyed happly
    have hevents' : ∀ e ∈ events, ∃ id, e.workspace? = some id ∧ id ∈ state'.workspaces := by
      intro e he
      obtain ⟨id', hid', hmem'⟩ := hevents e (mem_cons_of_mem _ he)
      obtain ⟨ws, hws⟩ := mem_iff.mp hmem'
      exact ⟨id', hid', mem_iff.mpr ⟨_, by rw [hlookup, hws, map_some]⟩⟩
    obtain ⟨final, hfinal, hlast⟩ := ih hkeyed' hevents'
    refine ⟨final, ?_, fun k => ?_⟩
    · rw [applyAll, applyEvents, happly]
      exact hfinal
    · rw [hlast, hlookup, hout, map_map]
      rfl

end WorkspacesState

/-! ## The individual events of a refresh -/

/-- The refresh has emitted the event for this workspace, of which the clients know `old`. -/
inductive EmittedFor (focusedWsId : Option ℕ) (entry : WorkspaceEntry) (old : Workspace) :
    Event → Prop
  | activeWindow : old.activeWindowId ≠ entry.ws.activeWindow →
      EmittedFor focusedWsId entry old
        (.workspaceActiveWindowChanged entry.ws.id entry.ws.activeWindow)
  | urgency : entry.ws.isUrgent ≠ old.isUrgent →
      EmittedFor focusedWsId entry old (.workspaceUrgencyChanged entry.ws.id entry.ws.isUrgent)
  | focused : some entry.ws.id = focusedWsId → old.isFocused = false →
      EmittedFor focusedWsId entry old (.workspaceActivated entry.ws.id true)
  | activated : ¬(some entry.ws.id = focusedWsId ∧ old.isFocused = false) →
      entry.isActive = true → old.isActive = false →
      EmittedFor focusedWsId entry old (.workspaceActivated entry.ws.id false)

variable {state : WorkspacesState} {focusedWsId : Option ℕ} {events : List Event}

theorem diffWorkspace_spec {entry : WorkspaceEntry}
    (h : diffWorkspace state focusedWsId entry = some events) :
    ∃ old, state.workspaces.lookup entry.ws.id = some old ∧ old.idx = entry.idx ∧
      old.name = entry.ws.name ∧ old.output = entry.output ∧
      ∀ event, event ∈ events ↔ EmittedFor focusedWsId entry old event := by
  obtain ⟨old, hold, h⟩ := bind_eq_some_iff.mp h
  by_cases hsame : old.idx ≠ entry.idx ∨ old.name ≠ entry.ws.name ∨ old.output ≠ entry.output
  · rw [if_pos hsame] at h
    cases h
  rw [if_neg hsame] at h
  rw [not_or, not_or, not_not, not_not, not_not] at hsame
  obtain rfl := some.inj h
  refine ⟨old, hold, hsame.1, hsame.2.1, hsame.2.2, fun event => ?_⟩
  simp only [mem_append]
  constructor
  · rintro ((hmem | hmem) | hmem)
    · split_ifs at hmem with hne
      · obtain rfl := mem_singleton.mp hmem
        exact .activeWindow hne
      · cases hmem
    · split_ifs at hmem with hne
      · obtain rfl := mem_singleton.mp hmem
        exact .urgency hne
      · cases hmem
    · split_ifs at hmem with hfocused hactive
      · obtain rfl := mem_singleton.mp hmem
        exact .focused hfocused.1 (by simpa using hfocused.2)
      · obtain rfl := mem_singleton.mp hmem
        exact .activated (by simpa using hfocused) hactive.1 (by simpa using hactive.2)
      · cases hmem
  · intro hemitted
    cases hemitted with
    | activeWindow hne => exact .inl (.inl (by rw [if_pos hne]; simp))
    | urgency hne => exact .inl (.inr (by rw [if_pos hne]; simp))
    | focused hid hold => exact .inr (by rw [if_pos ⟨hid, by simp [hold]⟩]; simp)
    | activated hnot hactive hold =>
      refine .inr ?_
      rw [if_neg (by simpa using hnot), if_pos ⟨hactive, by simp [hold]⟩]
      simp

theorem diffWorkspaces_spec {entries : List WorkspaceEntry}
    (h : diffWorkspaces state focusedWsId entries = some events) :
    (∀ entry ∈ entries, ∃ old, state.workspaces.lookup entry.ws.id = some old ∧
      old.idx = entry.idx ∧ old.name = entry.ws.name ∧ old.output = entry.output) ∧
    ∀ event, event ∈ events ↔ ∃ entry ∈ entries, ∃ old,
      state.workspaces.lookup entry.ws.id = some old ∧
        EmittedFor focusedWsId entry old event := by
  induction entries generalizing events with
  | nil =>
    cases h
    simp
  | cons entry entries ih =>
    obtain ⟨here, hhere, h⟩ := bind_eq_some_iff.mp h
    obtain ⟨rest, hrest, h⟩ := bind_eq_some_iff.mp h
    obtain rfl := some.inj h
    obtain ⟨old, hold, hidx, hname, hout, hmem⟩ := diffWorkspace_spec hhere
    obtain ⟨hmatch, hevents⟩ := ih hrest
    refine ⟨?_, fun event => ?_⟩
    · intro e he
      rcases mem_cons.mp he with rfl | he
      · exact ⟨old, hold, hidx, hname, hout⟩
      · exact hmatch e he
    · rw [mem_append, hmem, hevents]
      constructor
      · rintro (h1 | ⟨e, he, h2⟩)
        · exact ⟨entry, by simp, old, hold, h1⟩
        · exact ⟨e, mem_cons_of_mem _ he, h2⟩
      · rintro ⟨e, he, o, ho, h1⟩
        rcases mem_cons.mp he with rfl | he
        · rw [hold] at ho
          cases ho
          exact .inl h1
        · exact .inr ⟨e, he, o, ho, h1⟩

/-! ## The fields of a workspace after the individual events

`layout` is the layout of the refresh, `state` what the clients know, and `events` are the
individual events that lead from one to the other. -/

section Individual

variable {state : WorkspacesState} {layout : LayoutView} {active : Option WorkspaceView}
  {events : List Event}

/-- The setting of the incremental path. -/
structure Individual (state : WorkspacesState) (layout : LayoutView)
    (active : Option WorkspaceView) (events : List Event) : Prop where
  coherent : state.Coherent
  wf : layout.WF
  activeWorkspace : layout.activeWorkspace = some active
  known : ∀ entry ∈ layout.workspaces, ∃ old, state.workspaces.lookup entry.ws.id = some old ∧
    old.idx = entry.idx ∧ old.name = entry.ws.name ∧ old.output = entry.output
  events : ∀ event, event ∈ events ↔ ∃ entry ∈ layout.workspaces, ∃ old,
    state.workspaces.lookup entry.ws.id = some old ∧
      EmittedFor (active.map WorkspaceView.id) entry old event

/-- What individual events keep of a workspace. -/
def Keeps (entry : WorkspaceEntry) (ws : Workspace) : Prop :=
  ws.id = entry.ws.id ∧ ws.idx = entry.idx ∧ ws.name = entry.ws.name ∧ ws.output = entry.output

variable {entry : WorkspaceEntry} {old : Workspace}

theorem keeps_effect (out : ℕ → Option String) {ws : Workspace} (h : Keeps entry ws) (event : Event) :
    Keeps entry (event.effect out ws) := by
  obtain ⟨h1, h2, h3, h4⟩ := event.effect_fixed out ws
  exact ⟨h1.trans h.1, h2.trans h.2.1, h3.trans h.2.2.1, h4.trans h.2.2.2⟩

variable (h : Individual state layout active events)
include h

theorem Individual.outputs (hentry : entry ∈ layout.workspaces) :
    state.outputs entry.ws.id = entry.output := by
  obtain ⟨old, hold, -, -, hout⟩ := h.known entry hentry
  unfold WorkspacesState.outputs
  rw [hold, ← hout]
  rfl

/-- A workspace that an event activates is the active one of an output. -/
theorem Individual.active_of_activated {id : ℕ} {focused : Bool}
    (hmem : .workspaceActivated id focused ∈ events) :
    ∃ c ∈ layout.workspaces, c.ws.id = id ∧ c.isActive = true ∧
      (focused = true → some id = active.map WorkspaceView.id) := by
  obtain ⟨c, hc, old, -, hemitted⟩ := (h.events _).mp hmem
  cases hemitted with
  | focused hid hold =>
    refine ⟨c, hc, rfl, ?_, fun _ => hid⟩
    cases active with
    | none => cases hid
    | some active =>
      obtain ⟨a, ha, hactive, rfl, -⟩ := LayoutView.focused_entry h.activeWorkspace
      rw [h.wf.eq_of_id hc ha (some.inj hid)]
      exact hactive
  | activated hnot hactive hold => exact ⟨c, hc, rfl, hactive, fun hf => by cases hf⟩

omit h in
theorem isActive_output (entry : WorkspaceEntry) (hactive : entry.isActive = true) :
    ∃ output, entry.output = some output := by
  unfold WorkspaceEntry.isActive at hactive
  cases hmon : entry.mon with
  | none => simp [hmon] at hactive
  | some mon => exact ⟨mon.outputName, by simp [WorkspaceEntry.output, hmon]⟩

section

variable (hentry : entry ∈ layout.workspaces)
  (hold : state.workspaces.lookup entry.ws.id = some old) (hkeeps : Keeps entry old)
include hentry hold hkeeps

/-- **`is_active`**: the active workspace of the output is activated, unless it was before. -/
theorem Individual.isActive_foldl :
    (events.foldl (fun ws event => event.effect state.outputs ws) old).isActive =
      entry.isActive := by
  refine Fold.foldl_field (I := Keeps entry) (p := Workspace.isActive)
    (fun event _ ws hws => keeps_effect _ hws event) ?_ hkeeps ?_
  · intro event hevent ws hws
    cases event with
    | workspaceUrgencyChanged | workspaceActiveWindowChanged =>
      simp only [Event.effect]
      split_ifs <;> exact .inl rfl
    | workspaceActivated id focused =>
      obtain ⟨c, hc, rfl, hactive, -⟩ := h.active_of_activated hevent
      simp only [Event.effect, WorkspacesState.activated, h.outputs hc, hws.1, hws.2.2.2]
      split_ifs with hout
      · obtain ⟨output, hcout⟩ := isActive_output _ hactive
        obtain ⟨a, -, -, -, huniq⟩ := h.wf.active_of_output hc hcout
        refine .inr ?_
        by_cases heq : entry.ws.id = c.ws.id
        · rw [h.wf.eq_of_id hentry hc heq, hactive]
          simp
        · rw [decide_eq_false heq]
          by_contra hne
          have he : entry.isActive = true := by simpa using hne
          rw [huniq entry hentry he (hout.trans hcout), huniq c hc hactive hcout] at heq
          exact heq rfl
      · exact .inl rfl
    | _ => exact .inl rfl
  · cases hout : entry.output with
    | none =>
      refine .inl ?_
      rw [(h.coherent.noOutput _ _ hold (hkeeps.2.2.2.trans hout)).1]
      by_contra hne
      obtain ⟨output, hsome⟩ := isActive_output entry (by simpa using hne)
      rw [hout] at hsome
      cases hsome
    | some output =>
      obtain ⟨c, hc, hactive, hcout, huniq⟩ := h.wf.active_of_output hentry hout
      obtain ⟨oldc, holdc, -, -, houtc⟩ := h.known c hc
      -- Whether `entry` is the active workspace of its output.
      have hiff : entry.isActive = decide (entry.ws.id = c.ws.id) := by
        by_cases heq : entry.ws.id = c.ws.id
        · rw [h.wf.eq_of_id hentry hc heq, hactive]
          simp
        · rw [decide_eq_false heq]
          by_contra hne
          exact heq (congrArg _ (congrArg _ (huniq entry hentry (by simpa using hne) hout)))
      cases hwas : oldc.isActive with
      | true =>
        refine .inl ?_
        rw [hiff]
        by_cases heq : entry.ws.id = c.ws.id
        · rw [heq, holdc] at hold
          cases hold
          simp [heq, hwas]
        · rw [decide_eq_false heq]
          by_contra hne
          exact heq (h.coherent.active _ _ _ _ hold holdc (by simpa using hne) hwas
            (by rw [hkeeps.2.2.2, houtc, hout, hcout]))
      | false =>
        -- Either event that activates it will do.
        have hset : ∀ focused, Event.workspaceActivated c.ws.id focused ∈ events →
            ∃ event ∈ events, ∀ ws, Keeps entry ws →
              (event.effect state.outputs ws).isActive = entry.isActive := by
          intro focused hmem
          refine ⟨_, hmem, fun ws hws => ?_⟩
          simp only [Event.effect, WorkspacesState.activated, h.outputs hc, hws.1, hws.2.2.2, hout,
            hcout, if_true]
          exact hiff.symm
        refine .inr ?_
        by_cases hfocus : some c.ws.id = active.map WorkspaceView.id ∧ oldc.isFocused = false
        · exact hset true ((h.events _).mpr ⟨c, hc, oldc, holdc, .focused hfocus.1 hfocus.2⟩)
        · exact hset false ((h.events _).mpr ⟨c, hc, oldc, holdc, .activated hfocus hactive hwas⟩)

/-- **`is_focused`**: the focused workspace is activated with focus, unless it was before. -/
theorem Individual.isFocused_foldl :
    (events.foldl (fun ws event => event.effect state.outputs ws) old).isFocused =
      decide (some entry.ws.id = active.map WorkspaceView.id) := by
  refine Fold.foldl_field (I := Keeps entry) (p := Workspace.isFocused)
    (fun event _ ws hws => keeps_effect _ hws event) ?_ hkeeps ?_
  · intro event hevent ws hws
    cases event with
    | workspaceUrgencyChanged | workspaceActiveWindowChanged =>
      simp only [Event.effect]
      split_ifs <;> exact .inl rfl
    | workspaceActivated id focused =>
      obtain ⟨c, hc, rfl, -, hfocus⟩ := h.active_of_activated hevent
      cases focused with
      | false => exact .inl rfl
      | true =>
        refine .inr ?_
        simp only [Event.effect, WorkspacesState.activated, if_true, hws.1, ← hfocus rfl,
          some.injEq]
    | _ => exact .inl rfl
  · cases hact : active with
    | none =>
      refine .inl ?_
      have hout := LayoutView.output_of_unfocused (by rw [h.activeWorkspace, hact]) hentry
      rw [(h.coherent.noOutput _ _ hold (hkeeps.2.2.2.trans hout)).2]
      rfl
    | some view =>
      obtain ⟨c, hc, -, rfl, -⟩ := LayoutView.focused_entry (by rw [h.activeWorkspace, hact])
      obtain ⟨oldc, holdc, -, -, -⟩ := h.known c hc
      simp only [map_some, some.injEq]
      cases hwas : oldc.isFocused with
      | true =>
        refine .inl ?_
        by_cases heq : entry.ws.id = c.ws.id
        · rw [heq, holdc] at hold
          cases hold
          simp [heq, hwas]
        · rw [decide_eq_false heq]
          by_contra hne
          exact heq (h.coherent.focused _ _ _ _ hold holdc (by simpa using hne) hwas)
      | false =>
        refine .inr ⟨.workspaceActivated c.ws.id true, (h.events _).mpr ⟨c, hc, oldc, holdc,
          .focused (by rw [hact]; rfl) hwas⟩, fun ws hws => ?_⟩
        simp only [Event.effect, WorkspacesState.activated, if_true, hws.1]

/-- **`is_urgent`** -/
theorem Individual.isUrgent_foldl :
    (events.foldl (fun ws event => event.effect state.outputs ws) old).isUrgent =
      entry.ws.isUrgent := by
  refine Fold.foldl_field (I := Keeps entry) (p := Workspace.isUrgent)
    (fun event _ ws hws => keeps_effect _ hws event) ?_ hkeeps ?_
  · intro event hevent ws hws
    cases event with
    | workspaceUrgencyChanged id urgent =>
      simp only [Event.effect]
      split_ifs with hid
      · obtain ⟨c, hc, _, -, hemitted⟩ := (h.events _).mp hevent
        cases hemitted
        rw [h.wf.eq_of_id hentry hc (hws.1.symm.trans hid)]
        exact .inr rfl
      · exact .inl rfl
    | workspaceActiveWindowChanged id activeWindowId =>
      simp only [Event.effect]
      split_ifs <;> exact .inl rfl
    | _ => exact .inl rfl
  · by_cases heq : entry.ws.isUrgent = old.isUrgent
    · exact .inl heq.symm
    · refine .inr ⟨.workspaceUrgencyChanged entry.ws.id entry.ws.isUrgent,
        (h.events _).mpr ⟨entry, hentry, old, hold, .urgency heq⟩, fun ws hws => ?_⟩
      simp only [Event.effect, if_pos hws.1]

/-- **`active_window_id`** -/
theorem Individual.activeWindowId_foldl :
    (events.foldl (fun ws event => event.effect state.outputs ws) old).activeWindowId =
      entry.ws.activeWindow := by
  refine Fold.foldl_field (I := Keeps entry) (p := Workspace.activeWindowId)
    (fun event _ ws hws => keeps_effect _ hws event) ?_ hkeeps ?_
  · intro event hevent ws hws
    cases event with
    | workspaceUrgencyChanged id urgent =>
      simp only [Event.effect]
      split_ifs <;> exact .inl rfl
    | workspaceActiveWindowChanged id activeWindowId =>
      simp only [Event.effect]
      split_ifs with hid
      · obtain ⟨c, hc, _, -, hemitted⟩ := (h.events _).mp hevent
        cases hemitted
        rw [h.wf.eq_of_id hentry hc (hws.1.symm.trans hid)]
        exact .inr rfl
      · exact .inl rfl
    | _ => exact .inl rfl
  · by_cases heq : old.activeWindowId = entry.ws.activeWindow
    · exact .inl heq
    · refine .inr ⟨.workspaceActiveWindowChanged entry.ws.id entry.ws.activeWindow,
        (h.events _).mpr ⟨entry, hentry, old, hold, .activeWindow heq⟩, fun ws hws => ?_⟩
      simp only [Event.effect, if_pos hws.1]

end

/-- The incremental path leads to the snapshot, if no workspace was removed. -/
theorem Individual.applyAll_eq
    (hremoved : ∀ id, id ∈ state.workspaces → id ∈ layout.workspaces.map (·.ws.id)) :
    state.applyAll events = some (layout.snapshot (active.map WorkspaceView.id)) := by
  have hevents : ∀ event ∈ events, ∃ id, event.workspace? = some id ∧ id ∈ state.workspaces := by
    intro event hevent
    obtain ⟨entry, -, old, hold, hemitted⟩ := (h.events _).mp hevent
    refine ⟨entry.ws.id, ?_, mem_iff.mpr ⟨old, hold⟩⟩
    cases hemitted <;> rfl
  obtain ⟨final, hfinal, hlookup⟩ := WorkspacesState.applyAll_effect h.coherent.keyed hevents
  rw [hfinal, some.injEq]
  refine congrArg WorkspacesState.mk (ext_lookup fun k => ?_)
  show _ = (layout.snapshot (active.map WorkspaceView.id)).workspaces.lookup k
  rw [hlookup]
  by_cases hk : k ∈ layout.workspaces.map (·.ws.id)
  · obtain ⟨entry, hentry, rfl⟩ := List.mem_map.mp hk
    obtain ⟨old, hold, hidx, hname, hout⟩ := h.known entry hentry
    have hkeeps : Keeps entry old := ⟨h.coherent.keyed _ _ hold, hidx, hname, hout⟩
    have hfold := Fold.foldl_invariant (f := fun ws (event : Event) =>
      event.effect state.outputs ws) (I := Keeps entry)
      (fun (event : Event) (_ : event ∈ events) ws hws => keeps_effect _ hws event) hkeeps
    have hactive := h.isActive_foldl hentry hold hkeeps
    have hfocused := h.isFocused_foldl hentry hold hkeeps
    have hurgent := h.isUrgent_foldl hentry hold hkeeps
    have hwindow := h.activeWindowId_foldl hentry hold hkeeps
    rw [hold, h.wf.lookup_snapshot hentry, map_some, some.injEq]
    generalize events.foldl (fun ws event => event.effect state.outputs ws) old = ws at *
    obtain ⟨id, idx, name, output, isUrgent, isActive, isFocused, activeWindowId⟩ := ws
    obtain ⟨rfl, rfl, rfl, rfl⟩ := hfold
    obtain rfl := hactive
    obtain rfl := hfocused
    obtain rfl := hurgent
    obtain rfl := hwindow
    rfl
  · rw [LayoutView.lookup_snapshot_of_notMem hk,
      lookup_eq_none.mpr fun hmem => hk (hremoved k hmem)]
    rfl

end Individual

/-! ## The mirror is exact -/

/-- From a coherent state the events lead to the snapshot, on either path. -/
theorem refreshWorkspaces_applyAll (hstate : state.Coherent) (hlayout : layout.WF) :
    ∃ active events, layout.activeWorkspace = some active ∧
      refreshWorkspaces state layout = some events ∧
      state.applyAll events = some (layout.snapshot (active.map WorkspaceView.id)) := by
  obtain ⟨active, hactive⟩ := hlayout.activeWorkspace_eq
  have hchanged : state.applyAll
      [.workspacesChanged (layout.workspaces.map (·.toIpc (active.map WorkspaceView.id)))] =
        some (layout.snapshot (active.map WorkspaceView.id)) := by
    simp only [WorkspacesState.applyAll, applyEvents, WorkspacesState.apply, handled, bind_eq_bind,
      bind_some, LayoutView.snapshot, List.map_map]
    rfl
  cases hdiff : diffWorkspaces state (active.map WorkspaceView.id) layout.workspaces with
  | none => exact ⟨active, _, hactive, by simp [refreshWorkspaces, hactive, hdiff], hchanged⟩
  | some events =>
    by_cases hremoved : ∃ id ∈ state.workspaces.keys, id ∉ layout.workspaces.map (·.ws.id)
    · refine ⟨active, _, hactive, ?_, hchanged⟩
      simp only [refreshWorkspaces, hactive, bind_eq_bind, bind_some, hdiff, if_pos hremoved]
      rfl
    · refine ⟨active, events, hactive, ?_, ?_⟩
      · simp only [refreshWorkspaces, hactive, bind_eq_bind, bind_some, hdiff, if_neg hremoved]
        rfl
      · obtain ⟨hknown, hevents⟩ := diffWorkspaces_spec hdiff
        refine Individual.applyAll_eq ⟨hstate, hlayout, hactive, hknown, hevents⟩ ?_
        intro id hid
        by_contra hno
        exact hremoved ⟨id, mem_keys.mpr hid, hno⟩

/-- The states that refreshes leave behind, one after the other. -/
inductive Mirrored : WorkspacesState → Prop
  | default : Mirrored .default
  | refresh {state state' : WorkspacesState} {layout : LayoutView} {events : List Event} :
      Mirrored state → layout.WF → refreshWorkspaces state layout = some events →
      state.applyAll events = some state' → Mirrored state'

theorem Mirrored.coherent (h : Mirrored state) : state.Coherent := by
  induction h with
  | default => exact coherent_default
  | refresh _ hlayout hrefresh happly ih =>
    obtain ⟨active, events, hactive, hevents, hsnapshot⟩ := refreshWorkspaces_applyAll ih hlayout
    rw [hrefresh] at hevents
    obtain rfl := some.inj hevents
    rw [happly] at hsnapshot
    obtain rfl := some.inj hsnapshot
    exact hlayout.coherent hactive

/-- **The mirror is exact.**  Whatever earlier refreshes have left, the events of the next one
lead to the snapshot of the layout, in which every workspace of the layout, and no other, has
the values the layout gives it. -/
theorem refreshWorkspaces_exact {state : WorkspacesState} (hstate : Mirrored state)
    {layout : LayoutView} (hlayout : layout.WF) :
    ∃ active events, layout.activeWorkspace = some active ∧
      refreshWorkspaces state layout = some events ∧
      ∃ state', state.applyAll events = some state' ∧
        (∀ entry ∈ layout.workspaces, state'.workspaces.lookup entry.ws.id =
          some (entry.toIpc (active.map WorkspaceView.id))) ∧
        ∀ id, id ∉ layout.workspaces.map (·.ws.id) → id ∉ state'.workspaces := by
  obtain ⟨active, events, hactive, hevents, hsnapshot⟩ :=
    refreshWorkspaces_applyAll hstate.coherent hlayout
  refine ⟨active, events, hactive, hevents, _, hsnapshot,
    fun entry hentry => hlayout.lookup_snapshot hentry _, fun id hid => ?_⟩
  exact lookup_eq_none.mp (LayoutView.lookup_snapshot_of_notMem hid)

/-- Two outputs, of which the one at `i` is focused; the first has two workspaces. -/
def twoOutputs (i : ℕ) : LayoutView :=
  .normal [⟨"DP-1", i, [⟨1, some "web", false, some 7⟩, ⟨2, none, i = 1, none⟩]⟩,
    ⟨"DP-2", 0, [⟨3, none, false, none⟩]⟩] i

theorem twoOutputs_wf {i : ℕ} (h : i < 2) : (twoOutputs i).WF := by
  refine ⟨?_, ?_, ?_, ?_⟩
  · show [1, 2, 3].Nodup
    decide
  · rintro _ _ ⟨⟩
    show ["DP-1", "DP-2"].Nodup
    decide
  · rintro _ _ ⟨⟩ mon hmon
    rcases mem_cons.mp hmon with rfl | hmon
    · exact h
    · obtain rfl := mem_singleton.mp hmon
      decide
  · rintro _ _ ⟨⟩
    exact h

/-- The first output switches its workspace while the focus moves to the second one. -/
theorem refreshWorkspaces_exact_twoOutputs :
    ∃ active events, (twoOutputs 1).activeWorkspace = some active ∧
      refreshWorkspaces ((twoOutputs 0).snapshot (some 1)) (twoOutputs 1) = some events ∧
      ∃ state', ((twoOutputs 0).snapshot (some 1)).applyAll events = some state' ∧
        (∀ entry ∈ (twoOutputs 1).workspaces, state'.workspaces.lookup entry.ws.id =
          some (entry.toIpc (active.map WorkspaceView.id))) ∧
        ∀ id, id ∉ (twoOutputs 1).workspaces.map (·.ws.id) → id ∉ state'.workspaces :=
  refreshWorkspaces_exact (.refresh .default (twoOutputs_wf (i := 0) (by decide)) rfl rfl)
    (twoOutputs_wf (by decide))

end Tiri.Ipc
