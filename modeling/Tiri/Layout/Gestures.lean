import Mathlib.Data.List.Perm.Subperm
import Tiri.Layout.Workspace

set_option linter.dupNamespace false

/-!
# The gestures of the layout

A gesture that moves the view of a workspace is kept by the workspace, one that switches between
workspaces by the monitor.  To begin, update or end one, `Layout` looks for it
(`layout/mod.rs`, lines 3639–3769, 4404–4438 and 5035–5114).  Here are these searches, with the
interactive moves that lock the view, and with the outputs that come and go.

Trackers, animations and positions are left out: a view or a switch is in a gesture or is not.
What geometry decides is an argument, and so is which workspace becomes active.

Results:
* `viewGestures_viewOffsetGestureBegin`, `switchGestures_workspaceSwitchGestureBegin`: whoever
  begins a gesture leaves no other;
* `viewGestures_viewOffsetGestureEnd`, `switchGestures_workspaceSwitchGestureEnd`: whoever ends
  one ends the first that answers;
* `viewGestures_addOutput`, `viewGestures_removeOutput`: outputs come and go, and gestures stay.
-/

namespace Tiri.Layout.Gestures

open Option List Function Bool Vec

/-- A `ViewGesture` or a `WorkspaceSwitchGesture`. -/
structure Gesture where
  isTouchpad : Bool
  /-- Whether the gesture is for drag-and-drop scrolling: `dnd_last_event_time.is_some()`. -/
  isDnd : Bool
  deriving DecidableEq

namespace Gesture

/-- The gesture that `dnd_scroll_gesture_begin` begins. -/
def dndScroll : Gesture := ⟨false, true⟩

/-- Whether the end of this kind of gesture ends it; any kind is `none`. -/
def answers (isTouchpad : Option Bool) (self : Gesture) : Bool :=
  isTouchpad.all (· = self.isTouchpad)

end Gesture

/-- `struct Workspace`, as far as gestures go. -/
structure Workspace (Id : Type) where
  id : WorkspaceId
  originalOutput : OutputId
  name : Option String
  /-- The windows, and whether they float. -/
  windows : List (Id × Bool)
  /-- `interactive_resize.is_some()` of the scrolling layout. -/
  interactiveResize : Bool
  /-- The gesture that `view_offset` is in. -/
  viewOffset : Option Gesture
  deriving DecidableEq

/-- `struct Monitor`, as far as gestures go. -/
structure Monitor (Id : Type) where
  output : Output
  workspaces : List (Workspace Id)
  activeWorkspaceIdx : ℕ
  /-- The gesture that `workspace_switch` is in. -/
  workspaceSwitch : Option Gesture

inductive MonitorSet (Id : Type)
  | normal (monitors : List (Monitor Id)) (primaryIdx : ℕ)
  | noOutputs (workspaces : List (Workspace Id))

inductive InteractiveMoveState (Id : Type)
  | starting (windowId : Id)
  | moving (windowId : Id) (isFloating : Bool)
  deriving DecidableEq

/-- `struct Layout`, as far as gestures go.  `overview_open` of the monitors is that of the layout:
    `set_monitors_overview_state` follows every change of it. -/
structure Layout (Id : Type) where
  monitorSet : MonitorSet Id
  interactiveMove : Option (InteractiveMoveState Id)
  /-- `dnd.is_some()`. -/
  dnd : Bool
  overviewOpen : Bool

variable {Id : Type}

namespace Workspace

/-- `Workspace::new`. -/
def new (output : Output) (id : WorkspaceId) : Workspace Id :=
  ⟨id, OutputId.new output, none, [], false, none⟩

variable (self : Workspace Id)

def hasWindowsOrName : Bool := !self.windows.isEmpty || self.name.isSome

def hasWindow [DecidableEq Id] (self : Workspace Id) (window : Id) : Bool :=
  self.windows.any (·.1 = window)

def isFloating [DecidableEq Id] (self : Workspace Id) (window : Id) : Bool :=
  (window, true) ∈ self.windows

/-- `columns.is_empty()` of the scrolling layout. -/
def columnsEmpty : Bool := self.windows.all (·.2)

/-- `view_offset_gesture_begin` (`scrolling.rs`, lines 3062–3082). -/
def viewOffsetGestureBegin (isTouchpad : Bool) : Workspace Id :=
  if self.columnsEmpty then self
  else if self.interactiveResize then self
  else { self with viewOffset := some ⟨isTouchpad, false⟩ }

/-- `dnd_scroll_gesture_begin` (`scrolling.rs`, lines 3084–3107). -/
def dndScrollGestureBegin : Workspace Id :=
  if self.viewOffset.any (·.isDnd) then self
  else { self with viewOffset := some Gesture.dndScroll, interactiveResize := false }

/-- What `view_offset_gesture_end` returns. -/
def answersEnd (isTouchpad : Option Bool) : Bool :=
  self.viewOffset.any (Gesture.answers isTouchpad)

/-- `view_offset_gesture_end` (`scrolling.rs`, lines 3211–3537). -/
def viewOffsetGestureEnd (isTouchpad : Option Bool) : Workspace Id :=
  if self.answersEnd isTouchpad then { self with viewOffset := none } else self

/-- `dnd_scroll_gesture_end` (`scrolling.rs`, lines 3539–3565): it ends gestures of other kinds
    as well. -/
def dndScrollGestureEnd : Workspace Id := self.viewOffsetGestureEnd none

/-- The window is taken out. -/
def erase [DecidableEq Id] (self : Workspace Id) (window : Id) : Workspace Id :=
  { self with windows := self.windows.filter (·.1 ≠ window) }

/-- The view gesture, with the workspace that is in it. -/
def gesture : Option (WorkspaceId × Gesture) :=
  self.viewOffset.map (self.id, ·)

end Workspace

namespace Monitor

/-- `Monitor::new`, without the assertion that the workspaces are used: there may be an empty
    workspace above them, and there is one below. -/
def new (output : Output) (workspaces : List (Workspace Id)) (top : Option WorkspaceId)
    (bottom : WorkspaceId) (activeWorkspaceIdx : ℕ) : Monitor Id where
  output
  workspaces := top.toList.map (Workspace.new output) ++ workspaces ++ [Workspace.new output bottom]
  activeWorkspaceIdx
  workspaceSwitch := none

variable (self : Monitor Id)

/-- `workspace_switch_gesture_begin` (`monitor.rs`, lines 1782–1798). -/
def workspaceSwitchGestureBegin (isTouchpad : Bool) : Monitor Id :=
  { self with workspaceSwitch := some ⟨isTouchpad, false⟩ }

/-- `dnd_scroll_gesture_begin` (`monitor.rs`, lines 1800–1832): only in the overview. -/
def dndScrollGestureBegin (overviewOpen : Bool) : Monitor Id :=
  if self.workspaceSwitch.any (·.isDnd) then self
  else if overviewOpen then { self with workspaceSwitch := some Gesture.dndScroll }
  else self

/-- What `workspace_switch_gesture_end` returns. -/
def answersEnd (isTouchpad : Option Bool) : Bool :=
  self.workspaceSwitch.any (Gesture.answers isTouchpad)

/-- `workspace_switch_gesture_end` (`monitor.rs`, lines 1969–2024). -/
def workspaceSwitchGestureEnd (isTouchpad : Option Bool) : Monitor Id :=
  if self.answersEnd isTouchpad then { self with workspaceSwitch := none } else self

/-- `dnd_scroll_gesture_end` (`monitor.rs`, lines 2026–2040). -/
def dndScrollGestureEnd : Monitor Id :=
  if self.workspaceSwitch.any (·.isDnd) then self.workspaceSwitchGestureEnd none else self

/-- `append_workspaces` (`monitor.rs`, lines 724–759), before the clean-up. -/
def appendWorkspaces (workspaces : List (Workspace Id)) (activeWorkspaceIdx : ℕ) : Monitor Id :=
  if workspaces.isEmpty then self
  else { self with
    workspaces := self.workspaces.dropLast ++ workspaces ++ self.workspaces.getLast?.toList
    activeWorkspaceIdx
    workspaceSwitch := none }

/-- The switch gesture, with the output of the monitor that is in it. -/
def gesture : Option (Output × Gesture) :=
  self.workspaceSwitch.map (self.output, ·)

/-- The view gestures of its workspaces. -/
def viewGestures : List (WorkspaceId × Gesture) :=
  self.workspaces.filterMap Workspace.gesture

end Monitor

namespace MonitorSet

def monitors : MonitorSet Id → List (Monitor Id)
  | normal monitors _ => monitors
  | noOutputs _ => []

def workspaces : MonitorSet Id → List (Workspace Id)
  | normal monitors _ => monitors.flatMap Monitor.workspaces
  | noOutputs workspaces => workspaces

/-- A loop over `monitors_mut`. -/
def mapMonitors (f : Monitor Id → Monitor Id) : MonitorSet Id → MonitorSet Id
  | normal monitors primaryIdx => normal (monitors.map f) primaryIdx
  | noOutputs workspaces => noOutputs workspaces

/-- A loop over `workspaces_mut`. -/
def mapWorkspaces (f : Workspace Id → Workspace Id) : MonitorSet Id → MonitorSet Id
  | normal monitors primaryIdx =>
    normal (monitors.map fun mon => { mon with workspaces := mon.workspaces.map f }) primaryIdx
  | noOutputs workspaces => noOutputs (workspaces.map f)

end MonitorSet

/-- Change the first element with `p`. -/
def modifyFirst {α : Type} (p : α → Bool) (f : α → α) : List α → List α
  | [] => []
  | x :: xs => if p x then f x :: xs else x :: modifyFirst p f xs

namespace Layout

/-! ## Reading a layout -/

variable (self : Layout Id)

/-- The monitors. -/
def monitors : List (Monitor Id) := self.monitorSet.monitors

/-- The workspaces, of the monitors or stored. -/
def workspaces : List (Workspace Id) := self.monitorSet.workspaces

/-- The connected outputs. -/
def outputs : List Output := self.monitors.map (·.output)

def primaryIdx : Option ℕ :=
  match self.monitorSet with
  | .normal _ primaryIdx => some primaryIdx
  | .noOutputs _ => none

/-- The windows of the workspaces. -/
def windows : List Id := self.workspaces.flatMap (·.windows.map Prod.fst)

/-- The view gestures. -/
def viewGestures : List (WorkspaceId × Gesture) :=
  self.workspaces.filterMap Workspace.gesture

/-- The switch gestures. -/
def switchGestures : List (Output × Gesture) :=
  self.monitors.filterMap Monitor.gesture

/-- The window that is moved. -/
def movedWindow : Option Id :=
  match self.interactiveMove with
  | some (.starting window) | some (.moving window _) => some window
  | none => none

/-- Whether the interactive move, if there is one, may lock the view. -/
def mayLockView : Bool :=
  match self.interactiveMove with
  | some (.starting _) => true
  | some (.moving _ isFloating) => !isFloating
  | none => false

/-! ## Changing parts of a layout -/

/-- Change every monitor. -/
def mapMonitors (f : Monitor Id → Monitor Id) : Layout Id :=
  { self with monitorSet := self.monitorSet.mapMonitors f }

/-- Change every workspace. -/
def mapWorkspaces (f : Workspace Id → Workspace Id) : Layout Id :=
  { self with monitorSet := self.monitorSet.mapWorkspaces f }

/-- `dnd_scroll_gesture_begin` of all monitors. -/
def beginMonitorGestures : Layout Id :=
  self.mapMonitors (·.dndScrollGestureBegin self.overviewOpen)

/-- `dnd_scroll_gesture_end` of all monitors. -/
def endMonitorGestures : Layout Id := self.mapMonitors (·.dndScrollGestureEnd)

/-- `dnd_scroll_gesture_begin` of all workspaces. -/
def beginWorkspaceGestures : Layout Id :=
  self.mapWorkspaces (·.dndScrollGestureBegin)

/-- `dnd_scroll_gesture_end` of all workspaces. -/
def endWorkspaceGestures : Layout Id :=
  self.mapWorkspaces (·.dndScrollGestureEnd)

/-! ## Gestures -/

/-- `workspace_switch_gesture_begin` (`layout/mod.rs`, lines 3639–3654). -/
def workspaceSwitchGestureBegin (output : Output) (isTouchpad : Bool) : Option (Layout Id) :=
  match self.monitorSet with
  | .normal monitors primaryIdx =>
    some { self with
      monitorSet := .normal (monitors.map fun mon =>
        -- Cancel the gesture on other outputs.
        if mon.output ≠ output then mon.workspaceSwitchGestureEnd none
        else mon.workspaceSwitchGestureBegin isTouchpad) primaryIdx }
  -- `unreachable!()`.
  | .noOutputs _ => none

/-- `workspace_switch_gesture_end` (`layout/mod.rs`, lines 3682–3695). -/
def workspaceSwitchGestureEnd (isTouchpad : Option Bool) : Layout Id :=
  match self.monitorSet with
  | .normal monitors primaryIdx =>
    { self with
      monitorSet := .normal (modifyFirst (·.answersEnd isTouchpad)
        (·.workspaceSwitchGestureEnd isTouchpad) monitors) primaryIdx }
  | .noOutputs _ => self

/-- `view_offset_gesture_begin` (`layout/mod.rs`, lines 3697–3721). -/
def viewOffsetGestureBegin (output : Output) (workspaceIdx : Option ℕ) (isTouchpad : Bool) :
    Option (Layout Id) :=
  match self.monitorSet with
  | .normal monitors primaryIdx =>
    some { self with
      monitorSet := .normal (monitors.map fun mon => { mon with
        workspaces := mon.workspaces.mapIdx fun idx ws =>
          -- Cancel the gesture on other workspaces.
          if mon.output ≠ output ∨ idx ≠ workspaceIdx.getD mon.activeWorkspaceIdx then
            ws.viewOffsetGestureEnd none
          else ws.viewOffsetGestureBegin isTouchpad }) primaryIdx }
  -- `unreachable!()`.
  | .noOutputs _ => none

/-- `view_offset_gesture_end` (`layout/mod.rs`, lines 3754–3769). -/
def viewOffsetGestureEnd (isTouchpad : Option Bool) : Layout Id :=
  match self.monitorSet with
  | .normal monitors primaryIdx =>
    { self with
      monitorSet := .normal (modifyFirst (fun mon => mon.workspaces.any (·.answersEnd isTouchpad))
        (fun mon => { mon with
          workspaces := modifyFirst (·.answersEnd isTouchpad)
            (·.viewOffsetGestureEnd isTouchpad) mon.workspaces }) monitors) primaryIdx }
  | .noOutputs _ => self

/-! ## Interactive moves and drag-and-drop -/

variable [DecidableEq Id] (self : Layout Id)

/-- `interactive_move_begin` (`layout/mod.rs`, lines 3842–3901), `none` where it returns false. -/
def interactiveMoveBegin (window : Id) (output : Output) : Option (Layout Id) := do
  if self.interactiveMove.isSome then none
  else
    let mon ← self.monitors.find? (·.workspaces.any (·.hasWindow window))
    let ws ← mon.workspaces.find? (·.hasWindow window)
    if mon.output ≠ output then none
    else
      let self := ({ self with interactiveMove := some (.starting window) } :
        Layout Id).beginMonitorGestures
      -- Lock the view for scrolling interactive move.
      if ws.isFloating window then some self else some self.beginWorkspaceGestures

/-- `interactive_move_update` (`layout/mod.rs`, lines 3903–4128): `crossed` tells whether the
    pointer has passed the threshold or the window floats, `isFloating` whether the window floats
    when it is taken out, after it has left fullscreen. -/
def interactiveMoveUpdate (window : Id) (crossed isFloating : Bool) : Option (Layout Id) :=
  match self.interactiveMove with
  | some (.starting windowId) =>
    if windowId ≠ window then some self
    -- Unwraps the workspace of the window.
    else if window ∉ self.windows then none
    else if !crossed then some self
    else
      let self : Layout Id :=
        ({ self with interactiveMove := some (.moving window isFloating) } :
          Layout Id).mapWorkspaces (·.erase window)
      -- Unlock the view in case it was locked for a window that now floats.
      if isFloating then some self.endWorkspaceGestures else some self
  | some (.moving _ _) | none => some self

/-- The window is put down on the workspace `target`, if that is there. -/
def place (window : Id) (isFloating : Bool) (target : WorkspaceId) : Layout Id :=
  self.mapWorkspaces fun ws =>
    if ws.id = target then { ws with windows := (window, isFloating) :: ws.windows } else ws

/-- `interactive_move_end` (`layout/mod.rs`, lines 4130–4394); geometry decides on the workspace
    `target`. -/
def interactiveMoveEnd (window : Id) (target : WorkspaceId) : Layout Id :=
  let ended : Layout Id := ({ self with interactiveMove := none } : Layout Id).endMonitorGestures
  match self.interactiveMove with
  | some (.starting windowId) => if windowId ≠ window then self else ended.endWorkspaceGestures
  | some (.moving windowId isFloating) =>
    if window ≠ windowId then self
    -- Unlock the view on the workspaces.
    else (if isFloating then ended else ended.endWorkspaceGestures).place window isFloating target
  | none => self

/-- `toggle_window_floating` (`layout/mod.rs`, lines 3181–3240); what a workspace does with a
    window that is not moved is left out. -/
def toggleWindowFloating (window : Id) : Option (Layout Id) :=
  let toggleOther := if window ∈ self.windows then some self else none
  match self.interactiveMove with
  | some (.moving windowId isFloating) =>
    if window = windowId then
      let self : Layout Id := { self with interactiveMove := some (.moving windowId !isFloating) }
      if isFloating then some self else some self.endWorkspaceGestures
    else toggleOther
  -- Unwraps the workspace of the window.
  | some (.starting _) | none => toggleOther

/-- `remove_window` (`layout/mod.rs`, lines 1115–1208), before the clean-up. -/
def removeWindow (window : Id) (target : WorkspaceId) : Layout Id :=
  match self.interactiveMove with
  | some (.starting windowId) =>
    (if windowId = window then self.interactiveMoveEnd window target else self).mapWorkspaces
      (·.erase window)
  | some (.moving windowId _) =>
    if windowId = window then
      ({ self with interactiveMove := none } : Layout Id).endMonitorGestures.endWorkspaceGestures
    else self.mapWorkspaces (·.erase window)
  | none => self.mapWorkspaces (·.erase window)

omit [DecidableEq Id] in
/-- `dnd_update` (`layout/mod.rs`, lines 4404–4422). -/
def dndUpdate : Layout Id :=
  let begun : Layout Id := { self with dnd := true }
  if self.dnd then begun else begun.beginMonitorGestures.beginWorkspaceGestures

omit [DecidableEq Id] in
/-- `dnd_end` (`layout/mod.rs`, lines 4424–4438). -/
def dndEnd : Layout Id :=
  if self.dnd then
    ({ self with dnd := false } : Layout Id).endMonitorGestures.endWorkspaceGestures
  else self

/-! ## Refreshing -/

/-- Whether something is dragged, and then whether that scrolls the view: `ongoing_scrolling_dnd`.
    Panics when the window of a starting move is gone. -/
def ongoingScrollingDnd : Option (Option Bool) :=
  if self.dnd then some (some true)
  else
    match self.interactiveMove with
    | some (.moving _ isFloating) => some (some !isFloating)
    | some (.starting window) => do
      let ws ← self.workspaces.find? (·.hasWindow window)
      return some !ws.isFloating window
    | none => some none

omit [DecidableEq Id] in
/-- What `refresh` does to the switch of a monitor. -/
def refreshSwitch (overviewOpen : Bool) (ongoing : Option Bool) (mon : Monitor Id) : Monitor Id :=
  -- Begin the scroll on new monitors and when opening the overview.
  if ongoing.isSome && overviewOpen then mon.dndScrollGestureBegin overviewOpen
  else if !overviewOpen then mon.dndScrollGestureEnd
  else mon

omit [DecidableEq Id] in
/-- What `refresh` does to a workspace of a monitor. -/
def refreshWorkspace (overviewOpen : Bool) (ongoing : Option Bool) (active wsIdx : ℕ)
    (ws : Workspace Id) : Workspace Id :=
  match ongoing with
  -- Lock or unlock the view for scrolling interactive move.
  | some true => ws.dndScrollGestureBegin
  | some false => ws.dndScrollGestureEnd
  -- Cancel the view offset gesture after workspace switches, moves, etc.
  | none => if !overviewOpen ∧ wsIdx ≠ active then ws.viewOffsetGestureEnd none else ws

omit [DecidableEq Id] in
/-- What `refresh` does to a monitor. -/
def refreshMonitor (overviewOpen : Bool) (ongoing : Option Bool) (mon : Monitor Id) : Monitor Id :=
  { refreshSwitch overviewOpen ongoing mon with
    workspaces := mon.workspaces.mapIdx
      (refreshWorkspace overviewOpen ongoing mon.activeWorkspaceIdx) }

/-- `refresh` (`layout/mod.rs`, lines 5035–5114). -/
def refresh : Option (Layout Id) := do
  let ongoing ← self.ongoingScrollingDnd
  match self.monitorSet with
  | .normal monitors primaryIdx =>
    return { self with
      monitorSet := .normal (monitors.map (refreshMonitor self.overviewOpen ongoing)) primaryIdx }
  | .noOutputs workspaces =>
    return { self with
      monitorSet := .noOutputs (workspaces.map (·.viewOffsetGestureEnd none)) }

/-! ## Outputs -/

omit [DecidableEq Id] in
/-- `add_output` (`layout/mod.rs`, lines 738–844), before the clean-up. -/
def addOutput (output : Output) (top : Option WorkspaceId) (bottom : WorkspaceId)
    (activeWorkspaceIdx primaryActiveIdx : ℕ) : Option (Layout Id) :=
  match self.monitorSet with
  | .normal monitors primaryIdx => do
    let primary ← monitors[primaryIdx]?
    let belongs (ws : Workspace Id) : Bool := ws.originalOutput.matchesOutput output
    let workspaces := (primary.workspaces.filter belongs).filter (·.hasWindowsOrName)
    let primary : Monitor Id := { primary with
      workspaces := primary.workspaces.filter (!belongs ·)
      activeWorkspaceIdx := primaryActiveIdx
      workspaceSwitch :=
        if primary.workspaces.any belongs then none else primary.workspaceSwitch }
    let monitor := Monitor.new output workspaces top bottom activeWorkspaceIdx
    return { self with
      monitorSet := .normal (monitors.set primaryIdx primary ++ [monitor]) primaryIdx }
  | .noOutputs workspaces =>
    some { self with
      monitorSet := .normal [Monitor.new output workspaces top bottom activeWorkspaceIdx] 0 }

omit [DecidableEq Id] in
/-- `remove_output` (`layout/mod.rs`, lines 846–902), before the clean-up. -/
def removeOutput (output : Output) (primaryActiveIdx : ℕ) : Option (Layout Id) :=
  match self.monitorSet with
  | .normal monitors primaryIdx => do
    let idx ← monitors.findIdx? (·.output = output)
    let monitor ← monitors[idx]?
    let monitors := monitors.eraseIdx idx
    let workspaces := monitor.workspaces.filter (·.hasWindowsOrName)
    if monitors.isEmpty then
      -- Removed the last monitor.
      return { self with monitorSet := .noOutputs workspaces }
    else
      let primaryIdx := if idx ≤ primaryIdx then primaryIdx - 1 else primaryIdx
      let primary ← monitors[primaryIdx]?
      return { self with
        monitorSet :=
          .normal (monitors.set primaryIdx (primary.appendWorkspaces workspaces primaryActiveIdx))
            primaryIdx }
  -- Panics: there are no outputs.
  | .noOutputs _ => none

end Layout

/-! ## What happens to the gestures -/

section Lists

variable {α β κ : Type}

/-- What is found in a list stays, up to order, when the list is split by a test. -/
theorem count_filterMap_filter_not [BEq β] [LawfulBEq β] (p : α → Bool) (f : α → Option β)
    (l : List α) (b : β) :
    ((l.filter p).filterMap f).count b + ((l.filter (!p ·)).filterMap f).count b =
      (l.filterMap f).count b := by
  have hperm : (l.filter p ++ l.filter (!p ·)).Perm l := filter_append_perm p l
  rw [← count_append, ← filterMap_append]
  exact (hperm.filterMap f).count_eq b

variable {p : α → Bool} {f : α → α} {g : α → Option β} {q : β → Bool}

/-- Changing the first element with `p` drops what the first one gives. -/
theorem filterMap_modifyFirst (hp : ∀ a, p a = true → ∃ b, g a = some b ∧ q b = true)
    (hnp : ∀ a b, p a = false → g a = some b → q b = false) (hf : ∀ a, p a = true → g (f a) = none)
    (l : List α) : (modifyFirst p f l).filterMap g = (l.filterMap g).eraseP q := by
  induction l with
  | nil => rfl
  | cons a l ih =>
    cases hpa : p a with
    | true =>
      obtain ⟨b, hgb, hqb⟩ := hp a hpa
      simp only [modifyFirst, hpa, if_true]
      rw [filterMap_cons_none (hf a hpa), filterMap_cons_some hgb, eraseP_cons_of_pos hqb]
    | false =>
      simp only [modifyFirst, hpa, false_eq_true, if_false]
      cases hga : g a with
      | none => rw [filterMap_cons_none hga, filterMap_cons_none hga, ih]
      | some b =>
        have hqb : q b = false := hnp a b hpa hga
        rw [filterMap_cons_some hga, filterMap_cons_some hga,
          eraseP_cons_of_neg (by simp [hqb]), ih]

/-- The same, a list at a time. -/
theorem flatMap_modifyFirst {g : α → List β} (hp : ∀ a, p a = (g a).any q)
    (hf : ∀ a, g (f a) = (g a).eraseP q) (l : List α) :
    (modifyFirst p f l).flatMap g = (l.flatMap g).eraseP q := by
  induction l with
  | nil => rfl
  | cons a l ih =>
    rw [flatMap_cons]
    by_cases hpa : p a
    · have hany : (g a).any q = true := by rw [← hp a, hpa]
      obtain ⟨b, hb, hqb⟩ := List.any_eq_true.mp hany
      simp only [modifyFirst, hpa, if_true]
      rw [flatMap_cons, hf a, eraseP_append_left hqb _ hb]
    · have hnone : ∀ b ∈ g a, ¬q b := by
        rw [not_eq_true, hp a, List.any_eq_false] at hpa
        exact hpa
      rw [modifyFirst, if_neg hpa, flatMap_cons, ih, eraseP_append_right _ hnone]

theorem map_modifyFirst {g : α → β} (hf : ∀ a, g (f a) = g a) (l : List α) :
    (modifyFirst p f l).map g = l.map g := by
  induction l with
  | nil => rfl
  | cons a l ih =>
    unfold modifyFirst
    split_ifs
    · rw [map_cons, map_cons, hf a]
    · rw [map_cons, map_cons, ih]

theorem map_mapIdx_of_eq {f : ℕ → α → α} {g : α → β} (hf : ∀ i a, g (f i a) = g a) (l : List α) :
    (l.mapIdx f).map g = l.map g := by
  refine ext_getElem (by simp) fun i _ _ => ?_
  simp [hf]

theorem filterMap_modifyFirst_of_eq (hf : ∀ a, g (f a) = g a) (l : List α) :
    (modifyFirst p f l).filterMap g = l.filterMap g := by
  have hmap (l : List α) : l.filterMap g = (l.map g).filterMap id := by
    rw [filterMap_map]
    rfl
  rw [hmap, hmap, map_modifyFirst hf]

/-- Where only the element at `n` gives something, at most one thing is found. -/
theorem length_filterMap_mapIdx_le {f : ℕ → α → α} {n : ℕ} (h : ∀ i a, i ≠ n → g (f i a) = none)
    (l : List α) : ((l.mapIdx f).filterMap g).length ≤ 1 := by
  induction l generalizing f n with
  | nil => exact Nat.zero_le 1
  | cons a l ih =>
    rw [mapIdx_cons]
    cases n with
    | zero =>
      have hrest : (l.mapIdx fun i => f (i + 1)).filterMap g = [] := by
        rw [filterMap_eq_nil_iff]
        intro b hb
        obtain ⟨i, hi, rfl⟩ := mem_mapIdx.mp hb
        exact h (i + 1) _ (Nat.succ_ne_zero i)
      rw [filterMap_cons, hrest]
      cases g (f 0 a) with
      | none => exact Nat.zero_le 1
      | some b => exact Nat.le_refl 1
    | succ n =>
      rw [filterMap_cons_none (h 0 a (Nat.succ_ne_zero n).symm)]
      exact ih fun i a hi => h (i + 1) a fun heq => hi (Nat.succ.inj heq)

/-- Where elements give what they gave or nothing. -/
theorem filterMap_mapIdx_sublist {f : ℕ → α → α} (h : ∀ i a, g (f i a) = none ∨ g (f i a) = g a)
    (l : List α) : ((l.mapIdx f).filterMap g).Sublist (l.filterMap g) := by
  induction l generalizing f with
  | nil => exact List.Sublist.refl _
  | cons a l ih =>
    rw [mapIdx_cons]
    have hrest := ih fun i a => h (i + 1) a
    rcases h 0 a with hnone | hsame
    · rw [filterMap_cons_none hnone]
      exact hrest.trans ((sublist_cons_self a l).filterMap g)
    · rw [filterMap_cons, filterMap_cons, hsame]
      cases g a with
      | none => exact hrest
      | some b => exact hrest.cons_cons b

/-- Where an element in the middle gives what it gave or nothing. -/
theorem sublist_filterMap_of_middle {a a' : α} (before after : List α)
    (h : g a' = none ∨ g a' = g a) :
    ((before ++ a' :: after).filterMap g).Sublist ((before ++ a :: after).filterMap g) := by
  rw [filterMap_append, filterMap_append]
  refine (List.Sublist.refl _).append ?_
  rcases h with hnone | hsame
  · rw [filterMap_cons_none hnone]
    exact (sublist_cons_self a after).filterMap g
  · rw [filterMap_cons, filterMap_cons, hsame]

theorem sublist_flatMap {f g : α → List β} (h : ∀ a, (f a).Sublist (g a)) (l : List α) :
    (l.flatMap f).Sublist (l.flatMap g) := by
  induction l with
  | nil => exact List.Sublist.refl _
  | cons a l ih =>
    exact (h a).append ih

/-- Where only the elements with the key `k` give something, and keys are different. -/
theorem length_flatMap_le {key : α → κ} {g : α → List β} {k : κ} {l : List α}
    (hnodup : (l.map key).Nodup) (hone : ∀ a ∈ l, (g a).length ≤ 1)
    (hnone : ∀ a ∈ l, key a ≠ k → g a = []) : (l.flatMap g).length ≤ 1 := by
  induction l with
  | nil => exact Nat.zero_le 1
  | cons a l ih =>
    rw [map_cons, nodup_cons] at hnodup
    rw [flatMap_cons, length_append]
    have hrest := ih hnodup.2 (fun b hb => hone b (mem_cons_of_mem _ hb))
      fun b hb => hnone b (mem_cons_of_mem _ hb)
    by_cases hka : key a = k
    · have hnil : l.flatMap g = [] := by
        rw [flatMap_eq_nil_iff]
        intro b hb
        refine hnone b (mem_cons_of_mem _ hb) fun hkb => hnodup.1 ?_
        rw [hka, ← hkb]
        exact mem_map_of_mem hb
      have := hone a mem_cons_self
      rw [hnil]
      simpa using this
    · rw [hnone a mem_cons_self hka]
      simpa using hrest

end Lists

namespace Workspace

variable (ws : Workspace Id)

@[simp] theorem gesture_end_none : (ws.viewOffsetGestureEnd none).gesture = none := by
  unfold viewOffsetGestureEnd answersEnd gesture
  cases hview : ws.viewOffset <;> simp [Gesture.answers, hview]

@[simp] theorem gesture_dndScrollGestureEnd :
    ws.dndScrollGestureEnd.gesture = none := ws.gesture_end_none

@[simp] theorem windows_viewOffsetGestureEnd (isTouchpad : Option Bool) :
    (ws.viewOffsetGestureEnd isTouchpad).windows = ws.windows := by
  unfold viewOffsetGestureEnd
  split_ifs <;> rfl

@[simp] theorem windows_dndScrollGestureEnd :
    ws.dndScrollGestureEnd.windows = ws.windows := ws.windows_viewOffsetGestureEnd none

@[simp] theorem windows_viewOffsetGestureBegin (isTouchpad : Bool) :
    (ws.viewOffsetGestureBegin isTouchpad).windows = ws.windows := by
  unfold viewOffsetGestureBegin
  split_ifs <;> rfl

@[simp] theorem windows_dndScrollGestureBegin : ws.dndScrollGestureBegin.windows = ws.windows := by
  unfold dndScrollGestureBegin
  split_ifs <;> rfl

variable {ws : Workspace Id} {p : WorkspaceId × Gesture}

theorem isDnd_of_dndScrollGestureBegin (h : ws.dndScrollGestureBegin.gesture = some p) :
    p.2.isDnd = true := by
  unfold dndScrollGestureBegin at h
  split_ifs at h with hdnd
  · obtain ⟨g, hg, rfl⟩ := map_eq_some_iff.mp h
    simpa [hg] using hdnd
  · obtain ⟨g, hg, rfl⟩ := map_eq_some_iff.mp h
    cases hg
    rfl

theorem gesture_viewOffsetGestureBegin {isTouchpad : Bool}
    (h : (ws.viewOffsetGestureBegin isTouchpad).gesture = some p) :
    ws.gesture = some p ∨ p.2 = ⟨isTouchpad, false⟩ := by
  unfold viewOffsetGestureBegin at h
  split_ifs at h with hempty hresize
  · exact .inl h
  · exact .inl h
  · obtain ⟨g, hg, rfl⟩ := map_eq_some_iff.mp h
    cases hg
    exact .inr rfl

variable {isTouchpad : Option Bool}

/-- A workspace answers when its gesture does. -/
theorem answersEnd_iff :
    ws.answersEnd isTouchpad = true ↔
      ∃ p, ws.gesture = some p ∧ p.2.answers isTouchpad = true := by
  unfold answersEnd gesture
  cases ws.viewOffset <;> simp

theorem gesture_end_of_answers (h : ws.answersEnd isTouchpad = true) :
    (ws.viewOffsetGestureEnd isTouchpad).gesture = none := by
  rw [viewOffsetGestureEnd, if_pos h]
  rfl

end Workspace

namespace Monitor

variable (mon : Monitor Id)

@[simp] theorem gesture_end_none : (mon.workspaceSwitchGestureEnd none).gesture = none := by
  unfold workspaceSwitchGestureEnd answersEnd gesture
  cases hswitch : mon.workspaceSwitch <;> simp [Gesture.answers, hswitch]

variable (isTouchpad : Option Bool)

@[simp] theorem output_workspaceSwitchGestureEnd :
    (mon.workspaceSwitchGestureEnd isTouchpad).output = mon.output := by
  unfold workspaceSwitchGestureEnd
  split_ifs <;> rfl

@[simp] theorem workspaces_workspaceSwitchGestureEnd :
    (mon.workspaceSwitchGestureEnd isTouchpad).workspaces = mon.workspaces := by
  unfold workspaceSwitchGestureEnd
  split_ifs <;> rfl

variable (overviewOpen : Bool)

@[simp] theorem output_dndScrollGestureBegin :
    (mon.dndScrollGestureBegin overviewOpen).output = mon.output := by
  unfold dndScrollGestureBegin
  split_ifs <;> rfl

@[simp] theorem workspaces_dndScrollGestureBegin :
    (mon.dndScrollGestureBegin overviewOpen).workspaces = mon.workspaces := by
  unfold dndScrollGestureBegin
  split_ifs <;> rfl

@[simp] theorem output_dndScrollGestureEnd : mon.dndScrollGestureEnd.output = mon.output := by
  unfold dndScrollGestureEnd
  split_ifs
  · exact mon.output_workspaceSwitchGestureEnd none
  · rfl

@[simp] theorem workspaces_dndScrollGestureEnd :
    mon.dndScrollGestureEnd.workspaces = mon.workspaces := by
  unfold dndScrollGestureEnd
  split_ifs
  · exact mon.workspaces_workspaceSwitchGestureEnd none
  · rfl

/-- Drag-and-drop gestures end, and others stay. -/
theorem gesture_dndScrollGestureEnd :
    mon.dndScrollGestureEnd.gesture = mon.gesture.filter (!·.2.isDnd) := by
  unfold dndScrollGestureEnd
  split_ifs with hdnd
  · rw [gesture_end_none]
    unfold gesture
    cases hswitch : mon.workspaceSwitch with
    | none => rfl
    | some g =>
      have hg : g.isDnd = true := by simpa [hswitch] using hdnd
      simp [Option.filter, hg]
  · unfold gesture
    cases hswitch : mon.workspaceSwitch with
    | none => rfl
    | some g =>
      have hg : g.isDnd = false := by simpa [hswitch] using hdnd
      simp [Option.filter, hg]

variable {mon : Monitor Id}

theorem gesture_dndScrollGestureBegin {overviewOpen : Bool} {p : Output × Gesture}
    (h : (mon.dndScrollGestureBegin overviewOpen).gesture = some p) :
    p.2.isDnd = true ∨ overviewOpen = false ∧ mon.gesture = some p := by
  unfold dndScrollGestureBegin at h
  split_ifs at h with hdnd hopen
  · obtain ⟨g, hg, rfl⟩ := map_eq_some_iff.mp h
    left
    simpa [hg] using hdnd
  · obtain ⟨g, hg, rfl⟩ := map_eq_some_iff.mp h
    cases hg
    exact .inl rfl
  · exact .inr ⟨by simpa using hopen, h⟩

/-- Workspaces that are put in before the last one bring their gestures. -/
theorem count_appendWorkspaces_le (mon : Monitor Id) (workspaces : List (Workspace Id))
    (active : ℕ) (p : WorkspaceId × Gesture) :
    ((mon.appendWorkspaces (workspaces.filter (·.hasWindowsOrName)) active).workspaces.filterMap
        Workspace.gesture).count p ≤
      (mon.workspaces.filterMap Workspace.gesture).count p +
        (workspaces.filterMap Workspace.gesture).count p := by
  unfold appendWorkspaces
  split_ifs
  · exact Nat.le_add_right _ _
  · have hused := ((filter_sublist (p := fun ws : Workspace Id => ws.hasWindowsOrName)
      (l := workspaces)).filterMap Workspace.gesture).count_le p
    have hlast : mon.workspaces.dropLast ++ mon.workspaces.getLast?.toList = mon.workspaces := by
      cases hlast : mon.workspaces.getLast? with
      | none => simp [List.getLast?_eq_none_iff.mp hlast]
      | some ws => exact dropLast_append_getLast? ws hlast
    have hcount := congrArg (fun l : List (Workspace Id) =>
      (l.filterMap Workspace.gesture).count p) hlast
    simp only [filterMap_append, count_append] at hcount ⊢
    omega

theorem mem_appendWorkspaces (mon : Monitor Id) (workspaces : List (Workspace Id)) (active : ℕ)
    (ws : Workspace Id) :
    ws ∈ (mon.appendWorkspaces workspaces active).workspaces ↔
      ws ∈ mon.workspaces ∨ ws ∈ workspaces := by
  unfold appendWorkspaces
  split_ifs with hempty
  · rw [List.isEmpty_iff] at hempty
    simp [hempty]
  · have hlast : mon.workspaces.dropLast ++ mon.workspaces.getLast?.toList = mon.workspaces := by
      cases hlast : mon.workspaces.getLast? with
      | none => simp [List.getLast?_eq_none_iff.mp hlast]
      | some ws => exact dropLast_append_getLast? ws hlast
    have hmem : ws ∈ mon.workspaces.dropLast ∨ ws ∈ mon.workspaces.getLast?.toList ↔
        ws ∈ mon.workspaces := by
      rw [← mem_append, hlast]
    simp only [mem_append]
    tauto

theorem answersEnd_iff {isTouchpad : Option Bool} :
    mon.answersEnd isTouchpad = true ↔
      ∃ p, mon.gesture = some p ∧ p.2.answers isTouchpad = true := by
  unfold answersEnd gesture
  cases mon.workspaceSwitch <;> simp

theorem gesture_end_of_answers {isTouchpad : Option Bool} (h : mon.answersEnd isTouchpad = true) :
    (mon.workspaceSwitchGestureEnd isTouchpad).gesture = none := by
  rw [workspaceSwitchGestureEnd, if_pos h]
  rfl

end Monitor

namespace MonitorSet

variable (monitorSet : MonitorSet Id)

variable (f : Workspace Id → Workspace Id)

@[simp] theorem workspaces_mapWorkspaces :
    (monitorSet.mapWorkspaces f).workspaces = monitorSet.workspaces.map f := by
  cases monitorSet <;> simp [mapWorkspaces, workspaces, map_flatMap, flatMap_map]

@[simp] theorem monitors_mapWorkspaces :
    (monitorSet.mapWorkspaces f).monitors =
      monitorSet.monitors.map fun mon => { mon with workspaces := mon.workspaces.map f } := by
  cases monitorSet <;> rfl

@[simp] theorem monitors_mapMonitors (f : Monitor Id → Monitor Id) :
    (monitorSet.mapMonitors f).monitors = monitorSet.monitors.map f := by
  cases monitorSet <;> rfl

end MonitorSet

namespace Layout

section Effects

variable (l : Layout Id)

variable (f : Workspace Id → Workspace Id)

theorem viewGestures_mapWorkspaces :
    (l.mapWorkspaces f).viewGestures = l.workspaces.filterMap fun ws => (f ws).gesture := by
  simp [viewGestures, workspaces, mapWorkspaces, filterMap_map]

@[simp] theorem switchGestures_mapWorkspaces :
    (l.mapWorkspaces f).switchGestures = l.switchGestures := by
  simp only [switchGestures, monitors, mapWorkspaces, MonitorSet.monitors_mapWorkspaces,
    filterMap_map]
  rfl

@[simp] theorem outputs_mapWorkspaces : (l.mapWorkspaces f).outputs = l.outputs := by
  simp [outputs, monitors, mapWorkspaces, comp_def]

@[simp] theorem primaryIdx_mapWorkspaces : (l.mapWorkspaces f).primaryIdx = l.primaryIdx := by
  unfold primaryIdx mapWorkspaces
  cases l.monitorSet <;> rfl

theorem windows_mapWorkspaces :
    (l.mapWorkspaces f).windows = l.workspaces.flatMap fun ws => (f ws).windows.map Prod.fst := by
  simp [windows, workspaces, mapWorkspaces, flatMap_map]

theorem switchGestures_mapMonitors (f : Monitor Id → Monitor Id) :
    (l.mapMonitors f).switchGestures = l.monitors.filterMap fun mon => (f mon).gesture := by
  simp [switchGestures, monitors, mapMonitors, filterMap_map]

variable {f : Monitor Id → Monitor Id} {output : Output} {workspaceIdx : Option ℕ}
variable {isTouchpad : Bool} {l' : Layout Id} {top : Option WorkspaceId} {bottom : WorkspaceId}
variable {active primaryActive : ℕ}

theorem workspaces_mapMonitors (hf : ∀ mon, (f mon).workspaces = mon.workspaces) :
    (l.mapMonitors f).workspaces = l.workspaces := by
  unfold workspaces mapMonitors
  cases l.monitorSet with
  | normal monitors primaryIdx =>
    simp only [MonitorSet.mapMonitors, MonitorSet.workspaces, flatMap_map, hf]
  | noOutputs workspaces => rfl

theorem outputs_mapMonitors (hf : ∀ mon, (f mon).output = mon.output) :
    (l.mapMonitors f).outputs = l.outputs := by
  simp [outputs, monitors, mapMonitors, comp_def, hf]

@[simp] theorem primaryIdx_mapMonitors (f : Monitor Id → Monitor Id) :
    (l.mapMonitors f).primaryIdx = l.primaryIdx := by
  unfold primaryIdx mapMonitors
  cases l.monitorSet <;> rfl

/-- What a loop over the monitors keeps that only touches their gestures. -/
theorem keeps_mapMonitors (hout : ∀ mon, (f mon).output = mon.output)
    (hws : ∀ mon, (f mon).workspaces = mon.workspaces) :
    (l.mapMonitors f).outputs = l.outputs ∧ (l.mapMonitors f).viewGestures = l.viewGestures ∧
      (l.mapMonitors f).windows = l.windows := by
  have hsame := l.workspaces_mapMonitors hws
  exact ⟨l.outputs_mapMonitors hout, by rw [viewGestures, hsame, viewGestures],
    by rw [windows, hsame, windows]⟩

@[simp] theorem outputs_endMonitorGestures : l.endMonitorGestures.outputs = l.outputs :=
  (l.keeps_mapMonitors (by simp) (by simp)).1

@[simp] theorem viewGestures_endMonitorGestures :
    l.endMonitorGestures.viewGestures = l.viewGestures :=
  (l.keeps_mapMonitors (by simp) (by simp)).2.1

@[simp] theorem windows_endMonitorGestures : l.endMonitorGestures.windows = l.windows :=
  (l.keeps_mapMonitors (by simp) (by simp)).2.2

@[simp] theorem outputs_beginMonitorGestures : l.beginMonitorGestures.outputs = l.outputs :=
  (l.keeps_mapMonitors (by simp) (by simp)).1

@[simp] theorem viewGestures_beginMonitorGestures :
    l.beginMonitorGestures.viewGestures = l.viewGestures :=
  (l.keeps_mapMonitors (by simp) (by simp)).2.1

@[simp] theorem windows_beginMonitorGestures : l.beginMonitorGestures.windows = l.windows :=
  (l.keeps_mapMonitors (by simp) (by simp)).2.2

/-- Drag-and-drop gestures of the monitors end. -/
@[simp] theorem switchGestures_endMonitorGestures :
    l.endMonitorGestures.switchGestures = l.switchGestures.filter (!·.2.isDnd) := by
  rw [endMonitorGestures, switchGestures_mapMonitors, switchGestures, filter_filterMap]
  congr 1
  funext mon
  exact mon.gesture_dndScrollGestureEnd

/-- In the overview, they begin on every monitor. -/
theorem mem_switchGestures_begin {p : Output × Gesture}
    (h : p ∈ l.beginMonitorGestures.switchGestures) :
    p.2.isDnd = true ∨ l.overviewOpen = false ∧ p ∈ l.switchGestures := by
  rw [beginMonitorGestures, switchGestures_mapMonitors] at h
  obtain ⟨mon, hmon, hp⟩ := mem_filterMap.mp h
  rcases Monitor.gesture_dndScrollGestureBegin hp with hdnd | ⟨hopen, hp⟩
  · exact .inl hdnd
  · exact .inr ⟨hopen, mem_filterMap.mpr ⟨mon, hmon, hp⟩⟩

theorem switchGestures_begin_of_closed (h : l.overviewOpen = false) :
    l.beginMonitorGestures.switchGestures = l.switchGestures := by
  rw [beginMonitorGestures, switchGestures_mapMonitors, switchGestures]
  congr 1
  funext mon
  unfold Monitor.dndScrollGestureBegin
  rw [h, if_neg Bool.false_ne_true, ite_self]

/-- Every view gesture ends. -/
@[simp] theorem viewGestures_endWorkspaceGestures : l.endWorkspaceGestures.viewGestures = [] := by
  rw [endWorkspaceGestures, viewGestures_mapWorkspaces, filterMap_eq_nil_iff]
  exact fun ws _ => ws.gesture_dndScrollGestureEnd

theorem isDnd_of_mem_beginWorkspaceGestures {p : WorkspaceId × Gesture}
    (h : p ∈ l.beginWorkspaceGestures.viewGestures) : p.2.isDnd = true := by
  rw [beginWorkspaceGestures, viewGestures_mapWorkspaces] at h
  obtain ⟨ws, -, hp⟩ := mem_filterMap.mp h
  exact Workspace.isDnd_of_dndScrollGestureBegin hp

/-- What a loop over the workspaces keeps that only touches their gestures. -/
theorem windows_mapWorkspaces_of_windows {f : Workspace Id → Workspace Id}
    (hf : ∀ ws, (f ws).windows = ws.windows) : (l.mapWorkspaces f).windows = l.windows := by
  rw [windows_mapWorkspaces, windows]
  simp only [hf]

theorem viewGestures_mapWorkspaces_of_gesture {f : Workspace Id → Workspace Id}
    (hf : ∀ ws, (f ws).gesture = ws.gesture) :
    (l.mapWorkspaces f).viewGestures = l.viewGestures := by
  rw [viewGestures_mapWorkspaces, viewGestures]
  simp only [hf]

@[simp] theorem viewGestures_erase [DecidableEq Id] (window : Id) :
    (l.mapWorkspaces (·.erase window)).viewGestures = l.viewGestures :=
  l.viewGestures_mapWorkspaces_of_gesture fun _ => rfl

/-- The other windows stay. -/
theorem mem_windows_erase [DecidableEq Id] {window other : Id} (h : other ∈ l.windows)
    (hne : other ≠ window) : other ∈ (l.mapWorkspaces (·.erase window)).windows := by
  rw [windows_mapWorkspaces]
  obtain ⟨ws, hws, h⟩ := mem_flatMap.mp h
  obtain ⟨p, hp, rfl⟩ := mem_map.mp h
  refine mem_flatMap.mpr ⟨ws, hws, mem_map_of_mem ?_⟩
  exact mem_filter.mpr ⟨hp, by simpa using hne⟩

/-! ### Gestures that inputs begin and end -/

variable {l}

/-- **Whoever begins a view gesture leaves no other**: what is found is the new one, or one that
    the workspace had and that stays because its view cannot be moved. -/
theorem viewGestures_viewOffsetGestureBegin (hnodup : l.outputs.Nodup)
    (h : l.viewOffsetGestureBegin output workspaceIdx isTouchpad = some l') :
    l'.viewGestures.length ≤ 1 ∧
      ∀ p ∈ l'.viewGestures, p ∈ l.viewGestures ∨ p.2 = ⟨isTouchpad, false⟩ := by
  unfold viewOffsetGestureBegin at h
  unfold outputs monitors at hnodup
  unfold viewGestures workspaces
  cases hset : l.monitorSet with
  | noOutputs workspaces =>
    rw [hset] at h
    cases h
  | normal monitors primaryIdx =>
    rw [hset] at h hnodup
    cases h
    simp only [MonitorSet.workspaces, flatMap_map, filterMap_flatMap]
    constructor
    · refine length_flatMap_le (k := output) hnodup (fun mon _ => ?_) fun mon _ hmon => ?_
      · refine length_filterMap_mapIdx_le
          (n := workspaceIdx.getD mon.activeWorkspaceIdx) (fun i ws hi => ?_) _
        rw [if_pos (.inr hi)]
        exact ws.gesture_end_none
      · rw [filterMap_eq_nil_iff]
        intro ws hws
        obtain ⟨i, hi, rfl⟩ := mem_mapIdx.mp hws
        rw [if_pos (.inl hmon)]
        exact Workspace.gesture_end_none _
    · intro p hp
      obtain ⟨mon, hmon, hp⟩ := mem_flatMap.mp hp
      obtain ⟨ws, hws, hp⟩ := mem_filterMap.mp hp
      obtain ⟨i, hi, rfl⟩ := mem_mapIdx.mp hws
      split_ifs at hp with hother
      · simp at hp
      · rcases Workspace.gesture_viewOffsetGestureBegin hp with hp | hp
        · left
          rw [mem_flatMap]
          exact ⟨mon, hmon, mem_filterMap.mpr ⟨_, getElem_mem hi, hp⟩⟩
        · exact .inr hp

/-- **Whoever begins a switch gesture leaves no other.** -/
theorem switchGestures_workspaceSwitchGestureBegin (hnodup : l.outputs.Nodup)
    (h : l.workspaceSwitchGestureBegin output isTouchpad = some l') :
    l'.switchGestures.length ≤ 1 ∧ ∀ p ∈ l'.switchGestures, p.2 = ⟨isTouchpad, false⟩ := by
  unfold workspaceSwitchGestureBegin at h
  unfold outputs Layout.monitors at hnodup
  unfold switchGestures Layout.monitors
  cases hset : l.monitorSet with
  | noOutputs workspaces =>
    rw [hset] at h
    cases h
  | normal monitors primaryIdx =>
    rw [hset] at h hnodup
    cases h
    simp only [MonitorSet.monitors, filterMap_map]
    constructor
    · rw [filterMap_eq_flatMap_toList]
      refine length_flatMap_le (k := output) hnodup (fun mon _ => ?_) fun mon _ hmon => ?_
      · exact length_toList_le
      · simp [hmon]
    · intro p hp
      obtain ⟨mon, -, hp⟩ := mem_filterMap.mp hp
      simp only [comp_apply] at hp
      split_ifs at hp with hother
      · simp at hp
      · cases hp
        rfl

/-- **Whoever ends a view gesture ends the first that answers.** -/
theorem viewGestures_viewOffsetGestureEnd (isTouchpad : Option Bool) (h : l.outputs ≠ []) :
    (l.viewOffsetGestureEnd isTouchpad).viewGestures =
      l.viewGestures.eraseP fun p => p.2.answers isTouchpad := by
  unfold outputs Layout.monitors at h
  unfold viewOffsetGestureEnd viewGestures workspaces
  cases hset : l.monitorSet with
  | noOutputs workspaces =>
    rw [hset] at h
    exact absurd rfl h
  | normal monitors primaryIdx =>
    simp only [MonitorSet.workspaces, filterMap_flatMap]
    refine flatMap_modifyFirst (fun mon => ?_) (fun mon => ?_) monitors
    · rw [Bool.eq_iff_iff, List.any_eq_true, List.any_eq_true]
      constructor
      · rintro ⟨ws, hws, hanswers⟩
        obtain ⟨p, hp, hanswers⟩ := Workspace.answersEnd_iff.mp hanswers
        exact ⟨p, mem_filterMap.mpr ⟨ws, hws, hp⟩, hanswers⟩
      · rintro ⟨p, hp, hanswers⟩
        obtain ⟨ws, hws, hp⟩ := mem_filterMap.mp hp
        exact ⟨ws, hws, Workspace.answersEnd_iff.mpr ⟨p, hp, hanswers⟩⟩
    · refine filterMap_modifyFirst (p := (Workspace.answersEnd · isTouchpad))
        (f := (Workspace.viewOffsetGestureEnd · isTouchpad))
        (fun ws hws => Workspace.answersEnd_iff.mp hws) (fun ws p hws hp => ?_)
        (fun ws hws => Workspace.gesture_end_of_answers hws) mon.workspaces
      by_contra hanswers
      rw [not_eq_false] at hanswers
      rw [Workspace.answersEnd_iff.mpr ⟨p, hp, hanswers⟩] at hws
      cases hws

/-- **Whoever ends a switch gesture ends the first that answers.** -/
theorem switchGestures_workspaceSwitchGestureEnd (isTouchpad : Option Bool) :
    (l.workspaceSwitchGestureEnd isTouchpad).switchGestures =
      l.switchGestures.eraseP fun p => p.2.answers isTouchpad := by
  unfold workspaceSwitchGestureEnd switchGestures Layout.monitors
  cases hset : l.monitorSet with
  | noOutputs workspaces =>
    rw [hset]
    rfl
  | normal monitors primaryIdx =>
    refine filterMap_modifyFirst (p := (Monitor.answersEnd · isTouchpad))
      (f := (Monitor.workspaceSwitchGestureEnd · isTouchpad))
      (fun mon hmon => Monitor.answersEnd_iff.mp hmon) (fun mon p hmon hp => ?_)
      (fun mon hmon => Monitor.gesture_end_of_answers hmon) monitors
    by_contra hanswers
    rw [not_eq_false] at hanswers
    rw [Monitor.answersEnd_iff.mpr ⟨p, hp, hanswers⟩] at hmon
    cases hmon

/-! ### What gestures leave alone -/

/-- What is there besides the gestures. -/
structure Keeps (l l' : Layout Id) : Prop where
  outputs : l'.outputs = l.outputs
  primaryIdx : l'.primaryIdx = l.primaryIdx
  interactiveMove : l'.interactiveMove = l.interactiveMove
  dnd : l'.dnd = l.dnd
  windows : l.windows ⊆ l'.windows

theorem Keeps.refl (l : Layout Id) : Keeps l l := ⟨rfl, rfl, rfl, rfl, List.Subset.refl _⟩

theorem Keeps.trans {l'' : Layout Id} (h : Keeps l l') (h' : Keeps l' l'') : Keeps l l'' :=
  ⟨h'.outputs.trans h.outputs, h'.primaryIdx.trans h.primaryIdx,
    h'.interactiveMove.trans h.interactiveMove, h'.dnd.trans h.dnd,
    List.Subset.trans h.windows h'.windows⟩

theorem keeps_mapWorkspaces {f : Workspace Id → Workspace Id}
    (hf : ∀ ws, (f ws).windows = ws.windows) : Keeps l (l.mapWorkspaces f) :=
  ⟨l.outputs_mapWorkspaces f, l.primaryIdx_mapWorkspaces f, rfl, rfl,
    (l.windows_mapWorkspaces_of_windows hf).symm ▸ List.Subset.refl _⟩

theorem keeps_beginMonitorGestures (l : Layout Id) : Keeps l l.beginMonitorGestures :=
  ⟨l.outputs_beginMonitorGestures, l.primaryIdx_mapMonitors _, rfl, rfl,
    l.windows_beginMonitorGestures.symm ▸ List.Subset.refl _⟩

/-- Gestures for what is dragged begin. -/
theorem keeps_beginGestures (l : Layout Id) :
    Keeps l l.beginMonitorGestures.beginWorkspaceGestures :=
  (keeps_beginMonitorGestures l).trans
    (keeps_mapWorkspaces Workspace.windows_dndScrollGestureBegin)

theorem keeps_endMonitorGestures (l : Layout Id) : Keeps l l.endMonitorGestures :=
  ⟨l.outputs_endMonitorGestures, l.primaryIdx_mapMonitors _, rfl, rfl,
    l.windows_endMonitorGestures.symm ▸ List.Subset.refl _⟩

/-- They end. -/
theorem keeps_endGestures (l : Layout Id) : Keeps l l.endMonitorGestures.endWorkspaceGestures :=
  (keeps_endMonitorGestures l).trans (keeps_mapWorkspaces Workspace.windows_dndScrollGestureEnd)

theorem movedWindow_congr (h : l'.interactiveMove = l.interactiveMove) :
    l'.movedWindow = l.movedWindow := by
  unfold movedWindow
  rw [h]

theorem mayLockView_congr (h : l'.interactiveMove = l.interactiveMove) :
    l'.mayLockView = l.mayLockView := by
  unfold mayLockView
  rw [h]

/-- The windows of a monitor. -/
def windowsOf (mon : Monitor Id) : List Id := mon.workspaces.flatMap (·.windows.map Prod.fst)

/-- A change of monitors that keeps their outputs and their windows. -/
theorem keeps_of_monitors {monitors monitors' : List (Monitor Id)} {primaryIdx : ℕ}
    (hset : l.monitorSet = .normal monitors primaryIdx)
    (hout : monitors'.map (·.output) = monitors.map (·.output))
    (hwin : monitors'.map windowsOf = monitors.map windowsOf) :
    Keeps l { l with monitorSet := .normal monitors' primaryIdx } where
  outputs := by
    unfold outputs Layout.monitors
    rw [hset]
    exact hout
  primaryIdx := by
    unfold Layout.primaryIdx
    rw [hset]
  interactiveMove := rfl
  dnd := rfl
  windows := by
    have hflat (mons : List (Monitor Id)) :
        (mons.flatMap Monitor.workspaces).flatMap (·.windows.map Prod.fst) =
          (mons.map windowsOf).flatten := by
      rw [flatMap_assoc, ← flatMap_def]
      rfl
    unfold windows workspaces
    rw [hset]
    simp only [MonitorSet.workspaces]
    rw [hflat, hflat, hwin]
    exact List.Subset.refl _

theorem windowsOf_mapIdx {mon : Monitor Id} {f : ℕ → Workspace Id → Workspace Id}
    (hf : ∀ i ws, (f i ws).windows = ws.windows) (mon' : Monitor Id)
    (h : mon'.workspaces = mon.workspaces.mapIdx f) : windowsOf mon' = windowsOf mon := by
  unfold windowsOf
  rw [h, flatMap_def, flatMap_def]
  congr 1
  exact map_mapIdx_of_eq (fun i ws => by rw [hf i ws]) mon.workspaces

theorem keeps_workspaceSwitchGestureBegin
    (h : l.workspaceSwitchGestureBegin output isTouchpad = some l') : Keeps l l' := by
  unfold workspaceSwitchGestureBegin at h
  cases hset : l.monitorSet with
  | noOutputs workspaces =>
    rw [hset] at h
    cases h
  | normal monitors primaryIdx =>
    rw [hset] at h
    cases h
    refine keeps_of_monitors hset ?_ ?_
    · rw [List.map_map]
      refine map_congr_left fun mon _ => ?_
      simp only [comp_apply]
      split_ifs
      · exact mon.output_workspaceSwitchGestureEnd none
      · rfl
    · rw [List.map_map]
      refine map_congr_left fun mon _ => ?_
      simp only [comp_apply]
      split_ifs
      · simp [windowsOf]
      · rfl

theorem keeps_viewOffsetGestureBegin
    (h : l.viewOffsetGestureBegin output workspaceIdx isTouchpad = some l') : Keeps l l' := by
  unfold viewOffsetGestureBegin at h
  cases hset : l.monitorSet with
  | noOutputs workspaces =>
    rw [hset] at h
    cases h
  | normal monitors primaryIdx =>
    rw [hset] at h
    cases h
    refine keeps_of_monitors hset ?_ ?_
    · rw [List.map_map]
      rfl
    · rw [List.map_map]
      refine map_congr_left fun mon _ => windowsOf_mapIdx (fun i ws => ?_) _ rfl
      split_ifs
      · exact ws.windows_viewOffsetGestureEnd none
      · exact ws.windows_viewOffsetGestureBegin isTouchpad

theorem keeps_workspaceSwitchGestureEnd (isTouchpad : Option Bool) :
    Keeps l (l.workspaceSwitchGestureEnd isTouchpad) := by
  unfold workspaceSwitchGestureEnd
  cases hset : l.monitorSet with
  | noOutputs workspaces => exact Keeps.refl l
  | normal monitors primaryIdx =>
    refine keeps_of_monitors hset ?_ ?_
    · exact map_modifyFirst (fun mon => mon.output_workspaceSwitchGestureEnd isTouchpad) monitors
    · exact map_modifyFirst (fun mon => by simp [windowsOf]) monitors

theorem keeps_viewOffsetGestureEnd (isTouchpad : Option Bool) :
    Keeps l (l.viewOffsetGestureEnd isTouchpad) := by
  unfold viewOffsetGestureEnd
  cases hset : l.monitorSet with
  | noOutputs workspaces => exact Keeps.refl l
  | normal monitors primaryIdx =>
    refine keeps_of_monitors hset ?_ ?_
    · refine map_modifyFirst (fun mon => ?_) monitors
      rfl
    · refine map_modifyFirst (fun mon => ?_) monitors
      unfold windowsOf
      rw [flatMap_def, flatMap_def]
      congr 1
      exact map_modifyFirst (fun ws => by rw [ws.windows_viewOffsetGestureEnd]) mon.workspaces

@[simp] theorem viewGestures_workspaceSwitchGestureEnd (isTouchpad : Option Bool) :
    (l.workspaceSwitchGestureEnd isTouchpad).viewGestures = l.viewGestures := by
  unfold workspaceSwitchGestureEnd viewGestures workspaces
  cases hset : l.monitorSet with
  | noOutputs workspaces => rw [hset]
  | normal monitors primaryIdx =>
    simp only [MonitorSet.workspaces]
    rw [flatMap_def, flatMap_def,
      map_modifyFirst fun mon => mon.workspaces_workspaceSwitchGestureEnd isTouchpad]

@[simp] theorem switchGestures_viewOffsetGestureEnd (isTouchpad : Option Bool) :
    (l.viewOffsetGestureEnd isTouchpad).switchGestures = l.switchGestures := by
  unfold viewOffsetGestureEnd switchGestures Layout.monitors
  cases hset : l.monitorSet with
  | noOutputs workspaces => rw [hset]
  | normal monitors primaryIdx =>
    refine filterMap_modifyFirst_of_eq (fun mon => ?_) monitors
    rfl

theorem viewGestures_workspaceSwitchGestureBegin
    (h : l.workspaceSwitchGestureBegin output isTouchpad = some l') :
    l'.viewGestures = l.viewGestures := by
  unfold workspaceSwitchGestureBegin at h
  unfold viewGestures workspaces
  cases hset : l.monitorSet with
  | noOutputs workspaces =>
    rw [hset] at h
    cases h
  | normal monitors primaryIdx =>
    rw [hset] at h
    cases h
    simp only [MonitorSet.workspaces, flatMap_map]
    congr 2
    funext mon
    split_ifs
    · exact mon.workspaces_workspaceSwitchGestureEnd none
    · rfl

theorem switchGestures_viewOffsetGestureBegin
    (h : l.viewOffsetGestureBegin output workspaceIdx isTouchpad = some l') :
    l'.switchGestures = l.switchGestures := by
  unfold viewOffsetGestureBegin at h
  unfold switchGestures Layout.monitors
  cases hset : l.monitorSet with
  | noOutputs workspaces =>
    rw [hset] at h
    cases h
  | normal monitors primaryIdx =>
    rw [hset] at h
    cases h
    simp only [MonitorSet.monitors, filterMap_map]
    rfl

/-! ### Refreshing -/

variable (overviewOpen : Bool) (ongoing : Option Bool)

theorem output_refreshMonitor (mon : Monitor Id) :
    (refreshMonitor overviewOpen ongoing mon).output = mon.output := by
  show (refreshSwitch overviewOpen ongoing mon).output = mon.output
  unfold refreshSwitch
  split_ifs
  · exact mon.output_dndScrollGestureBegin overviewOpen
  · exact mon.output_dndScrollGestureEnd
  · rfl

theorem windows_refreshWorkspace (active wsIdx : ℕ) (ws : Workspace Id) :
    (refreshWorkspace overviewOpen ongoing active wsIdx ws).windows = ws.windows := by
  unfold refreshWorkspace
  split
  · exact ws.windows_dndScrollGestureBegin
  · exact ws.windows_dndScrollGestureEnd
  · split_ifs
    · exact ws.windows_viewOffsetGestureEnd none
    · rfl

variable (monitors : List (Monitor Id))

/-- The switches: in the overview, whatever is dragged scrolls them; otherwise they stay, or
    stop scrolling for it. -/
theorem switchGestures_refreshMonitor :
    (ongoing.isSome = true ∧ ∀ p ∈ monitors.filterMap fun mon =>
        (refreshMonitor overviewOpen ongoing mon).gesture, p.2.isDnd = true) ∨
      (monitors.filterMap fun mon => (refreshMonitor overviewOpen ongoing mon).gesture).Sublist
        (monitors.filterMap Monitor.gesture) := by
  have hgesture (mon : Monitor Id) : (refreshMonitor overviewOpen ongoing mon).gesture =
      (refreshSwitch overviewOpen ongoing mon).gesture := rfl
  simp only [hgesture]
  unfold refreshSwitch
  by_cases hbegin : ongoing.isSome && overviewOpen
  · simp only [hbegin, if_true]
    rw [and_eq_true] at hbegin
    refine .inl ⟨hbegin.1, fun p hp => ?_⟩
    obtain ⟨mon, -, hp⟩ := mem_filterMap.mp hp
    rcases Monitor.gesture_dndScrollGestureBegin hp with hdnd | ⟨hclosed, -⟩
    · exact hdnd
    · rw [hclosed] at hbegin
      exact absurd hbegin.2 Bool.false_ne_true
  · simp only [hbegin]
    right
    by_cases hopen : overviewOpen
    · simp [hopen]
    · simp only [hopen, Bool.not_false, if_true, false_eq_true, if_false,
        Monitor.gesture_dndScrollGestureEnd]
      rw [← filter_filterMap]
      exact filter_sublist

/-- The views: what is dragged in the scrolling layout locks them, what floats unlocks them, and
    without either they stay or are let go. -/
theorem viewGestures_refreshMonitor :
    (ongoing = some true ∧ ∀ p ∈ (monitors.map (refreshMonitor overviewOpen ongoing)).flatMap
        Monitor.viewGestures, p.2.isDnd = true) ∨
      ((monitors.map (refreshMonitor overviewOpen ongoing)).flatMap Monitor.viewGestures).Sublist
          (monitors.flatMap Monitor.viewGestures) ∧
        (ongoing = some false → (monitors.map (refreshMonitor overviewOpen ongoing)).flatMap
          Monitor.viewGestures = []) := by
  have hmem {p : WorkspaceId × Gesture}
      (h : p ∈ (monitors.map (refreshMonitor overviewOpen ongoing)).flatMap
        Monitor.viewGestures) :
      ∃ active i, ∃ ws : Workspace Id,
        (refreshWorkspace overviewOpen ongoing active i ws).gesture = some p := by
    rw [flatMap_map] at h
    obtain ⟨mon, -, hp⟩ := mem_flatMap.mp h
    obtain ⟨ws, hws, hp⟩ := mem_filterMap.mp hp
    obtain ⟨i, hi, rfl⟩ := mem_mapIdx.mp hws
    exact ⟨_, i, _, hp⟩
  match ongoing with
  | some true =>
    refine .inl ⟨rfl, fun p hp => ?_⟩
    obtain ⟨active, i, ws, hp⟩ := hmem hp
    exact Workspace.isDnd_of_dndScrollGestureBegin hp
  | some false =>
    have hnil : (monitors.map (refreshMonitor overviewOpen (some false))).flatMap
        Monitor.viewGestures = [] := by
      rw [eq_nil_iff_forall_not_mem]
      intro p hp
      obtain ⟨active, i, ws, hp⟩ := hmem hp
      rw [refreshWorkspace, Workspace.gesture_dndScrollGestureEnd] at hp
      cases hp
    exact .inr ⟨hnil ▸ nil_sublist _, fun _ => hnil⟩
  | none =>
    refine .inr ⟨?_, fun h => by cases h⟩
    rw [flatMap_map]
    refine sublist_flatMap (fun mon => ?_) monitors
    refine filterMap_mapIdx_sublist (fun i ws => ?_) mon.workspaces
    unfold refreshWorkspace
    split_ifs
    · exact .inl ws.gesture_end_none
    · exact .inr rfl

theorem keeps_refresh [DecidableEq Id] (h : l.refresh = some l') : Keeps l l' := by
  obtain ⟨ongoing, -, h⟩ := bind_eq_some_iff.mp h
  cases hset : l.monitorSet with
  | normal monitors primaryIdx =>
    rw [hset] at h
    cases h
    refine keeps_of_monitors hset ?_ ?_
    · rw [List.map_map]
      exact map_congr_left fun mon _ => output_refreshMonitor _ _ mon
    · rw [List.map_map]
      exact map_congr_left fun mon _ =>
        windowsOf_mapIdx (windows_refreshWorkspace _ _ _) _ rfl
  | noOutputs workspaces =>
    rw [hset] at h
    cases h
    refine ⟨?_, ?_, rfl, rfl, ?_⟩
    · unfold outputs Layout.monitors
      rw [hset]
      rfl
    · unfold Layout.primaryIdx
      rw [hset]
    · unfold windows Layout.workspaces
      rw [hset]
      simp [MonitorSet.workspaces, flatMap_map]

/-- **What `refresh` does to the switches.** -/
theorem switchGestures_refresh [DecidableEq Id] (h : l.refresh = some l') :
    ((l.dnd = true ∨ l.movedWindow.isSome = true) ∧
        ∀ p ∈ l'.switchGestures, p.2.isDnd = true) ∨
      l'.switchGestures.Sublist l.switchGestures := by
  obtain ⟨ongoing, hongoing, h⟩ := bind_eq_some_iff.mp h
  unfold switchGestures Layout.monitors
  cases hset : l.monitorSet with
  | noOutputs workspaces =>
    rw [hset] at h
    cases h
    exact .inr (List.Sublist.refl _)
  | normal monitors primaryIdx =>
    rw [hset] at h
    cases h
    simp only [MonitorSet.monitors, filterMap_map]
    refine (switchGestures_refreshMonitor l.overviewOpen ongoing monitors).imp ?_ id
    refine fun hdnd => ⟨?_, hdnd.2⟩
    unfold ongoingScrollingDnd at hongoing
    split_ifs at hongoing with hd
    · exact .inl hd
    · right
      unfold movedWindow
      cases hmove : l.interactiveMove with
      | some state => cases state <;> rfl
      | none =>
        rw [hmove] at hongoing
        cases hongoing
        exact absurd hdnd.1 Bool.false_ne_true

/-- **What `refresh` does to the views**: without outputs it lets go of them. -/
theorem viewGestures_refresh [DecidableEq Id] (h : l.refresh = some l') :
    ((l.dnd = true ∨ l.mayLockView = true) ∧ ∀ p ∈ l'.viewGestures, p.2.isDnd = true) ∨
      l'.viewGestures.Sublist l.viewGestures ∧ (l.outputs = [] → l'.viewGestures = []) := by
  obtain ⟨ongoing, hongoing, h⟩ := bind_eq_some_iff.mp h
  unfold viewGestures Layout.workspaces outputs Layout.monitors
  cases hset : l.monitorSet with
  | noOutputs workspaces =>
    rw [hset] at h
    cases h
    have hnil : (workspaces.map (Workspace.viewOffsetGestureEnd · none)).filterMap
        Workspace.gesture = [] := by
      rw [filterMap_map, filterMap_eq_nil_iff]
      exact fun ws _ => ws.gesture_end_none
    right
    simp only [MonitorSet.workspaces]
    rw [hnil]
    exact ⟨nil_sublist _, fun _ => rfl⟩
  | normal monitors primaryIdx =>
    rw [hset] at h
    cases h
    simp only [MonitorSet.workspaces, MonitorSet.monitors, filterMap_flatMap]
    rcases viewGestures_refreshMonitor l.overviewOpen ongoing monitors with ⟨hlock, hdnd⟩ | hsub
    · refine .inl ⟨?_, hdnd⟩
      unfold ongoingScrollingDnd at hongoing
      split_ifs at hongoing with hd
      · exact .inl hd
      · right
        unfold mayLockView
        cases hmove : l.interactiveMove with
        | some state =>
          cases state with
          | starting windowId => rfl
          | moving windowId isFloating =>
            rw [hmove, hlock] at hongoing
            simpa using hongoing
        | none =>
          rw [hmove, hlock] at hongoing
          cases hongoing
    · refine .inr ⟨hsub.1, fun hnil => ?_⟩
      rw [map_eq_nil_iff] at hnil
      rw [hnil]
      rfl

/-! ### Outputs -/

theorem viewGestures_new (output : Output) (workspaces : List (Workspace Id))
    (top : Option WorkspaceId) (bottom : WorkspaceId) (active : ℕ) :
    (Monitor.new output workspaces top bottom active).viewGestures =
      workspaces.filterMap Workspace.gesture := by
  have hnew (id : WorkspaceId) : (Workspace.new output id : Workspace Id).gesture = none := rfl
  unfold Monitor.new Monitor.viewGestures
  simp [filterMap_append, filterMap_map, hnew]

section

variable (h : l.addOutput output top bottom active primaryActive = some l')
include h

/-- **A new output takes view gestures with its workspaces**, and no others come up. -/
theorem viewGestures_addOutput :
    l'.viewGestures.Subperm l.viewGestures ∧
      (l.outputs = [] → l.primaryIdx = none → l'.viewGestures = l.viewGestures) := by
  unfold addOutput at h
  unfold viewGestures Layout.workspaces outputs Layout.monitors Layout.primaryIdx
  cases hset : l.monitorSet with
  | noOutputs workspaces =>
    rw [hset] at h
    cases h
    have hsame : ([Monitor.new output workspaces top bottom active].flatMap
        Monitor.workspaces).filterMap Workspace.gesture =
          workspaces.filterMap Workspace.gesture := by
      rw [flatMap_singleton]
      exact viewGestures_new output workspaces top bottom active
    simp only [MonitorSet.workspaces]
    rw [hsame]
    exact ⟨List.Subperm.refl _, fun _ _ => rfl⟩
  | normal monitors primaryIdx =>
    rw [hset] at h
    obtain ⟨primary, hprimary, h⟩ := bind_eq_some_iff.mp h
    cases h
    refine ⟨?_, fun _ hnone => by cases hnone⟩
    obtain ⟨before, after, rfl, rfl⟩ := Vec.getElem?_eq_some_split.mp hprimary
    refine subperm_ext_iff.mpr fun p _ => ?_
    simp only [MonitorSet.workspaces, set_append_length, flatMap_append,
      flatMap_cons, flatMap_nil, append_nil, filterMap_append,
      count_append]
    have hsplit := count_filterMap_filter_not
      (fun ws : Workspace Id => ws.originalOutput.matchesOutput output) Workspace.gesture
      primary.workspaces p
    have hnew := congrArg (List.count p) (viewGestures_new output
      ((primary.workspaces.filter fun ws => ws.originalOutput.matchesOutput output).filter
        (·.hasWindowsOrName)) top bottom active)
    have hused := ((filter_sublist (p := fun ws : Workspace Id => ws.hasWindowsOrName)
      (l := primary.workspaces.filter fun ws => ws.originalOutput.matchesOutput output)).filterMap
        Workspace.gesture).count_le p
    unfold Monitor.viewGestures at hnew
    omega

theorem switchGestures_addOutput :
    l'.switchGestures.Sublist l.switchGestures ∧ l'.outputs = l.outputs ++ [output] := by
  unfold addOutput at h
  unfold switchGestures outputs Layout.monitors
  cases hset : l.monitorSet with
  | noOutputs workspaces =>
    rw [hset] at h
    cases h
    exact ⟨List.Sublist.refl _, rfl⟩
  | normal monitors primaryIdx =>
    rw [hset] at h
    obtain ⟨primary, hprimary, h⟩ := bind_eq_some_iff.mp h
    cases h
    obtain ⟨before, after, rfl, rfl⟩ := Vec.getElem?_eq_some_split.mp hprimary
    simp only [MonitorSet.monitors, set_append_length]
    constructor
    · have hnew : (Monitor.new output ((primary.workspaces.filter fun ws =>
          ws.originalOutput.matchesOutput output).filter (·.hasWindowsOrName)) top bottom
          active).gesture = none := rfl
      rw [filterMap_append, filterMap_cons_none hnew, filterMap_nil, append_nil]
      exact sublist_filterMap_of_middle before after (by
        split_ifs
        · exact .inl rfl
        · exact .inr rfl)
    · simp [Monitor.new]

end

section

variable (h : l.removeOutput output primaryActive = some l')
include h

/-- What is left of the monitors when an output goes. -/
theorem removeOutput_eq_some :
    ∃ before monitor after primaryIdx,
      l.monitorSet = .normal (before ++ monitor :: after) primaryIdx ∧ monitor.output = output ∧
      (before ++ after = [] ∧ l' = { l with
          monitorSet := .noOutputs (monitor.workspaces.filter (·.hasWindowsOrName)) } ∨
        ∃ before' primary after', before ++ after = before' ++ primary :: after' ∧
          l' = { l with
            monitorSet := .normal (before' ++ primary.appendWorkspaces
              (monitor.workspaces.filter (·.hasWindowsOrName)) primaryActive :: after')
              before'.length }) := by
  unfold removeOutput at h
  cases hset : l.monitorSet with
  | noOutputs workspaces =>
    rw [hset] at h
    cases h
  | normal monitors primaryIdx =>
    rw [hset] at h
    obtain ⟨idx, hidx, h⟩ := bind_eq_some_iff.mp h
    obtain ⟨monitor, hmonitor, h⟩ := bind_eq_some_iff.mp h
    have hout : monitor.output = output := by
      obtain ⟨hlt, hp, -⟩ := List.findIdx?_eq_some_iff_getElem.mp hidx
      obtain ⟨hlt', rfl⟩ := List.getElem?_eq_some_iff.mp hmonitor
      simpa using hp
    obtain ⟨before, after, rfl, rfl⟩ := Vec.getElem?_eq_some_split.mp hmonitor
    rw [eraseIdx_append_length] at h
    refine ⟨before, monitor, after, primaryIdx, rfl, hout, ?_⟩
    dsimp only at h
    split_ifs at h with hempty
    · left
      rw [List.isEmpty_iff] at hempty
      cases h
      exact ⟨hempty, rfl⟩
    · right
      obtain ⟨primary, hprimary, h⟩ := bind_eq_some_iff.mp h
      obtain ⟨before', after', heq, hlen⟩ := Vec.getElem?_eq_some_split.mp hprimary
      cases h
      refine ⟨before', primary, after', heq, ?_⟩
      rw [heq, ← hlen, set_append_length]
    · right
      obtain ⟨primary, hprimary, h⟩ := bind_eq_some_iff.mp h
      obtain ⟨before', after', heq, hlen⟩ := Vec.getElem?_eq_some_split.mp hprimary
      cases h
      refine ⟨before', primary, after', heq, ?_⟩
      rw [heq, ← hlen, set_append_length]

theorem viewGestures_removeOutput : l'.viewGestures.Subperm l.viewGestures := by
  obtain ⟨before, monitor, after, primaryIdx, hset, -, hleft⟩ := removeOutput_eq_some h
  have hused (p : WorkspaceId × Gesture) := ((filter_sublist
    (p := fun ws : Workspace Id => ws.hasWindowsOrName) (l := monitor.workspaces)).filterMap
      Workspace.gesture).count_le p
  refine subperm_ext_iff.mpr fun p _ => ?_
  unfold viewGestures Layout.workspaces
  rw [hset]
  specialize hused p
  rcases hleft with ⟨hnil, rfl⟩ | ⟨before', primary, after', heq, rfl⟩
  · obtain ⟨rfl, rfl⟩ := append_eq_nil_iff.mp hnil
    simpa [MonitorSet.workspaces] using hused
  · have happended : ((primary.appendWorkspaces (monitor.workspaces.filter
        (·.hasWindowsOrName)) primaryActive).workspaces.filterMap Workspace.gesture).count p ≤
          (primary.workspaces.filterMap Workspace.gesture).count p +
            (monitor.workspaces.filterMap Workspace.gesture).count p :=
      Monitor.count_appendWorkspaces_le primary monitor.workspaces primaryActive p
    have hcount := congrArg (fun mons : List (Monitor Id) =>
      ((mons.flatMap Monitor.workspaces).filterMap Workspace.gesture).count p) heq
    simp only [MonitorSet.workspaces, flatMap_append, flatMap_cons,
      filterMap_append, count_append] at hcount ⊢
    omega

theorem switchGestures_removeOutput : l'.switchGestures.Sublist l.switchGestures := by
  obtain ⟨before, monitor, after, primaryIdx, hset, -, hleft⟩ := removeOutput_eq_some h
  unfold switchGestures Layout.monitors
  rw [hset]
  have hrest : ((before ++ after).filterMap Monitor.gesture).Sublist
      ((before ++ monitor :: after).filterMap Monitor.gesture) :=
    ((List.Sublist.refl before).append (sublist_cons_self monitor after)).filterMap _
  rcases hleft with ⟨-, rfl⟩ | ⟨before', primary, after', heq, rfl⟩
  · exact nil_sublist _
  · refine List.Sublist.trans ?_ hrest
    rw [heq]
    refine sublist_filterMap_of_middle before' after' ?_
    unfold Monitor.appendWorkspaces
    split_ifs
    · exact .inr rfl
    · exact .inl rfl

/-- What is left of the outputs, and which is the primary one. -/
theorem outputs_removeOutput :
    l'.outputs.Sublist l.outputs ∧ ∀ i, l'.primaryIdx = some i → i < l'.outputs.length := by
  obtain ⟨before, monitor, after, primaryIdx, hset, -, hleft⟩ := removeOutput_eq_some h
  unfold outputs Layout.monitors Layout.primaryIdx
  rw [hset]
  rcases hleft with ⟨-, rfl⟩ | ⟨before', primary, after', heq, rfl⟩
  · exact ⟨nil_sublist _, fun i hi => by cases hi⟩
  · have hout : (primary.appendWorkspaces (monitor.workspaces.filter (·.hasWindowsOrName))
        primaryActive).output = primary.output := by
      unfold Monitor.appendWorkspaces
      split_ifs <;> rfl
    constructor
    · have hrest : ((before ++ after).map (·.output)).Sublist
          ((before ++ monitor :: after).map (·.output)) :=
        ((List.Sublist.refl before).append (sublist_cons_self monitor after)).map _
      rw [heq] at hrest
      simpa [MonitorSet.monitors, hout] using hrest
    · intro i hi
      cases hi
      simp [MonitorSet.monitors]

theorem interactiveMove_removeOutput : l'.interactiveMove = l.interactiveMove ∧ l'.dnd = l.dnd := by
  obtain ⟨before, monitor, after, primaryIdx, hset, -, hleft⟩ := removeOutput_eq_some h
  rcases hleft with ⟨-, rfl⟩ | ⟨before', primary, after', heq, rfl⟩ <;> exact ⟨rfl, rfl⟩

end

/-- The windows stay where the workspaces that are used stay. -/
theorem windows_subset_of_workspaces {l : Layout Id}
    (h : ∀ ws ∈ l.workspaces, ws.hasWindowsOrName = true → ws ∈ l'.workspaces) :
    l.windows ⊆ l'.windows := by
  intro window hwindow
  obtain ⟨ws, hws, hin⟩ := mem_flatMap.mp hwindow
  have hused : ws.hasWindowsOrName = true := by
    unfold Workspace.hasWindowsOrName
    cases hnil : ws.windows with
    | nil =>
      rw [hnil] at hin
      cases hin
    | cons w ws => rfl
  exact mem_flatMap.mpr ⟨ws, h ws hws hused, hin⟩

/-- A new output leaves the windows. -/
theorem windows_addOutput (h : l.addOutput output top bottom active primaryActive = some l') :
    l.windows ⊆ l'.windows := by
  refine windows_subset_of_workspaces fun ws hws hused => ?_
  have hnew (workspaces : List (Workspace Id)) (hin : ws ∈ workspaces) :
      ws ∈ (Monitor.new output workspaces top bottom active).workspaces :=
    mem_append_left _ (mem_append_right _ hin)
  unfold addOutput at h
  unfold Layout.workspaces at hws ⊢
  cases hset : l.monitorSet with
  | noOutputs workspaces =>
    rw [hset] at h hws
    cases h
    exact mem_flatMap.mpr ⟨_, mem_cons_self, hnew workspaces hws⟩
  | normal monitors primaryIdx =>
    rw [hset] at h hws
    obtain ⟨primary, hprimary, h⟩ := bind_eq_some_iff.mp h
    cases h
    obtain ⟨before, after, rfl, rfl⟩ := Vec.getElem?_eq_some_split.mp hprimary
    simp only [MonitorSet.workspaces, set_append_length, flatMap_append,
      flatMap_cons, flatMap_nil, append_nil, mem_append] at hws ⊢
    rcases hws with hws | hws | hws
    · exact .inl (.inl hws)
    · cases hbelongs : ws.originalOutput.matchesOutput output with
      | true =>
        refine .inr (hnew _ (mem_filter.mpr ⟨mem_filter.mpr ⟨hws, hbelongs⟩, hused⟩))
      | false => exact .inl (.inr (.inl (mem_filter.mpr ⟨hws, by rw [hbelongs]; rfl⟩)))
    · exact .inl (.inr (.inr hws))

/-- An output that goes leaves the windows. -/
theorem windows_removeOutput (h : l.removeOutput output primaryActive = some l') :
    l.windows ⊆ l'.windows := by
  refine windows_subset_of_workspaces fun ws hws hused => ?_
  obtain ⟨before, monitor, after, primaryIdx, hset, -, hleft⟩ := removeOutput_eq_some h
  unfold Layout.workspaces at hws ⊢
  rw [hset] at hws
  simp only [MonitorSet.workspaces, flatMap_append, flatMap_cons, mem_append] at hws
  have hused' (hin : ws ∈ monitor.workspaces) :
      ws ∈ monitor.workspaces.filter (·.hasWindowsOrName) := mem_filter.mpr ⟨hin, hused⟩
  rcases hleft with ⟨hnil, rfl⟩ | ⟨before', primary, after', heq, rfl⟩
  · obtain ⟨rfl, rfl⟩ := append_eq_nil_iff.mp hnil
    exact hused' (by simpa using hws)
  · have happend := Monitor.mem_appendWorkspaces primary
      (monitor.workspaces.filter (·.hasWindowsOrName)) primaryActive ws
    have hsame : ws ∈ (before ++ after).flatMap Monitor.workspaces ↔
        ws ∈ (before' ++ primary :: after').flatMap Monitor.workspaces := by rw [heq]
    simp only [MonitorSet.workspaces, flatMap_append, flatMap_cons, mem_append, happend] at hsame ⊢
    rcases hws with hbefore | hin | hafter
    · exact (hsame.mp (.inl hbefore)).imp_right (.imp_left .inl)
    · exact .inr (.inl (.inr (hused' hin)))
    · exact (hsame.mp (.inr hafter)).imp_right (.imp_left .inl)

end Effects

end Layout

end Tiri.Layout.Gestures
