import Tiri.Layout.MoveToOutput

set_option linter.dupNamespace false

/-!
# Cancelled touches

The ends of the touch grabs of `src/input/touch_overview_grab.rs` (lines 62–113) and
`src/input/move_grab.rs` (lines 81–116).  A touch that is cancelled and one that is lifted both end
in `on_ungrab`, which takes a touch that was not recognized as a gesture for a tap: what a cancelled
touch was on is activated.

What ending a gesture changes is up to the gesture.

Results:
* `activateWindow_focus_iff`: what `activate_window` changes of the focus;
* `cancel_keepsFocus_iff`: when a cancelled touch leaves the focus alone.
-/

namespace Tiri.Layout

open List Option

variable {Id : Type}

/-! ## Loops that end with the first success -/

section UntilDone

variable {α : Type} {f : α → Option (α × Bool)} {p : α → Bool}

/-- Apply `f` until it succeeds, and return where it did. -/
def untilDone (f : α → Option (α × Bool)) : List α → Option (List α × Option ℕ)
  | [] => some ([], none)
  | a :: l => do
    let (a', done) ← f a
    if done then return (a' :: l, some 0)
    let (l', idx) ← untilDone f l
    return (a' :: l', idx.map (· + 1))

/-- It stops at the first element with `p` where that tells whether `f` succeeds. -/
theorem untilDone_spec
    (hf : ∀ a a' done, f a = some (a', done) → done = p a ∧ (done = false → a' = a))
    {l l' : List α} {idx : Option ℕ} (h : untilDone f l = some (l', idx)) :
    idx = l.findIdx? p ∧ (idx = none → l' = l) ∧ ∀ i, idx = some i →
      ∃ a a', l[i]? = some a ∧ f a = some (a', true) ∧ l' = l.set i a' := by
  induction l generalizing l' idx with
  | nil =>
    cases h
    exact ⟨rfl, fun _ => rfl, nofun⟩
  | cons a l ih =>
    obtain ⟨⟨a', done⟩, ha, h⟩ := bind_eq_some_iff.mp h
    obtain ⟨hdone, hsame⟩ := hf a a' done ha
    rw [List.findIdx?_cons, ← hdone]
    cases done with
    | true =>
      cases h
      refine ⟨rfl, nofun, fun i hi => ?_⟩
      cases hi
      exact ⟨a, a', rfl, ha, rfl⟩
    | false =>
      obtain ⟨⟨rest, idx'⟩, hrest, h⟩ := bind_eq_some_iff.mp h
      cases h
      obtain ⟨hidx, hnone, hsome⟩ := ih hrest
      rw [hsame rfl]
      refine ⟨congrArg (Option.map (· + 1)) hidx, fun h => ?_, fun i hi => ?_⟩
      · rw [hnone (map_eq_none_iff.mp h)]
      · obtain ⟨j, hj, rfl⟩ := map_eq_some_iff.mp hi
        obtain ⟨b, b', hb, hfb, rfl⟩ := hsome j hj
        exact ⟨b, b', hb, hfb, rfl⟩

/-- Writing what is there changes nothing. -/
theorem set_eq_self_iff {l : List α} {i : ℕ} (hi : i < l.length) {a : α} :
    l.set i a = l ↔ l[i]? = some a := by
  constructor
  · intro h
    rw [← h, List.getElem?_set_self hi]
  · intro h
    obtain ⟨_, rfl⟩ := List.getElem?_eq_some_iff.mp h
    exact set_getElem_self hi

end UntilDone

variable [DecidableEq Id]

/-! ## Activating a window -/

variable {found : Bool} {window : Id}

theorem FloatingSpace.activateWindow_found {s s' : FloatingSpace Id}
    (h : s.activateWindow window = some (s', found)) :
    found = s.hasWindow window ∧ (found = false → s' = s) ∧
      (found = true → s'.activeWindowId = some window) := by
  have hhas : (s.idxOf window).isSome = s.hasWindow window := List.findIdx?_isSome
  rw [← hhas]
  unfold FloatingSpace.activateWindow at h
  cases hidx : s.idxOf window with
  | none =>
    rw [hidx] at h
    cases h
    exact ⟨rfl, fun _ => rfl, nofun⟩
  | some idx =>
    rw [hidx] at h
    obtain ⟨s₁, -, h⟩ := bind_eq_some_iff.mp h
    obtain ⟨s₂, hs₂, h⟩ := bind_eq_some_iff.mp h
    cases h
    refine ⟨rfl, nofun, fun _ => ?_⟩
    rw [(FloatingSpace.bringUpDescendantsOf_restacked _ 0 _ hs₂).rest]

theorem ScrollingSpace.activateWindow_found {s s' : ScrollingSpace Id}
    (h : s.activateWindow window = some (s', found)) :
    found = s.tiles.any (·.id = window) ∧ (found = false → s' = s) ∧
      (found = true → s'.activeWindow.map Window.id = some window) := by
  have hhas : (s.columnOf window).isSome = s.tiles.any (·.id = window) := by
    rw [ScrollingSpace.tiles, any_flatMap]
    exact List.findIdx?_isSome
  rw [← hhas]
  unfold ScrollingSpace.activateWindow at h
  cases hidx : s.columnOf window with
  | none =>
    rw [hidx] at h
    cases h
    exact ⟨rfl, fun _ => rfl, fun hfound => absurd hfound Bool.false_ne_true⟩
  | some idx =>
    rw [hidx] at h
    obtain ⟨s₁, hs₁, h⟩ := bind_eq_some_iff.mp h
    obtain ⟨s₂, hs₂, h⟩ := bind_eq_some_iff.mp h
    cases h
    refine ⟨rfl, fun hfound => absurd hfound.symm Bool.false_ne_true, fun _ => ?_⟩
    obtain ⟨columns, hcolumns, hs₁⟩ := bind_eq_some_iff.mp hs₁
    obtain ⟨l, col, col', r, -, hlen, hcol, rfl⟩ := Vec.modifyAt_eq_some.mp hcolumns
    have hcols : s'.columns = l ++ col' :: r ∧ s'.activeColumnIdx = idx := by
      cases hs₁
      unfold ScrollingSpace.activateColumn at hs₂
      split_ifs at hs₂ with hactive <;> cases hs₂
      · exact ⟨rfl, hactive⟩
      · exact ⟨rfl, rfl⟩
    obtain ⟨tileIdx, htile, hcol⟩ := bind_eq_some_iff.mp hcol
    obtain ⟨⟨col₁, changed⟩, hactivate, hcol⟩ := bind_eq_some_iff.mp hcol
    cases hcol
    have hcol' : col'.tiles = col.tiles ∧ col'.activeTileIdx = tileIdx := by
      unfold Column.activateIdx at hactivate
      split_ifs at hactivate with hactive <;> cases hactivate
      · exact ⟨rfl, hactive⟩
      · exact ⟨rfl, rfl⟩
    obtain ⟨hlt, hid, -⟩ := List.findIdx?_eq_some_iff_getElem.mp htile
    rw [ScrollingSpace.activeWindow, hcols.1, hcols.2, ← hlen, Vec.getElem?_append_length,
      bind_eq_bind, bind_some, hcol'.1, hcol'.2, List.getElem?_eq_getElem hlt]
    exact congrArg some (of_decide_eq_true hid)

/-- A workspace is asked for a window just where it has it, and has it active afterwards. -/
theorem Workspace.activateWindow_found {w w' : Workspace Id}
    (h : w.activateWindow window = some (w', found)) :
    found = w.hasWindow window ∧ (found = false → w' = w) ∧
      (w.Inv → found = true → w'.activeWindow.map Window.id = some window) := by
  have hhas : w.hasWindow window =
      (w.scrolling.tiles.any (·.id = window) || w.floating.hasWindow window) := any_append
  have hkeeps := activateWindow_keeps window w
  obtain ⟨⟨floating, hit⟩, hfloating, hrest⟩ := bind_eq_some_iff.mp h
  obtain ⟨hin, -, hactive⟩ := FloatingSpace.activateWindow_found hfloating
  cases hit with
  | true =>
    cases hrest
    refine ⟨by rw [hhas, ← hin, Bool.or_true], nofun, fun hinv _ => ?_⟩
    exact (floating_activeWindow ((hkeeps hinv).elim h).1.floating).trans (hactive rfl)
  | false =>
    obtain ⟨⟨scrolling, hit⟩, hscrolling, hrest⟩ := bind_eq_some_iff.mp hrest
    obtain ⟨hin', -, hactive⟩ := ScrollingSpace.activateWindow_found hscrolling
    rw [hhas, ← hin, ← hin', Bool.or_false]
    cases hit with
    | true =>
      cases hrest
      exact ⟨rfl, nofun, fun _ _ => hactive rfl⟩
    | false =>
      cases hrest
      exact ⟨rfl, fun _ => rfl, nofun⟩

/-! ## Focus -/

/-- `active_window`, by its id. -/
def Workspace.activeId (self : Workspace Id) : Option Id := self.activeWindow.map Window.id

namespace Monitor

/-- The active workspace, and the active window of each workspace. -/
def focus (self : Monitor Id) : ℕ × List (Option Id) :=
  (self.activeWorkspaceIdx, self.workspaces.map Workspace.activeId)

/-- In the middle of a swipe to or from the workspace. -/
def swipesAt (self : Monitor Id) (workspaceIdx : ℕ) : Bool :=
  match self.workspaceSwitch with
  | some (.gesture gesture) =>
    ⌊gesture.currentIdx⌋ = workspaceIdx || ⌈gesture.currentIdx⌉ = workspaceIdx
  | _ => false

/-- The loop of `activate_window` over the workspaces. -/
def activateWindow (window : Id) (self : Monitor Id) : Option (Monitor Id × Bool) := do
  let (workspaces, idx) ← untilDone (·.activateWindow window) self.workspaces
  let self : Monitor Id := { self with workspaces := workspaces }
  match idx with
  | none => return (self, false)
  | some idx =>
    if self.swipesAt idx then return (self, true)
    let self ← self.switchWorkspace idx
    return (self, true)

/-- The window is the active one of a workspace that is shown, or being swiped. -/
def Shows (self : Monitor Id) (window : Id) : Prop :=
  ∃ idx ws, self.workspaces.findIdx? (·.hasWindow window) = some idx ∧
    self.workspaces[idx]? = some ws ∧ ws.activeId = some window ∧
      (self.swipesAt idx = true ∨ self.activeWorkspaceIdx = idx)

variable {mon mon' : Monitor Id} {window : Id} {found : Bool}

/-- A monitor that is asked for its window changes its focus unless it shows it. -/
theorem activateWindow_found (h : mon.activateWindow window = some (mon', found)) :
    found = mon.hasWindow window ∧ (found = false → mon' = mon) ∧
      ((∀ ws ∈ mon.workspaces, ws.Inv) → found = true →
        (mon'.focus = mon.focus ↔ mon.Shows window)) := by
  obtain ⟨⟨workspaces, idx⟩, hloop, h⟩ := bind_eq_some_iff.mp h
  obtain ⟨hidx, hnone, hsome⟩ := untilDone_spec (p := (·.hasWindow window))
    (fun _ _ _ hws => (Workspace.activateWindow_found hws).imp_right And.left) hloop
  have hhas : idx.isSome = mon.hasWindow window := by
    rw [hidx]
    exact List.findIdx?_isSome
  rw [← hhas]
  cases idx with
  | none =>
    cases h
    rw [hnone rfl]
    exact ⟨rfl, fun _ => rfl, nofun⟩
  | some idx =>
    obtain ⟨ws, ws', hws, hactivate, rfl⟩ := hsome idx rfl
    have hlt : idx < mon.workspaces.length := (List.getElem?_eq_some_iff.mp hws).1
    have hfound : found = true ∧ mon'.workspaces = mon.workspaces.set idx ws' ∧
        mon'.activeWorkspaceIdx = if mon.swipesAt idx then mon.activeWorkspaceIdx else idx := by
      dsimp only at h
      change (if mon.swipesAt idx = true then _ else _) = _ at h
      split_ifs at h ⊢ with hswipes
      · cases h
        exact ⟨rfl, rfl, rfl⟩
      · obtain ⟨mon₁, hswitch, h⟩ := bind_eq_some_iff.mp h
        cases h
        obtain ⟨previous, hprevious, -⟩ := bind_eq_some_iff.mp hswitch
        have hbound := (List.getElem?_eq_some_iff.mp hprevious).1
        obtain ⟨mon₂, hrun, hworkspaces, hactive, -⟩ := activateWorkspace_spec hbound _
        cases hswitch.symm.trans hrun
        refine ⟨rfl, hworkspaces, hactive.trans (min_eq_left ?_)⟩
        rw [length_set]
        omega
    obtain ⟨rfl, hworkspaces, hactive⟩ := hfound
    refine ⟨rfl, nofun, fun hinv _ => ?_⟩
    have hid : ws'.activeId = some window :=
      (Workspace.activateWindow_found hactivate).2.2 (hinv ws (mem_of_getElem? hws)) rfl
    have hfocus : mon'.focus = mon.focus ↔
        (mon.swipesAt idx = true ∨ mon.activeWorkspaceIdx = idx) ∧ ws.activeId = some window := by
      have hset : (mon.workspaces.set idx ws').map Workspace.activeId =
          mon.workspaces.map Workspace.activeId ↔ ws.activeId = some window := by
        rw [map_set, set_eq_self_iff (by rwa [length_map]), List.getElem?_map, hws, hid]
        exact some_inj
      rw [focus, focus, Prod.mk.injEq, hworkspaces, hset, hactive]
      refine and_congr_left fun _ => ?_
      split_ifs with hswipes
      · exact iff_of_true rfl (.inl hswipes)
      · exact ⟨fun h => .inr h.symm, fun h => (h.resolve_left hswipes).symm⟩
    rw [hfocus, Shows, ← hidx]
    constructor
    · exact fun ⟨hswitch, hactive⟩ => ⟨idx, ws, rfl, hws, hactive, hswitch⟩
    · rintro ⟨idx', ws₁, hidx', hws₁, hactive, hswitch⟩
      cases hidx'
      rw [hws] at hws₁
      cases hws₁
      exact ⟨hswitch, hactive⟩

end Monitor

/-- What is active. -/
structure Focus (Id : Type) where
  activeMonitorIdx : Option ℕ
  overviewOpen : Bool
  monitors : List (ℕ × List (Option Id))
  /-- The active windows of the workspaces without a monitor. -/
  detached : List (Option Id)

namespace Layout

variable (self : Layout Id)

def focus : Focus Id where
  activeMonitorIdx := self.activeMonitorIdx
  overviewOpen := self.overviewOpen
  monitors := self.monitorSet.monitors.map Monitor.focus
  detached :=
    match self.monitorSet with
    | .normal .. => []
    | .noOutputs workspaces => workspaces.map Workspace.activeId

/-- `activate_window` (`src/layout/mod.rs`, lines 1556–1590). -/
def activateWindow (window : Id) : Option (Layout Id) :=
  if self.isMoving (some window) then some self
  else
    match self.monitorSet with
    | .noOutputs _ => some self
    | .normal monitors primaryIdx activeMonitorIdx => do
      let (monitors, idx) ← untilDone (Monitor.activateWindow window) monitors
      return { self with
        monitorSet := .normal monitors primaryIdx (idx.getD activeMonitorIdx) }

def focusOutput (output : Output) : Layout Id :=
  match self.monitorSet with
  | .noOutputs _ => self
  | .normal monitors primaryIdx activeMonitorIdx =>
    let idx := monitors.findIdx? (·.output = output)
    { self with monitorSet := .normal monitors primaryIdx (idx.getD activeMonitorIdx) }

def toggleOverview : Layout Id :=
  let overviewOpen := !self.overviewOpen
  { self with
    overviewOpen
    monitorSet :=
      match self.monitorSet with
      | .noOutputs workspaces => .noOutputs workspaces
      | .normal monitors primaryIdx activeMonitorIdx =>
        .normal (monitors.map fun mon => { mon with overviewOpen }) primaryIdx activeMonitorIdx }

def toggleOverviewToWorkspace (wsIdx : ℕ) : Option (Layout Id) :=
  match self.monitorSet with
  | .noOutputs _ => some self.toggleOverview
  | .normal monitors primaryIdx activeMonitorIdx => do
    let monitors ← Vec.modifyAt monitors activeMonitorIdx (·.activateWorkspace wsIdx)
    return toggleOverview { self with
      monitorSet := .normal monitors primaryIdx activeMonitorIdx }

/-- The first workspace of a monitor with the property, and where it is. -/
def findWorkspace (p : Workspace Id → Bool) : Option (Monitor Id × ℕ) := do
  let mon ← self.monitorSet.monitors.find? (·.workspaces.any p)
  let wsIdx ← mon.workspaces.findIdx? p
  return (mon, wsIdx)

/-- The monitor where `activate_window` finds the window. -/
def located (window : Id) : Option (ℕ × Monitor Id) :=
  if self.isMoving (some window) then none
  else do
    let idx ← self.monitorSet.monitors.findIdx? (·.hasWindow window)
    let mon ← self.monitorSet.monitors[idx]?
    return (idx, mon)

/-- Activating the window leaves the focus of before, with this active monitor. -/
def Settled (window : Id) (active : Option ℕ) : Prop :=
  match self.located window with
  | none => self.activeMonitorIdx = active
  | some (idx, mon) => some idx = active ∧ mon.Shows window

variable {self} {after : Layout Id} {window : Id}

theorem activateWindow_overviewOpen (h : self.activateWindow window = some after) :
    after.overviewOpen = self.overviewOpen := by
  unfold activateWindow at h
  split_ifs at h
  · cases h
    rfl
  · split at h
    · cases h
      rfl
    · obtain ⟨_, -, h⟩ := bind_eq_some_iff.mp h
      cases h
      rfl

/-- **`activate_window`** changes the focus unless it is where it is to be. -/
theorem activateWindow_focus_iff (h : self.activateWindow window = some after)
    (hinv : ∀ ws ∈ self.workspaces, ws.Inv) (active : Option ℕ) :
    after.focus = { self.focus with activeMonitorIdx := active } ↔
      self.Settled window active := by
  have hnowhere (hnone : self.located window = none) :
      self.focus = { self.focus with activeMonitorIdx := active } ↔
        self.Settled window active := by
    rw [Settled, hnone]
    exact ⟨congrArg Focus.activeMonitorIdx, fun h => by rw [← h]; rfl⟩
  unfold activateWindow at h
  split_ifs at h with hmoving
  · cases h
    exact hnowhere (if_pos hmoving)
  · cases hset : self.monitorSet with
    | noOutputs workspaces =>
      rw [hset] at h
      cases h
      refine hnowhere ?_
      rw [located, if_neg hmoving, hset]
      rfl
    | normal monitors primaryIdx activeMonitorIdx =>
      rw [hset] at h
      obtain ⟨⟨monitors', idx⟩, hloop, h⟩ := bind_eq_some_iff.mp h
      cases h
      obtain ⟨hidx, hnone, hsome⟩ := untilDone_spec (p := (·.hasWindow window))
        (fun _ _ _ hmon => (Monitor.activateWindow_found hmon).imp_right And.left) hloop
      have hlocated : self.located window =
          idx.bind fun idx => monitors[idx]?.bind fun mon => some (idx, mon) := by
        rw [located, if_neg hmoving, hset, hidx]
        rfl
      cases idx with
      | none =>
        rw [hnone rfl, getD_none, ← hset]
        exact hnowhere hlocated
      | some idx =>
        obtain ⟨mon, mon', hmon, hactivate, rfl⟩ := hsome idx rfl
        rw [bind_some, hmon, bind_some] at hlocated
        have hlt : idx < (monitors.map Monitor.focus).length := by
          rw [length_map]
          exact (List.getElem?_eq_some_iff.mp hmon).1
        have hshows : mon'.focus = mon.focus ↔ mon.Shows window := by
          refine (Monitor.activateWindow_found hactivate).2.2 (fun ws hws => hinv ws ?_) rfl
          rw [workspaces, hset]
          exact mem_flatMap.mpr ⟨mon, mem_of_getElem? hmon, hws⟩
        have hsettled :
            self.Settled window active ↔ some idx = active ∧ mon'.focus = mon.focus := by
          rw [Settled, hlocated, hshows]
        rw [hsettled, Focus.mk.injEq]
        simp only [focus, hset, MonitorSet.monitors, Layout.activeMonitorIdx, getD_some, map_set,
          set_eq_self_iff hlt, List.getElem?_map, hmon, map_some, some_inj, true_and,
          and_true, eq_comm (a := mon'.focus)]

variable (output : Output)

theorem focusOutput_focus : (self.focusOutput output).focus =
    { self.focus with activeMonitorIdx := (self.focusOutput output).activeMonitorIdx } := by
  unfold focusOutput focus
  cases hset : self.monitorSet <;> simp [MonitorSet.monitors, hset]

omit [DecidableEq Id] in
theorem focusOutput_monitors :
    (self.focusOutput output).monitorSet.monitors = self.monitorSet.monitors ∧
      (self.focusOutput output).workspaces = self.workspaces ∧
        (self.focusOutput output).overviewOpen = self.overviewOpen := by
  unfold focusOutput workspaces
  cases hset : self.monitorSet <;> simp [MonitorSet.monitors, MonitorSet.workspaces, hset]

omit [DecidableEq Id] in
/-- To show a workspace the overview opens or closes. -/
theorem toggleOverviewToWorkspace_overviewOpen {wsIdx : ℕ}
    (h : self.toggleOverviewToWorkspace wsIdx = some after) :
    after.overviewOpen = !self.overviewOpen := by
  unfold toggleOverviewToWorkspace at h
  split at h
  · cases h
    rfl
  · obtain ⟨_, -, h⟩ := bind_eq_some_iff.mp h
    cases h
    rfl

theorem focus_ne_of_overviewOpen (h : after.overviewOpen = !self.overviewOpen) :
    after.focus ≠ self.focus := fun hfocus =>
  Bool.not_ne_self _ (h.symm.trans (congrArg Focus.overviewOpen hfocus))

end Layout

end Tiri.Layout

namespace Tiri.Input.TouchCancel

open Layout

variable {Id : Type}

/-! ## The grabs -/

/-- `GestureState` of `touch_overview_grab.rs`. -/
inductive OverviewGesture
  | recognizing
  | viewOffset
  | workspaceSwitch
  | interactiveMove

/-- `TouchOverviewGrab`, as far as its end reads it. -/
structure TouchOverviewGrab (Id : Type) where
  output : Output
  workspaceId : Option WorkspaceId
  workspaceMatchedNarrow : Bool
  window : Option Id
  gesture : OverviewGesture

/-- `GestureState` of `move_grab.rs`. -/
inductive MoveGesture
  | recognizing
  | move
  | viewOffset

/-- `MoveGrab`, as far as its end reads it. -/
structure MoveGrab (Id : Type) where
  window : Id
  gesture : MoveGesture

/-- What ending a gesture makes of a layout. -/
structure GestureEnds (Id : Type) where
  viewOffsetGestureEnd : Layout Id → Layout Id
  workspaceSwitchGestureEnd : Layout Id → Layout Id
  interactiveMoveEnd : Layout Id → Id → Layout Id

variable [DecidableEq Id] (ends : GestureEnds Id)

namespace TouchOverviewGrab

variable (self : TouchOverviewGrab Id) (layout : Layout Id)

/-- The workspace to show, of those on the output. -/
def wsIdx : Option ℕ :=
  if self.window.isSome || self.workspaceMatchedNarrow then do
    let (mon, wsIdx) ← layout.findWorkspace fun ws =>
      match self.window with
      | some window => ws.hasWindow window
      | none => self.workspaceId = some ws.id
    if mon.output = self.output then some wsIdx else none
  else none

def onUngrab : Option (Layout Id) :=
  match self.gesture with
  | .recognizing => do
    -- Tap to activate.
    let layout := layout.focusOutput self.output
    let layout ← (self.wsIdx layout).elim (some layout) layout.toggleOverviewToWorkspace
    self.window.elim (some layout) layout.activateWindow
  | .viewOffset => some (ends.viewOffsetGestureEnd layout)
  | .workspaceSwitch => some (ends.workspaceSwitchGestureEnd layout)
  | .interactiveMove => self.window.map (ends.interactiveMoveEnd layout)

end TouchOverviewGrab

/-- The workspace with the window, in the overview. -/
def MoveGrab.shown (self : MoveGrab Id) (layout : Layout Id) : Option (Monitor Id × ℕ) :=
  if layout.overviewOpen then layout.findWorkspace (·.hasWindow self.window) else none

def MoveGrab.onUngrab (self : MoveGrab Id) (layout : Layout Id) : Option (Layout Id) :=
  match self.gesture with
  | .recognizing => do
    -- Activate the window on release.
    let layout ← (self.shown layout).elim (some layout) fun (mon, wsIdx) =>
      (layout.focusOutput mon.output).toggleOverviewToWorkspace wsIdx
    layout.activateWindow self.window
  | .move => some (ends.interactiveMoveEnd layout self.window)
  | .viewOffset => some (ends.viewOffsetGestureEnd layout)

/-- A touch grab. -/
inductive TouchGrab (Id : Type)
  | overview (grab : TouchOverviewGrab Id)
  | move (grab : MoveGrab Id)

namespace TouchGrab

/-- `cancel`: the grab is unset, which ends it. -/
def cancel : TouchGrab Id → Layout Id → Option (Layout Id)
  | .overview grab => grab.onUngrab ends
  | .move grab => grab.onUngrab ends

/-- The end of the gesture that the touch was recognized as. -/
def endGesture (layout : Layout Id) : TouchGrab Id → Option (Layout Id)
  | .overview ⟨_, _, _, _, .recognizing⟩ | .move ⟨_, .recognizing⟩ => some layout
  | .overview grab => grab.onUngrab ends layout
  | .move grab => grab.onUngrab ends layout

/-- What a tap there would activate is active, and nothing is to be shown outside the overview. -/
def Harmless (layout : Layout Id) : TouchGrab Id → Prop
  | .overview grab => grab.gesture = .recognizing →
    grab.wsIdx layout = none ∧
      match grab.window with
      | some window => (layout.focusOutput grab.output).Settled window layout.activeMonitorIdx
      | none => (layout.focusOutput grab.output).activeMonitorIdx = layout.activeMonitorIdx
  | .move grab => grab.gesture = .recognizing →
    grab.shown layout = none ∧ layout.Settled grab.window layout.activeMonitorIdx

variable {ends} {layout after : Layout Id}

/-- What a tap in the overview activates. -/
theorem overview_iff {grab : TouchOverviewGrab Id} (htap : grab.gesture = .recognizing)
    (hinv : ∀ ws ∈ layout.workspaces, ws.Inv)
    (hrun : cancel ends (.overview grab) layout = some after) :
    after.focus = layout.focus ↔ Harmless layout (.overview grab) := by
  obtain ⟨hmonitors, hworkspaces, hopen⟩ := layout.focusOutput_monitors grab.output
  have hws : grab.wsIdx (layout.focusOutput grab.output) = grab.wsIdx layout := by
    unfold TouchOverviewGrab.wsIdx Layout.findWorkspace
    rw [hmonitors]
  have hfocus : layout.focus = { (layout.focusOutput grab.output).focus with
      activeMonitorIdx := layout.activeMonitorIdx } := by
    rw [Layout.focusOutput_focus]
    rfl
  rw [cancel, TouchOverviewGrab.onUngrab, htap] at hrun
  obtain ⟨shown, hshown, hrun⟩ := Option.bind_eq_some_iff.mp hrun
  rw [hws] at hshown
  simp only [Harmless, htap, true_imp_iff]
  cases hidx : grab.wsIdx layout with
  | some wsIdx =>
    rw [hidx] at hshown
    refine iff_of_false ?_ fun h => nomatch h.1
    have hshown := (Layout.toggleOverviewToWorkspace_overviewOpen hshown).trans (congrArg not hopen)
    cases hwindow : grab.window with
    | none =>
      rw [hwindow] at hrun
      cases hrun
      exact Layout.focus_ne_of_overviewOpen hshown
    | some window =>
      rw [hwindow] at hrun
      exact Layout.focus_ne_of_overviewOpen
        ((Layout.activateWindow_overviewOpen hrun).trans hshown)
  | none =>
    rw [hidx] at hshown
    cases hshown
    rw [and_iff_right rfl, hfocus]
    cases hwindow : grab.window with
    | none =>
      rw [hwindow] at hrun
      cases hrun
      exact ⟨congrArg Focus.activeMonitorIdx, fun h => by rw [← h]; rfl⟩
    | some window =>
      rw [hwindow] at hrun
      exact Layout.activateWindow_focus_iff hrun (hworkspaces ▸ hinv) _

/-- What letting go of a window activates. -/
theorem move_iff {grab : MoveGrab Id} (htap : grab.gesture = .recognizing)
    (hinv : ∀ ws ∈ layout.workspaces, ws.Inv)
    (hrun : cancel ends (.move grab) layout = some after) :
    after.focus = layout.focus ↔ Harmless layout (.move grab) := by
  rw [cancel, MoveGrab.onUngrab, htap] at hrun
  obtain ⟨shown, hshown, hrun⟩ := Option.bind_eq_some_iff.mp hrun
  simp only [Harmless, htap, true_imp_iff]
  cases hidx : grab.shown layout with
  | some found =>
    rw [hidx] at hshown
    refine iff_of_false ?_ fun h => nomatch h.1
    have hopen := (layout.focusOutput_monitors found.1.output).2.2
    have hshown := (Layout.toggleOverviewToWorkspace_overviewOpen hshown).trans (congrArg not hopen)
    exact Layout.focus_ne_of_overviewOpen ((Layout.activateWindow_overviewOpen hrun).trans hshown)
  | none =>
    rw [hidx] at hshown
    cases hshown
    rw [and_iff_right rfl]
    exact Layout.activateWindow_focus_iff hrun hinv _

/-- **A cancelled touch leaves the focus alone**, but for the end of its gesture, exactly where
a tap would have done nothing. -/
theorem cancel_keepsFocus_iff (grab : TouchGrab Id)
    (hinv : ∀ ws ∈ layout.workspaces, ws.Inv) (hrun : grab.cancel ends layout = some after) :
    (∃ ended, grab.endGesture ends layout = some ended ∧ after.focus = ended.focus) ↔
      grab.Harmless layout := by
  cases grab with
  | overview grab =>
    obtain ⟨output, workspaceId, narrow, window, gesture⟩ := grab
    cases gesture with
    | recognizing => exact Iff.trans (by simp [endGesture]) (overview_iff rfl hinv hrun)
    | viewOffset | workspaceSwitch | interactiveMove =>
      exact iff_of_true ⟨after, hrun, rfl⟩ nofun
  | move grab =>
    obtain ⟨window, gesture⟩ := grab
    cases gesture with
    | recognizing => exact Iff.trans (by simp [endGesture]) (move_iff rfl hinv hrun)
    | move | viewOffset => exact iff_of_true ⟨after, hrun, rfl⟩ nofun

end TouchGrab

/-! ## A touch in the overview -/

open Monitor (someOutput)

/-- The overview, of an output with two empty workspaces. -/
def openOverview : Layout ℕ :=
  { Layout.withOptions Options.default with
    monitorSet := .normal [monitorOf someOutput (spareOf someOutput 0) 1] 0 0
    overviewOpen := true }

/-- Gestures that change nothing when they end. -/
def quietEnds : GestureEnds ℕ := ⟨id, id, fun layout _ => layout⟩

/-- Beside the workspaces nothing is activated. -/
theorem cancel_keepsFocus_iff_beside :
    let grab : TouchGrab ℕ := .overview ⟨someOutput, none, false, none, .recognizing⟩
    ∃ after, grab.cancel quietEnds openOverview = some after ∧
      ∃ ended, grab.endGesture quietEnds openOverview = some ended ∧ after.focus = ended.focus :=
  ⟨_, rfl, (TouchGrab.cancel_keepsFocus_iff
    (.overview ⟨someOutput, none, false, none, .recognizing⟩)
    (fun ws hws => by
      rcases List.mem_pair.mp hws with rfl | rfl <;> exact Workspace.newEmpty_inv ..) rfl).mpr
    fun _ => ⟨rfl, rfl⟩⟩

/-- **A cancelled touch on a workspace** closes the overview there. -/
theorem cancelled_activates :
    let grab : TouchGrab ℕ := .overview ⟨someOutput, some 1, true, none, .recognizing⟩
    (grab.cancel quietEnds openOverview).map Layout.focus =
      some ⟨some 0, false, [(1, [none, none])], []⟩ ∧
      ¬∃ after ended, grab.cancel quietEnds openOverview = some after ∧
        grab.endGesture quietEnds openOverview = some ended ∧ after.focus = ended.focus := by
  refine ⟨rfl, ?_⟩
  rintro ⟨after, ended, hafter, hended, hfocus⟩
  cases hafter
  cases hended
  cases congrArg Focus.overviewOpen hfocus

end Tiri.Input.TouchCancel
