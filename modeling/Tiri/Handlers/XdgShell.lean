import Tiri.Layout.MoveToOutput

set_option linter.dupNamespace false

/-!
# Where new windows open

`src/handlers/xdg_shell.rs`: a toplevel is configured for a workspace before it is mapped, at first
and again whenever the client asks for maximized or fullscreen, or to leave it.  When it has a
buffer, the commit handler (`src/handlers/compositor.rs`) adds it to the layout.  The layout stays
as it is in between, and the toplevel has no parent.

What `compute_open_floating` and the default sizes of a workspace come to is given.

Results:
* `Follows.request`: a configure is always for the monitor of the stored output;
* `opens_where_configured_iff`: where the window opens.
-/

namespace Tiri.Layout

variable {Id : Type}

/-! ## Monitors of a layout -/

def Monitor.findNamedWorkspace (self : Monitor Id) (workspaceName : String) :
    Option (Workspace Id) :=
  self.workspaces.find? (Workspace.isNamed workspaceName)

namespace Layout

def monitorForOutput (self : Layout Id) (output : Output) : Option (Monitor Id) :=
  self.monitorSet.monitors.find? (·.output = output)

def monitorForWorkspace (self : Layout Id) (workspaceName : String) : Option (Monitor Id) :=
  self.monitorSet.monitors.find? fun mon => mon.workspaces.any (Workspace.isNamed workspaceName)

def activeMonitorRef (self : Layout Id) : Option (Option (Monitor Id)) :=
  match self.monitorSet with
  | .normal monitors _ activeMonitorIdx => monitors[activeMonitorIdx]?.map some
  | .noOutputs _ => some none

def activeWorkspace (self : Layout Id) : Option (Option (Workspace Id)) := do
  match ← self.activeMonitorRef with
  | some mon => mon.activeWorkspace.map some
  | none => return none

/-- What `add_window` answers: the output that the window was added to. -/
def addWindowOutput [DecidableEq Id] (self : Layout Id) (target : AddWindowTarget Id) :
    Option (Option Output) :=
  match self.monitorSet with
  | .normal monitors _ activeMonitorIdx => do
    let (monIdx, _) ← self.resolveAddWindowTarget monitors activeMonitorIdx target
    let mon ← monitors[monIdx]?
    return some mon.output
  | .noOutputs _ => return none

end Layout

end Tiri.Layout

namespace Tiri.Handlers.XdgShell

open Layout (ActivateWindow AddWindowTarget ColumnWidth LayoutM Monitor Output OutputGeometry
  PresetSize SizeChange Window Workspace WorkspaceId outputMatchesName)
open Run

variable {Id : Type}

/-! ## Windows that are not mapped -/

/-- What the handlers read of `ResolvedWindowRules`. -/
structure WindowRules where
  openOnWorkspace : Option String
  openOnOutput : Option String
  openMaximized : Option Bool
  openMaximizedToEdges : Option Bool
  openFullscreen : Option Bool

/-- The default sizes of a window, tiled and floating. -/
structure Sizes where
  width : Option PresetSize := none
  height : Option PresetSize := none
  floatingWidth : Option PresetSize := none
  floatingHeight : Option PresetSize := none

/-- `InitialConfigureState::Configured`. -/
structure Configured extends Sizes where
  rules : WindowRules
  isFullWidth : Bool
  output : Option Output
  workspaceName : Option String
  isPendingMaximized : Bool

inductive InitialConfigureState
  | notConfigured (wantsFullscreen : Option (Option Output)) (wantsMaximized : Bool)
  | configured (c : Configured)

/-- A call of `configure_new_window`. -/
structure NewWindow (Id : Type) where
  ws : Workspace Id
  width : Option PresetSize
  height : Option PresetSize
  isFloating : Bool

/-- A configure that was sent: the monitor that it is for, and how its workspace was asked. -/
structure Configure (Id : Type) where
  mon : Option (Monitor Id)
  newWindow : Option (NewWindow Id)
  fullscreen : Bool
  maximized : Bool

/-- `struct Unmapped`, with the pending state of the toplevel and the last configure. -/
structure Unmapped (Id : Type) where
  state : InitialConfigureState
  fullscreen : Bool
  maximized : Bool
  sent : Option (Configure Id)

/-- The call for a window that is neither maximized nor fullscreen. -/
def Configured.newWindow (c : Configured) (isFloating : Bool) (ws : Workspace Id) :
    NewWindow Id where
  ws := ws
  width :=
    if isFloating then c.floatingWidth
    else if c.isFullWidth then some (.proportion 1) else c.width
  height := if isFloating then c.floatingHeight else c.height
  isFloating := isFloating

/-- The call for one that is. -/
def NewWindow.full (ws : Workspace Id) : NewWindow Id := ⟨ws, none, none, false⟩

/-- `send_configure`. -/
def Unmapped.configure (c : Configured) (mon : Option (Monitor Id))
    (newWindow : Option (NewWindow Id)) (fullscreen maximized : Bool) : Unmapped Id where
  state := .configured c
  fullscreen := fullscreen
  maximized := maximized
  sent := some ⟨mon, newWindow, fullscreen, maximized⟩

/-! ## The monitor and the workspace -/

variable (layout : Layout.Layout Id)

/-- All handlers fall back to the active monitor. -/
def orActive : Option (Monitor Id) → Option (Option (Monitor Id))
  | some mon => some (some mon)
  | none => layout.activeMonitorRef

/-- The workspace with the name, or the active one if there is none to look for. -/
def workspaceOn : Option String → Option (Monitor Id) → Option (Option (Workspace Id))
  | some name, some mon => some (mon.findNamedWorkspace name)
  | none, some mon => mon.activeWorkspace.map some
  | _, none => layout.activeWorkspace

variable (outputs : List Output)

/-- Where `send_initial_configure` puts the window; `outputs` are those of the global space. -/
def start (rules : WindowRules) (wantsFullscreen : Option (Option Output)) :
    Option (Option (Monitor Id) × Option (Workspace Id)) := do
  -- First a workspace of the rules, then an output of the rules, then what the window asked for.
  let ruled := (rules.openOnOutput.bind fun name => outputs.find? (outputMatchesName · name)).bind
    layout.monitorForOutput
  let mon ← orActive layout <| (rules.openOnWorkspace.bind layout.monitorForWorkspace).or <|
    ruled.or <| wantsFullscreen.join.bind layout.monitorForOutput
  let ws ← workspaceOn layout rules.openOnWorkspace mon
  return (mon, ws)

/-- Where windows go that leave maximized or fullscreen. -/
def leave (c : Configured) : Option (Option (Monitor Id) × Option (Workspace Id)) := do
  let mon ← orActive layout <| (c.workspaceName.bind layout.monitorForWorkspace).or <|
    c.output.bind layout.monitorForOutput
  let ws ← workspaceOn layout c.workspaceName mon
  return (mon, ws)

namespace Unmapped

/-! ## The handlers -/

/-- `send_initial_configure` (lines 1032–1187). -/
def sendInitialConfigure (rules : WindowRules) (sizes : Workspace Id → Sizes) (isFloating : Bool)
    (u : Unmapped Id) : Option (Unmapped Id) :=
  match u.state with
  | .configured _ => some u
  | .notConfigured wantsFullscreen wantsMaximized => do
    let (mon, ws) ← start layout outputs rules wantsFullscreen
    let opensMaximized := ws.isSome &&
      (wantsMaximized && rules.openMaximizedToEdges.isNone || rules.openMaximizedToEdges = some true)
    let opensFullscreen := ws.isSome &&
      (wantsFullscreen.isSome && rules.openFullscreen.isNone || rules.openFullscreen = some true)
    let c : Configured := {
      toSizes := ws.elim {} sizes
      rules := rules
      isFullWidth := rules.openMaximized.getD false
      output := mon.map (·.output)
      workspaceName := ws.bind (·.name)
      isPendingMaximized := opensMaximized }
    return configure c mon (ws.map (c.newWindow isFloating)) (u.fullscreen || opensFullscreen)
      (u.maximized || opensMaximized && !opensFullscreen)

/-- `maximize_request` (lines 409–489). -/
def maximizeRequest (u : Unmapped Id) : Option (Unmapped Id) :=
  match u.state with
  | .notConfigured wantsFullscreen _ => some { u with state := .notConfigured wantsFullscreen true }
  | .configured c => do
    let mon ← orActive layout (c.output.bind layout.monitorForOutput)
    let ws ← workspaceOn layout none mon
    return configure
      { c with
        output := mon.map (·.output)
        isPendingMaximized := c.isPendingMaximized || ws.isSome }
      mon (ws.map NewWindow.full) u.fullscreen (u.maximized || ws.isSome && !u.fullscreen)

/-- `unmaximize_request` (lines 491–608). -/
def unmaximizeRequest (isFloating : Bool) (u : Unmapped Id) : Option (Unmapped Id) :=
  match u.state with
  | .notConfigured wantsFullscreen _ => some { u with state := .notConfigured wantsFullscreen false }
  | .configured c => do
    let (mon, ws) ← leave layout c
    return configure
      { c with
        output := mon.map (·.output)
        isPendingMaximized := c.isPendingMaximized && ws.isNone }
      mon (ws.map (c.newWindow isFloating)) u.fullscreen (u.maximized && ws.isNone)

/-- `fullscreen_request` (lines 610–700). -/
def fullscreenRequest (requestedOutput : Option Output) (u : Unmapped Id) : Option (Unmapped Id) :=
  match u.state with
  | .notConfigured _ wantsMaximized =>
    some { u with state := .notConfigured (some requestedOutput) wantsMaximized }
  | .configured c => do
    let mon ← orActive layout ((requestedOutput.or c.output).bind layout.monitorForOutput)
    let ws ← workspaceOn layout none mon
    return configure { c with output := mon.map (·.output) } mon (ws.map NewWindow.full)
      (u.fullscreen || ws.isSome) (u.maximized && ws.isNone)

/-- `unfullscreen_request` (lines 702–818). -/
def unfullscreenRequest (isFloating : Bool) (u : Unmapped Id) : Option (Unmapped Id) :=
  match u.state with
  | .notConfigured _ wantsMaximized => some { u with state := .notConfigured none wantsMaximized }
  | .configured c => do
    let (mon, ws) ← leave layout c
    return configure { c with output := mon.map (·.output) } mon (ws.map (c.newWindow isFloating))
      (u.fullscreen && ws.isNone) (u.maximized || ws.isSome && c.isPendingMaximized)

/-- The target of the mapped window. -/
def target (u : Unmapped Id) : AddWindowTarget Id :=
  match u.state with
  -- The window is mapped without a proper initial configure.
  | .notConfigured _ _ => .auto
  | .configured c =>
    match c.workspaceName.bind layout.findWorkspaceByName with
    | some ws => .workspace ws.id
    | none =>
      match c.output.filter fun output => (layout.monitorForOutput output).isSome with
      | some output => .output output
      | none => .auto

/-- The commit that maps the window, with the output that `add_window` answers; `width` is what
    `resolve_scrolling_width` makes of the stored width. -/
def commit [DecidableEq Id] (u : Unmapped Id) (window : Window Id) (width : ColumnWidth)
    (isFloating : Bool) (activate : ActivateWindow) :
    LayoutM (Option Output × Layout.Layout Id) := do
  let (height, isFullWidth) :=
    match u.state with
    | .notConfigured _ _ => (none, false)
    | .configured c => (c.height, c.isFullWidth)
  let output ← layout.addWindowOutput (u.target layout)
  let layout' ← layout.addWindow window (u.target layout) width (height.map SizeChange.ofPreset)
    isFullWidth isFloating activate
  return (output, layout')

end Unmapped

/-- What a client may ask for. -/
inductive Request
  | maximize
  | unmaximize (isFloating : Bool)
  | fullscreen (requestedOutput : Option Output)
  | unfullscreen (isFloating : Bool)

/-- The handler of a request. -/
def Unmapped.request (u : Unmapped Id) : Request → Option (Unmapped Id)
  | .maximize => u.maximizeRequest layout
  | .unmaximize isFloating => u.unmaximizeRequest layout isFloating
  | .fullscreen requestedOutput => u.fullscreenRequest layout requestedOutput
  | .unfullscreen isFloating => u.unfullscreenRequest layout isFloating

section Monitors

variable {layout : Layout.Layout Id} {mon m : Option (Monitor Id)} {output : Output}

theorem mem_of_monitorForOutput {mon : Monitor Id} (h : layout.monitorForOutput output = some mon) :
    mon ∈ layout.monitorSet.monitors ∧ mon.output = output :=
  ⟨List.mem_of_find?_eq_some h, by simpa using List.find?_some h⟩

theorem exists_monitorForOutput {mon : Monitor Id} (h : mon ∈ layout.monitorSet.monitors) :
    ∃ mon', layout.monitorForOutput mon.output = some mon' := by
  cases hfind : layout.monitorForOutput mon.output with
  | some mon' => exact ⟨mon', rfl⟩
  | none =>
    have hno := List.find?_eq_none.mp hfind mon h
    simp at hno

theorem orActive_mem (hm : ∀ mon ∈ m, mon ∈ layout.monitorSet.monitors)
    (h : orActive layout m = some mon) : ∀ mon' ∈ mon, mon' ∈ layout.monitorSet.monitors := by
  cases m with
  | some mon' =>
    obtain rfl := Option.some.inj h
    exact hm
  | none =>
    unfold orActive Layout.Layout.activeMonitorRef at h
    rintro mon' rfl
    cases hset : layout.monitorSet with
    | normal monitors primaryIdx activeMonitorIdx =>
      rw [hset] at h
      obtain ⟨mon₁, hget, hmon⟩ := Option.map_eq_some_iff.mp h
      obtain rfl := Option.some.inj hmon
      exact List.mem_of_getElem? hget
    | noOutputs workspaces =>
      rw [hset] at h
      cases h

/-- Without a monitor there are no outputs. -/
theorem orActive_eq_none (h : orActive layout m = some none) :
    ∃ workspaces, layout.monitorSet = .noOutputs workspaces := by
  cases m with
  | some mon => cases h
  | none =>
    unfold orActive Layout.Layout.activeMonitorRef at h
    cases hset : layout.monitorSet with
    | normal monitors primaryIdx activeMonitorIdx =>
      rw [hset] at h
      obtain ⟨mon, -, hmon⟩ := Option.map_eq_some_iff.mp h
      cases hmon
    | noOutputs workspaces => exact ⟨workspaces, rfl⟩

/-- The workspace is on the monitor. -/
theorem workspaceOn_mem {name : Option String} {ws : Option (Workspace Id)}
    (hmon : orActive layout m = some mon) (hws : workspaceOn layout name mon = some ws) :
    ∀ w ∈ ws, ∃ mon' ∈ mon, w ∈ mon'.workspaces := by
  rintro w rfl
  cases mon with
  | some mon =>
    refine ⟨mon, rfl, ?_⟩
    cases name with
    | some name => exact List.mem_of_find?_eq_some (Option.some.inj hws)
    | none =>
      obtain ⟨w', hget, hw'⟩ := Option.map_eq_some_iff.mp hws
      obtain rfl := Option.some.inj hw'
      exact List.mem_of_getElem? hget
  | none =>
    obtain ⟨workspaces, hset⟩ := orActive_eq_none hmon
    have hactive : layout.activeWorkspace = some none := by
      unfold Layout.Layout.activeWorkspace Layout.Layout.activeMonitorRef
      rw [hset]
      rfl
    have hnone : workspaceOn layout name none = some none := by
      cases name <;> exact hactive
    cases hws.symm.trans hnone

end Monitors

variable (name : Option String)

/-- The output of the monitor with the named workspace. -/
def homeOutput : Option Output :=
  (name.bind layout.monitorForWorkspace).map (·.output)

/-- The output of the monitor that a request leads to, if it leads away from the present one; `name` is
    the stored workspace name. -/
def Request.leadsTo : Request → Option Output
  | .maximize | .fullscreen none => none
  | .unmaximize _ | .unfullscreen _ => homeOutput layout name
  | .fullscreen (some output) =>
    ((layout.monitorForOutput output).or layout.activeMonitorRef.join).map (·.output)

/-- Where the last request that leads away leads to. -/
def outputAfter (requests : List Request) (output : Option Output) : Option Output :=
  (requests.reverse.findSome? (Request.leadsTo layout name)).or output

/-- The window has this name and this output stored, and the last configure was for the monitor of the
    output. -/
structure Follows (name : Option String) (output : Option Output) (u : Unmapped Id) : Prop where
  state : ∃ c, u.state = .configured c ∧ c.workspaceName = name ∧ c.output = output
  sent : ∃ configure, u.sent = some configure ∧ configure.mon.map (·.output) = output ∧
    ∀ newWindow ∈ configure.newWindow, ∃ mon ∈ configure.mon, newWindow.ws ∈ mon.workspaces
  connected : ∀ o ∈ output, ∃ mon, layout.monitorForOutput o = some mon
  unplugged : output = none → ∃ workspaces, layout.monitorSet = .noOutputs workspaces

section Runs

variable {layout : Layout.Layout Id} {mon m : Option (Monitor Id)} {name : Option String}
  {output : Option Output} {u u' : Unmapped Id}

theorem orActive_or (h : orActive layout m = some mon) : mon = m.or layout.activeMonitorRef.join := by
  cases m with
  | some mon' => exact (Option.some.inj h).symm
  | none =>
    have hactive : layout.activeMonitorRef = some mon := h
    rw [hactive]
    rfl

variable {c : Configured} {ws : Option (Workspace Id)} {outputs : List Output} {rules : WindowRules}
variable {wantsFullscreen : Option (Option Output)}

/-- Every configure is for the monitor that was selected for it. -/
theorem follows_configure {newWindow : Option (NewWindow Id)}
    (hm : ∀ mon ∈ m, mon ∈ layout.monitorSet.monitors) (hmon : orActive layout m = some mon)
    (hws : ∀ w ∈ newWindow, ∃ mon' ∈ mon, w.ws ∈ mon'.workspaces) (hname : c.workspaceName = name)
    (hc : c.output = mon.map (·.output)) (fullscreen maximized : Bool) :
    Follows layout name (mon.map (·.output))
      (.configure c mon newWindow fullscreen maximized) where
  state := ⟨c, rfl, hname, hc⟩
  sent := ⟨_, rfl, rfl, hws⟩
  connected := by
    intro o ho
    obtain ⟨mon', hmon', rfl⟩ := Option.map_eq_some_iff.mp ho
    exact exists_monitorForOutput (orActive_mem hm hmon mon' hmon')
  unplugged := by
    intro hnone
    rw [Option.map_eq_none_iff.mp hnone] at hmon
    exact orActive_eq_none hmon

/-- Without anything else to go by, the output stays. -/
theorem Follows.stays (h : Follows layout name output u)
    (hmon : orActive layout (output.bind layout.monitorForOutput) = some mon) :
    mon.map (·.output) = output := by
  cases output with
  | some o =>
    obtain ⟨mon', hfind⟩ := h.connected o rfl
    have hsome : orActive layout (some mon') = some mon := hfind ▸ hmon
    rw [← Option.some.inj hsome, Option.map_some, (mem_of_monitorForOutput hfind).2]
  | none =>
    obtain ⟨workspaces, hset⟩ := h.unplugged rfl
    have hnone : layout.activeMonitorRef = some mon := hmon
    unfold Layout.Layout.activeMonitorRef at hnone
    rw [hset] at hnone
    rw [← Option.some.inj hnone]
    rfl

theorem Follows.eq_none_of_unplugged (h : Follows layout name output u)
    (hset : ∃ workspaces, layout.monitorSet = .noOutputs workspaces) : output = none := by
  cases output with
  | none => rfl
  | some o =>
    obtain ⟨mon, hfind⟩ := h.connected o rfl
    obtain ⟨workspaces, hset⟩ := hset
    have hmem := (mem_of_monitorForOutput hfind).1
    rw [hset] at hmem
    cases hmem

theorem mem_of_bind_monitorForOutput :
    ∀ mon ∈ output.bind layout.monitorForOutput, mon ∈ layout.monitorSet.monitors := by
  intro mon hmon
  obtain ⟨o, -, hfind⟩ := Option.bind_eq_some_iff.mp hmon
  exact (mem_of_monitorForOutput hfind).1

theorem mem_of_bind_monitorForWorkspace :
    ∀ mon ∈ name.bind layout.monitorForWorkspace, mon ∈ layout.monitorSet.monitors := by
  intro mon hmon
  obtain ⟨n, -, hfind⟩ := Option.bind_eq_some_iff.mp hmon
  exact List.mem_of_find?_eq_some hfind

section

variable (h : Follows layout name output u)
include h

/-- The selection for windows that leave maximized or fullscreen. -/
theorem Follows.leave (hname : c.workspaceName = name) (houtput : c.output = output)
    (hleave : leave layout c = some (mon, ws)) (f : Workspace Id → NewWindow Id)
    (hf : ∀ w, (f w).ws = w) {c' : Configured} (hc' : c'.workspaceName = name)
    (hc : c'.output = mon.map (·.output)) (fullscreen maximized : Bool) :
    Follows layout name ((homeOutput layout name).or output)
      (.configure c' mon (ws.map f) fullscreen maximized) := by
  obtain ⟨mon₁, hmon, hws⟩ := Option.bind_eq_some_iff.mp hleave
  obtain ⟨ws₁, hws, heq⟩ := Option.bind_eq_some_iff.mp hws
  cases heq
  rw [hname, houtput] at hmon
  have hreached : mon.map (·.output) = (homeOutput layout name).or output := by
    unfold homeOutput
    cases hhome : name.bind layout.monitorForWorkspace with
    | some home =>
      rw [hhome] at hmon
      rw [← Option.some.inj hmon]
      rfl
    | none =>
      rw [hhome] at hmon
      exact h.stays hmon
  rw [← hreached]
  refine follows_configure ?_ hmon ?_ hc' hc fullscreen maximized
  · intro mon' hmon'
    rcases Option.or_eq_some_iff.mp hmon' with hleft | ⟨-, hright⟩
    · exact mem_of_bind_monitorForWorkspace mon' hleft
    · exact mem_of_bind_monitorForOutput mon' hright
  · intro w hw
    obtain ⟨w', hw', rfl⟩ := Option.map_eq_some_iff.mp hw
    rw [hf]
    exact workspaceOn_mem hmon hws w' hw'

omit h in
/-- The selection for a window that becomes maximized or fullscreen. -/
theorem follows_full (hm : ∀ mon ∈ m, mon ∈ layout.monitorSet.monitors)
    (hmon : orActive layout m = some mon) (hws : workspaceOn layout none mon = some ws)
    (hname : c.workspaceName = name) (hc : c.output = mon.map (·.output))
    (fullscreen maximized : Bool) :
    Follows layout name (mon.map (·.output))
      (.configure c mon (ws.map NewWindow.full) fullscreen maximized) := by
  refine follows_configure hm hmon ?_ hname hc fullscreen maximized
  intro w hw
  obtain ⟨w', hw', rfl⟩ := Option.map_eq_some_iff.mp hw
  exact workspaceOn_mem hmon hws w' hw'

/-- **A request** leads to a monitor, or stays at the one of the stored output. -/
theorem Follows.request (r : Request) (hstep : u.request layout r = some u') :
    Follows layout name ((r.leadsTo layout name).or output) u' := by
  obtain ⟨c, hstate, hname, houtput⟩ := h.state
  cases r with
  | maximize =>
    unfold Unmapped.request Unmapped.maximizeRequest at hstep
    rw [hstate] at hstep
    obtain ⟨mon, hmon, hstep⟩ := Option.bind_eq_some_iff.mp hstep
    obtain ⟨ws, hws, hu'⟩ := Option.bind_eq_some_iff.mp hstep
    rw [houtput] at hmon
    have hstays : mon.map (·.output) = (Request.maximize.leadsTo layout name).or output :=
      h.stays hmon
    rw [← Option.some.inj hu', ← hstays]
    refine follows_full mem_of_bind_monitorForOutput hmon hws ?_ ?_ _ _
    · exact hname
    · rfl
  | fullscreen requestedOutput =>
    unfold Unmapped.request Unmapped.fullscreenRequest at hstep
    rw [hstate] at hstep
    obtain ⟨mon, hmon, hstep⟩ := Option.bind_eq_some_iff.mp hstep
    obtain ⟨ws, hws, hu'⟩ := Option.bind_eq_some_iff.mp hstep
    rw [houtput] at hmon
    have hreached : mon.map (·.output) =
        ((Request.fullscreen requestedOutput).leadsTo layout name).or output := by
      cases requestedOutput with
      | none => exact h.stays hmon
      | some o =>
        change _ = (((layout.monitorForOutput o).or layout.activeMonitorRef.join).map _).or output
        have hor := orActive_or hmon
        rw [Option.some_or, Option.bind_some] at hor
        rw [← hor]
        cases mon with
        | some mon => rfl
        | none => exact (h.eq_none_of_unplugged (orActive_eq_none hmon)).symm
    rw [← Option.some.inj hu', ← hreached]
    refine follows_full mem_of_bind_monitorForOutput hmon hws ?_ ?_ _ _
    · exact hname
    · rfl
  | unmaximize isFloating =>
    unfold Unmapped.request Unmapped.unmaximizeRequest at hstep
    rw [hstate] at hstep
    obtain ⟨⟨mon, ws⟩, hleave, hu'⟩ := Option.bind_eq_some_iff.mp hstep
    rw [← Option.some.inj hu']
    refine h.leave hname houtput hleave _ (fun _ => rfl) ?_ ?_ _ _
    · exact hname
    · rfl
  | unfullscreen isFloating =>
    unfold Unmapped.request Unmapped.unfullscreenRequest at hstep
    rw [hstate] at hstep
    obtain ⟨⟨mon, ws⟩, hleave, hu'⟩ := Option.bind_eq_some_iff.mp hstep
    rw [← Option.some.inj hu']
    refine h.leave hname houtput hleave _ (fun _ => rfl) ?_ ?_ _ _
    · exact hname
    · rfl

/-- The run: the last request that led to a monitor decides. -/
theorem Follows.exec {requests : List Request}
    (hrun : exec (Unmapped.request layout) u requests = some u') :
    Follows layout name (outputAfter layout name requests output) u' := by
  refine exec_induction
    (P := fun requests u => Follows layout name (outputAfter layout name requests output) u) h ?_ hrun
  intro requests u₁ r u₂ _ hfollows hstep
  have hnext := hfollows.request r hstep
  unfold outputAfter at hnext ⊢
  rw [List.reverse_append, List.reverse_singleton, List.singleton_append, List.findSome?_cons]
  cases hleads : r.leadsTo layout name with
  | some | none =>
    rw [hleads] at hnext
    exact hnext

end

section

variable (hstart : start layout outputs rules wantsFullscreen = some (mon, ws))
include hstart

/-- What `start` selects is on a monitor. -/
theorem start_spec :
    ∃ m, (∀ mon ∈ m, mon ∈ layout.monitorSet.monitors) ∧ orActive layout m = some mon ∧
      ∀ w ∈ ws, ∃ mon' ∈ mon, w ∈ mon'.workspaces := by
  obtain ⟨mon₁, hmon, hws⟩ := Option.bind_eq_some_iff.mp hstart
  obtain ⟨ws₁, hws, heq⟩ := Option.bind_eq_some_iff.mp hws
  cases heq
  refine ⟨_, ?_, hmon, workspaceOn_mem hmon hws⟩
  intro mon' hmon'
  rcases Option.or_eq_some_iff.mp hmon' with hnamed | ⟨-, hrest⟩
  · exact mem_of_bind_monitorForWorkspace mon' hnamed
  · rcases Option.or_eq_some_iff.mp hrest with hruled | ⟨-, hasked⟩
    · exact mem_of_bind_monitorForOutput mon' hruled
    · exact mem_of_bind_monitorForOutput mon' hasked

/-- The stored name is that of a workspace on a monitor. -/
theorem exists_home {n : String} (hname : ws.bind (·.name) = some n) :
    ∃ home, layout.monitorForWorkspace n = some home := by
  obtain ⟨m, hm, hmon, hws⟩ := start_spec hstart
  obtain ⟨w, rfl, hw⟩ := Option.bind_eq_some_iff.mp hname
  obtain ⟨mon', hmon', hmem⟩ := hws w rfl
  refine Option.isSome_iff_exists.mp (List.find?_isSome.mpr ⟨mon', orActive_mem hm hmon mon' hmon', ?_⟩)
  refine List.any_eq_true.mpr ⟨w, hmem, ?_⟩
  unfold Layout.Workspace.isNamed
  rw [hw]
  exact Layout.eqIgnoreAsciiCase_refl n

end

/-- The initial configure. -/
theorem follows_initial {sizes : Workspace Id → Sizes} {isFloating : Bool} {wantsMaximized : Bool}
    (hstate : u.state = .notConfigured wantsFullscreen wantsMaximized)
    (hsent : u.sendInitialConfigure layout outputs rules sizes isFloating = some u') :
    ∃ mon ws, start layout outputs rules wantsFullscreen = some (mon, ws) ∧
      Follows layout (ws.bind (·.name)) (mon.map (·.output)) u' := by
  unfold Unmapped.sendInitialConfigure at hsent
  rw [hstate] at hsent
  obtain ⟨⟨mon, ws⟩, hstart, hu'⟩ := Option.bind_eq_some_iff.mp hsent
  obtain ⟨m, hm, hmon, hws⟩ := start_spec hstart
  refine ⟨mon, ws, hstart, ?_⟩
  rw [← Option.some.inj hu']
  refine follows_configure hm hmon ?_ ?_ ?_ _ _
  · intro w hw
    obtain ⟨w', hw', rfl⟩ := Option.map_eq_some_iff.mp hw
    exact hws w' hw'
  · rfl
  · rfl

end Runs

/-! ## Where the window opens -/

section Target

variable {layout : Layout.Layout Id} {name : Option String} {output : Option Output} {u : Unmapped Id}

variable {monitors : List (Monitor Id)} {home : Monitor Id}

/-- The first workspace with a name is on the first monitor that has one. -/
theorem find_home {p : Workspace Id → Bool}
    (hids : ((monitors.flatMap Monitor.workspaces).map (·.id)).Nodup)
    (h : monitors.find? (fun mon => mon.workspaces.any p) = some home) :
    ∃ ws, (monitors.flatMap Monitor.workspaces).find? p = some ws ∧
      monitors.find? (fun mon => mon.workspaces.any (·.id = ws.id)) = some home := by
  induction monitors with
  | nil => cases h
  | cons mon rest ih =>
    rw [List.flatMap_cons, List.map_append, List.nodup_append'] at hids
    obtain ⟨-, hrest, hdisjoint⟩ := hids
    rw [List.flatMap_cons, List.find?_append]
    cases hp : mon.workspaces.find? p with
    | some ws =>
      have hmem := List.mem_of_find?_eq_some hp
      have hany : mon.workspaces.any p = true :=
        List.any_eq_true.mpr ⟨ws, hmem, List.find?_some hp⟩
      refine ⟨ws, rfl, ?_⟩
      rw [List.find?_cons_of_pos (p := fun mon : Monitor Id => mon.workspaces.any p) hany] at h
      rw [List.find?_cons_of_pos, h]
      exact List.any_eq_true.mpr ⟨ws, hmem, by simp⟩
    | none =>
      have hno : ¬ mon.workspaces.any p = true := by
        rw [List.any_eq_true]
        rintro ⟨ws, hws, hpws⟩
        exact List.find?_eq_none.mp hp ws hws hpws
      rw [List.find?_cons_of_neg (p := fun mon : Monitor Id => mon.workspaces.any p) hno] at h
      obtain ⟨ws, hws, hfind⟩ := ih hrest h
      refine ⟨ws, hws, ?_⟩
      rw [List.find?_cons_of_neg, hfind]
      rw [List.any_eq_true]
      rintro ⟨w, hw, hid⟩
      have hin : ws.id ∈ mon.workspaces.map (·.id) :=
        List.mem_map.mpr ⟨w, hw, by simpa using hid⟩
      exact hdisjoint hin (List.mem_map_of_mem (List.mem_of_find?_eq_some hws))

variable [DecidableEq Id]

theorem addWindowOutput_eq {primaryIdx activeMonitorIdx : ℕ}
    (hset : layout.monitorSet = .normal monitors primaryIdx activeMonitorIdx)
    {p : Monitor Id → Bool} {mon : Monitor Id} (hfind : monitors.find? p = some mon)
    {target : AddWindowTarget Id} {f : ℕ → Option (ℕ × Layout.MonitorAddWindowTarget Id)}
    (htarget : layout.resolveAddWindowTarget monitors activeMonitorIdx target =
      (monitors.findIdx? p).bind f) (hf : ∀ monIdx, ∃ t, f monIdx = some (monIdx, t)) :
    layout.addWindowOutput target = some (some mon.output) := by
  rw [List.find?_eq_bind_findIdx?_getElem?] at hfind
  obtain ⟨monIdx, hidx, hget⟩ := Option.bind_eq_some_iff.mp hfind
  obtain ⟨t, ht⟩ := hf monIdx
  unfold Layout.Layout.addWindowOutput
  rw [hset]
  dsimp only
  rw [htarget, hidx, Option.bind_some, ht]
  change (monitors[monIdx]?).bind _ = _
  rw [hget]
  rfl

/-- Without a workspace name, the window goes to the stored output. -/
theorem Follows.addWindowOutput_unnamed (h : Follows layout none output u) :
    layout.addWindowOutput (u.target layout) = some output := by
  obtain ⟨c, hstate, hname, houtput⟩ := h.state
  unfold Unmapped.target
  rw [hstate]
  dsimp only
  rw [hname, houtput, Option.bind_none]
  cases output with
  | some o =>
    obtain ⟨mon, hfind⟩ := h.connected o rfl
    obtain ⟨hmem, rfl⟩ := mem_of_monitorForOutput hfind
    rw [Option.filter_some_pos (by rw [hfind]; rfl)]
    cases hset : layout.monitorSet with
    | normal monitors primaryIdx activeMonitorIdx =>
      unfold Layout.Layout.monitorForOutput at hfind
      rw [hset] at hfind
      exact addWindowOutput_eq hset hfind rfl fun monIdx => ⟨_, rfl⟩
    | noOutputs workspaces =>
      rw [hset] at hmem
      cases hmem
  | none =>
    obtain ⟨workspaces, hset⟩ := h.unplugged rfl
    unfold Layout.Layout.addWindowOutput
    rw [hset]
    rfl

/-- With one, it goes to the monitor of the workspace. -/
theorem Follows.addWindowOutput_named {n : String} (h : Follows layout (some n) output u)
    (hids : (layout.workspaces.map (·.id)).Nodup)
    (hhome : layout.monitorForWorkspace n = some home) :
    layout.addWindowOutput (u.target layout) = some (some home.output) := by
  obtain ⟨c, hstate, hname, -⟩ := h.state
  unfold Layout.Layout.monitorForWorkspace at hhome
  cases hset : layout.monitorSet with
  | normal monitors primaryIdx activeMonitorIdx =>
    unfold Layout.Layout.workspaces at hids
    rw [hset] at hhome hids
    obtain ⟨ws, hws, hfind⟩ := find_home hids hhome
    have hfound : layout.findWorkspaceByName n = some ws := by
      unfold Layout.Layout.findWorkspaceByName Layout.Layout.workspaces
      rw [hset]
      exact hws
    unfold Unmapped.target
    rw [hstate]
    dsimp only
    rw [hname, Option.bind_some, hfound]
    exact addWindowOutput_eq hset hfind rfl fun monIdx => ⟨_, rfl⟩
  | noOutputs workspaces =>
    rw [hset] at hhome
    cases hhome

theorem Unmapped.commit_answers (u : Unmapped Id) (window : Window Id)
    (width : ColumnWidth) (isFloating : Bool) (activate : ActivateWindow) :
    Yields (u.commit layout window width isFloating activate) fun p =>
      layout.addWindowOutput (u.target layout) = some p.1 :=
  (Yields.lift Ensures.self).bind fun _ hanswer =>
    Yields.any.bind fun _ _ => Yields.of_pure hanswer

end Target

/-- The last request that leads to a monitor, or else the initial configure, leads to the monitor of
    the workspace that was named there, if one was. -/
def LeadsHome (rules : WindowRules) (wantsFullscreen : Option (Option Output))
    (requests : List Request) : Prop :=
  ∀ mon ws name, start layout outputs rules wantsFullscreen = some (mon, ws) →
    ws.bind (·.name) = some name →
      outputAfter layout (some name) requests (mon.map (·.output)) = homeOutput layout (some name)

/-- **A window opens on the monitor it was last configured for** exactly when the requests lead to the
    named workspace it was first configured for, if it has a name. -/
theorem opens_where_configured_iff [DecidableEq Id] {layout : Layout.Layout Id}
    (hids : (layout.workspaces.map (·.id)).Nodup) {u₀ u₁ u : Unmapped Id}
    {wantsFullscreen : Option (Option Output)} {wantsMaximized : Bool}
    (hstate : u₀.state = .notConfigured wantsFullscreen wantsMaximized) (outputs : List Output)
    (rules : WindowRules) (sizes : Workspace Id → Sizes) (isFloating : Bool)
    (hinitial : u₀.sendInitialConfigure layout outputs rules sizes isFloating = some u₁)
    {requests : List Request} (hrun : exec (Unmapped.request layout) u₁ requests = some u)
    {window : Window Id} {width : ColumnWidth} {opensFloating : Bool} {activate : ActivateWindow}
    {geometry : Output → OutputGeometry} {n n' : WorkspaceId} {output : Option Output}
    {layout' : Layout.Layout Id}
    (hcommit : ((u.commit layout window width opensFloating activate).run geometry).run n =
      some ((output, layout'), n')) :
    ∃ configure, u.sent = some configure ∧
      (∀ newWindow ∈ configure.newWindow, ∃ mon ∈ configure.mon, newWindow.ws ∈ mon.workspaces) ∧
      (output = configure.mon.map (·.output) ↔
        LeadsHome layout outputs rules wantsFullscreen requests) := by
  obtain ⟨mon, ws, hstart, hfirst⟩ := follows_initial hstate hinitial
  have hlast := hfirst.exec hrun
  obtain ⟨configure, hsent, hmon, hon⟩ := hlast.sent
  refine ⟨configure, hsent, hon, ?_⟩
  have hanswer := (u.commit_answers window width opensFloating activate).elim hcommit
  rw [hmon]
  cases hname : ws.bind (·.name) with
  | none =>
    rw [hname] at hlast
    refine iff_of_true (Option.some.inj (hanswer.symm.trans hlast.addWindowOutput_unnamed)) ?_
    intro mon' ws' name hstart' hname'
    cases hstart.symm.trans hstart'
    cases hname.symm.trans hname'
  | some name =>
    rw [hname] at hlast
    obtain ⟨home, hhome⟩ := exists_home hstart hname
    have hout : output = homeOutput layout (some name) := by
      unfold homeOutput
      rw [Option.bind_some, hhome]
      exact Option.some.inj (hanswer.symm.trans (hlast.addWindowOutput_named hids hhome))
    rw [hout]
    refine ⟨fun heq mon' ws' name' hstart' hname' => ?_, fun hleads => ?_⟩
    · cases hstart.symm.trans hstart'
      cases hname.symm.trans hname'
      exact heq.symm
    · exact (hleads mon ws name hstart hname).symm

/-! ## A window that opens elsewhere -/

open Layout (otherOutput spareOf twoOutputs)
open Layout.Monitor (someGeometry someOutput)

/-- A layout with a named workspace on the other output. -/
def webLayout : Layout.Layout ℕ := twoOutputs (spareOf someOutput 0)

/-- The rules put the window on that workspace. -/
def webRules : WindowRules := ⟨some "web", none, none, none, none⟩

/-- A new toplevel. -/
def newToplevel : Unmapped ℕ := ⟨.notConfigured none false, false, false, none⟩

/-- Its initial configure, what the client asks for then, and the commit that maps it. -/
def webRun (requests : List Request) :
    Option (Unmapped ℕ × Unmapped ℕ × (Option Output × Layout.Layout ℕ) × WorkspaceId) := do
  let u₁ ← newToplevel.sendInitialConfigure webLayout [someOutput, otherOutput] webRules
    (fun _ => {}) false
  let u ← exec (Unmapped.request webLayout) u₁ requests
  let p ← ((u.commit webLayout (Layout.ScrollingSpace.plainTile 1).window (.proportion 1) false
    .smart).run someGeometry).run 4
  return (u₁, u, p)

/-- Leaving fullscreen leads back to the workspace. -/
theorem opens_where_configured_webRun : ∃ u₁ u p n' configure,
    webRun [.fullscreen (some someOutput), .unfullscreen false] = some (u₁, u, p, n') ∧
    u.sent = some configure ∧
    (∀ newWindow ∈ configure.newWindow, ∃ mon ∈ configure.mon, newWindow.ws ∈ mon.workspaces) ∧
    (p.1 = configure.mon.map (·.output) ↔ LeadsHome webLayout [someOutput, otherOutput] webRules none
      [.fullscreen (some someOutput), .unfullscreen false]) := by
  have hruns : (webRun [.fullscreen (some someOutput), .unfullscreen false]).isSome = true := by
    decide +kernel
  obtain ⟨r, hr⟩ := Option.isSome_iff_exists.mp hruns
  have hparts := hr
  simp only [webRun, Option.bind_eq_bind, Option.bind_eq_some_iff] at hparts
  obtain ⟨u₁, hinitial, u, hrun, ⟨p, n'⟩, hcommit, heq⟩ := hparts
  cases heq
  obtain ⟨configure, hsent, hconclusion⟩ := opens_where_configured_iff (by decide) rfl
    [someOutput, otherOutput] webRules (fun _ => {}) false hinitial hrun hcommit
  exact ⟨u₁, u, p, n', configure, hr, hsent, hconclusion⟩

/-- Fullscreen on the first output is configured there, and opens on the other one. -/
theorem fullscreen_opens_elsewhere :
    (webRun [.fullscreen (some someOutput)]).map (fun r =>
      (r.2.2.1.1, r.2.1.sent.map fun configure => configure.mon.map (·.output))) =
      some (some otherOutput, some (some someOutput)) := by
  decide +kernel

end Tiri.Handlers.XdgShell
