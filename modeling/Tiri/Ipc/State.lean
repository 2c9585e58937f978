import Mathlib.Data.Rat.Defs
import Tiri.Lib.HashMap

/-!
# The event stream and the state it describes

The types of `niri-ipc/src/lib.rs` that go over the event stream, and the state a client keeps
by applying the events (`niri-ipc/src/state.rs`).  `apply` returns the event where the part
ignores it, and `none` as a whole where the source panics.

Results:
* `applyAll_replicate`: replaying `replicate()` into the default state reproduces the state;
* `applyToPart_eq`: the server, which applies an event to one part only, follows the same state
  as a client, which offers it to all of them.
-/

namespace Tiri.Ipc

open Option HashMap

/-! ## What the events carry -/

structure Timestamp where
  secs : ℕ
  nanos : ℕ
  deriving DecidableEq

structure WindowLayout where
  posInScrollingLayout : Option (ℕ × ℕ)
  tileSize : ℚ × ℚ
  windowSize : ℤ × ℤ
  tilePosInWorkspaceView : Option (ℚ × ℚ)
  windowOffsetInTile : ℚ × ℚ
  deriving DecidableEq

structure Window where
  id : ℕ
  title : Option String
  appId : Option String
  pid : Option ℤ
  workspaceId : Option ℕ
  isFocused : Bool
  isFloating : Bool
  isUrgent : Bool
  layout : WindowLayout
  focusTimestamp : Option Timestamp
  deriving DecidableEq

structure Workspace where
  id : ℕ
  idx : ℕ
  name : Option String
  output : Option String
  isUrgent : Bool
  isActive : Bool
  isFocused : Bool
  activeWindowId : Option ℕ
  deriving DecidableEq

structure KeyboardLayouts where
  names : List String
  currentIdx : ℕ
  deriving DecidableEq

inductive CastKind
  | pipeWire
  | wlrScreencopy
  deriving DecidableEq

inductive CastTarget
  | nothing
  | output (name : String)
  | window (id : ℕ)
  deriving DecidableEq

structure Cast where
  streamId : ℕ
  sessionId : ℕ
  kind : CastKind
  target : CastTarget
  isDynamicTarget : Bool
  isActive : Bool
  pid : Option ℤ
  pwNodeId : Option ℕ
  deriving DecidableEq

/-- `enum Event` (`niri-ipc/src/lib.rs`, lines 2333–2470). -/
inductive Event
  | workspacesChanged (workspaces : List Workspace)
  | workspaceUrgencyChanged (id : ℕ) (urgent : Bool)
  | workspaceActivated (id : ℕ) (focused : Bool)
  | workspaceActiveWindowChanged (workspaceId : ℕ) (activeWindowId : Option ℕ)
  | windowsChanged (windows : List Window)
  | windowOpenedOrChanged (window : Window)
  | windowClosed (id : ℕ)
  | windowFocusChanged (id : Option ℕ)
  | windowFocusTimestampChanged (id : ℕ) (focusTimestamp : Option Timestamp)
  | windowUrgencyChanged (id : ℕ) (urgent : Bool)
  | windowLayoutsChanged (changes : List (ℕ × WindowLayout))
  | keyboardLayoutsChanged (keyboardLayouts : KeyboardLayouts)
  | keyboardLayoutSwitched (idx : ℕ)
  | overviewOpenedOrClosed (isOpen : Bool)
  | configLoaded (failed : Bool)
  | screenshotCaptured (path : Option String)
  | castsChanged (casts : List Cast)
  | castStartedOrChanged (cast : Cast)
  | castStopped (streamId : ℕ)
  deriving DecidableEq

/-! ## The parts of the state -/

structure WorkspacesState where
  workspaces : HashMap ℕ Workspace
  deriving DecidableEq

structure WindowsState where
  windows : HashMap ℕ Window
  deriving DecidableEq

structure KeyboardLayoutsState where
  keyboardLayouts : Option KeyboardLayouts
  deriving DecidableEq

structure OverviewState where
  isOpen : Bool
  deriving DecidableEq

structure ConfigState where
  failed : Bool
  deriving DecidableEq

structure CastsState where
  casts : HashMap ℕ Cast
  deriving DecidableEq

/-- The event was for this part: `apply` returns `None`. -/
def handled {σ : Type} (self : σ) : Option (σ × Option Event) := some (self, none)

/-- The event was for another part: `apply` returns it. -/
def ignored {σ : Type} (self : σ) (event : Event) : Option (σ × Option Event) :=
  some (self, some event)

/-- What a client does: apply the events it reads, one after the other. -/
def applyEvents {σ : Type} (apply : σ → Event → Option (σ × Option Event)) (self : σ) :
    List Event → Option σ
  | [] => some self
  | event :: events => do
    let (self, _) ← apply self event
    applyEvents apply self events

theorem applyEvents_append {σ : Type} (apply : σ → Event → Option (σ × Option Event)) (self : σ)
    (events events' : List Event) :
    applyEvents apply self (events ++ events') =
      (applyEvents apply self events).bind fun self => applyEvents apply self events' := by
  induction events generalizing self with
  | nil => rfl
  | cons event events ih =>
    simp only [List.cons_append, applyEvents, bind_eq_bind, bind_assoc]
    congr 1
    funext p
    exact ih p.1

namespace WorkspacesState

/-- `WorkspacesState::default`. -/
def default : WorkspacesState := ⟨∅⟩

/-- What `WorkspaceActivated` does to a workspace. -/
def activated (id : ℕ) (output : Option String) (focused : Bool) (ws : Workspace) : Workspace :=
  let gotActivated := decide (ws.id = id)
  { ws with
    isActive := if ws.output = output then gotActivated else ws.isActive
    isFocused := if focused then gotActivated else ws.isFocused }

variable (self : WorkspacesState)

/-- `WorkspacesState::replicate`. -/
def replicate (order : List ℕ) : List Event :=
  [.workspacesChanged (HashMap.values self.workspaces order)]

/-- `WorkspacesState::apply`. -/
def apply : Event → Option (WorkspacesState × Option Event)
  | .workspacesChanged workspaces =>
    handled ⟨HashMap.collect (workspaces.map fun ws => (ws.id, ws))⟩
  | .workspaceUrgencyChanged id urgent =>
    handled ⟨HashMap.mapValues (fun ws =>
      if ws.id = id then { ws with isUrgent := urgent } else ws) self.workspaces⟩
  | .workspaceActivated id focused => do
    -- "activated workspace was missing from the map"
    let ws ← self.workspaces.lookup id
    handled ⟨HashMap.mapValues (activated id ws.output focused) self.workspaces⟩
  | .workspaceActiveWindowChanged workspaceId activeWindowId => do
    -- "changed workspace was missing from the map"
    let ws ← self.workspaces.lookup workspaceId
    handled ⟨self.workspaces.insert workspaceId { ws with activeWindowId := activeWindowId }⟩
  | event => ignored self event

end WorkspacesState

namespace WindowsState

/-- `WindowsState::default`. -/
def default : WindowsState := ⟨∅⟩

/-- `WindowsState::replicate`. -/
def replicate (self : WindowsState) (order : List ℕ) : List Event :=
  [.windowsChanged (HashMap.values self.windows order)]

/-- The changes of `WindowLayoutsChanged`, one after the other. -/
def changeLayouts (windows : HashMap ℕ Window) :
    List (ℕ × WindowLayout) → Option (HashMap ℕ Window)
  | [] => some windows
  | (id, update) :: changes => do
    -- "changed window was missing from the map"
    let win ← windows.lookup id
    changeLayouts (windows.insert id { win with layout := update }) changes

/-- `WindowsState::apply`. -/
def apply (self : WindowsState) : Event → Option (WindowsState × Option Event)
  | .windowsChanged windows => handled ⟨HashMap.collect (windows.map fun win => (win.id, win))⟩
  | .windowOpenedOrChanged window =>
    let windows : HashMap ℕ Window := self.windows.insert window.id window
    handled ⟨if window.isFocused then
        HashMap.mapValues (fun win : Window =>
          if win.id ≠ window.id then { win with isFocused := false } else win) windows
      else windows⟩
  | .windowClosed id => do
    -- "closed window was missing from the map"
    let _ ← self.windows.lookup id
    handled ⟨self.windows.erase id⟩
  | .windowFocusChanged id =>
    handled ⟨HashMap.mapValues (fun win =>
      { win with isFocused := some win.id = id }) self.windows⟩
  | .windowFocusTimestampChanged id focusTimestamp =>
    handled ⟨HashMap.mapValues (fun win =>
      if win.id = id then { win with focusTimestamp := focusTimestamp } else win) self.windows⟩
  | .windowUrgencyChanged id urgent =>
    handled ⟨HashMap.mapValues (fun win =>
      if win.id = id then { win with isUrgent := urgent } else win) self.windows⟩
  | .windowLayoutsChanged changes => do
    let windows ← changeLayouts self.windows changes
    handled ⟨windows⟩
  | event => ignored self event

end WindowsState

namespace KeyboardLayoutsState

variable (self : KeyboardLayoutsState)

/-- `KeyboardLayoutsState::replicate`. -/
def replicate : List Event :=
  match self.keyboardLayouts with
  | some keyboardLayouts => [.keyboardLayoutsChanged keyboardLayouts]
  | none => []

/-- `KeyboardLayoutsState::apply`. -/
def apply : Event → Option (KeyboardLayoutsState × Option Event)
  | .keyboardLayoutsChanged keyboardLayouts => handled ⟨some keyboardLayouts⟩
  | .keyboardLayoutSwitched idx => do
    -- "keyboard layouts must be set before a layout can be switched"
    let kb ← self.keyboardLayouts
    handled ⟨some { kb with currentIdx := idx }⟩
  | event => ignored self event

end KeyboardLayoutsState

namespace OverviewState

/-- `OverviewState::replicate`. -/
def replicate (self : OverviewState) : List Event := [.overviewOpenedOrClosed self.isOpen]

/-- `OverviewState::apply`. -/
def apply (self : OverviewState) : Event → Option (OverviewState × Option Event)
  | .overviewOpenedOrClosed isOpen => handled ⟨isOpen⟩
  | event => ignored self event

end OverviewState

namespace ConfigState

/-- `ConfigState::replicate`. -/
def replicate (self : ConfigState) : List Event := [.configLoaded self.failed]

/-- `ConfigState::apply`. -/
def apply (self : ConfigState) : Event → Option (ConfigState × Option Event)
  | .configLoaded failed => handled ⟨failed⟩
  | event => ignored self event

end ConfigState

namespace CastsState

/-- `CastsState::replicate`. -/
def replicate (self : CastsState) (order : List ℕ) : List Event :=
  [.castsChanged (HashMap.values self.casts order)]

/-- `CastsState::apply`. -/
def apply (self : CastsState) : Event → Option (CastsState × Option Event)
  | .castsChanged casts => handled ⟨HashMap.collect (casts.map fun c => (c.streamId, c))⟩
  | .castStartedOrChanged cast => handled ⟨self.casts.insert cast.streamId cast⟩
  | .castStopped streamId => do
    -- "stopped cast was missing from the map"
    let _ ← self.casts.lookup streamId
    handled ⟨self.casts.erase streamId⟩
  | event => ignored self event

end CastsState

/-! ## The state as a whole -/

structure EventStreamState where
  workspaces : WorkspacesState
  windows : WindowsState
  keyboardLayouts : KeyboardLayoutsState
  overview : OverviewState
  config : ConfigState
  casts : CastsState
  deriving DecidableEq

/-- In which order the hash maps of a state are iterated. -/
structure Orders where
  workspaces : List ℕ
  windows : List ℕ
  casts : List ℕ

/-- `let event = part.apply(event)?`: the rest runs only for an event the part ignores. -/
def passOn {σ τ : Type} (applied : Option (σ × Option Event)) (set : σ → τ)
    (rest : τ → Event → Option (τ × Option Event)) : Option (τ × Option Event) := do
  let (part, event) ← applied
  match event with
  | none => handled (set part)
  | some event => rest (set part) event

namespace EventStreamState

/-- `EventStreamState::default`. -/
def default : EventStreamState :=
  ⟨.default, .default, ⟨none⟩, ⟨false⟩, ⟨false⟩, ⟨∅⟩⟩

variable (self : EventStreamState)

/-- `EventStreamState::replicate`. -/
def replicate (orders : Orders) : List Event :=
  self.workspaces.replicate orders.workspaces ++ self.windows.replicate orders.windows ++
    self.keyboardLayouts.replicate ++ self.overview.replicate ++ self.config.replicate ++
    self.casts.replicate orders.casts

/-- `EventStreamState::apply`. -/
def apply (event : Event) : Option (EventStreamState × Option Event) :=
  passOn (self.workspaces.apply event) (fun part => { self with workspaces := part })
    fun self event => passOn (self.windows.apply event) (fun part => { self with windows := part })
    fun self event => passOn (self.keyboardLayouts.apply event)
      (fun part => { self with keyboardLayouts := part })
    fun self event => passOn (self.overview.apply event) (fun part => { self with overview := part })
    fun self event => passOn (self.config.apply event) (fun part => { self with config := part })
    fun self event => passOn (self.casts.apply event) (fun part => { self with casts := part })
    fun self event => ignored self event

/-- A client of the whole event stream. -/
def applyAll (events : List Event) : Option EventStreamState :=
  applyEvents apply self events

/-- What the server does: each refresh applies its events to the part it refreshes; a
screenshot changes nothing. -/
def applyToPart (event : Event) : Option EventStreamState :=
  match event with
  | .workspacesChanged _ | .workspaceUrgencyChanged _ _ | .workspaceActivated _ _
  | .workspaceActiveWindowChanged _ _ =>
    (self.workspaces.apply event).map fun p => { self with workspaces := p.1 }
  | .windowsChanged _ | .windowOpenedOrChanged _ | .windowClosed _ | .windowFocusChanged _
  | .windowFocusTimestampChanged _ _ | .windowUrgencyChanged _ _ | .windowLayoutsChanged _ =>
    (self.windows.apply event).map fun p => { self with windows := p.1 }
  | .keyboardLayoutsChanged _ | .keyboardLayoutSwitched _ =>
    (self.keyboardLayouts.apply event).map fun p => { self with keyboardLayouts := p.1 }
  | .overviewOpenedOrClosed _ =>
    (self.overview.apply event).map fun p => { self with overview := p.1 }
  | .configLoaded _ => (self.config.apply event).map fun p => { self with config := p.1 }
  | .castsChanged _ | .castStartedOrChanged _ | .castStopped _ =>
    (self.casts.apply event).map fun p => { self with casts := p.1 }
  | .screenshotCaptured _ => some self

variable {σ τ : Type}

/-- Where a part ignores no event, what comes after it does not matter. -/
theorem map_passOn (applied : Option (σ × Option Event)) (set : σ → τ)
    (rest : τ → Event → Option (τ × Option Event)) (h : ∀ p, applied = some p → p.2 = none) :
    applied.map (fun p => set p.1) = (passOn applied set rest).map Prod.fst := by
  cases applied with
  | none => rfl
  | some p =>
    obtain ⟨part, event⟩ := p
    obtain rfl : event = none := h _ rfl
    rfl

theorem passOn_ignored (part : σ) (event : Event) (set : σ → τ)
    (rest : τ → Event → Option (τ × Option Event)) :
    passOn (ignored part event) set rest = rest (set part) event := rfl

/-- An operation that looks something up and then handles the event. -/
theorem handled_of_bind {α σ : Type} {x : Option α} {f : α → σ} {p : σ × Option Event}
    (h : (x.bind fun a => handled (f a)) = some p) : p.2 = none := by
  obtain ⟨a, -, ha⟩ := bind_eq_some_iff.mp h
  cases ha
  rfl

variable (event : Event)

/-- **One part or all of them.**  An event is ignored by the parts it is not for. -/
theorem applyToPart_eq : self.applyToPart event = (self.apply event).map Prod.fst := by
  unfold apply
  cases event with
  | workspaceActivated | workspaceActiveWindowChanged =>
    rw [← map_passOn]
    · rfl
    · exact fun _ hp => handled_of_bind hp
  | windowClosed id =>
    rw [show self.workspaces.apply (.windowClosed id) = ignored _ _ from rfl, passOn_ignored]
    rw [← map_passOn]
    · rfl
    · exact fun _ hp => handled_of_bind hp
  | windowLayoutsChanged changes =>
    rw [show self.workspaces.apply (.windowLayoutsChanged changes) = ignored _ _ from rfl,
      passOn_ignored]
    rw [← map_passOn]
    · rfl
    · exact fun _ hp => handled_of_bind hp
  | keyboardLayoutSwitched idx =>
    rw [show self.workspaces.apply (.keyboardLayoutSwitched idx) = ignored _ _ from rfl,
      passOn_ignored,
      show self.windows.apply (.keyboardLayoutSwitched idx) = ignored _ _ from rfl,
      passOn_ignored]
    rw [← map_passOn]
    · rfl
    · exact fun _ hp => handled_of_bind hp
  | castStopped streamId =>
    rw [show self.workspaces.apply (.castStopped streamId) = ignored _ _ from rfl,
      passOn_ignored, show self.windows.apply (.castStopped streamId) = ignored _ _ from rfl,
      passOn_ignored,
      show self.keyboardLayouts.apply (.castStopped streamId) = ignored _ _ from rfl,
      passOn_ignored, show self.overview.apply (.castStopped streamId) = ignored _ _ from rfl,
      passOn_ignored, show self.config.apply (.castStopped streamId) = ignored _ _ from rfl,
      passOn_ignored]
    rw [← map_passOn]
    · rfl
    · exact fun _ hp => handled_of_bind hp
  | _ => rfl

theorem applyAll_append (events events' : List Event) :
    self.applyAll (events ++ events') =
      (self.applyAll events).bind fun self => self.applyAll events' :=
  applyEvents_append apply self events events'

theorem applyAll_singleton : self.applyAll [event] = (self.apply event).map Prod.fst := by
  unfold applyAll applyEvents applyEvents
  cases self.apply event <;> rfl

/-! ## Keys and ids -/

/-- In each map, what is stored under a key carries it as its id. -/
structure Keyed (state : EventStreamState) : Prop where
  workspaces : HashMap.Keyed Workspace.id state.workspaces.workspaces
  windows : HashMap.Keyed Window.id state.windows.windows
  casts : HashMap.Keyed Cast.streamId state.casts.casts

theorem keyed_default : default.Keyed :=
  ⟨keyed_empty _, keyed_empty _, keyed_empty _⟩

end EventStreamState

variable {event : Event} {rest : Option Event}

theorem WorkspacesState.apply_keyed {self self' : WorkspacesState}
    (h : HashMap.Keyed Workspace.id self.workspaces)
    (happly : self.apply event = some (self', rest)) :
    HashMap.Keyed Workspace.id self'.workspaces := by
  cases event with
  | workspacesChanged workspaces =>
    cases happly
    exact keyed_collect _ workspaces
  | workspaceUrgencyChanged id urgent =>
    cases happly
    refine h.mapValues fun ws => ?_
    split_ifs <;> rfl
  | workspaceActivated id focused =>
    obtain ⟨ws, -, hws⟩ := bind_eq_some_iff.mp happly
    cases hws
    exact h.mapValues fun _ => rfl
  | workspaceActiveWindowChanged workspaceId activeWindowId =>
    obtain ⟨ws, hws, heq⟩ := bind_eq_some_iff.mp happly
    cases heq
    exact h.insert (h workspaceId ws hws)
  | _ =>
    cases happly
    exact h

theorem WindowsState.changeLayouts_keyed {windows windows' : HashMap ℕ Window}
    {changes : List (ℕ × WindowLayout)} (h : HashMap.Keyed Window.id windows)
    (hchange : changeLayouts windows changes = some windows') :
    HashMap.Keyed Window.id windows' := by
  induction changes generalizing windows with
  | nil =>
    cases hchange
    exact h
  | cons change changes ih =>
    obtain ⟨id, update⟩ := change
    obtain ⟨win, hwin, hrest⟩ := bind_eq_some_iff.mp hchange
    exact ih (h.insert (v := { win with layout := update }) (h id win hwin)) hrest

theorem WindowsState.apply_keyed {self self' : WindowsState}
    (h : HashMap.Keyed Window.id self.windows) (happly : self.apply event = some (self', rest)) :
    HashMap.Keyed Window.id self'.windows := by
  cases event with
  | windowsChanged windows =>
    cases happly
    exact keyed_collect _ windows
  | windowOpenedOrChanged window =>
    cases happly
    split_ifs
    · refine (h.insert rfl).mapValues fun win => ?_
      split_ifs <;> rfl
    · exact h.insert rfl
  | windowClosed id =>
    obtain ⟨win, -, hwin⟩ := bind_eq_some_iff.mp happly
    cases hwin
    exact h.erase id
  | windowFocusChanged id =>
    cases happly
    exact h.mapValues fun _ => rfl
  | windowFocusTimestampChanged | windowUrgencyChanged =>
    cases happly
    refine h.mapValues fun win => ?_
    split_ifs <;> rfl
  | windowLayoutsChanged changes =>
    obtain ⟨windows, hwindows, heq⟩ := bind_eq_some_iff.mp happly
    cases heq
    exact changeLayouts_keyed h hwindows
  | _ =>
    cases happly
    exact h

theorem CastsState.apply_keyed {self self' : CastsState}
    (h : HashMap.Keyed Cast.streamId self.casts) (happly : self.apply event = some (self', rest)) :
    HashMap.Keyed Cast.streamId self'.casts := by
  cases event with
  | castsChanged casts =>
    cases happly
    exact keyed_collect _ casts
  | castStartedOrChanged cast =>
    cases happly
    exact h.insert rfl
  | castStopped streamId =>
    obtain ⟨cast, -, hcast⟩ := bind_eq_some_iff.mp happly
    cases hcast
    exact h.erase streamId
  | _ =>
    cases happly
    exact h

namespace EventStreamState

theorem applyToPart_keyed {self self' : EventStreamState} {event : Event} (h : self.Keyed)
    (happly : self.applyToPart event = some self') : self'.Keyed := by
  have workspaces : (self.workspaces.apply event).map
      (fun p => { self with workspaces := p.1 }) = some self' → self'.Keyed := by
    intro heq
    obtain ⟨⟨part, rest⟩, hpart, rfl⟩ := map_eq_some_iff.mp heq
    exact ⟨WorkspacesState.apply_keyed h.workspaces hpart, h.windows, h.casts⟩
  have windows : (self.windows.apply event).map
      (fun p => { self with windows := p.1 }) = some self' → self'.Keyed := by
    intro heq
    obtain ⟨⟨part, rest⟩, hpart, rfl⟩ := map_eq_some_iff.mp heq
    exact ⟨h.workspaces, WindowsState.apply_keyed h.windows hpart, h.casts⟩
  have casts : (self.casts.apply event).map
      (fun p => { self with casts := p.1 }) = some self' → self'.Keyed := by
    intro heq
    obtain ⟨⟨part, rest⟩, hpart, rfl⟩ := map_eq_some_iff.mp heq
    exact ⟨h.workspaces, h.windows, CastsState.apply_keyed h.casts hpart⟩
  cases event with
  | workspacesChanged | workspaceUrgencyChanged | workspaceActivated
  | workspaceActiveWindowChanged => exact workspaces happly
  | castsChanged | castStartedOrChanged | castStopped => exact casts happly
  | screenshotCaptured _ =>
    cases happly
    exact h
  | keyboardLayoutsChanged | overviewOpenedOrClosed | configLoaded =>
    cases happly
    exact ⟨h.workspaces, h.windows, h.casts⟩
  | keyboardLayoutSwitched idx =>
    obtain ⟨p, -, hp⟩ := map_eq_some_iff (x := self.keyboardLayouts.apply
      (.keyboardLayoutSwitched idx)).mp happly
    rw [← hp]
    exact ⟨h.workspaces, h.windows, h.casts⟩
  | _ => exact windows happly

/-! ## Replication -/

/-- The orders list the keys of the maps of the state. -/
structure Enumerates (orders : Orders) (state : EventStreamState) : Prop where
  workspaces : HashMap.Enumerates orders.workspaces state.workspaces.workspaces
  windows : HashMap.Enumerates orders.windows state.windows.windows
  casts : HashMap.Enumerates orders.casts state.casts.casts

/-- **Replaying `replicate()`** into the default state reproduces the state, part by part. -/
theorem applyAll_replicate {self : EventStreamState} (h : self.Keyed) {orders : Orders}
    (horders : Enumerates orders self) :
    default.applyAll (self.replicate orders) = some self := by
  obtain ⟨⟨workspaces⟩, ⟨windows⟩, ⟨keyboardLayouts⟩, overview, config, ⟨casts⟩⟩ := self
  have hworkspaces := collect_values h.workspaces horders.workspaces
  have hwindows := collect_values h.windows horders.windows
  have hcasts := collect_values h.casts horders.casts
  cases keyboardLayouts with
  | none =>
    show some (EventStreamState.mk ⟨HashMap.collect _⟩ ⟨HashMap.collect _⟩ ⟨none⟩ overview config
      ⟨HashMap.collect _⟩) = _
    rw [hworkspaces, hwindows, hcasts]
  | some layouts =>
    show some (EventStreamState.mk ⟨HashMap.collect _⟩ ⟨HashMap.collect _⟩ ⟨some layouts⟩ overview
      config ⟨HashMap.collect _⟩) = _
    rw [hworkspaces, hwindows, hcasts]

/-- The initial burst has at most six events. -/
theorem length_replicate_le (self : EventStreamState) (orders : Orders) :
    (self.replicate orders).length ≤ 6 := by
  unfold replicate KeyboardLayoutsState.replicate
  cases self.keyboardLayouts.keyboardLayouts <;>
    simp [WorkspacesState.replicate, WindowsState.replicate, OverviewState.replicate,
      ConfigState.replicate, CastsState.replicate]

end EventStreamState

end Tiri.Ipc
