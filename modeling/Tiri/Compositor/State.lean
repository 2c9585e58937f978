import Tiri.Lib.EventLoop
import Tiri.Lib.HashMap
import Tiri.Lib.Run

/-!
# Redrawing outputs and locking the session

`src/niri.rs`, `src/backend/tty.rs`, `src/utils/vblank_throttle.rs`.  Every output goes through
the states of `RedrawState`; the redraws of all outputs drive the session lock, whose state is
`LockState`.  Both keep timers with the event loop and hold their tokens.

The functions return `none` where the source panics (`unreachable!()`, `assert!`, `unwrap()`).
-/

namespace Tiri.Compositor

/-- The callbacks that are registered with the event loop. -/
inductive Callback (Output : Type)
  /-- Set by `queue_estimated_vblank_timer`. -/
  | estimatedVBlank (output : Output)
  /-- Set by `VBlankThrottle::throttle`; it calls `on_vblank` again. -/
  | throttledVBlank (sequence : ℕ)
  /-- Set by `lock`. -/
  | lockDeadline

inductive RedrawState (Token : Type)
  | idle
  | queued
  | waitingForVBlank (redrawNeeded : Bool)
  | waitingForEstimatedVBlank (token : Token)
  | waitingForEstimatedVBlankAndQueued (token : Token)

inductive LockRenderState
  | unlocked
  | locked
  deriving DecidableEq

/-- `ExtSessionLockV1`, with the client it belongs to. -/
structure ExtSessionLock where
  id : ℕ
  client : ℕ

/-- `SessionLocker`: the confirmation that a lock request waits for. -/
structure SessionLocker where
  extSessionLock : ExtSessionLock

inductive LockState (Token : Type)
  | unlocked
  | waitingForSurfaces (confirmation : SessionLocker) (deadlineToken : Token)
  | locking (confirmation : SessionLocker)
  | locked (lock : ExtSessionLock)

structure LockSurface where
  surface : ℕ
  client : ℕ

structure VBlankThrottle (Token : Type) where
  lastVBlankTimestamp : Option ℕ
  throttleTimerToken : Option Token

structure OutputState (Token : Type) where
  /-- `frame_clock.refresh_interval()`. -/
  refreshInterval : Option ℕ
  redrawState : RedrawState Token
  unfinishedAnimationsRemain : Bool
  lastDrmSequence : Option ℕ
  vblankThrottle : VBlankThrottle Token
  frameCallbackSequence : UInt32
  lockRenderState : LockRenderState
  lockSurface : Option LockSurface

/-- The kind of `Backend`. -/
inductive Backend
  | tty
  | winit
  | headless

/-- `Niri`, as far as redrawing and locking go. -/
structure Niri (L Token Output : Type) where
  backend : Backend
  eventLoop : L
  outputState : HashMap Output (OutputState Token)
  monitorsActive : Bool
  lockState : LockState Token
  /-- The surfaces for which `is_mapped` holds. -/
  mapped : Finset ℕ
  /-- The locks whose client has died. -/
  dead : Finset ℕ
  /-- The locks whose confirmation was granted, each with the answer to whether the lock render
  state of every output was `Locked` at that moment. -/
  granted : List (ExtSessionLock × Bool)
  /-- The locks that clients have requested. -/
  requested : Finset ℕ

/-! ## `RedrawState` and `VBlankThrottle` -/

namespace RedrawState

variable {Token : Type}

def queueRedraw : RedrawState Token → RedrawState Token
  | idle => queued
  | waitingForEstimatedVBlank token => waitingForEstimatedVBlankAndQueued token
  | queued => queued
  | waitingForEstimatedVBlankAndQueued token => waitingForEstimatedVBlankAndQueued token
  | waitingForVBlank _ => waitingForVBlank true

/-- The states from which `redraw_queued_outputs` takes an output. -/
def isQueued : RedrawState Token → Bool
  | queued => true
  | waitingForEstimatedVBlankAndQueued _ => true
  | _ => false

/-- The token of the estimated-vblank timer. -/
def token : RedrawState Token → Option Token
  | waitingForEstimatedVBlank t => some t
  | waitingForEstimatedVBlankAndQueued t => some t
  | _ => none

/-- The state leads to a redraw. -/
def leadsToRedraw : RedrawState Token → Bool
  | queued => true
  | waitingForEstimatedVBlankAndQueued _ => true
  | waitingForVBlank redrawNeeded => redrawNeeded
  | _ => false

end RedrawState

section Functions

variable {L Token Output : Type} [EventLoop L Token (Callback Output)]

/-- `VBlankThrottle::new`. -/
def VBlankThrottle.new : VBlankThrottle Token :=
  { lastVBlankTimestamp := none, throttleTimerToken := none }

variable (self : VBlankThrottle Token)

/-- The vblank came in less than half of the refresh interval. -/
def VBlankThrottle.tooEarly (refreshInterval : Option ℕ) (timestamp : ℕ) : Bool :=
  match self.lastVBlankTimestamp, refreshInterval with
  | some last, some refresh => decide (timestamp - last < refresh / 2)
  | _, _ => false

/-- `VBlankThrottle::throttle`: whether the vblank is throttled, for a callback that passes the
sequence on. -/
def VBlankThrottle.throttle (eventLoop : L) (refreshInterval : Option ℕ) (timestamp sequence : ℕ) :
    Bool × VBlankThrottle Token × L :=
  let eventLoop := self.throttleTimerToken.elim eventLoop (EventLoop.remove eventLoop)
  if self.tooEarly refreshInterval timestamp then
    let (token, eventLoop) :=
      EventLoop.insertSource eventLoop (.throttledVBlank sequence : Callback Output)
    (true, { self with throttleTimerToken := some token }, eventLoop)
  else
    (false, { lastVBlankTimestamp := some timestamp, throttleTimerToken := none }, eventLoop)

namespace Niri

variable [DecidableEq Output]

/-! ## Queueing redraws -/

variable (self : Niri L Token Output)

/-- Replace the state of an output. -/
def setOutput (output : Output) (state : OutputState Token) : Niri L Token Output :=
  { self with outputState := self.outputState.insert output state }

omit [EventLoop L Token (Callback Output)] [DecidableEq Output] in
def queueRedrawAll : Niri L Token Output :=
  { self with
    outputState := HashMap.mapValues
      (fun state => { state with redrawState := state.redrawState.queueRedraw }) self.outputState }

def queueRedraw (output : Output) : Option (Niri L Token Output) := do
  let state ← self.outputState.lookup output
  return self.setOutput output { state with redrawState := state.redrawState.queueRedraw }

/-! ## The session lock -/

def isLocked : Bool :=
  match self.lockState with
  | .unlocked => false
  | .waitingForSurfaces _ _ => false
  | .locking _ => true
  | .locked _ => true

/-- The lock render state of every output is `Locked`. -/
def allLocked : Bool :=
  HashMap.all (fun state => state.lockRenderState == .locked) self.outputState

/-- `confirmation.lock()`, and the lock is held. -/
def confirm (confirmation : SessionLocker) : Niri L Token Output :=
  { self with
    granted := self.granted ++ [(confirmation.extSessionLock, self.allLocked)]
    lockState := .locked confirmation.extSessionLock }

def lock (confirmation : SessionLocker) : Niri L Token Output :=
  match self.lockState with
  | .waitingForSurfaces _ _ => self
  | .locking _ => self
  | .locked lock =>
    -- Only a client that died can be replaced.
    if lock.id ∉ self.dead then self else self.confirm confirmation
  | .unlocked =>
    if HashMap.isEmpty self.outputState then self.confirm confirmation
    else
      let (deadlineToken, eventLoop) := EventLoop.insertSource self.eventLoop .lockDeadline
      { self with eventLoop, lockState := .waitingForSurfaces confirmation deadlineToken }

def continueToLocking : Niri L Token Output :=
  match self.lockState with
  | .waitingForSurfaces confirmation deadlineToken =>
    let self := { self with eventLoop := EventLoop.remove self.eventLoop deadlineToken }
    if HashMap.isEmpty self.outputState then self.confirm confirmation
    else { self with lockState := .locking confirmation }.queueRedrawAll
  | _ => self

def maybeContinueToLocking : Niri L Token Output :=
  match self.lockState with
  | .waitingForSurfaces _ _ =>
    if HashMap.all (fun state => state.lockSurface.any fun surface => surface.surface ∈ self.mapped)
        self.outputState then
      self.continueToLocking
    else self
  | _ => self

def unlock : Niri L Token Output :=
  let eventLoop :=
    match self.lockState with
    | .waitingForSurfaces _ deadlineToken => EventLoop.remove self.eventLoop deadlineToken
    | _ => self.eventLoop
  { self with
    eventLoop
    lockState := .unlocked
    outputState := HashMap.mapValues (fun state => { state with lockSurface := none })
      self.outputState }.queueRedrawAll

def newLockSurface (surface : LockSurface) (output : Output) : Niri L Token Output :=
  let lock? :=
    match self.lockState with
    | .unlocked => none
    | .waitingForSurfaces confirmation _ => some confirmation.extSessionLock
    | .locking confirmation => some confirmation.extSessionLock
    | .locked lock => some lock
  match lock?, self.outputState.lookup output with
  | some lock, some state =>
    if lock.client = surface.client then
      self.setOutput output { state with lockSurface := some surface }
    else self
  | _, _ => self

/-- The part of the commit handler for the lock surface of an output. -/
def commitLockSurface (output : Output) : Option (Niri L Token Output) :=
  match self.lockState with
  | .waitingForSurfaces _ _ => some self.maybeContinueToLocking
  | _ => self.queueRedraw output

/-- If all requirements are met, a lock that is under way is confirmed: the end of `redraw` and
of `remove_output`. -/
def tryConfirm (confirmation : SessionLocker) : Niri L Token Output :=
  if self.allLocked then self.confirm confirmation else self

/-! ## Powering the monitors -/

def deactivateMonitors : Niri L Token Output :=
  { self with monitorsActive := false }

def activateMonitors : Niri L Token Output :=
  if self.monitorsActive then self else { self with monitorsActive := true }.queueRedrawAll

/-- `SessionLockHandler::unlock`: the client's unlock. -/
def clientUnlock : Niri L Token Output :=
  self.unlock.activateMonitors

/-- The end of `SessionEvent::ActivateSession`. -/
def resumeSession : Niri L Token Output :=
  { self with monitorsActive := true }.queueRedrawAll

/-! ## Adding and removing outputs -/

def addOutput (output : Output) (refreshInterval : Option ℕ) : Option (Niri L Token Output) :=
  let state : OutputState Token :=
    { refreshInterval
      redrawState := .idle
      unfinishedAnimationsRemain := false
      lastDrmSequence := none
      vblankThrottle := .new
      frameCallbackSequence := 0
      -- Nothing is rendered yet, which is as good as locked.
      lockRenderState := if self.isLocked then .locked else .unlocked
      lockSurface := none }
  if (self.outputState.lookup output).isSome then none else some (self.setOutput output state)

def removeOutput (output : Output) : Option (Niri L Token Output) := do
  let state ← self.outputState.lookup output
  let eventLoop := state.redrawState.token.elim self.eventLoop (EventLoop.remove self.eventLoop)
  let self := { self with outputState := self.outputState.erase output, eventLoop }
  match self.lockState with
  | .locking confirmation => return self.tryConfirm confirmation
  | _ => return self.maybeContinueToLocking

/-! ## The TTY backend -/

inductive RenderResult
  | submitted
  | noDamage
  | skipped
  deriving DecidableEq

/-- What happens to a frame in `Tty::render`. -/
inductive Frame
  /-- The device or the surface is missing, the device is inactive or there is no renderer. -/
  | notRendered
  /-- `render_frame` fails. -/
  | renderError
  /-- The frame is empty. -/
  | empty
  /-- `queue_frame` fails. -/
  | queueError
  /-- `queue_frame` succeeds. -/
  | submitted
  deriving DecidableEq

def queueEstimatedVBlankTimer (output : Output) : Option (Niri L Token Output) := do
  let state ← self.outputState.lookup output
  match state.redrawState with
  | .idle => none
  | .waitingForVBlank _ => none
  | .waitingForEstimatedVBlank token =>
    return self.setOutput output { state with redrawState := .waitingForEstimatedVBlank token }
  | .waitingForEstimatedVBlankAndQueued token =>
    return self.setOutput output { state with redrawState := .waitingForEstimatedVBlank token }
  | .queued =>
    let (token, eventLoop) := EventLoop.insertSource self.eventLoop (.estimatedVBlank output)
    return { self with eventLoop }.setOutput output
      { state with redrawState := .waitingForEstimatedVBlank token }

/-- The branch of `Tty::render` for a frame that was queued. -/
def frameQueued (output : Output) : Option (Niri L Token Output) := do
  let state ← self.outputState.lookup output
  let self ← (match state.redrawState with
    | .idle => none
    | .queued => some self
    | .waitingForVBlank _ => none
    | .waitingForEstimatedVBlank _ => none
    | .waitingForEstimatedVBlankAndQueued token =>
      some { self with eventLoop := EventLoop.remove self.eventLoop token })
  return self.setOutput output { state with
    redrawState := .waitingForVBlank false
    frameCallbackSequence := state.frameCallbackSequence + 1 }

/-- `Tty::render`. -/
def ttyRender (output : Output) (frame : Frame) : Option (RenderResult × Niri L Token Output) :=
  match frame with
  | .notRendered => some (.skipped, self)
  | .renderError => (self.queueEstimatedVBlankTimer output).map (.skipped, ·)
  | .empty => (self.queueEstimatedVBlankTimer output).map (.noDamage, ·)
  | .queueError => (self.queueEstimatedVBlankTimer output).map (.skipped, ·)
  | .submitted => (self.frameQueued output).map (.submitted, ·)

/-- `Winit::render` and `Headless::render`, after the frame was rendered. -/
def nestedRender (output : Output) (result : RenderResult) :
    Option (RenderResult × Niri L Token Output) := do
  let state ← self.outputState.lookup output
  match state.redrawState with
  | .queued =>
    return (result, self.setOutput output { state with
      redrawState := .idle
      frameCallbackSequence := state.frameCallbackSequence + 1 })
  | _ => none

/-- `Backend::render`. -/
def render (output : Output) (frame : Frame) : Option (RenderResult × Niri L Token Output) :=
  match self.backend with
  | .tty => self.ttyRender output frame
  | .winit => self.nestedRender output (if frame = .empty then .noDamage else .submitted)
  | .headless => self.nestedRender output .submitted

/-- `send_frame_callbacks` touches no state; the end of `on_vblank` and
`on_estimated_vblank_timer`. -/
def continueRedrawing (output : Output) (redrawNeeded : Bool) : Option (Niri L Token Output) := do
  let state ← self.outputState.lookup output
  if redrawNeeded || state.unfinishedAnimationsRemain then self.queueRedraw output else some self

/-- `on_vblank`, for the output found for its node and CRTC; `none` where the device, the
surface or the output is missing. -/
def onVBlank (target : Option Output) (now presentationTime : ℕ) (sequence : ℕ) :
    Option (Niri L Token Output) :=
  match target with
  | none => some self
  | some output =>
    match self.outputState.lookup output with
    | none => some self
    | some state =>
      let time := if presentationTime = 0 then now else presentationTime
      let (throttled, vblankThrottle, eventLoop) :=
        state.vblankThrottle.throttle self.eventLoop state.refreshInterval time sequence
      let self := { self with eventLoop }
      let state := { state with vblankThrottle }
      if throttled then some (self.setOutput output state)
      else
        let redrawNeeded :=
          match state.redrawState with
          | .waitingForVBlank redrawNeeded => redrawNeeded
          | _ => true
        (self.setOutput output { state with
          redrawState := .idle
          lastDrmSequence := some sequence }).continueRedrawing output redrawNeeded

def onEstimatedVBlankTimer (output : Output) : Option (Niri L Token Output) :=
  match self.outputState.lookup output with
  | none => some self
  | some state =>
    let state := { state with frameCallbackSequence := state.frameCallbackSequence + 1 }
    match state.redrawState with
    | .idle => none
    | .queued => none
    | .waitingForVBlank _ => none
    | .waitingForEstimatedVBlank _ =>
      (self.setOutput output { state with redrawState := .idle }).continueRedrawing output false
    | .waitingForEstimatedVBlankAndQueued _ =>
      -- The timer fired just in front of a redraw.
      some (self.setOutput output { state with redrawState := .queued })

/-! ## Redrawing -/

/-- The update of the redraw state in `redraw` after a render that was skipped. -/
def afterSkipped (redrawState : RedrawState Token) : RedrawState Token :=
  match redrawState with
  | .waitingForEstimatedVBlank token => .waitingForEstimatedVBlank token
  | .waitingForEstimatedVBlankAndQueued token => .waitingForEstimatedVBlank token
  | _ => .idle

/-- The lock render state of an output after a render: it changes on a successful render, and
while the monitors are inactive, as they have no framebuffer then. -/
def lockRenderStateAfter (res : RenderResult) (lockRenderState : LockRenderState) :
    LockRenderState :=
  if res ≠ .skipped ∨ self.monitorsActive = false then
    if self.isLocked then .locked else .unlocked
  else lockRenderState

/-- The lock after the redraw of an output that is now in the given lock render state. -/
def proceedLocking (lockRenderState : LockRenderState) : Niri L Token Output :=
  match self.lockState with
  | .locking confirmation =>
    -- A locked frame was needed on this output.
    if lockRenderState = .unlocked then { self with lockState := .unlocked }.unlock
    else self.tryConfirm confirmation
  | _ => self

/-- `redraw`; `animating` is what the layout and the user interfaces report. -/
def redraw (output : Output) (frame : Frame) (animating : Bool) : Option (Niri L Token Output) := do
  let state ← self.outputState.lookup output
  -- `assert!(matches!(..))`.
  guard state.redrawState.isQueued
  let (res, self) ←
    (if self.monitorsActive then
      (self.setOutput output { state with unfinishedAnimationsRemain := animating }).render
        output frame
    else some (.skipped, self))
  let state ← self.outputState.lookup output
  let lockRenderState := self.lockRenderStateAfter res state.lockRenderState
  return (self.setOutput output { state with
    redrawState := if res = .skipped then afterSkipped state.redrawState else state.redrawState
    lockRenderState }).proceedLocking lockRenderState

end Niri

/-! ## Runs -/

/-- What happens to the compositor.  Where a function of the source queues more redraws than it
does here, these are events of their own. -/
inductive Event (Token Output : Type)
  | queueRedraw (output : Output)
  | queueRedrawAll
  /-- `redraw_queued_outputs` gets to the output. -/
  | redraw (output : Output) (frame : Niri.Frame) (animating : Bool)
  | vblank (target : Option Output) (now presentationTime sequence : ℕ)
  /-- The source with the token is ready; what a vblank finds if it is a throttled one. -/
  | fire (token : Token) (target : Option Output) (now : ℕ)
  | addOutput (output : Output) (refreshInterval : Option ℕ)
  | removeOutput (output : Output)
  | lock (confirmation : SessionLocker)
  | clientUnlock
  /-- The client of a lock dies. -/
  | lockDied (id : ℕ)
  | newLockSurface (surface : LockSurface) (output : Output)
  /-- A commit on a surface, after which it is mapped or not, and the output that the commit
  handler finds for it. -/
  | commit (surface : ℕ) (isMapped : Bool) (output : Option Output)
  | deactivateMonitors
  | activateMonitors
  | resumeSession

namespace Niri

variable [DecidableEq Output]

variable (self : Niri L Token Output)

/-- The event can happen. -/
def enabled : Event Token Output → Bool
  | .queueRedraw output => (self.outputState.lookup output).isSome
  | .redraw output _ _ => (self.outputState.lookup output).any fun state =>
      state.redrawState.isQueued
  | .fire token _ _ => (EventLoop.registered self.eventLoop token).isSome
  | .addOutput output _ => (self.outputState.lookup output).isNone
  | .removeOutput output => (self.outputState.lookup output).isSome
  | .lock confirmation => decide (confirmation.extSessionLock.id ∉ self.requested)
  | _ => true

/-- The callback of a source that is ready, and was one-shot. -/
def fire (token : Token) (target : Option Output) (now : ℕ) : Option (Niri L Token Output) := do
  let callback ← EventLoop.registered self.eventLoop token
  let self := { self with eventLoop := EventLoop.remove self.eventLoop token }
  match callback with
  | .estimatedVBlank output => self.onEstimatedVBlankTimer output
  | .throttledVBlank sequence => self.onVBlank target now 0 sequence
  | .lockDeadline => return self.continueToLocking

/-- A commit on a surface. -/
def commit (surface : ℕ) (isMapped : Bool) (output : Option Output) :
    Option (Niri L Token Output) :=
  let self := { self with
    mapped := if isMapped then insert surface self.mapped else self.mapped.erase surface }
  match output with
  | none => some self
  | some output =>
    if (self.outputState.lookup output).any fun state =>
        state.lockSurface.any fun lockSurface => lockSurface.surface = surface then
      self.commitLockSurface output
    else some self

/-- What the event does. -/
def apply : Event Token Output → Option (Niri L Token Output)
  | .queueRedraw output => self.queueRedraw output
  | .queueRedrawAll => some self.queueRedrawAll
  | .redraw output frame animating => self.redraw output frame animating
  | .vblank target now presentationTime sequence =>
    self.onVBlank target now presentationTime sequence
  | .fire token target now => self.fire token target now
  | .addOutput output refreshInterval => self.addOutput output refreshInterval
  | .removeOutput output => self.removeOutput output
  | .lock confirmation =>
    some { self.lock confirmation with
      requested := insert confirmation.extSessionLock.id self.requested }
  | .clientUnlock => some self.clientUnlock
  | .lockDied id => some { self with dead := insert id self.dead }
  | .newLockSurface surface output => some (self.newLockSurface surface output)
  | .commit surface isMapped output => self.commit surface isMapped output
  | .deactivateMonitors => some self.deactivateMonitors
  | .activateMonitors => some self.activateMonitors
  | .resumeSession => some self.resumeSession

/-- One event that can happen and does not panic. -/
def step (event : Event Token Output) : Option (Niri L Token Output) :=
  if self.enabled event then self.apply event else none

/-- No output is connected, and the session is not locked. -/
def init (backend : Backend) (eventLoop : L) : Niri L Token Output where
  backend
  eventLoop
  outputState := ∅
  monitorsActive := true
  lockState := .unlocked
  mapped := ∅
  dead := ∅
  granted := []
  requested := ∅

end Niri

end Functions

end Tiri.Compositor
