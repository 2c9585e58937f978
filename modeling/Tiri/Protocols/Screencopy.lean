import Tiri.Compositor.Placement
import Tiri.Lib.MapSum

/-!
# wlr-screencopy

`src/protocols/screencopy.rs`, with the rendering of `src/niri.rs` and the handler of
`src/handlers/mod.rs` that answer the frames.

A `None` is a panic of the source.  What a rendering comes to, which `wl_output` resolves to which
output, and when an object that its client let go of is told of as destroyed are given with the
steps.
-/

namespace Tiri.Protocols.WlrScreencopy

open NiriIpc (Transform)
open Placement (transformSize)
open Utils (Point Size Rectangle)
open Utils.Rectangle (overlapsI32 saturatingAdd)

/-- The formats of buffers, as far as they are told apart. -/
inductive Format
  | xrgb8888
  | other
  deriving DecidableEq

/-- A `wl_buffer`: a dmabuf, a buffer of a `wl_shm_pool`, or neither. -/
inductive Buffer
  | dmabuf (format : Format) (width height : ℤ)
  | shm (format : Format) (width height stride len : ℤ)
  | unknown

/-- `zwlr_screencopy_frame_v1::Error`. -/
inductive Error
  | alreadyUsed
  | invalidBuffer

/-- What is sent to a frame. -/
inductive FrameEvent
  | buffer (format : Format) (width height stride : ℤ)
  | linuxDmabuf (format : Format) (width height : ℤ)
  | bufferDone
  | damage (rect : Rectangle ℤ)
  | flags (yInvert : Bool)
  | ready (tvSecHi tvSecLo tvNsec : ℕ)
  | failed
  | error (error : Error)

/-- An answer to a frame. -/
def FrameEvent.isAnswer : FrameEvent → Bool
  | .ready _ _ _ | .failed => true
  | _ => false

structure ScreencopyFrameInfo (Output : Type) where
  output : Output
  bufferSize : Size ℤ
  regionLoc : Point ℤ
  overlayCursor : Bool

inductive ScreencopyFrameState (Output : Type)
  | failed
  | pending (manager : ℕ) (info : ScreencopyFrameInfo Output) (copied : Bool)

structure Screencopy (Output : Type) where
  info : ScreencopyFrameInfo Output
  frame : ℕ
  buffer : Buffer
  withDamage : Bool
  submitted : Bool

structure ScreencopyCast (Output : Type) where
  output : Output
  deadline : ℕ

/-- `CAST_TIMEOUT`, in nanoseconds. -/
def castTimeout : ℕ := 10000000000

namespace ScreencopyCast

variable {Output : Type}

def new (output : Output) (now : ℕ) : ScreencopyCast Output := ⟨output, now + castTimeout⟩

variable (cast : ScreencopyCast Output)

def updateDeadline (now : ℕ) : ScreencopyCast Output :=
  { cast with deadline := now + castTimeout }

def updateOutput (output : Output) : ScreencopyCast Output :=
  { cast with output }

end ScreencopyCast

structure ScreencopyQueue (Output : Type) where
  pendingFrames : Finset ℕ
  screencopies : List (Screencopy Output)
  cast : Option (ScreencopyCast Output)

namespace ScreencopyQueue

variable {Output : Type} (queue : ScreencopyQueue Output)

def new : ScreencopyQueue Output := ⟨∅, [], none⟩

def isEmpty : Bool := decide (queue.pendingFrames = ∅) && queue.screencopies.isEmpty

def push (screencopy : Screencopy Output) (now : ℕ) : ScreencopyQueue Output :=
  { queue with
    screencopies := queue.screencopies ++ [screencopy]
    cast :=
      match queue.cast with
      | some cast =>
        if queue.screencopies.isEmpty then some (cast.updateOutput screencopy.info.output)
        else some cast
      -- The first request with damage marks this as a screencast.
      | none => some (.new screencopy.info.output now) }

def pop (now : ℕ) : Option (Screencopy Output × ScreencopyQueue Output) :=
  match queue.screencopies with
  | [] => none
  | rv :: screencopies =>
    match queue.cast with
    | none => none
    | some cast =>
      let cast :=
        match screencopies with
        | first :: _ => cast.updateOutput first.info.output
        | [] => cast.updateDeadline now
      some (rv, { queue with screencopies, cast := some cast })

def clearExpiredCast (now : ℕ) : ScreencopyQueue Output :=
  match queue.cast with
  | some cast =>
    if queue.screencopies.isEmpty && cast.deadline ≤ now then { queue with cast := none } else queue
  | none => queue

/-- The screencopies that a `retain` leaves. -/
def retained (keep : Screencopy Output → Bool) (now : ℕ) : ScreencopyQueue Output :=
  if queue.screencopies.isEmpty then queue
  else
    let screencopies := queue.screencopies.filter keep
    { queue with
      screencopies
      cast :=
        if screencopies.isEmpty then queue.cast.map fun cast => cast.updateDeadline now
        else queue.cast }

variable [DecidableEq Output]

def removeOutput (output : Output) (now : ℕ) : ScreencopyQueue Output :=
  queue.retained (fun screencopy => screencopy.info.output ≠ output) now

def removeFrame (frame now : ℕ) : ScreencopyQueue Output :=
  { queue with pendingFrames := queue.pendingFrames.erase frame }.retained
    (fun screencopy => screencopy.frame ≠ frame) now

end ScreencopyQueue

/-- The buffer is one for a frame of the size. -/
def Buffer.fits (buffer : Buffer) (size : Size ℤ) : Bool :=
  match buffer with
  | .dmabuf format width height => format = .xrgb8888 && width = size.w && height = size.h
  | .shm format width height stride len =>
    format = .xrgb8888 && width = size.w && height = size.h && stride = size.w * 4 &&
      len = stride * height
  | .unknown => false

/-- `intersection`, of whole pixels. -/
def intersection (r s : Rectangle ℤ) : Option (Rectangle ℤ) :=
  if overlapsI32 r s then
    let x := max r.loc.x s.loc.x
    let y := max r.loc.y s.loc.y
    some ⟨⟨x, y⟩, ⟨min (saturatingAdd r.loc.x r.size.w) (saturatingAdd s.loc.x s.size.w) - x,
        min (saturatingAdd r.loc.y r.size.h) (saturatingAdd s.loc.y s.size.h) - y⟩⟩
  else none

/-- The desired buffer parameters that a new frame is sent. -/
def bufferParameters (size : Size ℤ) (version : ℕ) : List FrameEvent :=
  [.buffer .xrgb8888 size.w size.h (size.w * 4)] ++
    if 3 ≤ version then [.linuxDmabuf .xrgb8888 size.w size.h, .bufferDone] else []

/-- An output that a `wl_output` can resolve to. -/
structure OutputInfo where
  currentMode : Option (Size ℤ)
  currentTransform : Transform
  currentScale : ℚ

/-- `change_current_state`, of an output. -/
def OutputInfo.changeCurrentState (info : OutputInfo) (mode : Option (Size ℤ))
    (transform : Option Transform) (scale : Option ℚ) : OutputInfo where
  currentMode := mode.or info.currentMode
  currentTransform := transform.getD info.currentTransform
  currentScale := scale.getD info.currentScale

/-- An event source for a sync point, with the screencopy that it submits. -/
structure Source (Output : Type) where
  screencopy : Screencopy Output
  yInvert : Bool
  timestamp : ℕ

/-- What a rendering comes to: a sync point, which may be one to wait for, or an error. -/
inductive RenderResult
  | ok (sync : Bool)
  | err

/-- `ScreencopyManagerState`, with the outputs, the frames, and what was sent to them. -/
structure World (Output : Type) where
  queues : HashMap ℕ (ScreencopyQueue Output)
  /-- The outputs that are connected. -/
  outputState : Finset Output
  /-- All outputs there were. -/
  outputs : HashMap Output OutputInfo
  nextManager : ℕ
  aliveManagers : Finset ℕ
  /-- The managers that were told of as destroyed. -/
  destroyedManagers : Finset ℕ
  nextFrame : ℕ
  /-- The data of the frames that were not told of as destroyed. -/
  frames : HashMap ℕ (ScreencopyFrameState Output)
  aliveFrames : Finset ℕ
  sources : List (Source Output)
  now : ℕ
  log : ℕ → List FrameEvent

namespace World

variable {Output : Type} (w : World Output)

/-- Events for a frame, which are lost once it is no longer alive. -/
def send (frame : ℕ) (events : List FrameEvent) : World Output :=
  if frame ∈ w.aliveFrames then
    { w with log := Function.update w.log frame (w.log frame ++ events) }
  else w

variable (manager : ℕ)

/-- `is_alive`, of a manager. -/
def isAlive : Bool := decide (manager ∈ w.aliveManagers)

/-! ## Screencopies -/

variable (screencopy : Screencopy Output)

/-- `drop`, of a screencopy. -/
def dropScreencopy : World Output :=
  if screencopy.submitted then w else w.send screencopy.frame [.failed]

def submit (yInvert : Bool) (timestamp : ℕ) : World Output :=
  let secs := timestamp / 1000000000
  let tvSecHi := secs / 2 ^ 32 % 2 ^ 32
  let tvSecLo := secs % 2 ^ 32
  let tvNsec := timestamp % 1000000000
  (w.send screencopy.frame [.flags yInvert, .ready tvSecHi tvSecLo tvNsec]).dropScreencopy
    { screencopy with submitted := true }

def submitAfterSync (yInvert : Bool) (sync : Bool) : World Output :=
  if sync then { w with sources := w.sources ++ [⟨screencopy, yInvert, w.now⟩] }
  else w.submit screencopy yInvert w.now

/-- A sync point is reached. -/
def synced (source : ℕ) : World Output :=
  match w.sources[source]? with
  | none => w
  | some s =>
    { w with sources := w.sources.eraseIdx source }.submit s.screencopy s.yInvert s.timestamp

/-! ## Managers -/

def bind : World Output :=
  { w with
    queues := w.queues.insert w.nextManager .new
    nextManager := w.nextManager + 1
    aliveManagers := insert w.nextManager w.aliveManagers }

def cleanupQueues : World Output :=
  { w with
    queues := HashMap.retain (fun manager queue => w.isAlive manager || !queue.isEmpty) w.queues }

/-- A queue that goes when its last object does. -/
def putQueue (queue : ScreencopyQueue Output) : World Output :=
  { w with
    queues :=
      if queue.isEmpty && !w.isAlive manager then w.queues.erase manager
      else w.queues.insert manager queue }

/-- A frame that fails at once. -/
def failFrame : World Output :=
  { w with
    nextFrame := w.nextFrame + 1
    frames := w.frames.insert w.nextFrame .failed
    aliveFrames := insert w.nextFrame w.aliveFrames }.send w.nextFrame [.failed]

/-- Create the frame. -/
def createFrame (info : ScreencopyFrameInfo Output) (version : ℕ) : Option (World Output) :=
  let frame := w.nextFrame
  let w := { w with
    nextFrame := frame + 1
    frames := w.frames.insert frame (.pending manager info false)
    aliveFrames := insert frame w.aliveFrames }
  let w := w.send frame (bufferParameters info.bufferSize version)
  match w.queues.lookup manager with
  | none => none
  | some queue =>
    some { w with
      queues := w.queues.insert manager
        { queue with pendingFrames := insert frame queue.pendingFrames } }

/-- `destroyed`, of a manager. -/
def managerDestroyed : World Output :=
  let w := { w with destroyedManagers := insert manager w.destroyedManagers }
  match w.queues.lookup manager with
  | none => w
  | some queue =>
    -- The queue goes if this was the last object.
    if queue.isEmpty then { w with queues := w.queues.erase manager } else w

def clearExpiredCasts : World Output :=
  { w with queues := HashMap.mapValues (fun queue => queue.clearExpiredCast w.now) w.queues }

variable [DecidableEq Output] (manager : ℕ)

/-- The `CaptureOutput` request. -/
def captureOutput (overlayCursor : ℤ) (output : Option Output) (version : ℕ) :
    Option (World Output) :=
  match output with
  | none => some w.failFrame
  | some output =>
    match (w.outputs.lookup output).bind OutputInfo.currentMode with
    | none => none
    | some bufferSize =>
      w.createFrame manager ⟨output, bufferSize, ⟨0, 0⟩, decide (overlayCursor ≠ 0)⟩ version

/-- The `CaptureOutputRegion` request, with the rounding of a rectangle that is scaled. -/
def captureOutputRegion (toPhysicalPreciseRound : Rectangle ℤ → ℚ → Rectangle ℤ) (manager : ℕ)
    (overlayCursor x y width height : ℤ) (output : Option Output) (version : ℕ) :
    Option (World Output) :=
  if width ≤ 0 ∨ height ≤ 0 then some w.failFrame
  else
    match output with
    | none => some w.failFrame
    | some output =>
      match w.outputs.lookup output with
      | none => none
      | some info =>
        match info.currentMode with
        | none => none
        | some size =>
          let outputRect : Rectangle ℤ := ⟨⟨0, 0⟩, transformSize info.currentTransform size⟩
          let rect : Rectangle ℤ := ⟨⟨x, y⟩, ⟨width, height⟩⟩
          let physicalRect := toPhysicalPreciseRound rect info.currentScale
          -- Clamp the captured region to the output.
          match intersection physicalRect outputRect with
          | none => some w.failFrame
          | some clampedRect =>
            w.createFrame manager ⟨output, transformSize info.currentTransform clampedRect.size,
              clampedRect.loc, decide (overlayCursor ≠ 0)⟩ version

/-! ## Frames -/

/-- `push`, of the managers. -/
def push (screencopy : Screencopy Output) : World Output :=
  match w.queues.lookup manager with
  | none => w.dropScreencopy screencopy
  | some queue => { w with queues := w.queues.insert manager (queue.push screencopy w.now) }

def renderForScreencopyWithoutDamage (screencopy : Screencopy Output) (result : RenderResult) :
    World Output :=
  if screencopy.info.output ∉ w.outputState then w.dropScreencopy screencopy
  else if manager ∉ w.queues then w.dropScreencopy screencopy
  else
    match result with
    | .ok sync => w.submitAfterSync screencopy false sync
    | .err => w.dropScreencopy screencopy

/-- `frame`, of the handler.  There is a result where there is a renderer. -/
def frame (manager : ℕ) (screencopy : Screencopy Output) (result : Option RenderResult) :
    World Output :=
  if screencopy.info.output ∉ w.outputState then w.dropScreencopy screencopy
  else if screencopy.withDamage then w.push manager screencopy
  else
    match result with
    | none => w.dropScreencopy screencopy
    | some result => w.renderForScreencopyWithoutDamage manager screencopy result

/-- The `Copy` and `CopyWithDamage` requests. -/
def copy (frame : ℕ) (buffer : Buffer) (withDamage : Bool) (result : Option RenderResult) :
    Option (World Output) :=
  match w.frames.lookup frame with
  | some (.pending manager info copied) =>
    if copied then some (w.send frame [.error .alreadyUsed])
    else if !buffer.fits info.bufferSize then some (w.send frame [.error .invalidBuffer])
    else
      let w := { w with frames := w.frames.insert frame (.pending manager info true) }
      let w := w.frame manager ⟨info, frame, buffer, withDamage, false⟩ result
      match w.queues.lookup manager with
      | none => none
      | some queue =>
        some (w.putQueue manager
          { queue with pendingFrames := queue.pendingFrames.erase frame })
  | _ => some w

/-- `destroyed`, of a frame. -/
def frameDestroyed (frame : ℕ) : World Output :=
  match w.frames.lookup frame with
  | some (.pending manager _ _) =>
    let w := { w with frames := w.frames.erase frame }
    match w.queues.lookup manager with
    | none => w
    | some queue =>
      let removed := queue.screencopies.filter fun screencopy => screencopy.frame = frame
      (removed.foldl dropScreencopy w).putQueue manager (queue.removeFrame frame w.now)
  | _ => { w with frames := w.frames.erase frame }

/-! ## Outputs -/

variable (output : Output)

/-- A queue whose front waits for the output.  There is a rendering where there is damage. -/
def renderQueue (manager : ℕ) (rendering : Option (List (Rectangle ℤ) × RenderResult)) :
    Option (World Output) :=
  match w.queues.lookup manager with
  | none => some w
  | some queue =>
    match queue.screencopies with
    | [] => some w
    | screencopy :: _ =>
      if screencopy.info.output ≠ output then some w
      else
        match rendering with
        | none => some w
        | some (damages, result) =>
          let w := w.send screencopy.frame (damages.map .damage)
          match queue.pop w.now with
          | none => none
          | some (screencopy, queue) =>
            let w := { w with queues := w.queues.insert manager queue }
            match result with
            | .ok sync => some (w.submitAfterSync screencopy false sync)
            | .err => some (w.dropScreencopy screencopy)

/-- `render_for_screencopy_with_damage`, with the order of the queues. -/
def renderForScreencopyWithDamage (rendering : ℕ → Option (List (Rectangle ℤ) × RenderResult))
    (order : List ℕ) : Option (World Output) :=
  (order.foldlM (fun w manager => renderQueue w output manager (rendering manager)) w).map
    cleanupQueues

/-- `remove_output`, of one queue. -/
def removeQueueOutput (manager : ℕ) : World Output :=
  match w.queues.lookup manager with
  | none => w
  | some queue =>
    let removed := queue.screencopies.filter fun screencopy => screencopy.info.output = output
    let w := removed.foldl dropScreencopy w
    { w with queues := w.queues.insert manager (queue.removeOutput output w.now) }

/-- `remove_output`, with the order of the queues. -/
def removeOutput (order : List ℕ) : Option (World Output) :=
  if output ∉ w.outputState then none
  else
    let w := { w with outputState := w.outputState.erase output }
    some (order.foldl (fun w manager => w.removeQueueOutput output manager) w).cleanupQueues

/-! ## Runs -/

/-- What can happen. -/
inductive Step (Output : Type)
  | bind
  | captureOutput (manager : ℕ) (overlayCursor : ℤ) (output : Option Output) (version : ℕ)
  | captureOutputRegion (manager : ℕ) (overlayCursor x y width height : ℤ)
    (output : Option Output) (version : ℕ)
  | destroyManager (manager : ℕ)
  | managerDestroyed (manager : ℕ)
  | copy (frame : ℕ) (buffer : Buffer) (withDamage : Bool) (result : Option RenderResult)
  | destroyFrame (frame : ℕ)
  | frameDestroyed (frame : ℕ)
  | addOutput (output : Output) (mode : Size ℤ) (transform : Transform) (scale : ℚ)
  | changeOutput (output : Output) (mode : Option (Size ℤ)) (transform : Option Transform)
    (scale : Option ℚ)
  | removeOutput (output : Output) (order : List ℕ)
  | redraw (output : Output) (rendering : ℕ → Option (List (Rectangle ℤ) × RenderResult))
    (order : List ℕ)
  | synced (source : ℕ)
  | clearExpiredCasts
  | elapse (duration : ℕ)

/-- A request comes for an object that is alive, one that is no longer alive is told of as destroyed
once, a `wl_output` resolves to an output there was, and the queues are gone through in some
order. -/
def Enabled : Step Output → Prop
  | .bind => True
  | .captureOutput manager _ output _ =>
    manager ∈ w.aliveManagers ∧ ∀ o ∈ output, o ∈ w.outputs
  | .captureOutputRegion manager _ _ _ _ _ output _ =>
    manager ∈ w.aliveManagers ∧ ∀ o ∈ output, o ∈ w.outputs
  | .destroyManager manager => manager ∈ w.aliveManagers
  | .managerDestroyed manager =>
    manager < w.nextManager ∧ manager ∉ w.aliveManagers ∧ manager ∉ w.destroyedManagers
  | .copy frame _ _ _ => frame ∈ w.aliveFrames
  | .destroyFrame frame => frame ∈ w.aliveFrames
  | .frameDestroyed frame => frame ∈ w.frames ∧ frame ∉ w.aliveFrames
  | .addOutput output _ _ _ => output ∉ w.outputState
  | .changeOutput output _ _ _ => output ∈ w.outputs
  | .removeOutput output order => output ∈ w.outputState ∧ HashMap.Lists order w.queues
  | .redraw _ _ order => HashMap.Lists order w.queues
  | .synced _ | .clearExpiredCasts | .elapse _ => True

instance : DecidablePred w.Enabled := by
  intro e
  cases e <;> unfold Enabled <;> infer_instance

variable (toPhysicalPreciseRound : Rectangle ℤ → ℚ → Rectangle ℤ)

/-- What comes of a step. -/
def handle : Step Output → Option (World Output)
  | .bind => some w.bind
  | .captureOutput manager overlayCursor output version =>
    w.captureOutput manager overlayCursor output version
  | .captureOutputRegion manager overlayCursor x y width height output version =>
    w.captureOutputRegion toPhysicalPreciseRound manager overlayCursor x y width height output
      version
  | .destroyManager manager => some { w with aliveManagers := w.aliveManagers.erase manager }
  | .managerDestroyed manager => some (w.managerDestroyed manager)
  | .copy frame buffer withDamage result => w.copy frame buffer withDamage result
  | .destroyFrame frame => some { w with aliveFrames := w.aliveFrames.erase frame }
  | .frameDestroyed frame => some (w.frameDestroyed frame)
  | .addOutput output mode transform scale =>
    some { w with
      outputState := insert output w.outputState
      outputs := w.outputs.insert output ⟨some mode, transform, scale⟩ }
  | .changeOutput output mode transform scale =>
    some { w with
      outputs :=
        match w.outputs.lookup output with
        | none => w.outputs
        | some info => w.outputs.insert output (info.changeCurrentState mode transform scale) }
  | .removeOutput output order => w.removeOutput output order
  | .redraw output rendering order => w.renderForScreencopyWithDamage output rendering order
  | .synced source => some (w.synced source)
  | .clearExpiredCasts => some w.clearExpiredCasts
  | .elapse duration => some { w with now := w.now + duration }

/-- A step that can happen. -/
def step (w : World Output) (e : Step Output) : Option (World Output) :=
  if w.Enabled e then w.handle toPhysicalPreciseRound e else none

omit [DecidableEq Output] in
/-- No outputs, no clients. -/
def start : World Output where
  queues := ∅
  outputState := ∅
  outputs := ∅
  nextManager := 0
  aliveManagers := ∅
  destroyedManagers := ∅
  nextFrame := 0
  frames := ∅
  aliveFrames := ∅
  sources := []
  now := 0
  log := fun _ => []

end World

end Tiri.Protocols.WlrScreencopy
