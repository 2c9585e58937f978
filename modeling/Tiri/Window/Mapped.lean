import Tiri.Lib.Run
import Tiri.Window.Toplevel

/-!
# Mapped windows

`src/window/mapped.rs`: how a mapped window requests sizes and states from its client, and what
it makes of the commits that answer.
-/

namespace Tiri.Window

open Layout (SizingMode)

inductive RequestSizeOnce
  | waitingForConfigure
  | waitingForCommit (serial : ℕ)
  | useWindowSize
  deriving DecidableEq

/-- A configure is sent under the serial. -/
def RequestSizeOnce.afterConfigure (serial : ℕ) : RequestSizeOnce → RequestSizeOnce
  | waitingForConfigure => waitingForCommit serial
  | once => once

/-- The client commits to a configure. -/
def RequestSizeOnce.afterCommit (commitSerial : ℕ) : RequestSizeOnce → RequestSizeOnce
  | waitingForCommit serial =>
    if serial ≤ commitSerial then useWindowSize else waitingForCommit serial
  | once => once

inductive InteractiveResize (Data : Type)
  | ongoing (data : Data)
  | waitingForLastConfigure (data : Data)
  | waitingForLastCommit (data : Data) (serial : ℕ)

/-- `Mapped`, as far as its requests to the client go. -/
structure Mapped (T Transaction Data : Type) where
  toplevel : T
  /-- `window.geometry().size`. -/
  geometry : Layout.ISize
  needsConfigure : Bool
  animateNextConfigure : Bool
  animateSerials : List ℕ
  requestSizeOnce : Option RequestSizeOnce
  transactionForNextConfigure : Option Transaction
  pendingTransactions : List (ℕ × Transaction)
  interactiveResize : Option (InteractiveResize Data)
  isWindowedFullscreen : Bool
  isPendingWindowedFullscreen : Bool
  uncommittedWindowedFullscreen : List (ℕ × Bool)
  isMaximized : Bool
  isPendingMaximized : Bool
  uncommittedMaximized : List (ℕ × Bool)

/-- `sizing_mode` by the flags of a state. -/
def ToplevelState.sizingMode (state : ToplevelState) : SizingMode :=
  if state.fullscreen then .fullscreen
  else if state.maximized then .maximized
  else .normal

/-- `retain_mut` over the values that were sent and not committed: those whose serial is no newer
than the commit take effect. -/
def commitValues (commitSerial : ℕ) : List (ℕ × Bool) → Bool → List (ℕ × Bool) × Bool
  | [], value => ([], value)
  | (serial, sent) :: rest, value =>
    if serial ≤ commitSerial then commitValues commitSerial rest sent
    else
      let (rest, value) := commitValues commitSerial rest value
      ((serial, sent) :: rest, value)

namespace Mapped

variable {T Transaction Data : Type} [ToplevelSurface T]

variable (self : Mapped T Transaction Data)

/-- What there is to know of the surface. -/
def data : ToplevelData := ToplevelSurface.data self.toplevel

def withPendingState (f : ToplevelState → ToplevelState) : Mapped T Transaction Data :=
  { self with toplevel := ToplevelSurface.withPendingState self.toplevel f }

/-! ## Sizing modes -/

def sizingMode : SizingMode :=
  if self.isWindowedFullscreen then
    if self.isMaximized then .maximized else .normal
  else
    match self.data.committed with
    | none => .normal
    | some configure => configure.state.sizingMode

def pendingSizingMode : SizingMode :=
  if self.isPendingWindowedFullscreen then
    if self.isPendingMaximized then .maximized else .normal
  else self.data.pendingState.sizingMode

/-- `Mapped::new`. -/
def new (toplevel : T) (geometry : Layout.ISize) : Mapped T Transaction Data :=
  let rv : Mapped T Transaction Data :=
    { toplevel
      geometry
      needsConfigure := false
      animateNextConfigure := false
      animateSerials := []
      requestSizeOnce := none
      transactionForNextConfigure := none
      pendingTransactions := []
      interactiveResize := none
      isWindowedFullscreen := false
      isPendingWindowedFullscreen := false
      uncommittedWindowedFullscreen := []
      isMaximized := false
      isPendingMaximized := false
      uncommittedMaximized := [] }
  { rv with
    isMaximized := rv.sizingMode = .maximized
    isPendingMaximized := rv.pendingSizingMode = .maximized }

/-! ## Requests -/

def requestSize (size : Layout.ISize) (mode : SizingMode) (animate : Bool)
    (transaction : Option Transaction) : Mapped T Transaction Data :=
  -- Going into real fullscreen resets windowed fullscreen.
  let self :=
    if mode = .fullscreen then
      { self with
        isPendingWindowedFullscreen := false
        needsConfigure := self.needsConfigure || self.isWindowedFullscreen }
    else self
  let isPendingMaximized := decide (mode = .maximized)
  let self := { self with
    isPendingMaximized
    needsConfigure := self.needsConfigure || self.isMaximized != isPendingMaximized }
  let changed := decide (self.data.pendingState.size ≠ some size)
  let fullscreen := mode = .fullscreen || self.isPendingWindowedFullscreen
  let self := self.withPendingState fun state => { state with
    size := some size
    fullscreen
    maximized := !fullscreen && decide (mode = .maximized) }
  { self with
    animateNextConfigure := self.animateNextConfigure || (changed && animate)
    requestSizeOnce := none
    transactionForNextConfigure := transaction.or self.transactionForNextConfigure }

/-- `with_toplevel_last_uncommitted_configure`: the configure that is passed on. -/
def lastUncommittedConfigure : Option ToplevelConfigure :=
  match self.data.pendingConfigures.getLast? with
  | some lastPending => some lastPending
  | none =>
    match self.data.lastAcked with
    | some lastAcked =>
      if self.data.committed.any fun committed => lastAcked.serial ≤ committed.serial then none
      else some lastAcked
    | none => none

/-- The configure requests the size once, in the states that the window asks for. -/
def matchesOnce (size : Layout.ISize) (state : ToplevelState) : Bool :=
  let sameSize := state.size.getD ⟨0, 0⟩ = size
  let sameFullscreen := state.fullscreen = self.isPendingWindowedFullscreen
  let sameMaximized := !state.maximized
  sameSize && sameFullscreen && sameMaximized

/-- The serial of the last configure, where it was not committed to and requests the size. -/
def alreadySent (size : Layout.ISize) : Option ℕ :=
  (self.lastUncommittedConfigure.filter fun configure =>
    self.matchesOnce size configure.state).map ToplevelConfigure.serial

/-- What is left to wait for when the size was already sent under a serial. -/
def onceAfterSent (serial : ℕ) : RequestSizeOnce :=
  match self.data.committed with
  | some current =>
    -- Sent, but the client has not committed in response.
    if ¬ serial ≤ current.serial then .waitingForCommit serial
    -- Committed to: use the current size right away.
    else .useWindowSize
  | none => .useWindowSize

/-- `request_size_once`. -/
def requestSizeOnceOf (size : Layout.ISize) (animate : Bool) : Mapped T Transaction Data :=
  let self := { self with
    transactionForNextConfigure := none
    isPendingMaximized := false
    needsConfigure := self.needsConfigure || self.isMaximized != false }
  match self.alreadySent size with
  | some serial => { self with requestSizeOnce := some (self.onceAfterSent serial) }
  | none =>
    let changed := decide (self.data.pendingState.size ≠ some size)
    let fullscreen := self.isPendingWindowedFullscreen
    let self := self.withPendingState fun state => { state with
      size := some size
      fullscreen := fullscreen && state.fullscreen
      maximized := false }
    { self with
      animateNextConfigure := self.animateNextConfigure || (changed && animate)
      requestSizeOnce := some .waitingForConfigure }

def requestWindowedFullscreen (value : Bool) : Mapped T Transaction Data :=
  if self.isPendingWindowedFullscreen = value then self
  else
    let isPendingMaximized := self.isPendingMaximized
    let self := { self with isPendingWindowedFullscreen := value }
    let self := self.withPendingState fun state =>
      if value then { state with fullscreen := true, maximized := false }
      else { state with fullscreen := false, maximized := state.maximized || isPendingMaximized }
    { self with needsConfigure := true }

def setActivated (active : Bool) : Mapped T Transaction Data :=
  self.withPendingState fun state => { state with activated := active }

def setBounds (bounds : Layout.ISize) : Mapped T Transaction Data :=
  self.withPendingState fun state => { state with bounds := some bounds }

def setNeedsConfigure : Mapped T Transaction Data :=
  { self with needsConfigure := true }

def setInteractiveResize (data : Option Data) : Mapped T Transaction Data :=
  let self := self.withPendingState fun state => { state with resizing := data.isSome }
  match data with
  | some data => { self with interactiveResize := some (.ongoing data) }
  | none =>
    match self.interactiveResize with
    | some (.ongoing data) =>
      { self with interactiveResize := some (.waitingForLastConfigure data) }
    | _ => self

/-! ## Configures -/

/-- The pending state differs from the one that was sent last: with `UseWindowSize`, in more than
its size. -/
def stateChanged : Bool :=
  match self.data.serverPending with
  | none => false
  | some serverPending =>
    let serverPending :=
      if self.requestSizeOnce = some .useWindowSize then
        { serverPending with size := self.data.currentServerState.size }
      else serverPending
    decide (serverPending ≠ self.data.currentServerState)

def hasPendingChanges : Bool :=
  self.needsConfigure || self.stateChanged

variable (uncommitted : List (ℕ × Bool))

/-- The last value that was sent. -/
def lastSent (committed : Bool) : Bool :=
  (uncommitted.getLast?.map Prod.snd).getD committed

/-- A value is recorded under the serial that it is sent with, where it differs from the last one
that was sent. -/
def recordSent (committed pending : Bool) (serial : ℕ) : List (ℕ × Bool) :=
  if lastSent uncommitted committed ≠ pending then uncommitted ++ [(serial, pending)]
  else uncommitted

/-- The branch of `send_pending_configure` that sends a configure. -/
def sendConfigure : Mapped T Transaction Data :=
  let geometry := self.geometry
  let self :=
    if self.requestSizeOnce = some .useWindowSize then
      self.withPendingState fun state => { state with size := some geometry }
    else self
  let (serial, toplevel) := ToplevelSurface.sendConfigure self.toplevel
  { self with
    toplevel
    needsConfigure := false
    animateSerials :=
      if self.animateNextConfigure then self.animateSerials ++ [serial] else self.animateSerials
    pendingTransactions := self.pendingTransactions ++
      (self.transactionForNextConfigure.map fun transaction => (serial, transaction)).toList
    interactiveResize := self.interactiveResize.map fun
      | .waitingForLastConfigure data => .waitingForLastCommit data serial
      | x => x
    requestSizeOnce := self.requestSizeOnce.map (RequestSizeOnce.afterConfigure serial)
    uncommittedWindowedFullscreen := recordSent self.uncommittedWindowedFullscreen
      self.isWindowedFullscreen self.isPendingWindowedFullscreen serial
    uncommittedMaximized := recordSent self.uncommittedMaximized
      self.isMaximized self.isPendingMaximized serial }

/-- The branch of `send_pending_configure` that sends nothing.  With `UseWindowSize`, looking for
changes has reset the pending size. -/
def skipConfigure : Mapped T Transaction Data :=
  let size := self.data.currentServerState.size
  let self :=
    if self.requestSizeOnce = some .useWindowSize ∧ self.data.serverPending.isSome then
      self.withPendingState fun state => { state with size }
    else self
  { self with
    interactiveResize := self.interactiveResize.filter fun
      | .waitingForLastConfigure _ => false
      | _ => true }

def sendPendingConfigure : Mapped T Transaction Data :=
  let self := if self.hasPendingChanges then self.sendConfigure else self.skipConfigure
  { self with animateNextConfigure := false, transactionForNextConfigure := none }

/-! ## Commits -/

/-- `should_animate_commit` and `take_pending_transaction`, in the pre-commit hook. -/
def preCommit : Mapped T Transaction Data :=
  match self.data.lastAcked with
  | none => self
  | some configure => { self with
      animateSerials := self.animateSerials.filter fun serial => ¬ serial ≤ configure.serial
      pendingTransactions := self.pendingTransactions.dropWhile fun entry =>
        entry.1 ≤ configure.serial }

def onCommit (commitSerial : ℕ) : Mapped T Transaction Data :=
  let windowed := commitValues commitSerial self.uncommittedWindowedFullscreen
    self.isWindowedFullscreen
  let maximized := commitValues commitSerial self.uncommittedMaximized self.isMaximized
  { self with
    interactiveResize := self.interactiveResize.filter fun
      | .waitingForLastCommit _ serial => ¬ serial ≤ commitSerial
      | _ => true
    requestSizeOnce := self.requestSizeOnce.map (RequestSizeOnce.afterCommit commitSerial)
    uncommittedWindowedFullscreen := windowed.1
    isWindowedFullscreen := windowed.2
    uncommittedMaximized := maximized.1
    isMaximized := maximized.2 }

end Mapped

/-! ## Runs -/

/-- What happens to a mapped window. -/
inductive Event (Transaction Data : Type)
  | requestSize (size : Layout.ISize) (mode : SizingMode) (animate : Bool)
      (transaction : Option Transaction)
  | requestSizeOnce (size : Layout.ISize) (animate : Bool)
  | requestWindowedFullscreen (value : Bool)
  | setActivated (active : Bool)
  | setBounds (bounds : Layout.ISize)
  | setNeedsConfigure
  | setInteractiveResize (data : Option Data)
  | sendPendingConfigure
  /-- The client makes a commit, which may take effect later. -/
  | preCommit
  | ackConfigure (serial : ℕ)
  /-- A commit takes effect, made when the configure was the last that the client had acked. -/
  | commit (serial : ℕ)
  /-- The size of the window changes. -/
  | resize (geometry : Layout.ISize)

namespace Mapped

variable {T Transaction Data : Type} [ToplevelSurface T]

/-- What the event does, where it can happen. -/
def step (self : Mapped T Transaction Data) :
    Event Transaction Data → Option (Mapped T Transaction Data)
  | .requestSize size mode animate transaction =>
    some (self.requestSize size mode animate transaction)
  | .requestSizeOnce size animate => some (self.requestSizeOnceOf size animate)
  | .requestWindowedFullscreen value => some (self.requestWindowedFullscreen value)
  | .setActivated active => some (self.setActivated active)
  | .setBounds bounds => some (self.setBounds bounds)
  | .setNeedsConfigure => some self.setNeedsConfigure
  | .setInteractiveResize data => some (self.setInteractiveResize data)
  | .sendPendingConfigure => some self.sendPendingConfigure
  | .preCommit => some self.preCommit
  | .ackConfigure serial =>
    if self.data.pendingConfigures.any fun configure => configure.serial = serial then
      some { self with toplevel := ToplevelSurface.ackConfigure self.toplevel serial }
    else none
  | .commit serial =>
    if (self.data.committed.toList ++ self.data.acked).any fun configure =>
        configure.serial = serial then
      some ({ self with toplevel := ToplevelSurface.commit self.toplevel serial }.onCommit serial)
    else none
  | .resize geometry => some { self with geometry }

end Mapped

end Tiri.Window
