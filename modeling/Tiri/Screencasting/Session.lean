import Tiri.Lib.Run
import Tiri.Screencasting.Casting

/-!
# Screencast sessions on D-Bus

`src/dbus/mutter_screen_cast.rs`: the sessions and streams that clients create, and the messages
that they send to the main loop, which stops sessions in turn.

Methods that take a shared receiver run next to each other and next to the main loop.  A call is
therefore taken one step at a time: each message that it sends, each lock that it takes and each
flag that it swaps is a step of its own, and the steps of different calls come in any order.  A
method that takes its receiver for itself, as recording does, is one step, which waits until no
other call is running on the session.

A call holds the session that it is made on.  A session that was removed from the object server is
dropped as soon as no call holds it.
-/

namespace Tiri.Casting

/-! ## Sessions -/

structure Stream where
  id : ℕ
  sessionId : ℕ
  target : StreamTargetId
  wasStarted : Bool
  deriving DecidableEq

/-- `start`, of a stream: what it sends.  The flag is looked at, but nothing sets it. -/
def Stream.start (stream : Stream) : List ScreenCastToNiri :=
  if stream.wasStarted then [] else [.startCast stream.sessionId stream.id stream.target]

structure Session where
  streams : List Stream
  stopped : Bool
  /-- It is in the object server. -/
  registered : Bool
  /-- The copy of the object server is gone. -/
  dropped : Bool
  /-- How often `Closed` was signalled. -/
  closed : ℕ

/-- `new`, put into the object server. -/
def Session.new : Session := ⟨[], false, true, false, 0⟩

inductive Method
  | start
  | stop
  /-- `record_monitor` and `record_window`, where they find what to record. -/
  | record (target : StreamTargetId)
  deriving DecidableEq

/-- How far a call is. -/
inductive CallState
  | startWaiting
  /-- The streams are locked, and these are still to start. -/
  | starting (rest : List Stream)
  | recordWaiting (target : StreamTargetId)
  | stopWaiting
  /-- `stopped` is set. -/
  | stopSwapped
  /-- `Closed` is signalled. -/
  | stopClosed
  /-- `StopCast` is sent. -/
  | stopSent
  /-- The streams are taken. -/
  | stopTaken
  deriving DecidableEq

namespace CallState

/-- The call has the lock on the session, for reading. -/
def isRunning : CallState → Bool
  | .startWaiting | .recordWaiting _ | .stopWaiting => false
  | _ => true

/-- The call has the lock on the streams. -/
def isStarting : CallState → Bool
  | .starting _ => true
  | _ => false

/-- The call is the one that stops the session. -/
def isStopping : CallState → Bool
  | .stopSwapped | .stopClosed | .stopSent | .stopTaken => true
  | _ => false

end CallState

def Method.begin : Method → CallState
  | .start => .startWaiting
  | .stop => .stopWaiting
  | .record target => .recordWaiting target

structure Call where
  sessionId : ℕ
  /-- The main loop makes the call, and waits for it. -/
  onMain : Bool
  state : CallState

def ScreenCastToNiri.sessionId : ScreenCastToNiri → ℕ
  | .startCast sessionId _ _ => sessionId
  | .stopCast sessionId => sessionId

/-! ## The two sides -/

structure World where
  nextSessionId : ℕ
  nextStreamId : ℕ
  sessions : HashMap ℕ Session
  nextCall : ℕ
  calls : HashMap ℕ Call
  /-- The messages on their way to the main loop. -/
  channel : List ScreenCastToNiri
  casting : Screencasting
  /-- The sessions that were told to stop, by a call or by `stop_cast`. -/
  told : Finset ℕ

namespace World

def init (dynamicCastIdForPortal : ℕ) : World :=
  ⟨1, 1, ∅, 0, ∅, [], .new dynamicCastIdForPortal, ∅⟩

variable (w : World)

variable (sessionId : ℕ)

def setSession (session : Session) : World :=
  { w with sessions := w.sessions.insert sessionId session }

def send (msgs : List ScreenCastToNiri) : World := { w with channel := w.channel ++ msgs }

def setCall (i : ℕ) (call : Call) (state : CallState) : World :=
  { w with calls := w.calls.insert i { call with state } }

/-- No call is made on the session. -/
def isFree : Bool :=
  HashMap.all (fun call : Call => call.sessionId ≠ sessionId) w.calls

/-- A call on the session is in such a state. -/
def hasCall (p : CallState → Bool) : Bool :=
  HashMap.anyValue (fun call : Call => call.sessionId = sessionId && p call.state) w.calls

/-- `drop`, of a session that no call holds any more. -/
def dropUnheld : World :=
  match w.sessions.lookup sessionId with
  | none => w
  | some session =>
    if !session.registered && !session.dropped && w.isFree sessionId then
      (w.setSession sessionId { session with dropped := true }).send [.stopCast sessionId]
    else w

/-- The call returns. -/
def finish (i : ℕ) (call : Call) : World :=
  { w with calls := w.calls.erase i }.dropUnheld call.sessionId

/-- The next step of a call.  `None` while it waits for a lock. -/
def advance (i : ℕ) : Option World := do
  let call ← w.calls.lookup i
  let session ← w.sessions.lookup call.sessionId
  match call.state with
  | .startWaiting =>
    if w.hasCall call.sessionId CallState.isStarting then none
    else some (w.setCall i call (.starting session.streams))
  | .starting [] => some (w.finish i call)
  | .starting (stream :: rest) => some ((w.setCall i call (.starting rest)).send stream.start)
  | .recordWaiting target =>
    if w.hasCall call.sessionId CallState.isRunning then none
    else
      let stream : Stream := ⟨w.nextStreamId, call.sessionId, target, false⟩
      let session := { session with streams := session.streams ++ [stream] }
      some ({ w with nextStreamId := w.nextStreamId + 1 }.setSession call.sessionId session |>.finish
        i call)
  | .stopWaiting =>
    if session.stopped then some (w.finish i call)
    else
      some ((w.setSession call.sessionId { session with stopped := true }).setCall i call
        .stopSwapped)
  | .stopSwapped =>
    some ((w.setSession call.sessionId { session with closed := session.closed + 1 }).setCall i call
      .stopClosed)
  | .stopClosed => some ((w.setCall i call .stopSent).send [.stopCast call.sessionId])
  | .stopSent =>
    if w.hasCall call.sessionId CallState.isStarting then none
    else
      some ((w.setSession call.sessionId { session with streams := [] }).setCall i call .stopTaken)
  | .stopTaken =>
    some ((w.setSession call.sessionId { session with registered := false }).finish i call)

def createSession : World :=
  { w with
    nextSessionId := w.nextSessionId + 1
    sessions := w.sessions.insert w.nextSessionId .new }

/-- A call begins. -/
def begin (onMain : Bool) (state : CallState) : World :=
  { w with
    nextCall := w.nextCall + 1
    calls := w.calls.insert w.nextCall ⟨sessionId, onMain, state⟩ }

/-- A client calls a method, which the session has to be in the object server for. -/
def call (method : Method) : Option World :=
  match w.sessions.lookup sessionId with
  | none => none
  | some session =>
    if session.registered then
      let w := w.begin sessionId false method.begin
      some { w with told := if method = .stop then insert sessionId w.told else w.told }
    else none

/-- The main loop is not within `stop_cast`. -/
def isIdle : Bool := w.casting.stops.isEmpty && HashMap.all (fun call : Call => !call.onMain) w.calls

/-- The main loop takes a message. -/
def processMsg (answers : Answers) : Option World :=
  match w.channel with
  | [] => none
  | msg :: channel =>
    if w.isIdle then
      some { w with channel, casting := w.casting.step answers (.screenCastMsg msg) }
    else none

/-- The main loop does something else. -/
def main (answers : Answers) (event : CastingEvent) : Option World :=
  match event with
  | .screenCastMsg _ => none
  | event => if w.isIdle then some { w with casting := w.casting.step answers event } else none

/-- The end of `stop_cast`, which calls `stop` of the session, if that is in the object server. -/
def nextStop : Option World :=
  match w.casting.stops with
  | [] => none
  | sessionId :: stops =>
    if HashMap.all (fun call : Call => !call.onMain) w.calls then
      let w := { w with casting := { w.casting with stops } }
      match w.sessions.lookup sessionId with
      | none => some w
      | some session =>
        let w := { w with told := insert sessionId w.told }
        if session.registered then some (w.begin sessionId true .stopWaiting) else some w
    else none

end World

inductive SessionEvent
  | createSession
  | call (sessionId : ℕ) (method : Method)
  | advance (i : ℕ)
  | processMsg (answers : Answers)
  | main (answers : Answers) (event : CastingEvent)
  | nextStop

namespace World

variable (w : World)

def step : SessionEvent → Option World
  | .createSession => some w.createSession
  | .call sessionId method => w.call sessionId method
  | .advance i => w.advance i
  | .processMsg answers => w.processMsg answers
  | .main answers event => w.main answers event
  | .nextStop => w.nextStop

/-! ## What is asked of the sessions -/

/-- At most one cast exists per stream id, started or pending. -/
def OnePerStream : Prop := (w.casting.keys.map CastKey.streamId).Nodup

/-- Of a session that was told to stop nothing is left, once all calls on it have returned and all
messages of it have been processed. -/
def StoppedGone : Prop :=
  ∀ sessionId ∈ w.told, (∀ i call, w.calls.lookup i = some call → call.sessionId ≠ sessionId) →
    (∀ msg ∈ w.channel, msg.sessionId ≠ sessionId) →
      ∀ key ∈ w.casting.keys, key.sessionId ≠ sessionId

/-- `Closed` is signalled at most once. -/
def ClosedOnce : Prop :=
  ∀ sessionId session, w.sessions.lookup sessionId = some session → session.closed ≤ 1


end World

end Tiri.Casting
