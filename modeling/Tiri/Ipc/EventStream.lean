import Tiri.Ipc.State
import Tiri.Lib.Ensures
import Tiri.Lib.Vec

/-!
# The event streams of the IPC server

`src/ipc/server.rs`: the server applies an event to its own state and offers it to the bounded
queue of every client; clients join with a replica of the state in their queue, read at their own
pace, and are dropped when they are gone or too slow.

Results:
* `sendEvent_eq_some`: `send_event` removes exactly the clients whose `try_send` failed and
  queues the event once for every other one;
* `step_agreement`: in every interleaving, what is queued for a client leads its state to the
  server's.
-/

namespace Tiri.Ipc

open Option HashMap EventStreamState
open List hiding pure_def

/-! ## The queue of one client -/

def eventStreamBufferSize : ℕ := 64

inductive TrySendError
  | closed
  | full

/-- The two ends of a client's queue: `EventStreamSender`, which the server keeps, and the client
that receives from it. -/
structure EventStream where
  client : ℕ
  /-- The events in the channel, oldest first. -/
  events : List Event
  /-- The receiving end is gone. -/
  closed : Bool
  /-- What the client has made of the events it received. -/
  mirror : EventStreamState
  deriving DecidableEq

namespace EventStream

variable (self : EventStream)

/-- `Sender::try_send` on the bounded channel. -/
def trySend (event : Event) : Except TrySendError EventStream :=
  if self.closed then .error .closed
  else if self.events.length ≥ eventStreamBufferSize then .error .full
  else .ok { self with events := self.events ++ [event] }

/-- `Receiver::recv`, followed by the client's `apply`. -/
def recv : Option EventStream := do
  guard (self.closed = false)
  let event ← self.events.head?
  let (mirror, _) ← self.mirror.apply event
  return { self with events := self.events.tail, mirror }

/-- The client goes away. -/
def close : EventStream := { self with closed := true }

/-- `for event in state.replicate() { events_tx.try_send(event).expect(..) }` -/
def burst (self : EventStream) : List Event → Option EventStream
  | [] => some self
  | event :: events => do
    let self ← (self.trySend event).toOption
    self.burst events

end EventStream

/-! ## The server -/

/-- The loop of `send_event`: the streams after it, and `to_remove`. -/
def offerEvent (event : Event) (idx : ℕ) : List EventStream → List EventStream × List ℕ
  | [] => ([], [])
  | stream :: streams =>
    let (streams, toRemove) := offerEvent event (idx + 1) streams
    match stream.trySend event with
    | .ok stream => (stream :: streams, toRemove)
    | .error _ => (stream :: streams, idx :: toRemove)

/-- `IpcServer::send_event`: the streams that were told to disconnect, and those that stay. -/
def sendEvent (streams : List EventStream) (event : Event) :
    Option (List EventStream × List EventStream) :=
  let (streams, toRemove) := offerEvent event 0 streams
  Vec.swapRemoveAll streams toRemove.reverse

structure IpcServer where
  eventStreams : List EventStream
  eventStreamState : EventStreamState
  deriving DecidableEq

namespace IpcServer

/-- A server before its first client. -/
def default : IpcServer := ⟨[], .default⟩

variable (self : IpcServer)

/-- `state.apply(event.clone()); server.send_event(event);` -/
def publish (event : Event) : Option IpcServer := do
  let state ← self.eventStreamState.applyToPart event
  let (_, streams) ← sendEvent self.eventStreams event
  return ⟨streams, state⟩

/-- `for event in events { .. }`, which ends every refresh. -/
def refresh (self : IpcServer) : List Event → Option IpcServer
  | [] => some self
  | event :: events => do
    let self ← self.publish event
    self.refresh events

/-- The event-stream request of `handle_client`. -/
def join (client : ℕ) (orders : Orders) : Option IpcServer := do
  let stream : EventStream := ⟨client, [], false, .default⟩
  let stream ← stream.burst (self.eventStreamState.replicate orders)
  return { self with eventStreams := self.eventStreams ++ [stream] }

/-- The client of the `idx`-th stream receives an event. -/
def recv (idx : ℕ) : Option IpcServer := do
  let streams ← Vec.modifyAt self.eventStreams idx EventStream.recv
  return { self with eventStreams := streams }

/-- The client of the `idx`-th stream goes away. -/
def close (idx : ℕ) : Option IpcServer := do
  let streams ← Vec.modifyAt self.eventStreams idx fun stream => some stream.close
  return { self with eventStreams := streams }

/-- What may happen next.  The event loop runs each of these to its end. -/
inductive Step (self : IpcServer) : IpcServer → Prop
  | refresh (events : List Event) {self' : IpcServer} :
      self.refresh events = some self' → Step self self'
  | join (client : ℕ) (orders : Orders) {self' : IpcServer} :
      EventStreamState.Enumerates orders self.eventStreamState →
      self.join client orders = some self' → Step self self'
  | recv (idx : ℕ) {self' : IpcServer} : self.recv idx = some self' → Step self self'
  | close (idx : ℕ) {self' : IpcServer} : self.close idx = some self' → Step self self'

end IpcServer

/-! ## What `send_event` does -/

namespace EventStream

/-- `try_send` will not fail. -/
def Accepts (self : EventStream) : Prop :=
  self.closed = false ∧ self.events.length < eventStreamBufferSize

instance (self : EventStream) : Decidable self.Accepts := by
  unfold Accepts
  infer_instance

/-- The stream with one more event in its queue. -/
def push (event : Event) (self : EventStream) : EventStream :=
  { self with events := self.events ++ [event] }

variable {self : EventStream}

theorem trySend_of_accepts (h : self.Accepts) (event : Event) :
    self.trySend event = .ok (self.push event) := by
  obtain ⟨hclosed, hlength⟩ := h
  unfold trySend
  rw [if_neg (by simp [hclosed]), if_neg (by omega)]
  rfl

theorem trySend_of_not_accepts (h : ¬self.Accepts) (event : Event) :
    ∃ err, self.trySend event = .error err := by
  unfold trySend
  by_cases hclosed : self.closed = true
  · exact ⟨.closed, if_pos hclosed⟩
  · rw [if_neg hclosed]
    refine ⟨.full, if_pos ?_⟩
    by_contra hlength
    exact h ⟨by simpa using hclosed, by omega⟩

theorem isOk_trySend (self : EventStream) (event : Event) :
    (self.trySend event).isOk = decide self.Accepts := by
  by_cases haccepts : self.Accepts
  · rw [trySend_of_accepts haccepts, decide_eq_true haccepts]
    rfl
  · obtain ⟨err, hsend⟩ := trySend_of_not_accepts haccepts event
    rw [hsend, decide_eq_false haccepts]
    rfl

end EventStream

/-- The loop of `send_event`, after it went over `front`, and the removals that follow it. -/
theorem swapRemoveAll_offerEvent (event : Event) (front streams : List EventStream) :
    ∃ kept, Vec.swapRemoveAll (front ++ (offerEvent event front.length streams).1)
        (offerEvent event front.length streams).2.reverse =
          some ((streams.filter fun stream => ¬stream.Accepts).reverse, front ++ kept) ∧
      kept.Perm ((streams.filter fun stream => stream.Accepts).map (EventStream.push event)) := by
  induction streams generalizing front with
  | nil => exact ⟨[], by simp [offerEvent, Vec.swapRemoveAll], List.Perm.refl []⟩
  | cons stream streams ih =>
    by_cases haccepts : stream.Accepts
    · have hsend := EventStream.trySend_of_accepts haccepts event
      obtain ⟨kept, hkept, hperm⟩ := ih (front ++ [stream.push event])
      refine ⟨stream.push event :: kept, ?_, ?_⟩
      · simp only [length_append, length_singleton, append_assoc, singleton_append] at hkept
        simp only [offerEvent, hsend, hkept, filter_cons, haccepts, not_true_eq_false,
          decide_false, Bool.false_eq_true, if_false]
      · simp only [filter_cons, haccepts, decide_true, if_true, map_cons]
        exact hperm.cons _
    · -- the removals run from the back: what this stream moves was already decided on
      obtain ⟨err, hsend⟩ := EventStream.trySend_of_not_accepts haccepts event
      obtain ⟨kept, hkept, hperm⟩ := ih (front ++ [stream])
      simp only [length_append, length_singleton, append_assoc, singleton_append] at hkept
      obtain ⟨kept', hremove, hperm'⟩ := Vec.swapRemove_append front kept stream
      refine ⟨kept', ?_, ?_⟩
      · simp only [offerEvent, hsend, reverse_cons, Vec.swapRemoveAll_append, hkept,
          bind_some, Vec.swapRemoveAll, hremove, bind_eq_bind, pure_def,
          map_some, filter_cons, haccepts, not_false_eq_true, decide_true, if_true]
      · simp only [filter_cons, haccepts, decide_false, Bool.false_eq_true, if_false]
        exact hperm'.trans hperm

/-- **`send_event`**: the streams whose `try_send` fails are the ones told to disconnect, and
every other one gets the event once. -/
theorem sendEvent_eq_some (streams : List EventStream) (event : Event) :
    ∃ kept, sendEvent streams event =
        some ((streams.filter fun stream => ¬stream.Accepts).reverse, kept) ∧
      kept.Perm ((streams.filter fun stream => stream.Accepts).map (EventStream.push event)) :=
  swapRemoveAll_offerEvent event [] streams

variable {event : Event}

theorem mem_sendEvent {streams removed kept : List EventStream}
    (h : sendEvent streams event = some (removed, kept)) {stream : EventStream}
    (hmem : stream ∈ kept) : ∃ before ∈ streams, stream = before.push event := by
  obtain ⟨kept', hsend, hperm⟩ := sendEvent_eq_some streams event
  obtain ⟨-, rfl⟩ := Prod.mk.inj (some.inj (h.symm.trans hsend))
  obtain ⟨before, hbefore, rfl⟩ := mem_map.mp (hperm.mem_iff.mp hmem)
  exact ⟨before, (mem_filter.mp hbefore).1, rfl⟩

/-! ## Agreement -/

/-- What is queued for a client leads its state to `state`. -/
def EventStream.Agrees (state : EventStreamState) (self : EventStream) : Prop :=
  self.mirror.applyAll self.events = some state

theorem EventStream.Agrees.push {state state' : EventStreamState} {self : EventStream}
    (h : self.Agrees state) (happly : state.applyToPart event = some state') :
    (self.push event).Agrees state' := by
  show self.mirror.applyAll (self.events ++ [event]) = some state'
  rw [applyAll_append, h, bind_some, applyAll_singleton, ← applyToPart_eq, happly]

/-- A client that receives an event follows the path it was on. -/
theorem EventStream.Agrees.recv {state : EventStreamState} {self self' : EventStream}
    (h : self.Agrees state) (hrecv : self.recv = some self') : self'.Agrees state := by
  obtain ⟨client, events, closed, mirror⟩ := self
  obtain ⟨-, -, hrecv⟩ := bind_eq_some_iff.mp hrecv
  obtain ⟨event, hevent, hrecv⟩ := bind_eq_some_iff.mp hrecv
  obtain ⟨⟨mirror', rest⟩, happly, heq⟩ := bind_eq_some_iff.mp hrecv
  cases heq
  obtain ⟨events', rfl⟩ : ∃ events', events = event :: events' := by
    cases events with
    | nil => cases hevent
    | cons _ events' =>
      cases hevent
      exact ⟨events', rfl⟩
  have hcons : mirror.applyAll ([event] ++ events') = some state := h
  rw [applyAll_append, applyAll_singleton] at hcons
  rw [happly] at hcons
  exact hcons

/-- The initial burst never finds the queue full. -/
theorem EventStream.burst_eq_some (self : EventStream) (hclosed : self.closed = false)
    (events : List Event) (hlength : self.events.length + events.length ≤ eventStreamBufferSize) :
    self.burst events = some { self with events := self.events ++ events } := by
  induction events generalizing self with
  | nil => simp [burst]
  | cons event events ih =>
    rw [length_cons] at hlength
    have haccepts : self.Accepts := ⟨hclosed, by omega⟩
    have hburst := ih (self.push event) hclosed (by
      show (self.events ++ [event]).length + events.length ≤ _
      rw [length_append, length_singleton]
      omega)
    simp only [burst, trySend_of_accepts haccepts, Except.toOption, bind_eq_bind, bind_some, hburst]
    simp only [push, append_assoc, singleton_append]

namespace IpcServer

/-- Every client's queue leads its state to the server's. -/
structure Agreement (server : IpcServer) : Prop where
  keyed : server.eventStreamState.Keyed
  agrees : ∀ stream ∈ server.eventStreams, stream.Agrees server.eventStreamState

theorem agreement_default : default.Agreement where
  keyed := keyed_default
  agrees stream hmem := by cases hmem

variable {self self' : IpcServer}

section

variable (h : self.Agreement)
include h

theorem publish_agreement {event : Event} (hpublish : self.publish event = some self') :
    self'.Agreement := by
  obtain ⟨state, hstate, hpublish⟩ := bind_eq_some_iff.mp hpublish
  obtain ⟨⟨removed, streams⟩, hsend, heq⟩ := bind_eq_some_iff.mp hpublish
  cases heq
  refine ⟨applyToPart_keyed h.keyed hstate, fun stream hmem => ?_⟩
  obtain ⟨before, hbefore, rfl⟩ := mem_sendEvent hsend hmem
  exact (h.agrees before hbefore).push hstate

theorem refresh_agreement {events : List Event} (hrefresh : self.refresh events = some self') :
    self'.Agreement := by
  induction events generalizing self with
  | nil =>
    cases hrefresh
    exact h
  | cons event events ih =>
    obtain ⟨next, hnext, hrest⟩ := bind_eq_some_iff.mp hrefresh
    exact ih (publish_agreement h hnext) hrest

omit h in
/-- A client that joins always gets its burst, and starts out in agreement. -/
theorem join_eq_some (self : IpcServer) (client : ℕ) (orders : Orders) :
    self.join client orders = some { self with
      eventStreams := self.eventStreams ++
        [⟨client, self.eventStreamState.replicate orders, false, .default⟩] } := by
  have hburst := EventStream.burst_eq_some ⟨client, [], false, .default⟩ rfl
    (self.eventStreamState.replicate orders) (by
      have hlength := self.eventStreamState.length_replicate_le orders
      show 0 + _ ≤ 64
      omega)
  simp only [join, hburst, bind_eq_bind, bind_some, nil_append, pure_def]

theorem join_agreement {client : ℕ} {orders : Orders}
    (horders : EventStreamState.Enumerates orders self.eventStreamState)
    (hjoin : self.join client orders = some self') : self'.Agreement := by
  rw [join_eq_some] at hjoin
  cases hjoin
  refine ⟨h.keyed, fun stream hmem => ?_⟩
  rcases mem_append.mp hmem with hold | hnew
  · exact h.agrees stream hold
  · obtain rfl := mem_singleton.mp hnew
    exact applyAll_replicate h.keyed horders

/-- An operation on the client's end of one stream. -/
theorem modifyAt_agreement {idx : ℕ} {f : EventStream → Option EventStream}
    (hf : ∀ stream stream', stream.Agrees self.eventStreamState → f stream = some stream' →
      stream'.Agrees self.eventStreamState) {streams : List EventStream}
    (hmodify : Vec.modifyAt self.eventStreams idx f = some streams) :
    Agreement { self with eventStreams := streams } := by
  obtain ⟨l, stream, stream', r, hsplit, hlength, happly, rfl⟩ := Vec.modifyAt_eq_some.mp hmodify
  refine ⟨h.keyed, fun other hmem => ?_⟩
  have hagrees := h.agrees
  rw [hsplit] at hagrees
  rcases mem_append.mp hmem with hl | hr
  · exact hagrees other (mem_append_left _ hl)
  · rcases mem_cons.mp hr with rfl | hr
    · exact hf stream _ (hagrees stream (by simp)) happly
    · exact hagrees other (mem_append_right _ (mem_cons_of_mem _ hr))

/-- **Step lemma**: whatever happens next, the clients stay in agreement. -/
theorem Step.agreement (hstep : Step self self') : self'.Agreement := by
  cases hstep with
  | refresh events hrefresh => exact refresh_agreement h hrefresh
  | join client orders horders hjoin => exact join_agreement h horders hjoin
  | recv idx hrecv =>
    obtain ⟨streams, hmodify, heq⟩ := bind_eq_some_iff.mp hrecv
    cases heq
    exact modifyAt_agreement h (fun _ _ hagrees hrecv => hagrees.recv hrecv) hmodify
  | close idx hclose =>
    obtain ⟨streams, hmodify, heq⟩ := bind_eq_some_iff.mp hclose
    cases heq
    refine modifyAt_agreement h (fun stream _ hagrees hsome => ?_) hmodify
    cases hsome
    exact hagrees

end

/-- **Client agreement.**  After any interleaving of refreshes, joins, receptions and
disconnections: a client that has received all its events is in the server's state; `send_event`
drops exactly the clients whose `try_send` fails and queues the event once for the others;
and `replicate()` reproduces the state. -/
theorem step_agreement {self : IpcServer} (h : Reachable (· = default) Step self) :
    (∀ stream ∈ self.eventStreams, stream.events = [] →
        stream.mirror = self.eventStreamState) ∧
      (∀ event, ∃ removed kept, sendEvent self.eventStreams event = some (removed, kept) ∧
        removed.Perm (self.eventStreams.filter fun stream =>
          !(stream.trySend event).isOk) ∧
        kept.Perm ((self.eventStreams.filter fun stream => (stream.trySend event).isOk).map
          (EventStream.push event))) ∧
      ∀ orders, EventStreamState.Enumerates orders self.eventStreamState →
        EventStreamState.default.applyAll (self.eventStreamState.replicate orders) =
          some self.eventStreamState := by
  have hinv : self.Agreement := by
    refine Reachable.invariant (I := Agreement) ?_ (fun _ _ hs hstep => hstep.agreement hs) h
    rintro _ rfl
    exact agreement_default
  refine ⟨fun stream hmem hevents => ?_, fun event => ?_, fun orders horders => ?_⟩
  · have hagrees : stream.mirror.applyAll stream.events = some _ := hinv.agrees stream hmem
    rw [hevents] at hagrees
    exact some.inj hagrees
  · obtain ⟨kept, hsend, hperm⟩ := sendEvent_eq_some self.eventStreams event
    simp only [EventStream.isOk_trySend, ← decide_not]
    exact ⟨_, kept, hsend, reverse_perm _, hperm⟩
  · exact applyAll_replicate hinv.keyed horders

/-- A client joined at the start, and the overview was opened since. -/
def early : IpcServer :=
  ⟨[⟨1, EventStreamState.default.replicate ⟨[], [], []⟩ ++ [.overviewOpenedOrClosed true], false,
    .default⟩], { EventStreamState.default with overview := ⟨true⟩ }⟩

theorem reachable_early : Reachable (· = default) Step early := by
  have hjoin := join_eq_some default 1 ⟨[], [], []⟩
  refine .step (.step (.init rfl) (.join 1 _ ?_ hjoin)) (.refresh [.overviewOpenedOrClosed true] ?_)
  · exact ⟨enumerates_empty, enumerates_empty, enumerates_empty⟩
  · decide +kernel

/-- A second client joins, the configuration is reloaded, and the first client goes away; the
second one then receives its five initial events and the one sent since. -/
def late : Option IpcServer := do
  let server ← early.join 2 ⟨[], [], []⟩
  let server ← server.refresh [.configLoaded true]
  let server ← server.close 0
  let server ← server.recv 1
  let server ← server.recv 1
  let server ← server.recv 1
  let server ← server.recv 1
  let server ← server.recv 1
  server.recv 1

theorem reachable_late (h : late = some self) : Reachable (· = default) Step self := by
  unfold late at h
  obtain ⟨joined, hjoined, h⟩ := bind_eq_some_iff.mp h
  obtain ⟨reloaded, hreloaded, h⟩ := bind_eq_some_iff.mp h
  obtain ⟨left, hleft, h⟩ := bind_eq_some_iff.mp h
  obtain ⟨s₁, h₁, h⟩ := bind_eq_some_iff.mp h
  obtain ⟨s₂, h₂, h⟩ := bind_eq_some_iff.mp h
  obtain ⟨s₃, h₃, h⟩ := bind_eq_some_iff.mp h
  obtain ⟨s₄, h₄, h⟩ := bind_eq_some_iff.mp h
  obtain ⟨s₅, h₅, h₆⟩ := bind_eq_some_iff.mp h
  have hreach := reachable_early.step (.join 2 ⟨[], [], []⟩
    ⟨enumerates_empty, enumerates_empty, enumerates_empty⟩ hjoined)
  have hreach := (hreach.step (.refresh _ hreloaded)).step (.close _ hleft)
  exact ((((((hreach.step (.recv _ h₁)).step (.recv _ h₂)).step (.recv _ h₃)).step
    (.recv _ h₄)).step (.recv _ h₅)).step (.recv _ h₆))

theorem step_agreement_late : ∃ server stream, late = some server ∧
    server.eventStreams[1]? = some stream ∧ stream.events = [] ∧
    stream.mirror = server.eventStreamState ∧
    ∃ removed kept, sendEvent server.eventStreams (.configLoaded false) = some (removed, kept) ∧
      removed.Perm (server.eventStreams.filter fun stream =>
        !(stream.trySend (.configLoaded false)).isOk) ∧
      kept.Perm ((server.eventStreams.filter fun stream =>
        (stream.trySend (.configLoaded false)).isOk).map
          (EventStream.push (.configLoaded false))) := by
  obtain ⟨server, hserver⟩ : ∃ server, late = some server :=
    isSome_iff_exists.mp (by decide +kernel)
  have hevents : (late.bind fun server => server.eventStreams[1]?.map EventStream.events) =
      some [] := by decide +kernel
  rw [hserver, bind_some] at hevents
  obtain ⟨stream, hstream, hevents⟩ := map_eq_some_iff.mp hevents
  obtain ⟨hagree, hsend, -⟩ := step_agreement (reachable_late hserver)
  exact ⟨server, stream, hserver, hstream, hevents,
    hagree stream (mem_of_getElem? hstream) hevents, hsend _⟩

end IpcServer

end Tiri.Ipc
