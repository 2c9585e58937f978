import Tiri.Lib.Run
import Tiri.Protocols.Screencopy
import Tiri.Screencasting.Casting

/-!
# The casts of the event stream

`State::ipc_refresh_casts` (`ipc/server.rs`, lines 1036–1149) compares what the server has told
its clients with the PipeWire casts, pending and started, and the screencopy casts.  Each kind
is compared by the properties that can change in it; a cast is stopped when no cast of any kind
has its stream id.

Results:
* `emit_exact`: what a refresh sends leads to the snapshot, as long as the comparison of each
  kind tells a cast from what was sent of it before;
* `refreshCasts_exact`: in every run of the compositor in which no stream id is given out twice,
  the comparisons do, so that every refresh leads to exactly the snapshot of all casts.
-/

namespace Tiri.Ipc

open Tiri.Casting (Screencasting PendingCast CastKey CastingEvent Answers obliging)
open HashMap
open Finmap
open List
open Option
open Tiri.Protocols.WlrScreencopy (ScreencopyQueue Screencopy)
open Multiset hiding filterMap_filterMap map_cons map_filterMap mem_cons_self mem_filter mem_map nodup_cons

/-! ## What the refresh reads -/

/-- `ScreencopyQueue`, with the client's process and the ids of its cast.  The name of an output
is the one it was created with, so that the name kept with the cast is the name of its output. -/
structure CastQueue where
  credentials : Option ℤ
  queue : ScreencopyQueue Casting.Output
  sessionId : ℕ
  streamId : ℕ

namespace CastQueue

def new (credentials : Option ℤ) : CastQueue := ⟨credentials, .new, 0, 0⟩

/-- `push`: the first request with damage makes a cast, with the next ids. -/
def push (q : CastQueue) (screencopy : Screencopy Casting.Output) (now sessionId streamId : ℕ) :
    CastQueue :=
  if q.queue.cast.isSome then { q with queue := q.queue.push screencopy now }
  else { q with queue := q.queue.push screencopy now, sessionId, streamId }

/-- The stream id of the cast, if the queue has one. -/
def stream? (q : CastQueue) : Option ℕ := if q.queue.cast.isSome then some q.streamId else none

end CastQueue

variable (pending : PendingCast)

def ipcPending : Cast where
  sessionId := pending.sessionId
  streamId := pending.streamId
  kind := .pipeWire
  target := .nothing
  isDynamicTarget := true
  isActive := false
  pid := none
  pwNodeId := none

def ipcCast (cast : Casting.Cast) : Cast where
  sessionId := cast.sessionId
  streamId := cast.streamId
  kind := .pipeWire
  target := cast.target.makeIpc
  isDynamicTarget := cast.dynamicTarget
  isActive := cast.isActive
  pid := none
  pwNodeId := cast.nodeId

variable (q : CastQueue)

def ipcScreencopy (outputName : String) : Cast where
  sessionId := q.sessionId
  streamId := q.streamId
  kind := .wlrScreencopy
  target := .output outputName
  isDynamicTarget := false
  isActive := true
  pid := q.credentials
  pwNodeId := none

/-! ## The refresh -/

/-- A cast, with the comparison that tells whether one in the state differs from it. -/
structure CastEntry where
  cast : Cast
  differs : Cast → Bool

variable (state : CastsState)

/-- What is sent for the cast. -/
def CastEntry.diff (entry : CastEntry) : List Event :=
  match state.casts.lookup entry.cast.streamId with
  | none => [.castStartedOrChanged entry.cast]
  | some existing => if entry.differs existing then [.castStartedOrChanged entry.cast] else []

/-- Pending dynamic casts don't change any properties. -/
def pendingEntry : CastEntry where
  cast := ipcPending pending
  differs _ := false

def castEntry (cast : Casting.Cast) : CastEntry where
  cast := ipcCast cast
  differs existing :=
    existing.isActive ≠ cast.isActive || !cast.target.matches existing.target ||
      existing.pwNodeId ≠ cast.nodeId

/-- The queue's cast, if it has one: only its output can change. -/
def screencopyEntry : Option CastEntry :=
  q.queue.cast.map fun castInfo => {
    cast := ipcScreencopy q castInfo.output.name
    differs := fun existing =>
      match existing.target with
      | .output name => name ≠ castInfo.output.name
      | _ => true }

/-- All casts, in the order in which they are looked at. -/
def castEntries (casting : Screencasting) (queues : List CastQueue) : List CastEntry :=
  casting.pendingDynamicCasts.map pendingEntry ++ casting.casts.map castEntry ++
    queues.filterMap screencopyEntry

/-- The events for the entries, and for the casts that have none; `order` is the order in which
the map of the casts is iterated. -/
def emit (entries : List CastEntry) (order : List ℕ) : List Event :=
  let seen := entries.map (·.cast.streamId)
  entries.flatMap (CastEntry.diff state) ++ (order.filter (· ∉ seen)).map .castStopped

/-- `ipc_refresh_casts`: the events it emits, once the expired casts are cleared. -/
def refreshCasts (casting : Screencasting) (queues : List CastQueue) (order : List ℕ) :
    List Event :=
  emit state (castEntries casting queues) order

/-- The snapshot of the casts. -/
def castsSnapshot (entries : List CastEntry) : CastsState :=
  ⟨HashMap.collect (entries.map fun entry => (entry.cast.streamId, entry.cast))⟩

namespace CastsState

/-- `CastsState::default`. -/
def default : CastsState := ⟨∅⟩

/-- A client that keeps the casts only. -/
def applyAll (self : CastsState) (events : List Event) : Option CastsState :=
  applyEvents apply self events

/-! ## The events lead to the snapshot -/

theorem applyAll_started (self : CastsState) (casts : List Cast) :
    self.applyAll (casts.map .castStartedOrChanged) =
      some ⟨(casts.map fun c => (c.streamId, c)).foldl (fun m e => m.insert e.1 e.2)
        self.casts⟩ := by
  induction casts generalizing self with
  | nil => rfl
  | cons cast casts ih => exact ih ⟨self.casts.insert cast.streamId cast⟩

theorem applyAll_stopped {ids : List ℕ} (hnodup : ids.Nodup) (self : CastsState)
    (hmem : ∀ id ∈ ids, id ∈ self.casts) :
    ∃ self', self.applyAll (ids.map .castStopped) = some self' ∧
      ∀ k, self'.casts.lookup k = if k ∈ ids then none else self.casts.lookup k := by
  induction ids generalizing self with
  | nil => exact ⟨self, rfl, fun k => by simp⟩
  | cons id ids ih =>
    rw [nodup_cons] at hnodup
    obtain ⟨cast, hcast⟩ := mem_iff.mp (hmem id mem_cons_self)
    have hrest : ∀ k ∈ ids, k ∈ self.casts.erase id := by
      intro k hk
      rw [mem_erase]
      exact ⟨fun heq => hnodup.1 (heq ▸ hk), hmem k (mem_cons_of_mem _ hk)⟩
    obtain ⟨self', happly, hlookup⟩ := ih hnodup.2 ⟨self.casts.erase id⟩ hrest
    refine ⟨self', ?_, fun k => ?_⟩
    · have hstep : apply self (.castStopped id) = handled ⟨self.casts.erase id⟩ := by
        simp only [apply, hcast]
        rfl
      rw [applyAll, map_cons, applyEvents, hstep]
      exact happly
    · rw [hlookup]
      by_cases hk : k ∈ ids
      · rw [if_pos hk, if_pos (mem_cons_of_mem _ hk)]
      · by_cases heq : k = id
        · rw [if_neg hk, heq, if_pos mem_cons_self]
          exact lookup_erase _ _
        · rw [if_neg hk, if_neg fun h => (mem_cons.mp h).elim heq hk]
          exact lookup_erase_ne heq

end CastsState

/-- What is told of one cast leads to the cast. -/
structure CastEntry.Tells (state : CastsState) (entry : CastEntry) : Prop where
  same : ∀ existing, state.casts.lookup entry.cast.streamId = some existing →
    entry.differs existing = false → existing = entry.cast
  changed : ∀ existing, state.casts.lookup entry.cast.streamId = some existing →
    entry.differs existing = true → existing ≠ entry.cast

section Emit

variable {state : CastsState} {entries : List CastEntry} {order : List ℕ}

/-- The casts that are sent. -/
def sent (state : CastsState) (entries : List CastEntry) : List CastEntry :=
  entries.filter fun entry => (state.casts.lookup entry.cast.streamId).all entry.differs

theorem flatMap_diff (state : CastsState) (entries : List CastEntry) :
    entries.flatMap (CastEntry.diff state) =
      ((sent state entries).map CastEntry.cast).map .castStartedOrChanged := by
  induction entries with
  | nil => rfl
  | cons entry entries ih =>
    rw [flatMap_cons, ih, CastEntry.diff]
    unfold sent
    rw [filter_cons]
    cases state.casts.lookup entry.cast.streamId with
    | none => rfl
    | some existing =>
      cases hdiffers : entry.differs existing <;> simp [hdiffers]

variable {cast : Cast}

theorem mem_started_emit (h : .castStartedOrChanged cast ∈ emit state entries order) :
    ∃ entry ∈ sent state entries, entry.cast = cast := by
  rw [emit, flatMap_diff, mem_append] at h
  rcases h with h | h
  · obtain ⟨c, hc, heq⟩ := mem_map.mp h
    obtain ⟨entry, hentry, rfl⟩ := mem_map.mp hc
    exact ⟨entry, hentry, Event.castStartedOrChanged.inj heq⟩
  · obtain ⟨_, _, heq⟩ := mem_map.mp h
    cases heq

variable {id : ℕ}

theorem mem_stopped_emit (h : .castStopped id ∈ emit state entries order) : id ∈ order := by
  rw [emit, flatMap_diff, mem_append] at h
  rcases h with h | h
  · obtain ⟨_, _, heq⟩ := mem_map.mp h
    cases heq
  · obtain ⟨id', hid, heq⟩ := mem_map.mp h
    rw [← Event.castStopped.inj heq]
    exact (mem_filter.mp hid).1

/-- The snapshot has the casts, each under its stream id. -/
theorem lookup_castsSnapshot (hnodup : (entries.map (·.cast.streamId)).Nodup) {entry : CastEntry}
    (hentry : entry ∈ entries) :
    (castsSnapshot entries).casts.lookup entry.cast.streamId = some entry.cast :=
  lookup_collect (by rw [List.map_map]; exact hnodup)
    (mem_map_of_mem (f := fun entry : CastEntry => (entry.cast.streamId, entry.cast)) hentry)

theorem exists_of_lookup_castsSnapshot (h : (castsSnapshot entries).casts.lookup id = some cast) :
    ∃ entry ∈ entries, entry.cast.streamId = id := by
  by_contra hnone
  have hnot : id ∉ (entries.map fun entry => (entry.cast.streamId, entry.cast)).map Prod.fst := by
    rw [List.map_map]
    intro hmem
    obtain ⟨entry, hentry, heq⟩ := mem_map.mp hmem
    exact hnone ⟨entry, hentry, heq⟩
  rw [castsSnapshot, lookup_collect_of_notMem hnot] at h
  cases h

/-- **What a refresh sends leads to the snapshot.** -/
theorem emit_exact (hnodup : (entries.map (·.cast.streamId)).Nodup)
    (htells : ∀ entry ∈ entries, entry.Tells state)
    (horder : HashMap.Lists order state.casts) :
    state.applyAll (emit state entries order) = some (castsSnapshot entries) := by
  have hpairs : ∀ l : List CastEntry, ((l.map CastEntry.cast).map fun c => (c.streamId, c)).map
      Prod.fst = l.map (·.cast.streamId) := fun l => by
    rw [List.map_map, List.map_map]
    rfl
  have hsentNodup : ((sent state entries).map (·.cast.streamId)).Nodup :=
    hnodup.sublist (filter_sublist.map _)
  -- the starts put in what is sent, and leave the rest
  obtain ⟨mid, hmid⟩ : ∃ mid : CastsState, mid = ⟨(((sent state entries).map CastEntry.cast).map
      fun c => (c.streamId, c)).foldl (fun m e => m.insert e.1 e.2) state.casts⟩ := ⟨_, rfl⟩
  have hstarted := state.applyAll_started ((sent state entries).map CastEntry.cast)
  rw [← hmid] at hstarted
  have hmidSent : ∀ entry ∈ sent state entries,
      mid.casts.lookup entry.cast.streamId = some entry.cast := by
    intro entry hentry
    have hmem : (entry.cast.streamId, entry.cast) ∈
        ((sent state entries).map CastEntry.cast).map fun c => (c.streamId, c) :=
      mem_map_of_mem (mem_map_of_mem hentry)
    rw [hmid]
    exact lookup_foldl_insert (by rw [hpairs]; exact hsentNodup) hmem state.casts
  have hmidRest : ∀ k, k ∉ (sent state entries).map (·.cast.streamId) →
      mid.casts.lookup k = state.casts.lookup k := by
    intro k hk
    rw [hmid]
    exact lookup_foldl_insert_of_notMem (by rw [hpairs]; exact hk) state.casts
  have hsub : ∀ k ∈ (sent state entries).map (·.cast.streamId), k ∈ entries.map (·.cast.streamId) :=
    fun k hk => (filter_sublist.map _).subset hk
  -- then the stops take out what has no entry
  have hstops : ∀ id ∈ order.filter (· ∉ entries.map (·.cast.streamId)), id ∈ mid.casts := by
    intro id hid
    obtain ⟨hid, hnot⟩ := mem_filter.mp hid
    rw [decide_eq_true_eq] at hnot
    rw [← lookup_isSome, hmidRest id fun hk => hnot (hsub id hk), lookup_isSome]
    exact horder.mem_iff.mp hid
  obtain ⟨final, hfinal, hlookup⟩ := CastsState.applyAll_stopped
    (horder.1.filter (· ∉ entries.map (·.cast.streamId))) mid hstops
  have happly : state.applyAll (emit state entries order) = some final := by
    rw [emit, flatMap_diff, CastsState.applyAll, applyEvents_append]
    rw [CastsState.applyAll] at hstarted
    rw [hstarted, bind_some]
    exact hfinal
  rw [happly]
  congr 1
  have hcasts : final.casts = (castsSnapshot entries).casts := by
    refine ext_lookup fun k => ?_
    rw [hlookup]
    by_cases hk : k ∈ entries.map (·.cast.streamId)
    · obtain ⟨entry, hentry, rfl⟩ := mem_map.mp hk
      rw [lookup_castsSnapshot hnodup hentry,
        if_neg (by simp only [mem_filter, decide_eq_true_eq]; tauto)]
      by_cases hsent : entry ∈ sent state entries
      · exact hmidSent entry hsent
      · -- it is not sent, so it is in the state as it is
        have hkept : (state.casts.lookup entry.cast.streamId).all entry.differs = false := by
          rw [← Bool.not_eq_true]
          exact fun h => hsent (mem_filter.mpr ⟨hentry, h⟩)
        obtain ⟨existing, hexisting, hsame⟩ : ∃ existing,
            state.casts.lookup entry.cast.streamId = some existing ∧
              entry.differs existing = false := by
          cases h : state.casts.lookup entry.cast.streamId with
          | none => simp [h] at hkept
          | some existing => exact ⟨existing, rfl, by simpa [h] using hkept⟩
        have hnotSent : entry.cast.streamId ∉ (sent state entries).map (·.cast.streamId) := by
          intro hmem
          obtain ⟨other, hother, heq⟩ := mem_map.mp hmem
          have : other = entry :=
            inj_on_of_nodup_map hnodup (mem_filter.mp hother).1 hentry heq
          exact hsent (this ▸ hother)
        rw [hmidRest _ hnotSent, hexisting, (htells entry hentry).same existing hexisting hsame]
    · have hsnapshot : (castsSnapshot entries).casts.lookup k = none := by
        rw [eq_none_iff_forall_ne_some]
        intro cast hcast
        obtain ⟨entry, hentry, heq⟩ := exists_of_lookup_castsSnapshot hcast
        exact hk (mem_map.mpr ⟨entry, hentry, heq⟩)
      rw [hsnapshot]
      by_cases hin : k ∈ order
      · rw [if_pos (mem_filter.mpr ⟨hin, by simpa using hk⟩)]
      · rw [if_neg fun h => hin (mem_filter.mp h).1, hmidRest k fun h => hk (hsub k h),
          ← lookup_eq_none.mpr fun h => hin (horder.mem_iff.mpr h)]
  exact congrArg CastsState.mk hcasts

end Emit

/-! ## The compositor between two refreshes -/

/-- What the requests and the rendering of frames do to a queue. -/
inductive QueueOp
  | createFrame (frame : ℕ)
  | push (screencopy : Screencopy Casting.Output) (now sessionId streamId : ℕ)
  | pop (now : ℕ)
  | removeFrame (frame now : ℕ)

/-- `None` where there is nothing to `pop`. -/
def CastQueue.step : QueueOp → Option CastQueue
  | .createFrame frame =>
    some { q with queue := { q.queue with pendingFrames := insert frame q.queue.pendingFrames } }
  | .push screencopy now sessionId streamId => some (q.push screencopy now sessionId streamId)
  | .pop now => (q.queue.pop now).map fun r => { q with queue := r.2 }
  | .removeFrame frame now => some { q with queue := q.queue.removeFrame frame now }

structure CastsWorld where
  casting : Screencasting
  /-- The screencopy queues, by their managers. -/
  queues : HashMap ℕ CastQueue
  /-- What the server has told its clients. -/
  server : CastsState
  /-- The stream ids that were given out. -/
  used : Finset ℕ

inductive CastsEvent
  | casting (answers : Answers) (event : CastingEvent)
  | bind (manager : ℕ) (credentials : Option ℤ)
  | queueOp (manager : ℕ) (op : QueueOp)
  | removeOutput (output : Casting.Output) (now : ℕ)
  | cleanupQueues (isAlive : ℕ → Bool)
  /-- A refresh, with the orders in which the maps are iterated. -/
  | refresh (now : ℕ) (queueOrder castOrder : List ℕ)

namespace CastsWorld

variable (w : CastsWorld)

def init (dynamicCastIdForPortal : ℕ) : CastsWorld := ⟨.new dynamicCastIdForPortal, ∅, .default, ∅⟩

def clearExpiredCasts (now : ℕ) : CastsWorld :=
  { w with
    queues := HashMap.mapValues
      (fun q : CastQueue => { q with queue := q.queue.clearExpiredCast now }) w.queues }

/-- What there is to tell. -/
def entries (queueOrder : List ℕ) : List CastEntry :=
  castEntries w.casting (HashMap.values w.queues queueOrder)

/-- `ipc_refresh_casts`.  `None` where `apply` panics, or where the orders are not ones of the
maps. -/
def ipcRefreshCasts (now : ℕ) (queueOrder castOrder : List ℕ) : Option CastsWorld :=
  let w := w.clearExpiredCasts now
  if HashMap.Lists queueOrder w.queues ∧ HashMap.Lists castOrder w.server.casts then
    let events :=
      refreshCasts w.server w.casting (HashMap.values w.queues queueOrder) castOrder
    (w.server.applyAll events).map fun server => { w with server }
  else none

/-- The manager whose queue starts a cast, and the stream id that it is given. -/
def opensQueue : CastsEvent → Option (ℕ × ℕ)
  | .queueOp manager (.push _ _ _ streamId) =>
    match w.queues.lookup manager with
    | some q => if q.queue.cast.isSome then none else some (manager, streamId)
    | none => none
  | _ => none

/-- The PipeWire cast that is asked for. -/
def opensCast : CastsEvent → Multiset CastKey
  | .casting answers event => w.casting.opens answers event
  | _ => 0

variable (event : CastsEvent)

/-- The stream ids that are given out. -/
def givesOut : Multiset ℕ :=
  (w.opensCast event).map CastKey.streamId + (w.opensQueue event).elim 0 fun opened => {opened.2}

/-- What happens, but for the ids that are given out. -/
def happen : CastsEvent → Option CastsWorld
  | .casting answers event => some { w with casting := w.casting.step answers event }
  | .bind manager credentials => some { w with queues := w.queues.insert manager (.new credentials) }
  | .queueOp manager op =>
    match w.queues.lookup manager with
    -- "screencopy queue must not be deleted as long as frames exist"
    | none => some w
    | some q => (q.step op).map fun q => { w with queues := w.queues.insert manager q }
  | .removeOutput output now =>
    some { w with
      queues := HashMap.mapValues
        (fun q : CastQueue => { q with queue := q.queue.removeOutput output now }) w.queues }
  | .cleanupQueues isAlive =>
    some { w with
      queues := HashMap.retain (fun manager q => isAlive manager || !q.queue.isEmpty) w.queues }
  | .refresh now queueOrder castOrder => w.ipcRefreshCasts now queueOrder castOrder

def step : Option CastsWorld :=
  (w.happen event).map fun w' => { w' with used := w.used ∪ (w.givesOut event).toFinset }

/-- No id that the event gives out was given out before. -/
def Fresh : Prop := ∀ id ∈ w.givesOut event, id ∉ w.used

instance (event : CastsEvent) : Decidable (w.Fresh event) :=
  inferInstanceAs (Decidable (∀ id ∈ w.givesOut event, id ∉ w.used))

/-- The run gives out no stream id twice. -/
def UniqueStreamIds (events : List CastsEvent) : Prop := Run.Along step Fresh w events

end CastsWorld

/-! ## What a step does to the queues -/

/-- The queue has the cast that it had, or none. -/
structure CastQueue.Continues (q q' : CastQueue) : Prop where
  cast : q'.queue.cast.isSome = true → q.queue.cast.isSome = true
  sessionId : q'.sessionId = q.sessionId
  streamId : q'.streamId = q.streamId
  credentials : q'.credentials = q.credentials

theorem CastQueue.Continues.refl : Continues q q := ⟨fun h => h, rfl, rfl, rfl⟩

variable {q : CastQueue} {queue : ScreencopyQueue Casting.Output}

theorem CastQueue.Continues.of_queue (h : queue.cast.isSome = true → q.queue.cast.isSome = true) :
    Continues q { q with queue } := ⟨h, rfl, rfl, rfl⟩

variable {q' : CastQueue}

theorem CastQueue.Continues.stream (h : Continues q q') {id : ℕ} (hid : q'.stream? = some id) :
    q.stream? = some id := by
  unfold stream? at hid ⊢
  by_cases hcast : q'.queue.cast.isSome = true
  · rw [if_pos hcast, some.injEq] at hid
    rw [if_pos (h.cast hcast), ← h.streamId, hid]
  · rw [if_neg hcast] at hid
    cases hid

theorem isSome_cast_retained {keep : Screencopy Casting.Output → Bool} {now : ℕ}
    (h : (queue.retained keep now).cast.isSome = true) : queue.cast.isSome = true := by
  unfold ScreencopyQueue.retained at h
  split at h
  · exact h
  · dsimp only at h
    split at h
    · rwa [isSome_map] at h
    · exact h

theorem isSome_cast_clearExpiredCast {now : ℕ} (h : (queue.clearExpiredCast now).cast.isSome = true) :
    queue.cast.isSome = true := by
  cases hcast : queue.cast with
  | some cast => rfl
  | none =>
    unfold ScreencopyQueue.clearExpiredCast at h
    rw [hcast] at h
    rw [hcast] at h
    exact h

/-- An operation keeps the cast of the queue, unless it is the push that starts one. -/
theorem CastQueue.step_continues {op : QueueOp} (h : q.step op = some q') :
    Continues q q' ∨ ∃ screencopy now sessionId,
      op = .push screencopy now sessionId q'.streamId ∧ q.queue.cast.isSome = false := by
  cases op with
  | createFrame frame =>
    obtain rfl := some.inj h
    exact .inl (.of_queue id)
  | push screencopy now sessionId streamId =>
    obtain rfl := some.inj h
    unfold push
    by_cases hcast : q.queue.cast.isSome = true
    · rw [if_pos hcast]
      exact .inl (.of_queue fun _ => hcast)
    · rw [if_neg hcast]
      exact .inr ⟨screencopy, now, sessionId, rfl, Bool.eq_false_of_not_eq_true hcast⟩
  | pop now =>
    obtain ⟨r, hr, rfl⟩ := map_eq_some_iff.mp h
    refine .inl (.of_queue fun _ => ?_)
    unfold ScreencopyQueue.pop at hr
    cases hcast : q.queue.cast with
    | some cast => rfl
    | none =>
      rw [hcast] at hr
      split at hr <;> cases hr
  | removeFrame frame now =>
    obtain rfl := some.inj h
    have hqueue : (q.queue.removeFrame frame now).cast.isSome = true →
        q.queue.cast.isSome = true :=
      @isSome_cast_retained { q.queue with pendingFrames := q.queue.pendingFrames.erase frame } _ _
    exact .inl (.of_queue hqueue)

namespace CastsWorld

/-- Every cast of a queue is one that it had before, but for the one that is new. -/
def QueuesFrom (queues queues' : HashMap ℕ CastQueue) (new : Option (ℕ × ℕ)) : Prop :=
  ∀ m q', queues'.lookup m = some q' → ∀ id, q'.stream? = some id →
    (∃ q, queues.lookup m = some q ∧ q.Continues q') ∨ new = some (m, id)

variable {queues : HashMap ℕ CastQueue}

theorem queuesFrom_mapValues {f : CastQueue → CastQueue} (hf : ∀ q : CastQueue, q.Continues (f q))
    (new : Option (ℕ × ℕ)) : QueuesFrom queues (HashMap.mapValues f queues) new := by
  intro m q' hq' id _
  rw [lookup_mapValues] at hq'
  obtain ⟨q, hq, rfl⟩ := map_eq_some_iff.mp hq'
  exact .inl ⟨q, hq, hf q⟩

theorem queuesFrom_insert {manager : ℕ} {q' : CastQueue} {new : Option (ℕ × ℕ)}
    (h : ∀ id, q'.stream? = some id →
      (∃ q, queues.lookup manager = some q ∧ q.Continues q') ∨ new = some (manager, id)) :
    QueuesFrom queues (queues.insert manager q') new := by
  intro m q hq id hid
  by_cases hm : m = manager
  · rw [hm, lookup_insert] at hq
    obtain rfl := some.inj hq
    rw [hm]
    exact h id hid
  · rw [lookup_insert_of_ne _ hm] at hq
    exact .inl ⟨q, hq, CastQueue.Continues.refl q⟩

/-- A step that is not a refresh leaves what the server has told. -/
theorem happen_cases {w w' : CastsWorld} {event : CastsEvent} (h : w.happen event = some w') :
    (∃ now queueOrder castOrder, event = .refresh now queueOrder castOrder ∧
      w.ipcRefreshCasts now queueOrder castOrder = some w') ∨
    (w'.server = w.server ∧ w'.used = w.used ∧
      Screencasting.Opens (w.opensCast event) w.casting w'.casting ∧
      QueuesFrom w.queues w'.queues (w.opensQueue event)) := by
  have hsame : QueuesFrom w.queues w.queues (w.opensQueue event) :=
    fun m q hq _ _ => .inl ⟨q, hq, CastQueue.Continues.refl _⟩
  have hopens : Screencasting.Opens 0 w.casting w.casting := (Screencasting.Shrinks.refl _).opens 0
  cases event with
  | casting answers event =>
    obtain rfl := some.inj h
    exact .inr ⟨rfl, rfl, w.casting.opens_step answers event, hsame⟩
  | bind manager credentials =>
    obtain rfl := some.inj h
    refine .inr ⟨rfl, rfl, hopens, queuesFrom_insert fun id hid => ?_⟩
    cases hid
  | queueOp manager op =>
    simp only [happen] at h
    cases hq : w.queues.lookup manager with
    | none =>
      rw [hq] at h
      obtain rfl := some.inj h
      exact .inr ⟨rfl, rfl, hopens, hsame⟩
    | some q =>
      rw [hq] at h
      obtain ⟨q', hq', rfl⟩ := map_eq_some_iff.mp h
      refine .inr ⟨rfl, rfl, hopens, queuesFrom_insert fun id hid => ?_⟩
      rcases CastQueue.step_continues hq' with hcontinues | ⟨screencopy, now, sessionId, rfl, hcast⟩
      · exact .inl ⟨q, hq, hcontinues⟩
      · right
        have hid' : q'.streamId = id := by
          unfold CastQueue.stream? at hid
          split at hid
          · exact some.inj hid
          · cases hid
        simp only [opensQueue, hq, hcast, hid', Bool.false_eq_true, if_false]
  | removeOutput output now =>
    obtain rfl := some.inj h
    exact .inr ⟨rfl, rfl, hopens,
      queuesFrom_mapValues (fun q => .of_queue (@isSome_cast_retained q.queue _ _)) _⟩
  | cleanupQueues isAlive =>
    obtain rfl := some.inj h
    refine .inr ⟨rfl, rfl, hopens, fun m q' hq' id _ => ?_⟩
    rw [lookup_retain, filter_eq_some_iff] at hq'
    exact .inl ⟨q', hq'.1, CastQueue.Continues.refl _⟩
  | refresh now queueOrder castOrder => exact .inl ⟨now, queueOrder, castOrder, rfl, h⟩

/-! ## What was told of a cast, and what is the same still -/

/-- What was told of a PipeWire cast, as far as it cannot change. -/
structure Told (key : CastKey) (c : Cast) : Prop where
  sessionId : c.sessionId = key.sessionId
  kind : c.kind = .pipeWire
  isDynamicTarget : c.isDynamicTarget = key.target.isNone
  pid : c.pid = none

/-- What was told of a screencopy cast, as far as it cannot change. -/
structure ToldScreencopy (q : CastQueue) (c : Cast) : Prop where
  sessionId : c.sessionId = q.sessionId
  kind : c.kind = .wlrScreencopy
  isDynamicTarget : c.isDynamicTarget = false
  isActive : c.isActive = true
  pid : c.pid = q.credentials
  pwNodeId : c.pwNodeId = none

/-- The stream ids are distinct, none of them is new, and what the server has told of a cast that
is there agrees with it in what cannot change. -/
structure Mirrors (w : CastsWorld) : Prop where
  keyed : HashMap.Keyed Cast.streamId w.server.casts
  serverUsed : ∀ id ∈ w.server.casts, id ∈ w.used
  keysUsed : ∀ key ∈ w.casting.keys, key.streamId ∈ w.used
  queuesUsed : ∀ m q, w.queues.lookup m = some q → ∀ id, q.stream? = some id → id ∈ w.used
  nodup : (w.casting.keys.map CastKey.streamId).Nodup
  queuesInj : ∀ m m' q q', w.queues.lookup m = some q → w.queues.lookup m' = some q' →
    ∀ id, q.stream? = some id → q'.stream? = some id → m = m'
  apart : ∀ m q, w.queues.lookup m = some q → ∀ key ∈ w.casting.keys, q.stream? ≠ some key.streamId
  casts : ∀ key ∈ w.casting.keys, ∀ c, w.server.casts.lookup key.streamId = some c → Told key c
  pending : ∀ p ∈ w.casting.pendingDynamicCasts, ∀ c,
    w.server.casts.lookup p.streamId = some c → c = ipcPending p
  queues : ∀ m q, w.queues.lookup m = some q → ∀ id, q.stream? = some id → ∀ c,
    w.server.casts.lookup id = some c → ToldScreencopy q c

theorem mirrors_init (dynamicCastIdForPortal : ℕ) : (init dynamicCastIdForPortal).Mirrors where
  keyed := keyed_empty _
  serverUsed _ h := (notMem_empty h).elim
  keysUsed key h := (notMem_zero key h).elim
  queuesUsed m q h := by cases h
  nodup := nodup_zero
  queuesInj m m' q q' h := by cases h
  apart m q h := by cases h
  casts key h := (notMem_zero key h).elim
  pending p h := (not_mem_nil h).elim
  queues m q h := by cases h

/-- At most one stream is told to start at a time. -/
theorem nodup_opens (casting : Screencasting) (answers : Answers) (event : CastingEvent) :
    ((casting.opens answers event).map CastKey.streamId).Nodup := by
  cases event with
  | screenCastMsg msg =>
    cases msg with
    | stopCast sessionId => exact nodup_zero
    | startCast sessionId streamId target =>
      cases target with
      | output name =>
        simp only [Screencasting.opens, Casting.ScreenCastToNiri.opens]
        split
        · exact nodup_zero
        · exact Multiset.nodup_singleton _
      | window id =>
        simp only [Screencasting.opens, Casting.ScreenCastToNiri.opens]
        split
        · exact Multiset.nodup_singleton _
        · split
          · exact Multiset.nodup_singleton _
          · exact nodup_zero
  | _ => exact nodup_zero

section Steps

variable {w w' : CastsWorld}

/-- What a step may change between two refreshes, with new ids only for what is new. -/
structure Between (w w' : CastsWorld) (new : Multiset CastKey) (opened : Option (ℕ × ℕ)) : Prop where
  server : w'.server = w.server
  casting : Screencasting.Opens new w.casting w'.casting
  queues : QueuesFrom w.queues w'.queues opened
  used : w.used ⊆ w'.used
  nodup : (new.map CastKey.streamId).Nodup
  fresh : ∀ key ∈ new, key.streamId ∉ w.used ∧ key.streamId ∈ w'.used
  freshQueue : ∀ m id, opened = some (m, id) → id ∉ w.used ∧ id ∈ w'.used ∧ new = 0

theorem Between.key (h : Between w w' new opened) {key : CastKey} (hkey : key ∈ w'.casting.keys) :
    key ∈ w.casting.keys ∨ key ∈ new :=
  mem_add.mp (mem_of_le h.casting.keys hkey)

theorem Between.mirrors (h : Between w w' new opened) (hw : w.Mirrors) : w'.Mirrors := by
  -- what is new has not been told
  have hnotTold : ∀ id, id ∉ w.used → ∀ c, w'.server.casts.lookup id ≠ some c := by
    intro id hid c hc
    rw [h.server] at hc
    exact hid (hw.serverUsed id (mem_of_lookup_eq_some hc))
  have hqueue : ∀ m q', w'.queues.lookup m = some q' → ∀ id, q'.stream? = some id →
      (∃ q, w.queues.lookup m = some q ∧ q.Continues q' ∧ q.stream? = some id) ∨
        opened = some (m, id) := by
    intro m q' hq' id hid
    rcases h.queues m q' hq' id hid with ⟨q, hq, hcontinues⟩ | hopened
    · exact .inl ⟨q, hq, hcontinues, hcontinues.stream hid⟩
    · exact .inr hopened
  constructor
  case keyed => exact h.server ▸ hw.keyed
  case serverUsed =>
    rw [h.server]
    exact fun id hid => h.used (hw.serverUsed id hid)
  case keysUsed =>
    intro key hkey
    rcases h.key hkey with hold | hnew
    · exact h.used (hw.keysUsed key hold)
    · exact (h.fresh key hnew).2
  case queuesUsed =>
    intro m q' hq' id hid
    rcases hqueue m q' hq' id hid with ⟨q, hq, _, hold⟩ | hopened
    · exact h.used (hw.queuesUsed m q hq id hold)
    · exact (h.freshQueue m id hopened).2.1
  case nodup =>
    refine nodup_of_le (map_le_map h.casting.keys) ?_
    rw [map_add, nodup_add]
    refine ⟨hw.nodup, h.nodup, disjoint_left.mpr fun {id} hold hnew => ?_⟩
    obtain ⟨key, hkey, rfl⟩ := Multiset.mem_map.mp hold
    obtain ⟨key', hkey', heq⟩ := Multiset.mem_map.mp hnew
    exact (h.fresh key' hkey').1 (heq ▸ hw.keysUsed key hkey)
  case queuesInj =>
    intro m m' q q' hq hq' id hid hid'
    rcases hqueue m q hq id hid with ⟨q₀, hq₀, _, hold⟩ | hopened
    · rcases hqueue m' q' hq' id hid' with ⟨q₀', hq₀', _, hold'⟩ | hopened'
      · exact hw.queuesInj m m' q₀ q₀' hq₀ hq₀' id hold hold'
      · exact ((h.freshQueue m' id hopened').1 (hw.queuesUsed m q₀ hq₀ id hold)).elim
    · rcases hqueue m' q' hq' id hid' with ⟨q₀', hq₀', _, hold'⟩ | hopened'
      · exact ((h.freshQueue m id hopened).1 (hw.queuesUsed m' q₀' hq₀' id hold')).elim
      · rw [hopened, some.injEq, Prod.mk.injEq] at hopened'
        exact hopened'.1
  case apart =>
    intro m q' hq' key hkey hid
    rcases hqueue m q' hq' key.streamId hid with ⟨q, hq, _, hold⟩ | hopened
    · rcases h.key hkey with hkey | hnew
      · exact hw.apart m q hq key hkey hold
      · exact (h.fresh key hnew).1 (hw.queuesUsed m q hq key.streamId hold)
    · obtain ⟨hunused, -, hnone⟩ := h.freshQueue m key.streamId hopened
      rcases h.key hkey with hkey | hnew
      · exact hunused (hw.keysUsed key hkey)
      · rw [hnone] at hnew
        exact notMem_zero key hnew
  case casts =>
    intro key hkey c hc
    rcases h.key hkey with hkey | hnew
    · exact hw.casts key hkey c (h.server ▸ hc)
    · exact (hnotTold _ (h.fresh key hnew).1 c hc).elim
  case pending =>
    intro p hp c hc
    rcases h.casting.pending p hp with hp | hnew
    · exact hw.pending p hp c (h.server ▸ hc)
    · exact (hnotTold _ (h.fresh p.key hnew).1 c hc).elim
  case queues =>
    intro m q' hq' id hid c hc
    rcases hqueue m q' hq' id hid with ⟨q, hq, hcontinues, hold⟩ | hopened
    · have htold := hw.queues m q hq id hold c (h.server ▸ hc)
      exact ⟨htold.sessionId.trans hcontinues.sessionId.symm, htold.kind, htold.isDynamicTarget,
        htold.isActive, htold.pid.trans hcontinues.credentials.symm, htold.pwNodeId⟩
    · exact (hnotTold id (h.freshQueue m id hopened).1 c hc).elim

/-- The expired casts are gone, the others are as they were. -/
theorem Mirrors.clearExpiredCasts (hw : w.Mirrors) (now : ℕ) :
    (w.clearExpiredCasts now).Mirrors := by
  have h : Between w (w.clearExpiredCasts now) 0 none :=
    ⟨rfl, (Screencasting.Shrinks.refl _).opens 0,
      queuesFrom_mapValues (fun q => .of_queue isSome_cast_clearExpiredCast) none,
      Finset.Subset.refl _, nodup_zero, fun key h => (notMem_zero key h).elim,
      fun m id h => by cases h⟩
  exact h.mirrors hw

/-! ## The refresh -/

variable (casting : Screencasting)

theorem streamIds_castEntries (queues : List CastQueue) :
    (castEntries casting queues).map (·.cast.streamId) =
      casting.pendingDynamicCasts.map (·.streamId) ++ casting.casts.map (·.streamId) ++
        queues.filterMap CastQueue.stream? := by
  have hqueues : (queues.filterMap screencopyEntry).map (·.cast.streamId) =
      queues.filterMap CastQueue.stream? := by
    rw [map_filterMap]
    refine filterMap_congr fun q _ => ?_
    unfold screencopyEntry CastQueue.stream?
    cases q.queue.cast <;> rfl
  rw [castEntries, map_append, map_append, List.map_map, List.map_map, hqueues]
  rfl

theorem streamIds_keys :
    casting.keys.map CastKey.streamId =
      (casting.pendingDynamicCasts.map (·.streamId) ++ casting.casts.map (·.streamId) : List ℕ) := by
  rw [Screencasting.keys, map_add, Multiset.map_coe, Multiset.map_coe, List.map_map,
    List.map_map, coe_add]
  rfl

variable {queueOrder : List ℕ}

/-- No two of the casts have one stream id. -/
theorem Mirrors.nodup_entries (hw : w.Mirrors) (horder : HashMap.Lists queueOrder w.queues) :
    ((w.entries queueOrder).map (·.cast.streamId)).Nodup := by
  have hkeys := hw.nodup
  rw [streamIds_keys, coe_nodup] at hkeys
  have hqueues : ((HashMap.values w.queues queueOrder).filterMap CastQueue.stream?).Nodup := by
    rw [HashMap.values, filterMap_filterMap]
    refine horder.1.filterMap fun m m' id hid hid' => ?_
    obtain ⟨q, hq, hid⟩ := bind_eq_some_iff.mp hid
    obtain ⟨q', hq', hid'⟩ := bind_eq_some_iff.mp hid'
    exact hw.queuesInj m m' q q' hq hq' id hid hid'
  rw [entries, streamIds_castEntries]
  refine List.Nodup.append hkeys hqueues fun id hid hid' => ?_
  obtain ⟨q, hq, hstream⟩ := mem_filterMap.mp hid'
  obtain ⟨m, hm⟩ := mem_values hq
  rw [← mem_coe, ← streamIds_keys] at hid
  obtain ⟨key, hkey, rfl⟩ := Multiset.mem_map.mp hid
  exact hw.apart m q hm key hkey hstream

theorem mem_keys_of_cast {casting : Screencasting} {cast : Casting.Cast}
    (hcast : cast ∈ casting.casts) : cast.key ∈ casting.keys :=
  mem_add.mpr (.inr (mem_coe.mpr (mem_map_of_mem hcast)))

theorem told_ipcCast (cast : Casting.Cast) : Told cast.key (ipcCast cast) where
  sessionId := rfl
  kind := rfl
  isDynamicTarget := by
    unfold Casting.Cast.key ipcCast
    cases cast.dynamicTarget <;> rfl
  pid := rfl

/-- The comparison of each kind tells a cast from what was sent of it before. -/
theorem Mirrors.tells (hw : w.Mirrors) {entry : CastEntry} (hentry : entry ∈ w.entries queueOrder) :
    entry.Tells w.server := by
  rw [entries, castEntries, mem_append, mem_append] at hentry
  rcases hentry with (hentry | hentry) | hentry
  · obtain ⟨p, hp, rfl⟩ := mem_map.mp hentry
    exact ⟨fun existing hexisting _ => hw.pending p hp existing hexisting,
      fun _ _ hdiffers => by cases hdiffers⟩
  · obtain ⟨cast, hcast, rfl⟩ := mem_map.mp hentry
    refine ⟨fun existing hexisting hsame => ?_, fun existing _ hdiffers heq => ?_⟩
    · have htold := hw.casts cast.key (mem_keys_of_cast hcast) existing hexisting
      have hcastTold := told_ipcCast cast
      have hstream : existing.streamId = cast.streamId := hw.keyed _ _ hexisting
      simp only [castEntry, Bool.or_eq_false_iff, decide_eq_false_iff_not, not_not,
        Bool.not_eq_false', Casting.CastTarget.matches_iff] at hsame
      obtain ⟨⟨hactive, htarget⟩, hnode⟩ := hsame
      have hsession := htold.sessionId.trans hcastTold.sessionId.symm
      have hkind := htold.kind.trans hcastTold.kind.symm
      have hdynamic := htold.isDynamicTarget.trans hcastTold.isDynamicTarget.symm
      have hpid := htold.pid.trans hcastTold.pid.symm
      obtain ⟨_, _, _, _, _, _, _, _⟩ := existing
      subst hactive htarget hnode hsession hkind hdynamic hpid hstream
      rfl
    · subst heq
      have hmatches : cast.target.matches cast.target.makeIpc = true :=
        Casting.CastTarget.matches_iff.mpr rfl
      simp [castEntry, ipcCast, hmatches] at hdiffers
  · obtain ⟨q, hq, hentry⟩ := mem_filterMap.mp hentry
    obtain ⟨castInfo, hcastInfo, rfl⟩ := map_eq_some_iff.mp hentry
    obtain ⟨m, hm⟩ := mem_values hq
    refine ⟨fun existing hexisting hsame => ?_, fun existing _ hdiffers heq => ?_⟩
    · have hstream : q.stream? = some q.streamId := by
        rw [CastQueue.stream?, hcastInfo]
        rfl
      have htold := hw.queues m q hm q.streamId hstream existing hexisting
      have hkey : existing.streamId = q.streamId := hw.keyed _ _ hexisting
      obtain ⟨hsession, hkind, hdynamic, hactive, hpid, hnode⟩ := htold
      obtain ⟨_, _, _, target, _, _, _, _⟩ := existing
      cases target with
      | output name =>
        simp only [ne_eq, decide_eq_false_iff_not, not_not, ipcScreencopy] at *
        subst hsession hkind hdynamic hactive hpid hnode hkey hsame
        rfl
      | nothing | window => cases hsame
    · subst heq
      simp [ipcScreencopy] at hdiffers

/-- **One refresh** leads to the snapshot. -/
theorem Mirrors.applyAll_refresh (hw : w.Mirrors) {castOrder : List ℕ}
    (hqueues : HashMap.Lists queueOrder w.queues) (hcasts : HashMap.Lists castOrder w.server.casts) :
    w.server.applyAll (refreshCasts w.server w.casting (HashMap.values w.queues queueOrder)
      castOrder) = some (castsSnapshot (w.entries queueOrder)) :=
  emit_exact (hw.nodup_entries hqueues) (fun _ hentry => hw.tells hentry) hcasts

/-- What a refresh leaves agrees with the casts. -/
theorem Mirrors.refreshed (hw : w.Mirrors) (hqueues : HashMap.Lists queueOrder w.queues) :
    Mirrors { w with server := castsSnapshot (w.entries queueOrder) } := by
  have hnodup := hw.nodup_entries hqueues
  have hlookup : ∀ entry ∈ w.entries queueOrder, ∀ c,
      (castsSnapshot (w.entries queueOrder)).casts.lookup entry.cast.streamId = some c →
        c = entry.cast := by
    intro entry hentry c hc
    rw [lookup_castsSnapshot hnodup hentry] at hc
    exact (some.inj hc).symm
  have hpending : ∀ p ∈ w.casting.pendingDynamicCasts, pendingEntry p ∈ w.entries queueOrder :=
    fun p hp => mem_append_left _ (mem_append_left _ (mem_map_of_mem hp))
  have hcast : ∀ cast ∈ w.casting.casts, castEntry cast ∈ w.entries queueOrder :=
    fun cast hc => mem_append_left _ (mem_append_right _ (mem_map_of_mem hc))
  refine { hw with keyed := ?_, serverUsed := ?_, casts := ?_, pending := ?_, queues := ?_ }
  · intro k c hc
    obtain ⟨entry, hentry, rfl⟩ := exists_of_lookup_castsSnapshot hc
    rw [hlookup entry hentry c hc]
  · intro id hid
    obtain ⟨c, hc⟩ := mem_iff.mp hid
    obtain ⟨entry, hentry, rfl⟩ := exists_of_lookup_castsSnapshot hc
    have hmem := mem_map_of_mem (f := fun entry : CastEntry => entry.cast.streamId) hentry
    rw [entries, streamIds_castEntries, mem_append, ← mem_coe, ← streamIds_keys]
      at hmem
    rcases hmem with hmem | hmem
    · obtain ⟨key, hkey, heq⟩ := Multiset.mem_map.mp hmem
      exact heq ▸ hw.keysUsed key hkey
    · obtain ⟨q, hq, hstream⟩ := mem_filterMap.mp hmem
      obtain ⟨m, hm⟩ := mem_values hq
      exact hw.queuesUsed m q hm _ hstream
  · intro key hkey c hc
    rcases mem_add.mp hkey with hkey | hkey
    · obtain ⟨p, hp, rfl⟩ := mem_map.mp (mem_coe.mp hkey)
      rw [hlookup _ (hpending p hp) c hc]
      exact ⟨rfl, rfl, rfl, rfl⟩
    · obtain ⟨cast, hcast', rfl⟩ := mem_map.mp (mem_coe.mp hkey)
      rw [hlookup _ (hcast cast hcast') c hc]
      exact told_ipcCast cast
  · intro p hp c hc
    exact hlookup _ (hpending p hp) c hc
  · intro m q hq id hid c hc
    obtain ⟨castInfo, hcastInfo⟩ : ∃ castInfo, q.queue.cast = some castInfo := by
      cases h : q.queue.cast with
      | none => simp [CastQueue.stream?, h] at hid
      | some castInfo => exact ⟨castInfo, rfl⟩
    obtain rfl : q.streamId = id := by
      simpa [CastQueue.stream?, hcastInfo] using hid
    have hentry : _ ∈ w.entries queueOrder := mem_append_right _
      (mem_filterMap.mpr ⟨q, mem_filterMap.mpr
        ⟨m, hqueues.mem_iff.mpr (mem_of_lookup_eq_some hq), hq⟩,
        by rw [screencopyEntry, hcastInfo, map_some]⟩)
    rw [hlookup _ hentry c hc]
    exact ⟨rfl, rfl, rfl, rfl, rfl, rfl⟩

/-- A step that gives out new ids only keeps the mirror in agreement. -/
theorem Mirrors.step (hw : w.Mirrors) {event : CastsEvent} (hfresh : w.Fresh event)
    (hstep : w.step event = some w') : w'.Mirrors := by
  obtain ⟨w₁, hhappen, rfl⟩ := map_eq_some_iff.mp hstep
  rcases happen_cases hhappen with ⟨now, queueOrder, castOrder, rfl, hrefresh⟩ |
      ⟨hserver, hused, hopens, hqueues⟩
  · have hcleared := hw.clearExpiredCasts now
    obtain ⟨horders, hrefresh⟩ := ite_none_right_eq_some.mp hrefresh
    obtain ⟨server, happly, rfl⟩ := map_eq_some_iff.mp hrefresh
    rw [hcleared.applyAll_refresh horders.1 horders.2, some.injEq] at happly
    subst happly
    have h := hcleared.refreshed horders.1
    have hnone : (w.givesOut (.refresh now queueOrder castOrder)).toFinset = ∅ := rfl
    have hused : w.used ∪ ∅ = w.used := Finset.union_empty _
    exact hused.symm ▸ h
  · have hbetween : Between w { w₁ with used := w.used ∪ (w.givesOut event).toFinset }
        (w.opensCast event) (w.opensQueue event) := by
      refine ⟨hserver, hopens, hqueues, Finset.subset_union_left, ?_, ?_, ?_⟩
      · cases event with
        | casting answers event => exact nodup_opens _ _ _
        | _ => exact nodup_zero
      · intro key hkey
        have hgives : key.streamId ∈ w.givesOut event :=
          mem_add.mpr (.inl (mem_map_of_mem _ hkey))
        exact ⟨hfresh _ hgives, Finset.mem_union_right _ (mem_toFinset.mpr hgives)⟩
      · intro m id hopened
        have hgives : id ∈ w.givesOut event := by
          rw [givesOut, hopened]
          exact mem_add.mpr (.inr (Multiset.mem_singleton_self id))
        refine ⟨hfresh _ hgives, Finset.mem_union_right _ (mem_toFinset.mpr hgives), ?_⟩
        cases event with
        | casting answers event => cases hopened
        | _ => rfl
    exact hbetween.mirrors hw

end Steps

end CastsWorld

/-- **The mirror of the casts is exact.**  In every run that gives out no stream id twice, the
events of the next refresh, applied in order, lead from what earlier refreshes have left to the
snapshot of all casts; they stop only casts that are in it, and start or change only casts that
are not in it as they are. -/
theorem refreshCasts_exact (dynamicCastIdForPortal : ℕ) {events : List CastsEvent}
    {w : CastsWorld} (hrun : Run.exec CastsWorld.step (.init dynamicCastIdForPortal) events = some w)
    (hunique : (CastsWorld.init dynamicCastIdForPortal).UniqueStreamIds events) (now : ℕ)
    {queueOrder castOrder : List ℕ}
    (hqueues : HashMap.Lists queueOrder (w.clearExpiredCasts now).queues)
    (hcasts : HashMap.Lists castOrder w.server.casts) :
    let cleared := w.clearExpiredCasts now
    let emitted := refreshCasts w.server cleared.casting (HashMap.values cleared.queues queueOrder)
      castOrder
    w.server.applyAll emitted = some (castsSnapshot (cleared.entries queueOrder)) ∧
      (∀ streamId, .castStopped streamId ∈ emitted → streamId ∈ w.server.casts) ∧
      ∀ cast, .castStartedOrChanged cast ∈ emitted →
        w.server.casts.lookup cast.streamId ≠ some cast := by
  intro cleared emitted
  have hw : w.Mirrors := Run.along_invariant
    (fun _ _ _ hw hfresh hstep => CastsWorld.Mirrors.step hw hfresh hstep)
    (CastsWorld.mirrors_init dynamicCastIdForPortal) hunique hrun
  have hcleared : cleared.Mirrors := hw.clearExpiredCasts now
  refine ⟨hcleared.applyAll_refresh hqueues hcasts, fun streamId hstop => ?_,
    fun cast hstart hsame => ?_⟩
  · exact hcasts.mem_iff.mp (mem_stopped_emit hstop)
  · obtain ⟨entry, hsent, rfl⟩ := mem_started_emit hstart
    obtain ⟨hentry, hdiffers⟩ := mem_filter.mp hsent
    have hlookup : cleared.server.casts.lookup entry.cast.streamId = some entry.cast := hsame
    rw [show cleared.server = w.server from rfl] at hlookup
    rw [hlookup, all_some] at hdiffers
    exact (hcleared.tells hentry).changed entry.cast hlookup hdiffers rfl

/-- A dynamic cast that is told while it is pending, and then is started and streams, next to a
new screencopy cast. -/
def startedRun : List CastsEvent :=
  [.casting obliging (.screenCastMsg (.startCast 1 1 (.window 7))), .refresh 0 [] [],
    .casting obliging (.setDynamicCastTarget (.output 0 "DP-1")),
    .casting obliging (.stateChanged 0 (.paused 40)), .casting obliging (.stateChanged 0 .streaming),
    .bind 0 (some 100),
    .queueOp 0 (.push ⟨⟨⟨0, "DP-1"⟩, ⟨8, 8⟩, ⟨0, 0⟩, false⟩, 0, .unknown, true, false⟩ 0 2 2)]

theorem refreshCasts_exact_startedRun :
    ∃ w, Run.exec CastsWorld.step (.init 7) startedRun = some w ∧
      let cleared := w.clearExpiredCasts 0
      let emitted := refreshCasts w.server cleared.casting (HashMap.values cleared.queues [0]) [1]
      w.server.applyAll emitted = some (castsSnapshot (cleared.entries [0])) ∧
        (∀ streamId, .castStopped streamId ∈ emitted → streamId ∈ w.server.casts) ∧
        ∀ cast, .castStartedOrChanged cast ∈ emitted →
          w.server.casts.lookup cast.streamId ≠ some cast := by
  obtain ⟨w, hw⟩ : ∃ w, Run.exec CastsWorld.step (.init 7) startedRun = some w :=
    isSome_iff_exists.mp (by decide +kernel)
  have horders : (Run.exec CastsWorld.step (.init 7) startedRun).all (fun w =>
      HashMap.Lists [0] (w.clearExpiredCasts 0).queues ∧ HashMap.Lists [1] w.server.casts) =
        true := by
    decide +kernel
  rw [hw, all_some, decide_eq_true_eq] at horders
  have hunique : Run.Along CastsWorld.step CastsWorld.Fresh (.init 7) startedRun := by
    decide +kernel
  exact ⟨w, hw, refreshCasts_exact 7 hw hunique 0 horders.1 horders.2⟩

end Tiri.Ipc
