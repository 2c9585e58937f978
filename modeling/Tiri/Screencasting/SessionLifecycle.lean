import Tiri.Screencasting.Session

/-!
# The life of a screencast session

What holds of one session is told from a view of it: the session, how far the calls on it are,
the messages of it on their way, and whether it has a cast.  A step changes the view of at most
one session, but for casts that go.

Results:
* `View.Ok`: the invariant of one session;
* `Sound.step`: every step keeps it, for all sessions;
* `Apart.step`: a step keeps the streams apart, unless a call starts a stream that is started;
* `lifecycle`: the two along a run.
-/

namespace Tiri.Casting

open Option List Finmap Function
open Multiset hiding filter_cons_of_neg filter_cons_of_pos filter_singleton map_cons map_singleton mem_singleton nodup_cons nodup_singleton
open Bool hiding eq_iff_iff

/-! ## One session -/

def ScreenCastToNiri.isStop : ScreenCastToNiri → Bool
  | .startCast _ _ _ => false
  | .stopCast _ => true

structure View where
  sessionId : ℕ
  session : Session
  calls : ℕ → Option CallState
  msgs : List ScreenCastToNiri
  /-- The session has a cast. -/
  live : Prop
  /-- It was told to stop. -/
  told : Prop

namespace View

/-- What holds while a call may be the last one to return. -/
structure Held (v : View) : Prop where
  closed_le : v.session.closed ≤ 1
  closed_eq : v.session.stopped = false → v.session.closed = 0
  swapped : ∀ i, v.calls i = some .stopSwapped → v.session.closed = 0
  unique : ∀ i j, v.calls i = some .stopSwapped → v.calls j = some .stopSwapped → i = j
  stopped : ∀ i state, v.calls i = some state → state.isStopping = true → v.session.stopped = true
  /-- A session that is stopped and not yet removed is being stopped. -/
  stopping : v.session.stopped = true → v.session.registered = true →
    ∃ i state, v.calls i = some state ∧ state.isStopping = true
  unregistered : v.session.registered = false → v.session.stopped = true
  dropped : v.session.dropped = true → v.session.registered = false ∧ ∀ i, v.calls i = none
  /-- The last message of a session that is dropped stops it. -/
  settled : v.session.dropped = true → (v.msgs = [] → ¬v.live) ∧
    ∀ msg, v.msgs.getLast? = some msg → msg.isStop = true
  told : v.told → v.session.stopped = true ∨ ∃ i, v.calls i = some .stopWaiting
  streams : ∀ stream ∈ v.session.streams, stream.sessionId = v.sessionId
  rest : ∀ i rest, v.calls i = some (.starting rest) → ∀ stream ∈ rest,
    stream.sessionId = v.sessionId

structure Ok (v : View) : Prop extends v.Held where
  /-- A session that is removed is dropped, unless a call holds it. -/
  dropping : v.session.registered = false → v.session.dropped = true ∨ ∃ i state,
    v.calls i = some state

variable {v : View}

theorem ok_new (sessionId : ℕ) : Ok ⟨sessionId, .new, fun _ => none, [], False, False⟩ := by
  refine ⟨⟨?_, ?_, ?_, ?_, ?_, ?_, ?_, ?_, ?_, ?_, ?_, ?_⟩, ?_⟩ <;> simp [Session.new]

variable {i : ℕ} {state : CallState}

theorem Ok.not_dropped (h : v.Ok) (hi : v.calls i = some state) : ¬v.session.dropped = true := by
  intro hdropped
  rw [(h.dropped hdropped).2 i] at hi
  cases hi

variable {st : CallState} {next : Option CallState} {j : ℕ}

theorem calls_update {calls : ℕ → Option CallState} (h : update calls i next j = some st) :
    (j = i ∧ next = some st) ∨ (j ≠ i ∧ calls j = some st) := by
  by_cases hji : j = i
  · rw [hji, update_self] at h
    exact .inl ⟨hji, h⟩
  · rw [update_of_ne hji] at h
    exact .inr ⟨hji, h⟩

theorem calls_other (hi : v.calls i = some state) (hj : v.calls j = some st) (hne : st ≠ state) :
    update v.calls i next j = some st := by
  rw [update_of_ne (fun heq => hne (by rw [heq, hi] at hj; exact (some.inj hj).symm))]
  exact hj

theorem calls_erase (hj : update v.calls i none j = some st) : v.calls j = some st := by
  rcases calls_update hj with ⟨-, heq⟩ | ⟨-, hj⟩
  · cases heq
  · exact hj

variable {next : CallState}

/-- A call that goes on starts streams of the session only. -/
theorem Held.rest_update (h : v.Held)
    (hnext : ∀ rest, next = .starting rest → ∀ stream ∈ rest, stream.sessionId = v.sessionId)
    (j : ℕ) (rest : List Stream) (hj : update v.calls i (some next) j = some (.starting rest)) :
    ∀ stream ∈ rest, stream.sessionId = v.sessionId := by
  rcases calls_update hj with ⟨-, heq⟩ | ⟨-, hj⟩
  · exact hnext rest (some.inj heq)
  · exact h.rest j rest hj

section

variable (h : v.Ok)
include h

variable {live : Prop}

/-- Casts may go. -/
theorem Ok.shrink (hlive : live → v.live) : Ok { v with live } :=
  { h with settled := fun hd => ⟨fun hmsgs hl => (h.settled hd).1 hmsgs (hlive hl), (h.settled hd).2⟩ }

/-- A message is taken; if it is to stop the session, nothing of it is left. -/
theorem Ok.pop {msg : ScreenCastToNiri} {msgs : List ScreenCastToNiri}
    (hmsgs : v.msgs = msg :: msgs) (hlive : msg.isStop = true → ¬live) :
    Ok { v with msgs, live } := by
  refine { h with settled := fun hd => ?_ }
  have hlast := (h.settled hd).2
  rw [hmsgs] at hlast
  constructor
  · rintro rfl
    exact hlive (hlast msg rfl)
  · intro last hl
    refine hlast last ?_
    rw [List.getLast?_cons, hl, getD_some]

/-- A call begins on a session that is in the object server. -/
theorem Ok.begin (hregistered : v.session.registered = true) (hi : v.calls i = none)
    (hstate : state.isStopping = false) (hrest : ∀ rest, state ≠ .starting rest) {told : Prop}
    (htold : told → v.told ∨ state = .stopWaiting) :
    Ok { v with calls := update v.calls i (some state), told } := by
  have hold : ∀ j st, v.calls j = some st → update v.calls i (some state) j = some st := by
    intro j st hj
    rw [update_of_ne (fun heq => by rw [heq, hi] at hj; cases hj)]
    exact hj
  have hnotSwapped : state ≠ .stopSwapped := by
    rintro rfl
    cases hstate
  have hdropped : ¬v.session.dropped = true := fun hd => by
    rw [(h.dropped hd).1] at hregistered
    cases hregistered
  have hswapped : ∀ j, update v.calls i (some state) j = some .stopSwapped →
      v.calls j = some .stopSwapped := by
    intro j hj
    rcases calls_update hj with ⟨-, heq⟩ | ⟨-, hj⟩
    · exact (hnotSwapped (some.inj heq)).elim
    · exact hj
  refine ⟨⟨h.closed_le, h.closed_eq, fun j hj => h.swapped j (hswapped j hj),
    fun j k hj hk => h.unique j k (hswapped j hj) (hswapped k hk), ?_, ?_, h.unregistered,
    fun hd => (hdropped hd).elim, fun hd => (hdropped hd).elim, ?_, h.streams,
    h.rest_update fun rest heq => (hrest rest heq).elim⟩, ?_⟩
  · intro j st hj hst
    rcases calls_update hj with ⟨-, heq⟩ | ⟨-, hj⟩
    · rw [← some.inj heq, hstate] at hst
      cases hst
    · exact h.stopped j st hj hst
  · intro hs hr
    obtain ⟨j, st, hj, hst⟩ := h.stopping hs hr
    exact ⟨j, st, hold j st hj, hst⟩
  · intro ht
    rcases htold ht with ht | rfl
    · rcases h.told ht with hs | ⟨j, hj⟩
      · exact .inl hs
      · exact .inr ⟨j, hold j _ hj⟩
    · exact .inr ⟨i, update_self ..⟩
  · intro _
    exact .inr ⟨i, state, update_self ..⟩

/-- A call that does not stop the session goes on. -/
theorem Ok.move (hi : v.calls i = some state) (hstate : state.isStopping = false)
    (hwaiting : state ≠ .stopWaiting) (hnext : next.isStopping = false)
    (hrest : ∀ rest, next = .starting rest → ∀ stream ∈ rest, stream.sessionId = v.sessionId)
    (msgs : List ScreenCastToNiri) : Ok { v with calls := update v.calls i (some next), msgs } := by
  have hdropped := h.not_dropped hi
  have hstopping : ∀ j st, update v.calls i (some next) j = some st →
      st.isStopping = true → v.calls j = some st := by
    intro j st hj hst
    rcases calls_update hj with ⟨-, heq⟩ | ⟨-, hj⟩
    · rw [← some.inj heq, hnext] at hst
      cases hst
    · exact hj
  refine ⟨⟨h.closed_le, h.closed_eq, fun j hj => h.swapped j (hstopping j _ hj rfl),
    fun j k hj hk => h.unique j k (hstopping j _ hj rfl) (hstopping k _ hk rfl),
    fun j st hj hst => h.stopped j st (hstopping j st hj hst) hst, ?_, h.unregistered,
    fun hd => (hdropped hd).elim, fun hd => (hdropped hd).elim, ?_, h.streams,
    h.rest_update hrest⟩, ?_⟩
  · intro hs hr
    obtain ⟨j, st, hj, hst⟩ := h.stopping hs hr
    refine ⟨j, st, calls_other hi hj ?_, hst⟩
    rintro rfl
    rw [hstate] at hst
    cases hst
  · intro ht
    rcases h.told ht with hs | ⟨j, hj⟩
    · exact .inl hs
    · exact .inr ⟨j, calls_other hi hj (Ne.symm hwaiting)⟩
  · intro _
    exact .inr ⟨i, next, update_self ..⟩

/-- The first call to stop the session sets the flag. -/
theorem Ok.swap (hi : v.calls i = some .stopWaiting) (hstopped : v.session.stopped = false) :
    Ok { v with
      session := { v.session with stopped := true }
      calls := update v.calls i (some .stopSwapped) } := by
  have hdropped := h.not_dropped hi
  -- no other call is stopping the session
  have hnone : ∀ j st, v.calls j = some st → st.isStopping = false := by
    intro j st hj
    rw [← not_eq_true]
    intro hst
    rw [h.stopped j st hj hst] at hstopped
    cases hstopped
  have hregistered : v.session.registered = true := by
    rw [← not_eq_false]
    intro hr
    rw [h.unregistered hr] at hstopped
    cases hstopped
  have hself : ∀ j, update v.calls i (some .stopSwapped) j = some .stopSwapped → j = i := by
    intro j hj
    rcases calls_update hj with ⟨hji, -⟩ | ⟨-, hj⟩
    · exact hji
    · cases hnone j _ hj
  refine ⟨⟨h.closed_le, fun hs => (nomatch hs), fun _ _ => h.closed_eq hstopped,
    fun j k hj hk => (hself j hj).trans (hself k hk).symm, fun _ _ _ _ => rfl,
    fun _ _ => ⟨i, .stopSwapped, update_self .., rfl⟩, fun _ => rfl,
    fun hd => (hdropped hd).elim, fun hd => (hdropped hd).elim, fun _ => .inl rfl, h.streams,
    h.rest_update nofun⟩, fun hr => ?_⟩
  rw [hregistered] at hr
  cases hr

/-- The call that has set the flag signals `Closed`. -/
theorem Ok.signal (hi : v.calls i = some .stopSwapped) :
    Ok { v with
      session := { v.session with closed := v.session.closed + 1 }
      calls := update v.calls i (some .stopClosed) } := by
  have hstopped : v.session.stopped = true := h.stopped i _ hi rfl
  have hdropped := h.not_dropped hi
  have hzero : v.session.closed = 0 := h.swapped i hi
  have hnone : ∀ j, update v.calls i (some .stopClosed) j ≠ some .stopSwapped := by
    intro j hj
    rcases calls_update hj with ⟨-, heq⟩ | ⟨hji, hj⟩
    · cases heq
    · exact hji (h.unique j i hj hi)
  refine ⟨⟨?_, fun hs => ?_, fun j hj => (hnone j hj).elim, fun j _ hj => (hnone j hj).elim,
    fun _ _ _ _ => hstopped, fun _ _ => ⟨i, .stopClosed, update_self .., rfl⟩,
    fun _ => hstopped, fun hd => (hdropped hd).elim, fun hd => (hdropped hd).elim,
    fun _ => .inl hstopped, h.streams, h.rest_update nofun⟩,
    fun _ => .inr ⟨i, .stopClosed, update_self ..⟩⟩
  · change v.session.closed + 1 ≤ 1
    omega
  · change v.session.stopped = false at hs
    rw [hstopped] at hs
    cases hs

variable {streams : List Stream}

/-- The call goes on stopping the session. -/
theorem Ok.proceed (hi : v.calls i = some state) (hstate : state.isStopping = true)
    (hnext : next.isStopping = true) (hswapped : next ≠ .stopSwapped)
    (hstreams : ∀ stream ∈ streams, stream.sessionId = v.sessionId) (msgs : List ScreenCastToNiri) :
    Ok { v with
      session := { v.session with streams }
      calls := update v.calls i (some next)
      msgs } := by
  have hstopped : v.session.stopped = true := h.stopped i _ hi hstate
  have hdropped := h.not_dropped hi
  have hold : ∀ j, update v.calls i (some next) j = some .stopSwapped →
      v.calls j = some .stopSwapped := by
    intro j hj
    rcases calls_update hj with ⟨-, heq⟩ | ⟨-, hj⟩
    · exact (hswapped (some.inj heq)).elim
    · exact hj
  refine ⟨⟨h.closed_le, h.closed_eq, fun j hj => h.swapped j (hold j hj),
    fun j k hj hk => h.unique j k (hold j hj) (hold k hk), fun _ _ _ _ => hstopped,
    fun _ _ => ⟨i, next, update_self .., hnext⟩, h.unregistered,
    fun hd => (hdropped hd).elim, fun hd => (hdropped hd).elim, fun _ => .inl hstopped, hstreams,
    h.rest_update fun rest heq => ?_⟩, fun _ => .inr ⟨i, next, update_self ..⟩⟩
  rw [heq] at hnext
  cases hnext

/-- A call returns that does not stop the session. -/
theorem Ok.return (hi : v.calls i = some state) (hstate : state.isStopping = false)
    (hwaiting : state = .stopWaiting → v.session.stopped = true)
    (hstreams : ∀ stream ∈ streams, stream.sessionId = v.sessionId) :
    Held { v with
      session := { v.session with streams }
      calls := update v.calls i none } := by
  have hdropped := h.not_dropped hi
  refine ⟨h.closed_le, h.closed_eq, fun j hj => h.swapped j (calls_erase hj),
    fun j k hj hk => h.unique j k (calls_erase hj) (calls_erase hk),
    fun j st hj => h.stopped j st (calls_erase hj), ?_, h.unregistered,
    fun hd => (hdropped hd).elim, fun hd => (hdropped hd).elim, ?_, hstreams,
    fun j rest hj => h.rest j rest (calls_erase hj)⟩
  · intro hs hr
    obtain ⟨j, st, hj, hst⟩ := h.stopping hs hr
    refine ⟨j, st, calls_other hi hj ?_, hst⟩
    rintro rfl
    rw [hstate] at hst
    cases hst
  · intro ht
    rcases h.told ht with hs | ⟨j, hj⟩
    · exact .inl hs
    · by_cases hst : state = .stopWaiting
      · exact .inl (hwaiting hst)
      · exact .inr ⟨j, calls_other hi hj (Ne.symm hst)⟩

/-- The call that stops the session removes it, and returns. -/
theorem Ok.remove (hi : v.calls i = some .stopTaken) :
    Held { v with
      session := { v.session with registered := false }
      calls := update v.calls i none } := by
  have hstopped : v.session.stopped = true := h.stopped i _ hi rfl
  have hdropped := h.not_dropped hi
  exact ⟨h.closed_le, h.closed_eq, fun j hj => h.swapped j (calls_erase hj),
    fun j k hj hk => h.unique j k (calls_erase hj) (calls_erase hk), fun _ _ _ _ => hstopped,
    fun _ hr => (nomatch hr), fun _ => hstopped, fun hd => (hdropped hd).elim,
    fun hd => (hdropped hd).elim, fun _ => .inl hstopped, h.streams,
    fun j rest hj => h.rest j rest (calls_erase hj)⟩

omit h in
/-- The session is dropped, which sends the last message of it. -/
theorem Held.drop (h : v.Held) (hregistered : v.session.registered = false)
    (hcalls : ∀ i, v.calls i = none) :
    Ok { v with
      session := { v.session with dropped := true }
      msgs := v.msgs ++ [.stopCast v.sessionId] } := by
  refine ⟨{ h with dropped := fun _ => ⟨hregistered, hcalls⟩, settled := fun _ => ⟨?_, ?_⟩ },
    fun _ => .inl rfl⟩
  · intro hmsgs
    exact (append_ne_nil_of_right_ne_nil _ (cons_ne_nil _ _) hmsgs).elim
  · intro msg hmsg
    rw [List.getLast?_concat] at hmsg
    rw [← some.inj hmsg]
    rfl

/-- What is left of a session that was told to stop, once its calls have returned and its messages
are processed. -/
theorem Ok.gone (htold : v.told) (hcalls : ∀ i, v.calls i = none) (hmsgs : v.msgs = []) :
    ¬v.live := by
  have hstopped : v.session.stopped = true := by
    rcases h.told htold with hs | ⟨i, hi⟩
    · exact hs
    · rw [hcalls i] at hi
      cases hi
  have hregistered : v.session.registered = false := by
    rw [← not_eq_true]
    intro hr
    obtain ⟨i, st, hi, -⟩ := h.stopping hstopped hr
    rw [hcalls i] at hi
    cases hi
  rcases h.dropping hregistered with hd | ⟨i, st, hi⟩
  · exact (h.settled hd).1 hmsgs
  · rw [hcalls i] at hi
    cases hi

end

end View

/-! ## All sessions -/

namespace World

def callsOn (w : World) (sessionId i : ℕ) : Option CallState :=
  (w.calls.lookup i).bind fun call => if call.sessionId = sessionId then some call.state else none

def msgsOn (w : World) (sessionId : ℕ) : List ScreenCastToNiri :=
  w.channel.filter (·.sessionId = sessionId)

def view (w : World) (sessionId : ℕ) (session : Session) : View where
  sessionId
  session
  calls := w.callsOn sessionId
  msgs := w.msgsOn sessionId
  live := ∃ key ∈ w.casting.keys, key.sessionId = sessionId
  told := sessionId ∈ w.told

/-- A session that is there is as it has to be, and there is nothing of one that is not there. -/
def At (w : World) (sessionId : ℕ) : Prop :=
  (∀ session, w.sessions.lookup sessionId = some session → (w.view sessionId session).Ok) ∧
    (w.sessions.lookup sessionId = none → w.callsOn sessionId = (fun _ => none) ∧
      w.msgsOn sessionId = [] ∧ (∀ key ∈ w.casting.keys, key.sessionId ≠ sessionId) ∧
      sessionId ∉ w.told)

theorem at_of_ok {w : World} {t : ℕ} {session : Session}
    (hsession : w.sessions.lookup t = some session) (hok : (w.view t session).Ok) : w.At t := by
  refine ⟨fun session' h => ?_, fun hnone => ?_⟩
  · rw [hsession, some.injEq] at h
    exact h ▸ hok
  · rw [hsession] at hnone
    cases hnone

structure Sound (w : World) : Prop where
  at' : ∀ sessionId, w.At sessionId
  fresh : ∀ sessionId ∈ w.sessions, sessionId < w.nextSessionId
  freshCall : ∀ i ∈ w.calls, i < w.nextCall

variable (dynamicCastIdForPortal : ℕ)

theorem sound_init : (init dynamicCastIdForPortal).Sound where
  at' _ := ⟨fun _ h => (nomatch h), fun _ => ⟨rfl, rfl,
    fun key h => (notMem_zero key h).elim, Finset.notMem_empty _⟩⟩
  fresh _ h := (notMem_empty h).elim
  freshCall _ h := (notMem_empty h).elim

/-- Nothing happens on the session, but that its casts may go. -/
structure Frame (sessionId : ℕ) (w w' : World) : Prop where
  session : w'.sessions.lookup sessionId = w.sessions.lookup sessionId
  calls : w'.callsOn sessionId = w.callsOn sessionId
  msgs : w'.msgsOn sessionId = w.msgsOn sessionId
  live : ∀ key ∈ w'.casting.keys, key.sessionId = sessionId → key ∈ w.casting.keys
  told : sessionId ∈ w'.told ↔ sessionId ∈ w.told

variable {w w' w'' : World} {s t i : ℕ} {call : Call} {session : Session} {state : CallState}

theorem Frame.trans (h : Frame s w w') (h' : Frame s w' w'') : Frame s w w'' :=
  ⟨h'.session.trans h.session, h'.calls.trans h.calls, h'.msgs.trans h.msgs,
    fun key hkey hs => h.live key (h'.live key hkey hs) hs, h'.told.trans h.told⟩

theorem Frame.at' (h : Frame s w w') (hw : w.At s) : w'.At s := by
  constructor
  · intro session hsession
    rw [h.session] at hsession
    have hlive : (∃ key ∈ w'.casting.keys, key.sessionId = s) → (w.view s session).live :=
      fun ⟨key, hkey, hs⟩ => ⟨key, h.live key hkey hs, hs⟩
    have hok := (hw.1 session hsession).shrink hlive
    have hview : w'.view s session =
        { w.view s session with live := ∃ key ∈ w'.casting.keys, key.sessionId = s } := by
      simp only [view, h.calls, h.msgs, h.told]
    exact hview ▸ hok
  · intro hnone
    rw [h.session] at hnone
    obtain ⟨hcalls, hmsgs, hlive, htold⟩ := hw.2 hnone
    exact ⟨h.calls.trans hcalls, h.msgs.trans hmsgs,
      fun key hkey hs => hlive key (h.live key hkey hs) hs, fun ht => htold (h.told.mp ht)⟩

/-! ### What the parts of a step leave -/

theorem frame_setSession (hs : s ≠ t) : Frame s w (w.setSession t session) :=
  ⟨lookup_insert_of_ne _ hs, rfl, rfl, fun _ h _ => h, Iff.rfl⟩

theorem frame_send {msgs : List ScreenCastToNiri} (hmsgs : ∀ msg ∈ msgs, msg.sessionId ≠ s) :
    Frame s w (w.send msgs) := by
  refine ⟨rfl, rfl, ?_, fun _ h _ => h, Iff.rfl⟩
  have hnone : msgs.filter (·.sessionId = s) = [] := by
    rw [filter_eq_nil_iff]
    intro msg hmsg
    simpa using hmsgs msg hmsg
  rw [msgsOn, send, filter_append, hnone, append_nil, msgsOn]

theorem callsOn_setCall (hs : call.sessionId = s) :
    (w.setCall i call state).callsOn s = update (w.callsOn s) i (some state) := by
  funext j
  by_cases hj : j = i
  · rw [hj, update_self, callsOn, setCall, lookup_insert, bind_some, if_pos hs]
  · rw [update_of_ne hj, callsOn, setCall, lookup_insert_of_ne _ hj, callsOn]

theorem callsOn_erase : callsOn { w with calls := w.calls.erase i } s =
    update (w.callsOn s) i none := by
  funext j
  by_cases hj : j = i
  · rw [hj, update_self, callsOn, lookup_erase, bind_none]
  · rw [update_of_ne hj, callsOn, lookup_erase_ne hj, callsOn]

variable {onMain : Bool} {answers : Answers} {casting : Screencasting}

theorem callsOn_begin :
    (w.begin t onMain state).callsOn s = if t = s then update (w.callsOn s) w.nextCall (some state)
      else update (w.callsOn s) w.nextCall none := by
  by_cases hs : t = s
  · rw [if_pos hs]
    funext j
    by_cases hj : j = w.nextCall
    · rw [hj, update_self, callsOn, begin, lookup_insert, bind_some, if_pos hs]
    · rw [update_of_ne hj, callsOn, begin, lookup_insert_of_ne _ hj, callsOn]
  · rw [if_neg hs]
    funext j
    by_cases hj : j = w.nextCall
    · rw [hj, update_self, callsOn, begin, lookup_insert, bind_some, if_neg hs]
    · rw [update_of_ne hj, callsOn, begin, lookup_insert_of_ne _ hj, callsOn]

section

variable (hi : w.calls.lookup i = some call) (hs : s ≠ call.sessionId)
include hi hs

theorem callsOn_of_other : w.callsOn s i = none := by
  rw [callsOn, hi, bind_some, if_neg (Ne.symm hs)]

omit hs in
theorem callsOn_self : w.callsOn call.sessionId i = some call.state := by
  rw [callsOn, hi, bind_some, if_pos rfl]

theorem frame_setCall : Frame s w (w.setCall i call state) := by
  refine ⟨rfl, ?_, rfl, fun _ h _ => h, Iff.rfl⟩
  funext j
  by_cases hj : j = i
  · rw [hj, callsOn_of_other hi hs, callsOn, setCall, lookup_insert, bind_some, if_neg (Ne.symm hs)]
  · rw [callsOn, setCall, lookup_insert_of_ne _ hj, callsOn]

theorem frame_erase : Frame s w { w with calls := w.calls.erase i } := by
  refine ⟨rfl, ?_, rfl, fun _ h _ => h, Iff.rfl⟩
  rw [callsOn_erase, ← callsOn_of_other hi hs, update_eq_self]

omit hs in
omit hi in
theorem frame_dropUnheld (hs : s ≠ t) : Frame s w (w.dropUnheld t) := by
  have hself : Frame s w w := ⟨rfl, rfl, rfl, fun _ h _ => h, Iff.rfl⟩
  unfold dropUnheld
  split
  · exact hself
  · split
    · refine (frame_setSession hs).trans (frame_send fun msg hmsg => ?_)
      rw [mem_singleton.mp hmsg]
      exact Ne.symm hs
    · exact hself

theorem frame_finish : Frame s w (w.finish i call) :=
  (frame_erase hi hs).trans (frame_dropUnheld hs)

end

theorem isFree_iff : w.isFree s = true ↔ ∀ i, w.callsOn s i = none := by
  rw [isFree, HashMap.all_eq_true]
  constructor
  · intro h i
    cases hi : w.calls.lookup i with
    | none => rw [callsOn, hi, bind_none]
    | some call =>
      rw [callsOn, hi, bind_some, if_neg (by simpa using h i call hi)]
  · intro h i call hi
    have hnone := h i
    rw [callsOn, hi, bind_some] at hnone
    by_cases hs : call.sessionId = s
    · rw [if_pos hs] at hnone
      cases hnone
    · simpa using hs

/-- A session whose call has returned is dropped if it has to be. -/
theorem at_dropUnheld (hsession : w.sessions.lookup t = some session)
    (h : (w.view t session).Held) : (w.dropUnheld t).At t := by
  unfold dropUnheld
  rw [hsession]
  dsimp only
  by_cases hdrop : (!session.registered && !session.dropped && w.isFree t) = true
  · rw [if_pos hdrop]
    simp only [and_eq_true, not_eq_true'] at hdrop
    obtain ⟨⟨hregistered, -⟩, hfree⟩ := hdrop
    have hlookup : ((w.setSession t { session with dropped := true }).send
        [.stopCast t]).sessions.lookup t = some { session with dropped := true } :=
      lookup_insert _
    refine at_of_ok hlookup ?_
    have hok := h.drop hregistered (isFree_iff.mp hfree)
    have hmsgs : msgsOn ((w.setSession t { session with dropped := true }).send [.stopCast t]) t =
        w.msgsOn t ++ [.stopCast t] := by
      rw [msgsOn, send, filter_append, filter_singleton]
      simp [ScreenCastToNiri.sessionId, setSession, msgsOn]
    have hview : ((w.setSession t { session with dropped := true }).send [.stopCast t]).view t
        { session with dropped := true } = { w.view t session with
          session := { session with dropped := true }
          msgs := w.msgsOn t ++ [.stopCast t] } := by
      rw [view, hmsgs]
      rfl
    exact hview ▸ hok
  · rw [if_neg hdrop]
    refine at_of_ok hsession ⟨h, fun hregistered => ?_⟩
    by_cases hdropped : session.dropped = true
    · exact .inl hdropped
    · right
      have hfree : ¬w.isFree t = true := by
        intro hfree
        refine hdrop ?_
        have hr : session.registered = false := hregistered
        rw [hr, eq_false_of_not_eq_true hdropped, hfree]
        rfl
      rw [isFree_iff] at hfree
      push Not at hfree
      obtain ⟨i, hi⟩ := hfree
      obtain ⟨state, hstate⟩ := ne_none_iff_exists'.mp hi
      exact ⟨i, state, hstate⟩

/-! ### The steps of a call -/

theorem hasCall_eq_false {p : CallState → Bool} (h : ¬w.hasCall s p = true) {j : ℕ}
    {st : CallState} (hj : w.callsOn s j = some st) : p st = false := by
  rw [← not_eq_true]
  intro hp
  refine h (HashMap.anyValue_eq_true.mpr ?_)
  obtain ⟨call, hcall, heq⟩ := bind_eq_some_iff.mp hj
  by_cases hs : call.sessionId = s
  · rw [if_pos hs, some.injEq] at heq
    exact ⟨j, call, hcall, by simp [hs, heq, hp]⟩
  · rw [if_neg hs] at heq
    cases heq

/-- The session of a call, after a step that the view tells of. -/
theorem at_setCall (hsession : w.sessions.lookup call.sessionId = some session)
    (hok : View.Ok { w.view call.sessionId session with
      calls := update (w.callsOn call.sessionId) i (some state) }) :
    (w.setCall i call state).At call.sessionId := by
  have hlookup : (w.setCall i call state).sessions.lookup call.sessionId = some session := hsession
  refine at_of_ok hlookup ?_
  have hview : (w.setCall i call state).view call.sessionId session =
      { w.view call.sessionId session with
        calls := update (w.callsOn call.sessionId) i (some state) } := by
    rw [view, callsOn_setCall rfl]
    rfl
  exact hview ▸ hok

theorem at_finish (hsession : w.sessions.lookup call.sessionId = some session)
    (hheld : View.Held { w.view call.sessionId session with
      calls := update (w.callsOn call.sessionId) i none }) :
    (w.finish i call).At call.sessionId := by
  have hlookup : { w with calls := w.calls.erase i }.sessions.lookup call.sessionId =
      some session := hsession
  refine at_dropUnheld hlookup ?_
  have hview : view { w with calls := w.calls.erase i } call.sessionId session =
      { w.view call.sessionId session with
        calls := update (w.callsOn call.sessionId) i none } := by
    rw [view, callsOn_erase]
    rfl
  exact hview ▸ hheld

/-- What the call does next, from the state that it is in. -/
inductive Advanced (w : World) (i : ℕ) (call : Call) (session : Session) : World → Prop
  | lock : call.state = .startWaiting → ¬w.hasCall call.sessionId CallState.isStarting = true →
    Advanced w i call session (w.setCall i call (.starting session.streams))
  | started : call.state = .starting [] → Advanced w i call session (w.finish i call)
  | start {stream rest} : call.state = .starting (stream :: rest) →
    Advanced w i call session ((w.setCall i call (.starting rest)).send stream.start)
  | record {target} : call.state = .recordWaiting target →
    Advanced w i call session (({ w with nextStreamId := w.nextStreamId + 1 }.setSession
      call.sessionId { session with streams := session.streams ++
        [Stream.mk w.nextStreamId call.sessionId target false] }).finish i call)
  | stopped : call.state = .stopWaiting → session.stopped = true →
    Advanced w i call session (w.finish i call)
  | swap : call.state = .stopWaiting → session.stopped = false →
    Advanced w i call session
      ((w.setSession call.sessionId { session with stopped := true }).setCall i call .stopSwapped)
  | signal : call.state = .stopSwapped →
    Advanced w i call session ((w.setSession call.sessionId
      { session with closed := session.closed + 1 }).setCall i call .stopClosed)
  | send : call.state = .stopClosed →
    Advanced w i call session ((w.setCall i call .stopSent).send [.stopCast call.sessionId])
  | take : call.state = .stopSent → ¬w.hasCall call.sessionId CallState.isStarting = true →
    Advanced w i call session
      ((w.setSession call.sessionId { session with streams := [] }).setCall i call .stopTaken)
  | remove : call.state = .stopTaken → Advanced w i call session
      ((w.setSession call.sessionId { session with registered := false }).finish i call)

theorem advance_cases (h : w.advance i = some w') : ∃ call session,
    w.calls.lookup i = some call ∧ w.sessions.lookup call.sessionId = some session ∧
      Advanced w i call session w' := by
  obtain ⟨call, hcall, h⟩ := bind_eq_some_iff.mp h
  obtain ⟨session, hsession, h⟩ := bind_eq_some_iff.mp h
  refine ⟨call, session, hcall, hsession, ?_⟩
  split at h
  case h_1 hstate =>
    obtain ⟨hfree, h⟩ := ite_none_left_eq_some.mp h
    exact some.inj h ▸ .lock hstate hfree
  case h_2 hstate => exact some.inj h ▸ .started hstate
  case h_3 hstate => exact some.inj h ▸ .start hstate
  case h_4 hstate =>
    obtain ⟨-, h⟩ := ite_none_left_eq_some.mp h
    exact some.inj h ▸ .record hstate
  case h_5 hstate =>
    split at h
    · exact some.inj h ▸ .stopped hstate ‹_›
    · exact some.inj h ▸ .swap hstate (eq_false_of_not_eq_true ‹_›)
  case h_6 hstate => exact some.inj h ▸ .signal hstate
  case h_7 hstate => exact some.inj h ▸ .send hstate
  case h_8 hstate =>
    obtain ⟨hfree, h⟩ := ite_none_left_eq_some.mp h
    exact some.inj h ▸ .take hstate hfree
  case h_9 hstate => exact some.inj h ▸ .remove hstate

/-- A step of a call, on its session and on the others. -/
theorem advance_at (hw : w.Sound) (h : w.advance i = some w') (s : ℕ) : w'.At s := by
  obtain ⟨call, session, hcall, hsession, hstep⟩ := advance_cases h
  have hok := (hw.at' call.sessionId).1 session hsession
  have hi : ∀ {st}, call.state = st → (w.view call.sessionId session).calls i = some st :=
    fun hst => hst ▸ callsOn_self hcall
  by_cases hs : s = call.sessionId
  · -- what happens on the session
    rw [hs]
    cases hstep with
    | lock hstate _ =>
      exact at_setCall hsession (hok.move (hi hstate) rfl nofun rfl
        (fun rest heq => CallState.starting.inj heq ▸ hok.streams) _)
    | started hstate => exact at_finish hsession (hok.return (hi hstate) rfl nofun hok.streams)
    | @start stream rest hstate =>
      have hrest := hok.rest i _ (hi hstate)
      exact at_setCall (w := w.send stream.start) hsession (hok.move (hi hstate) rfl nofun rfl
        (fun rest' heq => CallState.starting.inj heq ▸ fun st hst =>
          hrest st (mem_cons_of_mem _ hst)) _)
    | record hstate =>
      refine at_finish (lookup_insert _) (hok.return (hi hstate) rfl nofun ?_)
      intro stream hstream
      rcases mem_append.mp hstream with hstream | hstream
      · exact hok.streams stream hstream
      · rw [mem_singleton.mp hstream]
        rfl
    | stopped hstate hstopped =>
      exact at_finish hsession (hok.return (hi hstate) rfl (fun _ => hstopped) hok.streams)
    | swap hstate hstopped => exact at_setCall (lookup_insert _) (hok.swap (hi hstate) hstopped)
    | signal hstate => exact at_setCall (lookup_insert _) (hok.signal (hi hstate))
    | send hstate =>
      have hnext : CallState.stopSent ≠ .stopSwapped := nofun
      exact at_setCall (w := w.send [.stopCast call.sessionId]) hsession
        (hok.proceed (hi hstate) rfl rfl hnext hok.streams _)
    | take hstate _ =>
      have hnext : CallState.stopTaken ≠ .stopSwapped := nofun
      exact at_setCall (lookup_insert _)
        (hok.proceed (hi hstate) rfl rfl hnext (fun _ h => (not_mem_nil h).elim) _)
    | remove hstate => exact at_finish (lookup_insert _) (hok.remove (hi hstate))
  · -- and what the other sessions see of it
    refine Frame.at' ?_ (hw.at' s)
    cases hstep with
    | lock _ _ => exact frame_setCall hcall hs
    | started _ | stopped _ _ => exact frame_finish hcall hs
    | @start stream rest hstate =>
      refine (frame_setCall hcall hs).trans (frame_send fun msg hmsg => ?_)
      have hstream : stream.sessionId = call.sessionId := hok.rest i _ (hi hstate) stream mem_cons_self
      unfold Stream.start at hmsg
      split at hmsg
      · cases hmsg
      · rw [mem_singleton.mp hmsg]
        exact fun heq => hs (heq.symm.trans hstream)
    | record _ =>
      have hstream : Frame s w { w with nextStreamId := w.nextStreamId + 1 } :=
        ⟨rfl, rfl, rfl, fun _ h _ => h, Iff.rfl⟩
      exact (hstream.trans (frame_setSession hs)).trans (frame_finish hcall hs)
    | swap _ _ | signal _ | take _ _ => exact (frame_setSession hs).trans (frame_setCall hcall hs)
    | send _ =>
      refine (frame_setCall hcall hs).trans (frame_send fun msg hmsg => ?_)
      rw [mem_singleton.mp hmsg]
      exact Ne.symm hs
    | remove _ => exact (frame_setSession hs).trans (frame_finish hcall hs)

/-- What a step of a call adds is neither a session nor a call. -/
structure Within (w w' : World) : Prop where
  sessions : ∀ s ∈ w'.sessions, s ∈ w.sessions
  nextSessionId : w'.nextSessionId = w.nextSessionId
  calls : ∀ i ∈ w'.calls, i ∈ w.calls
  nextCall : w'.nextCall = w.nextCall

theorem Within.refl (w : World) : Within w w := ⟨fun _ h => h, rfl, fun _ h => h, rfl⟩

theorem Within.trans (h : Within w w') (h' : Within w' w'') : Within w w'' :=
  ⟨fun s hs => h.sessions s (h'.sessions s hs), h'.nextSessionId.trans h.nextSessionId,
    fun i hi => h.calls i (h'.calls i hi), h'.nextCall.trans h.nextCall⟩

theorem within_setSession (ht : t ∈ w.sessions) : Within w (w.setSession t session) := by
  refine ⟨fun s hs => ?_, rfl, fun _ h => h, rfl⟩
  rcases mem_insert.mp hs with rfl | hs
  · exact ht
  · exact hs

theorem within_setCall (hi : i ∈ w.calls) : Within w (w.setCall i call state) := by
  refine ⟨fun _ h => h, rfl, fun j hj => ?_, rfl⟩
  rcases mem_insert.mp hj with rfl | hj
  · exact hi
  · exact hj

theorem within_send (msgs : List ScreenCastToNiri) : Within w (w.send msgs) :=
  ⟨fun _ h => h, rfl, fun _ h => h, rfl⟩

theorem within_finish : Within w (w.finish i call) := by
  have herase : Within w { w with calls := w.calls.erase i } :=
    ⟨fun _ h => h, rfl, fun j hj => (mem_erase.mp hj).2, rfl⟩
  refine herase.trans ?_
  unfold finish dropUnheld
  split
  · exact .refl _
  · rename_i session hsession
    split
    · exact (within_setSession (mem_of_lookup_eq_some hsession)).trans (within_send _)
    · exact .refl _

theorem within_advance (h : w.advance i = some w') : Within w w' := by
  obtain ⟨call, session, hcall, hsession, hstep⟩ := advance_cases h
  have hi : i ∈ w.calls := mem_of_lookup_eq_some hcall
  have hset : ∀ session', Within w (w.setSession call.sessionId session') :=
    fun _ => within_setSession (mem_of_lookup_eq_some hsession)
  cases hstep with
  | lock _ _ => exact within_setCall hi
  | started _ | stopped _ _ => exact within_finish
  | start _ | send _ => exact (within_setCall hi).trans (within_send _)
  | record _ =>
    have hstream : Within w { w with nextStreamId := w.nextStreamId + 1 } :=
      ⟨fun _ h => h, rfl, fun _ h => h, rfl⟩
    exact (hstream.trans (within_setSession (mem_of_lookup_eq_some hsession))).trans
      within_finish
  | swap _ _ | signal _ | take _ _ => exact (hset _).trans (within_setCall hi)
  | remove _ => exact (hset _).trans within_finish

/-! ### All steps -/

theorem Sound.freshLookup (hw : w.Sound) : w.calls.lookup w.nextCall = none := by
  rw [lookup_eq_none]
  exact fun h => (hw.freshCall _ h).false

theorem Sound.callsOn_next (hw : w.Sound) (s : ℕ) : w.callsOn s w.nextCall = none := by
  rw [callsOn, hw.freshLookup, bind_none]

/-- A call that begins, on its session and on the others. -/
theorem Sound.begin (hw : w.Sound) (hsession : w.sessions.lookup t = some session)
    (hregistered : session.registered = true) (hstate : state.isStopping = false)
    (hrest : ∀ rest, state ≠ .starting rest) {told : Finset ℕ}
    (htold : ∀ s, s ∈ told → s ∈ w.told ∨ (s = t ∧ state = .stopWaiting)) (htold' : w.told ⊆ told) :
    Sound { w.begin t onMain state with told } := by
  refine ⟨fun s => ?_, hw.fresh, fun i hi => ?_⟩
  · by_cases hs : s = t
    · subst hs
      have hlookup : { w.begin s onMain state with told }.sessions.lookup s = some session := hsession
      refine at_of_ok hlookup ?_
      have htold : s ∈ told → (w.view s session).told ∨ state = .stopWaiting :=
        fun h => (htold s h).imp_right And.right
      have hok := ((hw.at' s).1 session hsession).begin hregistered (hw.callsOn_next s) hstate hrest
        htold
      have hview : view { w.begin s onMain state with told } s session = { w.view s session with
            calls := update (w.callsOn s) w.nextCall (some state)
            told := s ∈ told } := by
        have hcalls : callsOn { w.begin s onMain state with told } s =
            update (w.callsOn s) w.nextCall (some state) := by
          have h : (w.begin s onMain state).callsOn s = _ := callsOn_begin
          rw [if_pos rfl] at h
          exact h
        rw [view, hcalls]
        rfl
      exact hview ▸ hok
    · refine Frame.at' (w := w) ⟨rfl, ?_, rfl, fun _ h _ => h, ?_⟩ (hw.at' s)
      · have h : (w.begin t onMain state).callsOn s = _ := callsOn_begin
        rw [if_neg (Ne.symm hs), ← hw.callsOn_next s, update_eq_self] at h
        exact h
      · exact ⟨fun h => (htold s h).elim id fun heq => (hs heq.1).elim, fun h => htold' h⟩
  · change i < w.nextCall + 1
    rcases mem_insert.mp hi with rfl | hi
    · omega
    · have := hw.freshCall i hi
      omega

variable {key : CastKey}

/-- Casts of the main loop go, or are asked for by a message of their session. -/
theorem live_of_opens {event : CastingEvent} (hkey : key ∈ (w.casting.step answers event).keys) :
    key ∈ w.casting.keys ∨ key ∈ w.casting.opens answers event :=
  mem_add.mp (mem_of_le (w.casting.opens_step answers event).keys hkey)

theorem sessionId_of_opens {msg : ScreenCastToNiri} (hkey : key ∈ msg.opens casting answers) :
    key.sessionId = msg.sessionId := by
  cases msg with
  | stopCast sessionId => exact (notMem_zero key hkey).elim
  | startCast sessionId streamId target =>
    cases target with
    | output name =>
      simp only [ScreenCastToNiri.opens] at hkey
      split at hkey
      · exact (notMem_zero key hkey).elim
      · rw [Multiset.mem_singleton.mp hkey]
        rfl
    | window id =>
      simp only [ScreenCastToNiri.opens] at hkey
      split at hkey
      · rw [Multiset.mem_singleton.mp hkey]
        rfl
      · split at hkey
        · rw [Multiset.mem_singleton.mp hkey]
          rfl
        · exact (notMem_zero key hkey).elim

section

variable (hw : w.Sound)
include hw

/-- Taking a message. -/
theorem Sound.processMsg (h : w.processMsg answers = some w') : w'.Sound := by
  unfold World.processMsg at h
  cases hchannel : w.channel with
  | nil =>
    rw [hchannel] at h
    cases h
  | cons msg channel =>
    rw [hchannel] at h
    obtain ⟨-, rfl⟩ := ite_some_none_eq_some.mp h
    refine ⟨fun s => ?_, hw.fresh, hw.freshCall⟩
    by_cases hs : msg.sessionId = s
    · -- the session of the message
      have hmsgs : w.msgsOn s = msg :: channel.filter (·.sessionId = s) := by
        rw [msgsOn, hchannel, filter_cons_of_pos (by simpa using hs)]
      cases hsession : w.sessions.lookup s with
      | none =>
        have hnil := ((hw.at' s).2 hsession).2.1
        rw [hmsgs] at hnil
        cases hnil
      | some session =>
        have hlookup : { w with
            channel, casting := w.casting.step answers (.screenCastMsg msg) }.sessions.lookup s =
              some session := hsession
        refine at_of_ok hlookup ?_
        refine View.Ok.pop ((hw.at' s).1 session hsession) hmsgs ?_
        rintro hstop ⟨key, hkey, hkeys⟩
        cases msg with
        | startCast _ _ _ => cases hstop
        | stopCast sessionId =>
          have hkey' : key ∈ (w.casting.stopCast sessionId).keys := hkey
          rw [Screencasting.keys_stopCast, Multiset.mem_filter] at hkey'
          exact hkey'.2 (hkeys.trans hs.symm)
    · refine Frame.at' (w := w) ⟨rfl, rfl, ?_, fun key hkey hkeys => ?_, Iff.rfl⟩ (hw.at' s)
      · have hmsgs : w.msgsOn s = channel.filter (·.sessionId = s) := by
          rw [msgsOn, hchannel, filter_cons_of_neg (by simpa using hs)]
        exact hmsgs.symm
      · rcases live_of_opens hkey with hkey | hnew
        · exact hkey
        · exact (hs ((sessionId_of_opens hnew).symm.trans hkeys)).elim

/-- Casts that go, and nothing else, leave the sessions as they have to be. -/
theorem Sound.shrink (hkeys : ∀ key ∈ casting.keys, key ∈ w.casting.keys) :
    Sound { w with casting } :=
  ⟨fun s => Frame.at' (w := w) ⟨rfl, rfl, rfl, fun key hkey _ => hkeys key hkey, Iff.rfl⟩
      (hw.at' s),
    hw.fresh, hw.freshCall⟩

theorem Sound.createSession : w.createSession.Sound := by
  have hfresh : w.sessions.lookup w.nextSessionId = none := by
    rw [lookup_eq_none]
    exact fun h => (hw.fresh _ h).false
  refine ⟨fun s => ?_, fun s hs => ?_, hw.freshCall⟩
  · by_cases hs : s = w.nextSessionId
    · subst hs
      obtain ⟨hcalls, hmsgs, hlive, htold⟩ := (hw.at' _).2 hfresh
      have hlookup : w.createSession.sessions.lookup w.nextSessionId = some .new :=
        lookup_insert _
      refine at_of_ok hlookup ?_
      have hnone : ¬∃ key ∈ w.casting.keys, key.sessionId = w.nextSessionId :=
        fun ⟨key, hkey, heq⟩ => hlive key hkey heq
      have hview : w.createSession.view w.nextSessionId .new =
          ⟨w.nextSessionId, .new, fun _ => none, [], False, False⟩ := by
        simp only [view, View.mk.injEq, eq_iff_iff, iff_false]
        exact ⟨trivial, trivial, hcalls, hmsgs, hnone, htold⟩
      exact hview ▸ View.ok_new w.nextSessionId
    · exact Frame.at' (w := w) ⟨lookup_insert_of_ne _ hs, rfl, rfl, fun _ h _ => h, Iff.rfl⟩
        (hw.at' s)
  · change s < w.nextSessionId + 1
    rcases mem_insert.mp hs with rfl | hs
    · omega
    · have := hw.fresh s hs
      omega

theorem Sound.callMethod {method : Method} (h : w.call t method = some w') : w'.Sound := by
  unfold World.call at h
  cases hsession : w.sessions.lookup t with
  | none =>
    rw [hsession] at h
    cases h
  | some session =>
    rw [hsession] at h
    obtain ⟨hregistered, rfl⟩ := ite_some_none_eq_some.mp h
    have hstate : method.begin.isStopping = false := by cases method <;> rfl
    have hrest : ∀ rest, method.begin ≠ .starting rest := by cases method <;> nofun
    refine hw.begin hsession hregistered hstate hrest (fun s hs => ?_) ?_
    · by_cases hstop : method = .stop
      · rw [if_pos hstop] at hs
        rcases Finset.mem_insert.mp hs with rfl | hs
        · exact .inr ⟨rfl, by rw [hstop]; rfl⟩
        · exact .inl hs
      · rw [if_neg hstop] at hs
        exact .inl hs
    · intro s hs
      show s ∈ if method = .stop then insert t w.told else w.told
      split
      · exact Finset.mem_insert_of_mem hs
      · exact hs

theorem Sound.nextStop (h : w.nextStop = some w') : w'.Sound := by
  unfold World.nextStop at h
  cases hstops : w.casting.stops with
  | nil =>
    rw [hstops] at h
    cases h
  | cons t stops =>
    rw [hstops] at h
    obtain ⟨-, h⟩ := ite_none_right_eq_some.mp h
    dsimp only at h
    have hpopped : Sound { w with casting := { w.casting with stops } } :=
      hw.shrink fun _ hkey => hkey
    cases hsession : w.sessions.lookup t with
    | none =>
      rw [hsession] at h
      exact some.inj h ▸ hpopped
    | some session =>
      rw [hsession] at h
      dsimp only at h
      have htold : ∀ s, s ∈ insert t w.told → s ∈ w.told ∨ s = t := fun s hs =>
        (Finset.mem_insert.mp hs).symm
      by_cases hregistered : session.registered = true
      · rw [if_pos hregistered] at h
        obtain rfl := some.inj h
        have hrest : ∀ rest, CallState.stopWaiting ≠ .starting rest := nofun
        exact hpopped.begin hsession hregistered rfl hrest
          (fun s hs => (htold s hs).imp_right fun heq => ⟨heq, rfl⟩) (Finset.subset_insert _ _)
      · -- it was removed, and so is stopped already
        rw [if_neg hregistered] at h
        obtain rfl := some.inj h
        refine ⟨fun s => ?_, hw.fresh, hw.freshCall⟩
        by_cases hs : s = t
        · subst hs
          have hok := (hpopped.at' s).1 session hsession
          have hstopped : session.stopped = true :=
            hok.unregistered (eq_false_of_not_eq_true hregistered)
          have hlookup : { w with
              casting := { w.casting with stops }
              told := insert s w.told }.sessions.lookup s = some session := hsession
          exact at_of_ok hlookup { hok with told := fun _ => .inl hstopped }
        · refine Frame.at' (w := { w with casting := { w.casting with stops } })
            ⟨rfl, rfl, rfl, fun _ h _ => h, ?_⟩ (hpopped.at' s)
          exact ⟨fun h => (htold s h).resolve_right hs, fun h => Finset.mem_insert_of_mem h⟩

omit hw in
/-- What else the main loop does opens no cast. -/
theorem main_cases {event : CastingEvent} (h : w.main answers event = some w') :
    w.casting.opens answers event = 0 ∧
      w' = { w with casting := w.casting.step answers event } := by
  cases event with
  | screenCastMsg msg => cases h
  | _ => exact ⟨rfl, (ite_some_none_eq_some.mp h).2.symm⟩

/-- **Every step keeps the sessions** as they have to be. -/
theorem Sound.step {event : SessionEvent} (h : w.step event = some w') : w'.Sound := by
  cases event with
  | createSession => exact some.inj h ▸ hw.createSession
  | call t method => exact hw.callMethod h
  | advance i =>
    have hwithin := within_advance h
    refine ⟨advance_at hw h, fun s hs => ?_, fun j hj => ?_⟩
    · rw [hwithin.nextSessionId]
      exact hw.fresh s (hwithin.sessions s hs)
    · rw [hwithin.nextCall]
      exact hw.freshCall j (hwithin.calls j hj)
  | processMsg answers => exact hw.processMsg h
  | main answers event =>
    obtain ⟨hnone, rfl⟩ := main_cases h
    refine hw.shrink fun key hkey => (live_of_opens hkey).resolve_right fun hnew => ?_
    rw [hnone] at hnew
    exact notMem_zero key hnew
  | nextStop => exact hw.nextStop h

theorem Sound.stoppedGone : w.StoppedGone := by
  intro s htold hcalls hmsgs key hkey hs
  have hfree : ∀ i, w.callsOn s i = none := by
    refine isFree_iff.mp (HashMap.all_eq_true.mpr fun i call hi => ?_)
    simpa using hcalls i call hi
  have hnil : w.msgsOn s = [] := by
    rw [msgsOn, filter_eq_nil_iff]
    intro msg hmsg
    simpa using hmsgs msg hmsg
  cases hsession : w.sessions.lookup s with
  | none => exact ((hw.at' s).2 hsession).2.2.2 htold
  | some session =>
    exact ((hw.at' s).1 session hsession).gone htold hfree hnil ⟨key, hkey, hs⟩

theorem Sound.closedOnce : w.ClosedOnce :=
  fun s session hsession => ((hw.at' s).1 session hsession).closed_le

end

/-! ## The streams that are started -/

/-- The stream that a message starts. -/
def startedBy : ScreenCastToNiri → List ℕ
  | .startCast _ streamId _ => [streamId]
  | .stopCast _ => []

/-- The streams that have a cast, or a message on its way that starts one. -/
def started (w : World) : Multiset ℕ :=
  w.casting.keys.map CastKey.streamId + (w.channel.flatMap startedBy : List ℕ)

/-- A call of `start` that gets at the streams finds none of them started. -/
def StartsOnce (w : World) : SessionEvent → Prop
  | .advance i => ∀ call ∈ w.calls.lookup i, call.state = .startWaiting →
      ∀ session ∈ w.sessions.lookup call.sessionId, ∀ stream ∈ session.streams,
        stream.id ∉ w.started
  | _ => True

instance (w : World) (event : SessionEvent) : Decidable (w.StartsOnce event) :=
  match event with
  | .advance i =>
    inferInstanceAs (Decidable (∀ call ∈ w.calls.lookup i, call.state = .startWaiting →
      ∀ session ∈ w.sessions.lookup call.sessionId, ∀ stream ∈ session.streams,
        stream.id ∉ w.started))
  | .createSession | .call _ _ | .processMsg _ | .main _ _ | .nextStop => isTrue trivial

/-- No stream is started twice, nor will a call that is starting streams start one again. -/
structure Apart (w : World) : Prop where
  started : w.started.Nodup
  rest : ∀ i call rest, w.calls.lookup i = some call → call.state = .starting rest →
    (rest.map Stream.id).Nodup ∧ (∀ stream ∈ rest, stream.id ∉ w.started) ∧
      ∃ session, w.sessions.lookup call.sessionId = some session ∧ rest ⊆ session.streams
  /-- The streams of a session are locked by one call at a time. -/
  locked : ∀ i j call call' rest rest', w.calls.lookup i = some call →
    w.calls.lookup j = some call' → call.state = .starting rest → call'.state = .starting rest' →
      call.sessionId = call'.sessionId → i = j
  streams : ∀ s session, w.sessions.lookup s = some session →
    (session.streams.map Stream.id).Nodup ∧ ∀ stream ∈ session.streams, stream.id < w.nextStreamId
  distinct : ∀ s s' session session', w.sessions.lookup s = some session →
    w.sessions.lookup s' = some session' → ∀ stream ∈ session.streams,
      ∀ stream' ∈ session'.streams, stream.id = stream'.id → s = s'

theorem apart_init : (init dynamicCastIdForPortal).Apart where
  started := nodup_zero
  rest _ _ _ h := nomatch h
  locked _ _ _ _ _ _ h := nomatch h
  streams _ _ h := nomatch h
  distinct _ _ _ _ h := nomatch h

/-- What a step may do to the streams: it starts none, or the first one of a call that is starting
its streams. -/
structure Keeps (w w' : World) : Prop where
  started : w'.started ≤ w.started
  rest : ∀ i call rest, w'.calls.lookup i = some call → call.state = .starting rest →
    w.calls.lookup i = some call
  streams : ∀ s session, w.sessions.lookup s = some session →
    ∃ session', w'.sessions.lookup s = some session' ∧ session'.streams = session.streams
  sessions : ∀ s session', w'.sessions.lookup s = some session' → session'.streams = [] ∨
    ∃ session, w.sessions.lookup s = some session ∧ session'.streams = session.streams
  nextStreamId : w.nextStreamId ≤ w'.nextStreamId

theorem Keeps.refl (w : World) : Keeps w w :=
  ⟨le_rfl, fun _ _ _ h _ => h, fun _ session h => ⟨session, h, rfl⟩,
    fun _ session h => .inr ⟨session, h, rfl⟩, le_rfl⟩

theorem Keeps.trans (h : Keeps w w') (h' : Keeps w' w'') : Keeps w w'' := by
  refine ⟨h'.started.trans h.started, fun i call rest hi hst => h.rest i call rest
    (h'.rest i call rest hi hst) hst, fun s session hs => ?_, fun s session hs => ?_,
    h.nextStreamId.trans h'.nextStreamId⟩
  · obtain ⟨session₁, h₁, heq⟩ := h.streams s session hs
    obtain ⟨session₂, h₂, heq'⟩ := h'.streams s session₁ h₁
    exact ⟨session₂, h₂, heq'.trans heq⟩
  · rcases h'.sessions s session hs with hnil | ⟨session₁, h₁, heq⟩
    · exact .inl hnil
    · rcases h.sessions s session₁ h₁ with hnil | ⟨session₂, h₂, heq'⟩
      · exact .inl (heq.trans hnil)
      · exact .inr ⟨session₂, h₂, heq.trans heq'⟩

theorem Keeps.apart (h : Keeps w w') (hw : w.Apart) : w'.Apart := by
  have hold : ∀ s session', w'.sessions.lookup s = some session' →
      ∀ stream ∈ session'.streams, ∃ session, w.sessions.lookup s = some session ∧
        session'.streams = session.streams := by
    intro s session' hs stream hstream
    rcases h.sessions s session' hs with hnil | hex
    · rw [hnil] at hstream
      cases hstream
    · exact hex
  refine ⟨nodup_of_le h.started hw.started, fun i call rest hi hst => ?_, ?_, ?_, ?_⟩
  · obtain ⟨hnodup, hnot, session, hsession, hsub⟩ := hw.rest i call rest (h.rest i call rest hi hst) hst
    obtain ⟨session', hsession', heq⟩ := h.streams _ session hsession
    exact ⟨hnodup, fun stream hstream hmem => hnot stream hstream (mem_of_le h.started hmem),
      session', hsession', heq ▸ hsub⟩
  · intro i j call call' rest rest' hi hj hst hst'
    exact hw.locked i j call call' rest rest' (h.rest i call rest hi hst) (h.rest j call' rest' hj hst')
      hst hst'
  · intro s session' hs
    rcases h.sessions s session' hs with hnil | ⟨session, hsession, heq⟩
    · rw [hnil]
      exact ⟨nodup_nil, fun _ h => (not_mem_nil h).elim⟩
    · rw [heq]
      exact ⟨(hw.streams s session hsession).1, fun stream hstream =>
        ((hw.streams s session hsession).2 stream hstream).trans_le h.nextStreamId⟩
  · intro s s' session session' hs hs' stream hstream stream' hstream' heq
    obtain ⟨session₀, h₀, heq₀⟩ := hold s session hs stream hstream
    obtain ⟨session₀', h₀', heq₀'⟩ := hold s' session' hs' stream' hstream'
    exact hw.distinct s s' session₀ session₀' h₀ h₀' stream (heq₀ ▸ hstream) stream'
      (heq₀' ▸ hstream') heq

/-! ### The parts of a step -/

theorem keeps_setSession {old : Session} (hold : w.sessions.lookup t = some old)
    (hstreams : session.streams = old.streams) : Keeps w (w.setSession t session) := by
  refine ⟨le_rfl, fun _ _ _ h _ => h, fun s session₀ hs => ?_, fun s session' hs => ?_, le_rfl⟩
  · by_cases hst : s = t
    · subst hst
      rw [hold, some.injEq] at hs
      exact ⟨session, lookup_insert _, hs ▸ hstreams⟩
    · exact ⟨session₀, (lookup_insert_of_ne _ hst).trans hs, rfl⟩
  · by_cases hst : s = t
    · subst hst
      rw [setSession, lookup_insert, some.injEq] at hs
      exact .inr ⟨old, hold, hs ▸ hstreams⟩
    · rw [setSession, lookup_insert_of_ne _ hst] at hs
      exact .inr ⟨session', hs, rfl⟩

theorem keeps_setCall (hstate : ∀ rest, state ≠ .starting rest) : Keeps w (w.setCall i call state) := by
  refine ⟨le_rfl, fun j call' rest hj hst => ?_, fun _ session h => ⟨session, h, rfl⟩,
    fun _ session h => .inr ⟨session, h, rfl⟩, le_rfl⟩
  by_cases hji : j = i
  · rw [hji, setCall, lookup_insert, some.injEq] at hj
    subst hj
    exact (hstate rest hst).elim
  · rwa [setCall, lookup_insert_of_ne _ hji] at hj

theorem keeps_stopCast : Keeps w (w.send [.stopCast t]) := by
  refine ⟨le_of_eq ?_, fun _ _ _ h _ => h, fun _ session h => ⟨session, h, rfl⟩,
    fun _ session h => .inr ⟨session, h, rfl⟩, le_rfl⟩
  simp [started, send, startedBy]

theorem keeps_finish : Keeps w (w.finish i call) := by
  have herase : Keeps w { w with calls := w.calls.erase i } := by
    refine ⟨le_rfl, fun j call' rest hj _ => HashMap.lookup_of_erase hj,
      fun _ session h => ⟨session, h, rfl⟩, fun _ session h => .inr ⟨session, h, rfl⟩, le_rfl⟩
  refine herase.trans ?_
  unfold finish dropUnheld
  split
  · exact .refl _
  · rename_i session hsession
    split
    · have hset : Keeps { w with calls := w.calls.erase i } (setSession
          { w with calls := w.calls.erase i } call.sessionId { session with dropped := true }) :=
        keeps_setSession hsession rfl
      exact hset.trans keeps_stopCast
    · exact .refl _

theorem keeps_begin (hstate : ∀ rest, state ≠ .starting rest) (told : Finset ℕ) :
    Keeps w { w.begin t onMain state with told } := by
  refine ⟨le_rfl, fun j call' rest hj hst => ?_, fun _ session h => ⟨session, h, rfl⟩,
    fun _ session h => .inr ⟨session, h, rfl⟩, le_rfl⟩
  by_cases hji : j = w.nextCall
  · rw [hji, begin, lookup_insert, some.injEq] at hj
    subst hj
    exact (hstate rest hst).elim
  · rwa [begin, lookup_insert_of_ne _ hji] at hj

/-! ### The steps -/

/-- A call that is starting streams, once the call `i` is. -/
theorem lookup_starting {rest₀ rest : List Stream} {j : ℕ} {call' : Call}
    (hj : (w.setCall i call (.starting rest₀)).calls.lookup j = some call')
    (hst : call'.state = .starting rest) :
    (j = i ∧ call'.sessionId = call.sessionId ∧ rest = rest₀) ∨
      (j ≠ i ∧ w.calls.lookup j = some call') := by
  by_cases hji : j = i
  · rw [hji, setCall, lookup_insert, some.injEq] at hj
    subst hj
    exact .inl ⟨hji, rfl, (CallState.starting.inj hst).symm⟩
  · rw [setCall, lookup_insert_of_ne _ hji] at hj
    exact .inr ⟨hji, hj⟩

section

variable (hw : w.Apart)
include hw

/-- A call locks the streams and finds none of them started. -/
theorem Apart.lock (hsession : w.sessions.lookup call.sessionId = some session)
    (hfree : ¬w.hasCall call.sessionId CallState.isStarting = true)
    (honce : ∀ stream ∈ session.streams, stream.id ∉ w.started) :
    (w.setCall i call (.starting session.streams)).Apart := by
  have hother : ∀ j call' rest, j ≠ i → w.calls.lookup j = some call' →
      call'.state = .starting rest → call'.sessionId ≠ call.sessionId := by
    intro j call' rest _ hj hst heq
    have hon : w.callsOn call.sessionId j = some call'.state := heq ▸ callsOn_self hj
    rw [hst] at hon
    cases hasCall_eq_false hfree hon
  refine ⟨hw.started, fun j call' rest hj hst => ?_, ?_, hw.streams, hw.distinct⟩
  · rcases lookup_starting hj hst with ⟨-, heq, rfl⟩ | ⟨-, hj⟩
    · exact ⟨(hw.streams _ session hsession).1, honce, session, heq ▸ hsession, List.Subset.refl _⟩
    · exact hw.rest j call' rest hj hst
  · intro j k call' call'' rest rest' hj hk hst hst' heq
    rcases lookup_starting hj hst with ⟨hji, hs, -⟩ | ⟨hji, hj⟩
    · rcases lookup_starting hk hst' with ⟨hki, -, -⟩ | ⟨hki, hk⟩
      · rw [hji, hki]
      · exact (hother k call'' rest' hki hk hst' (heq.symm.trans hs)).elim
    · rcases lookup_starting hk hst' with ⟨hki, hs, -⟩ | ⟨hki, hk⟩
      · exact (hother j call' rest hji hj hst (heq.trans hs)).elim
      · exact hw.locked j k call' call'' rest rest' hj hk hst hst' heq

/-- The call starts the next one. -/
theorem Apart.start (hcall : w.calls.lookup i = some call) {stream : Stream} {rest : List Stream}
    (hstate : call.state = .starting (stream :: rest)) :
    ((w.setCall i call (.starting rest)).send stream.start).Apart := by
  obtain ⟨hnodup, hnot, session, hsession, hsub⟩ := hw.rest i call _ hcall hstate
  rw [map_cons, nodup_cons] at hnodup
  have hsession' : ∀ j call' rest', j ≠ i → w.calls.lookup j = some call' →
      call'.state = .starting rest' → ∀ st ∈ rest', st.id ≠ stream.id := by
    intro j call' rest' hji hj hst st hstm heq
    obtain ⟨-, -, session', hsession', hsub'⟩ := hw.rest j call' rest' hj hst
    have hsame := hw.distinct _ _ session' session hsession' hsession st (hsub' hstm) stream
      (hsub mem_cons_self) heq
    exact hji (hw.locked j i call' call rest' _ hj hcall hst hstate hsame)
  have hstarted : ((w.setCall i call (.starting rest)).send stream.start).started =
      w.started + (stream.start.flatMap startedBy : List ℕ) := by
    simp only [World.started, send, setCall, flatMap_append, ← coe_add, add_assoc]
  have hsent : ∀ id ∈ (stream.start.flatMap startedBy : List ℕ), id = stream.id := by
    intro id hid
    unfold Stream.start at hid
    split at hid
    · cases hid
    · simpa [startedBy] using hid
  have hsentNodup : (stream.start.flatMap startedBy : List ℕ).Nodup := by
    unfold Stream.start
    split
    · exact nodup_nil
    · exact nodup_singleton _
  refine ⟨?_, fun j call' rest' hj hst => ?_, ?_, hw.streams, hw.distinct⟩
  · rw [hstarted, nodup_add]
    refine ⟨hw.started, hsentNodup, disjoint_left.mpr fun {id} hid hid' => ?_⟩
    rw [hsent id hid'] at hid
    exact hnot stream mem_cons_self hid
  · rw [hstarted]
    rcases lookup_starting hj hst with ⟨-, heq, rfl⟩ | ⟨hji, hj⟩
    · refine ⟨hnodup.2, fun st hstm hmem => ?_, session, heq ▸ hsession,
        fun st hstm => hsub (mem_cons_of_mem _ hstm)⟩
      rcases mem_add.mp hmem with hmem | hmem
      · exact hnot st (mem_cons_of_mem _ hstm) hmem
      · exact hnodup.1 (hsent _ hmem ▸ mem_map_of_mem hstm)
    · obtain ⟨hnodup', hnot', hex⟩ := hw.rest j call' rest' hj hst
      refine ⟨hnodup', fun st hstm hmem => ?_, hex⟩
      rcases mem_add.mp hmem with hmem | hmem
      · exact hnot' st hstm hmem
      · exact hsession' j call' rest' hji hj hst st hstm (hsent _ hmem)
  · intro j k call' call'' rest' rest'' hj hk hst hst' heq
    rcases lookup_starting hj hst with ⟨hji, hs, -⟩ | ⟨hji, hj⟩
    · rcases lookup_starting hk hst' with ⟨hki, -, -⟩ | ⟨hki, hk⟩
      · rw [hji, hki]
      · exact hji.trans (hw.locked i k call call'' _ rest'' hcall hk hstate hst' (hs ▸ heq))
    · rcases lookup_starting hk hst' with ⟨hki, hs, -⟩ | ⟨hki, hk⟩
      · exact (hw.locked j i call' call rest' _ hj hcall hst hstate (heq.trans hs)).trans hki.symm
      · exact hw.locked j k call' call'' rest' rest'' hj hk hst hst' heq

/-- A stream is recorded, under the next id. -/
theorem Apart.record (hsession : w.sessions.lookup t = some session) (target : StreamTargetId) :
    Apart ({ w with nextStreamId := w.nextStreamId + 1 }.setSession t { session with
      streams := session.streams ++ [Stream.mk w.nextStreamId t target false] }) := by
  have hnew : ∀ stream ∈ session.streams, stream.id < w.nextStreamId := (hw.streams t session hsession).2
  have hlookup : ∀ s session', ({ w with nextStreamId := w.nextStreamId + 1 }.setSession t
      { session with streams := session.streams ++ [Stream.mk w.nextStreamId t target false]
        }).sessions.lookup s = some session' → ∀ stream ∈ session'.streams,
          (∃ session₀, w.sessions.lookup s = some session₀ ∧ stream ∈ session₀.streams) ∨
            (s = t ∧ stream.id = w.nextStreamId) := by
    intro s session' hs stream hstream
    by_cases hst : s = t
    · subst hst
      rw [setSession, lookup_insert, some.injEq] at hs
      subst hs
      rcases mem_append.mp hstream with hstream | hstream
      · exact .inl ⟨session, hsession, hstream⟩
      · rw [mem_singleton.mp hstream]
        exact .inr ⟨rfl, rfl⟩
    · rw [setSession, lookup_insert_of_ne _ hst] at hs
      exact .inl ⟨session', hs, hstream⟩
  refine ⟨hw.started, fun j call' rest hj hst => ?_, hw.locked, fun s session' hs => ?_, ?_⟩
  · obtain ⟨hnodup, hnot, session', hsession', hsub⟩ := hw.rest j call' rest hj hst
    by_cases hs : call'.sessionId = t
    · subst hs
      rw [hsession, some.injEq] at hsession'
      subst hsession'
      exact ⟨hnodup, hnot, _, lookup_insert _, fun st hst => mem_append_left _ (hsub hst)⟩
    · exact ⟨hnodup, hnot, session', (lookup_insert_of_ne _ hs).trans hsession', hsub⟩
  · constructor
    · by_cases hst : s = t
      · subst hst
        rw [setSession, lookup_insert, some.injEq] at hs
        subst hs
        rw [map_append, map_singleton, nodup_append]
        refine ⟨(hw.streams s session hsession).1, nodup_singleton _, fun id hid id' hid' => ?_⟩
        obtain ⟨stream, hstream, rfl⟩ := mem_map.mp hid
        rw [mem_singleton.mp hid']
        exact (hnew stream hstream).ne
      · rw [setSession, lookup_insert_of_ne _ hst] at hs
        exact (hw.streams s session' hs).1
    · intro stream hstream
      change stream.id < w.nextStreamId + 1
      rcases hlookup s session' hs stream hstream with ⟨session₀, h₀, hstream₀⟩ | ⟨-, heq⟩
      · have := (hw.streams s session₀ h₀).2 stream hstream₀
        omega
      · omega
  · intro s s' session₁ session₂ hs hs' stream hstream stream' hstream' heq
    rcases hlookup s session₁ hs stream hstream with ⟨session₀, h₀, hm⟩ | ⟨hst, hid⟩
    · have hlt := (hw.streams s session₀ h₀).2 stream hm
      rcases hlookup s' session₂ hs' stream' hstream' with ⟨session₀', h₀', hm'⟩ | ⟨-, hid'⟩
      · exact hw.distinct s s' session₀ session₀' h₀ h₀' stream hm stream' hm' heq
      · omega
    · rcases hlookup s' session₂ hs' stream' hstream' with ⟨session₀', h₀', hm'⟩ | ⟨hst', -⟩
      · have hlt := (hw.streams s' session₀' h₀').2 stream' hm'
        omega
      · rw [hst, hst']

/-- The streams are taken while no call is starting them. -/
theorem Apart.take (hsession : w.sessions.lookup t = some session)
    (hfree : ¬w.hasCall t CallState.isStarting = true) :
    (w.setSession t { session with streams := [] }).Apart := by
  have hlookup : ∀ s session', (w.setSession t { session with streams := [] }).sessions.lookup s =
      some session' → session'.streams = [] ∨ w.sessions.lookup s = some session' := by
    intro s session' hs
    by_cases hst : s = t
    · subst hst
      rw [setSession, lookup_insert, some.injEq] at hs
      exact .inl (hs ▸ rfl)
    · rw [setSession, lookup_insert_of_ne _ hst] at hs
      exact .inr hs
  refine ⟨hw.started, fun j call' rest hj hst => ?_, hw.locked, fun s session' hs => ?_, ?_⟩
  · obtain ⟨hnodup, hnot, session', hsession', hsub⟩ := hw.rest j call' rest hj hst
    refine ⟨hnodup, hnot, session', ?_, hsub⟩
    have hs : call'.sessionId ≠ t := by
      intro heq
      have hon : w.callsOn t j = some call'.state := heq ▸ callsOn_self hj
      rw [hst] at hon
      cases hasCall_eq_false hfree hon
    exact (lookup_insert_of_ne _ hs).trans hsession'
  · rcases hlookup s session' hs with hnil | hs
    · rw [hnil]
      exact ⟨nodup_nil, fun _ h => (not_mem_nil h).elim⟩
    · exact hw.streams s session' hs
  · intro s s' session₁ session₂ hs hs' stream hstream stream' hstream' heq
    rcases hlookup s session₁ hs with hnil | hs
    · rw [hnil] at hstream
      cases hstream
    · rcases hlookup s' session₂ hs' with hnil | hs'
      · rw [hnil] at hstream'
        cases hstream'
      · exact hw.distinct s s' session₁ session₂ hs hs' stream hstream stream' hstream' heq

theorem Apart.advance (honce : w.StartsOnce (.advance i)) (h : w.advance i = some w') :
    w'.Apart := by
  obtain ⟨call, session, hcall, hsession, hstep⟩ := advance_cases h
  have hset : ∀ {session'}, session'.streams = session.streams →
      Keeps w (w.setSession call.sessionId session') := keeps_setSession hsession
  cases hstep with
  | lock hstate hfree => exact hw.lock hsession hfree (honce call hcall hstate session hsession)
  | started _ | stopped _ _ => exact keeps_finish.apart hw
  | start hstate => exact hw.start hcall hstate
  | record _ => exact keeps_finish.apart (hw.record hsession _)
  | swap _ _ | signal _ =>
    refine Keeps.apart (.trans (hset ?_) (keeps_setCall nofun)) hw
    rfl
  | send _ =>
    refine Keeps.apart (.trans (keeps_setCall ?_) keeps_stopCast) hw
    nofun
  | take _ hfree => exact Keeps.apart (keeps_setCall nofun) (hw.take hsession hfree)
  | remove _ =>
    refine Keeps.apart (.trans (hset ?_) keeps_finish) hw
    rfl

end

/-- What the main loop does to the casts. -/
theorem keeps_casting {channel : List ScreenCastToNiri}
    (h : casting.keys.map CastKey.streamId + (channel.flatMap startedBy : List ℕ) ≤ w.started) :
    Keeps w { w with casting, channel } :=
  ⟨h, fun _ _ _ h _ => h, fun _ session h => ⟨session, h, rfl⟩,
    fun _ session h => .inr ⟨session, h, rfl⟩, le_rfl⟩

/-- A message starts the stream that it names, or none. -/
theorem opens_le_startedBy (casting : Screencasting) (answers : Answers) (msg : ScreenCastToNiri) :
    (msg.opens casting answers).map CastKey.streamId ≤ (startedBy msg : List ℕ) := by
  cases msg with
  | stopCast sessionId => exact le_rfl
  | startCast sessionId streamId target =>
    cases target with
    | output name =>
      simp only [ScreenCastToNiri.opens, startedBy]
      split
      · exact zero_le _
      · exact le_rfl
    | window id =>
      simp only [ScreenCastToNiri.opens, startedBy]
      split
      · exact le_rfl
      · split
        · exact le_rfl
        · exact zero_le _

theorem keeps_createSession (hw : w.Sound) : Keeps w w.createSession := by
  have hfresh : w.nextSessionId ∉ w.sessions := fun h => (hw.fresh _ h).false
  refine ⟨le_rfl, fun _ _ _ h _ => h, fun s session hs => ?_, fun s session hs => ?_, le_rfl⟩
  · have hne : s ≠ w.nextSessionId := by
      rintro rfl
      exact hfresh (mem_of_lookup_eq_some hs)
    exact ⟨session, (lookup_insert_of_ne _ hne).trans hs, rfl⟩
  · by_cases hne : s = w.nextSessionId
    · subst hne
      rw [createSession, lookup_insert, some.injEq] at hs
      exact .inl (hs ▸ rfl)
    · rw [createSession, lookup_insert_of_ne _ hne] at hs
      exact .inr ⟨session, hs, rfl⟩

/-- **A step keeps the streams apart**, unless a call starts a stream that is started. -/
theorem Apart.step (hw : w.Apart) (hsound : w.Sound) {event : SessionEvent}
    (honce : w.StartsOnce event) (h : w.step event = some w') : w'.Apart := by
  cases event with
  | createSession => exact some.inj h ▸ (keeps_createSession hsound).apart hw
  | call t method =>
    simp only [World.step, World.call] at h
    split at h
    · cases h
    · obtain ⟨-, h⟩ := ite_none_right_eq_some.mp h
      have hrest : ∀ rest, method.begin ≠ .starting rest := by cases method <;> nofun
      exact some.inj h ▸ (keeps_begin hrest _).apart hw
  | advance i => exact hw.advance honce h
  | processMsg answers =>
    simp only [World.step, World.processMsg] at h
    split at h
    · cases h
    · rename_i msg channel hchannel
      obtain ⟨-, rfl⟩ := ite_some_none_eq_some.mp h
      refine (keeps_casting ?_).apart hw
      have hkeys := (w.casting.opens_step answers (.screenCastMsg msg)).keys
      have hle := map_le_map (f := CastKey.streamId) hkeys
      rw [map_add] at hle
      rw [World.started, hchannel, flatMap_cons, ← coe_add, ← add_assoc]
      exact add_le_add_left (hle.trans
        (add_le_add_right (opens_le_startedBy w.casting answers msg) _)) _
  | main answers event =>
    obtain ⟨hnone, rfl⟩ := main_cases h
    refine (keeps_casting ?_).apart hw
    have hkeys := (w.casting.opens_step answers event).keys
    rw [hnone, add_zero] at hkeys
    exact add_le_add_left (map_le_map hkeys) _
  | nextStop =>
    have hrest : ∀ rest, CallState.stopWaiting ≠ .starting rest := nofun
    simp only [World.step, World.nextStop] at h
    split at h
    · cases h
    · rename_i t stops hstops
      obtain ⟨-, h⟩ := ite_none_right_eq_some.mp h
      have hpopped : Keeps w { w with casting := { w.casting with stops } } := keeps_casting le_rfl
      have htold : ∀ told : Finset ℕ, Keeps { w with casting := { w.casting with stops } }
          { w with casting := { w.casting with stops }, told } := fun told =>
        ⟨le_rfl, fun _ _ _ h _ => h, fun _ session h => ⟨session, h, rfl⟩,
          fun _ session h => .inr ⟨session, h, rfl⟩, le_rfl⟩
      split at h
      · exact some.inj h ▸ hpopped.apart hw
      · split at h
        · exact some.inj h ▸ (hpopped.trans (keeps_begin hrest _)).apart hw
        · exact some.inj h ▸ (hpopped.trans (htold _)).apart hw

/-! ## A run -/

/-- **The life of a session.**  In every run a session that was told to stop is gone once its
calls and messages are, and signals `Closed` at most once.  At most one cast exists per stream id
as long as no call of `start` finds a stream that is started already. -/
theorem lifecycle (dynamicCastIdForPortal : ℕ) {events : List SessionEvent}
    (hrun : Run.exec step (init dynamicCastIdForPortal) events = some w) :
    w.StoppedGone ∧ w.ClosedOnce ∧
      (Run.Along step StartsOnce (init dynamicCastIdForPortal) events → w.OnePerStream) := by
  have hsound : w.Sound := Run.exec_invariant (fun _ _ _ hw hstep => Sound.step hw hstep)
    (sound_init dynamicCastIdForPortal) hrun
  refine ⟨hsound.stoppedGone, hsound.closedOnce, fun honce => ?_⟩
  have hboth : w.Sound ∧ w.Apart := Run.along_invariant (I := fun w => w.Sound ∧ w.Apart)
    (fun _ _ _ hw honce hstep => ⟨hw.1.step hstep, hw.2.step hw.1 honce hstep⟩)
    ⟨sound_init dynamicCastIdForPortal, apart_init dynamicCastIdForPortal⟩ honce hrun
  exact (nodup_add.mp hboth.2.started).1

/-- A monitor is recorded, started and stopped by the client; the main loop takes the messages in
between. -/
def recordedRun : List SessionEvent :=
  [.createSession, .call 1 (.record (.output "DP-1")), .advance 0, .call 1 .start, .advance 1,
    .advance 1, .advance 1, .processMsg obliging, .call 1 .stop, .advance 2, .advance 2, .advance 2]

theorem lifecycle_recordedRun :
    ∃ w, Run.exec step (init 7) recordedRun = some w ∧
      w.StoppedGone ∧ w.ClosedOnce ∧ w.OnePerStream := by
  obtain ⟨w, hw⟩ : ∃ w, Run.exec step (init 7) recordedRun = some w :=
    isSome_iff_exists.mp (by decide +kernel)
  have honce : Run.Along step StartsOnce (init 7) recordedRun := by decide +kernel
  obtain ⟨hgone, hclosed, hone⟩ := lifecycle 7 hw
  exact ⟨w, hw, hgone, hclosed, hone honce⟩

/-- The client starts the session twice. -/
def twiceRun : List SessionEvent :=
  [.createSession, .call 1 (.record (.output "DP-1")), .advance 0, .call 1 .start, .advance 1,
    .advance 1, .advance 1, .call 1 .start, .advance 2, .advance 2, .advance 2,
    .processMsg obliging, .processMsg obliging]

/-- Two casts run under one stream id. -/
theorem twiceRun_not_onePerStream :
    ¬∀ events w, Run.exec step (init 7) events = some w →
      w.OnePerStream ∧ w.StoppedGone ∧ w.ClosedOnce := by
  intro h
  have htwice : (Run.exec step (init 7) twiceRun).any (fun w =>
      !decide (w.casting.keys.map CastKey.streamId).Nodup) = true := by
    decide +kernel
  cases hrun : Run.exec step (init 7) twiceRun with
  | none =>
    rw [hrun] at htwice
    cases htwice
  | some w =>
    rw [hrun, any_some, not_eq_true', decide_eq_false_iff_not] at htwice
    exact htwice (h twiceRun w hrun).1

end World

end Tiri.Casting
