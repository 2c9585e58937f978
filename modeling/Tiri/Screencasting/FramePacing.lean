import Tiri.Lib.EventLoop
import Tiri.Lib.Run

/-!
# The frame pacing of a screencast

`Cast::check_time_and_schedule` of `src/screencasting/pw_utils.rs` (lines 894–981): a frame that
comes too soon after the last one is skipped, and a timer redraws the output when it is time.

The token of the timer stays in the cast when the timer fires.  While it is there no other timer is
started, so the next frame that is too soon is skipped for good.  And a time of zero stands for no
frame at all.

Times are in nanoseconds of the monotonic clock.

Results:
* `computeExtraDelay_lt_iff`: when a frame is not too soon;
* `paced_iff_careful`: what each check promises holds along a run exactly when the run is careful.
-/

namespace Tiri.Screencasting.FramePacing

open Run Option

variable {Output Token L : Type}

def castDelayAllowance : ℕ := 100000

/-- The timer of a scheduled redraw. -/
structure RedrawTimer (Output : Type) where
  output : Output
  duration : ℕ

/-- `Cast`, as far as its frames are paced. -/
structure Cast (Token : Type) where
  lastFrameTime : ℕ
  minTimeBetweenFrames : ℕ
  scheduledRedraw : Option Token

/-- The cast, the timers of its redraws, the connected outputs and the redraws that are queued.
`recorded` is the time of the last frame, where there was one. -/
structure State (Output Token L : Type) where
  cast : Cast Token
  eventLoop : L
  outputState : List Output
  queuedRedraws : List Output
  recorded : Option ℕ

inductive Event (Output Token : Type)
  /-- `check_time_and_schedule` in a redraw; a frame that is not skipped may be `rendered`. -/
  | check (output : Output) (targetFrameTime now : ℕ) (rendered : Bool)
  /-- `redraw_cast`, which draws a frame without a check. -/
  | redrawCast (now : ℕ)
  | setMinTime (min : ℕ)
  | fire (token : Token)
  | removeOutput (output : Output)

namespace Cast

variable (cast : Cast Token) (targetFrameTime : ℕ)

def computeExtraDelay : ℕ :=
  let last := cast.lastFrameTime
  let min := cast.minTimeBetweenFrames
  if last = 0 then 0
  else if targetFrameTime < last then 0
  else
    let diff := targetFrameTime - last
    if diff < min then min - diff else 0

/-- A frame is skipped. -/
def TooSoon : Prop := castDelayAllowance ≤ cast.computeExtraDelay targetFrameTime

instance : Decidable (cast.TooSoon targetFrameTime) := inferInstanceAs (Decidable (_ ≤ _))

/-- **A frame is not too soon** after no frame, before the last one, or when enough time passed. -/
theorem computeExtraDelay_lt_iff :
    ¬cast.TooSoon targetFrameTime ↔ cast.lastFrameTime = 0 ∨ targetFrameTime < cast.lastFrameTime ∨
      cast.minTimeBetweenFrames < targetFrameTime - cast.lastFrameTime + castDelayAllowance := by
  unfold TooSoon computeExtraDelay castDelayAllowance
  dsimp only
  split_ifs <;> omega

end Cast

namespace State

variable [EventLoop L Token (RedrawTimer Output)] (s : State Output Token L)

def scheduleRedraw (output : Output) (targetTime now : ℕ) : State Output Token L :=
  if s.cast.scheduledRedraw.isSome then s
  else
    let (token, eventLoop) := EventLoop.insertSource s.eventLoop ⟨output, targetTime - now⟩
    { s with
      eventLoop
      cast := { s.cast with scheduledRedraw := some token } }

def removeScheduledRedraw : State Output Token L :=
  match s.cast.scheduledRedraw with
  | some token =>
    { s with
      eventLoop := EventLoop.remove s.eventLoop token
      cast := { s.cast with scheduledRedraw := none } }
  | none => s

/-- Also returns whether the frame is skipped. -/
def checkTimeAndSchedule (output : Output) (targetFrameTime now : ℕ) :
    Bool × State Output Token L :=
  let delay := s.cast.computeExtraDelay targetFrameTime
  if castDelayAllowance ≤ delay then
    (true, s.scheduleRedraw output (targetFrameTime + delay) now)
  else (false, s.removeScheduledRedraw)

/-- A frame is recorded. -/
def record (time : ℕ) : State Output Token L :=
  { s with
    cast := { s.cast with lastFrameTime := time }
    recorded := some time }

/-- A timer that fires is dropped from the event loop. -/
def step [DecidableEq Output] (s : State Output Token L) :
    Event Output Token → Option (State Output Token L)
  | .check output targetFrameTime now rendered =>
    let (skipped, s') := s.checkTimeAndSchedule output targetFrameTime now
    some (if !skipped && rendered then s'.record targetFrameTime else s')
  | .redrawCast now => some (s.record now)
  | .setMinTime min => some { s with cast := { s.cast with minTimeBetweenFrames := min } }
  | .fire token =>
    (EventLoop.registered s.eventLoop token).map fun timer =>
      { s with
        eventLoop := EventLoop.remove s.eventLoop token
        queuedRedraws :=
          if timer.output ∈ s.outputState then timer.output :: s.queuedRedraws
          else s.queuedRedraws }
  | .removeOutput output => some { s with outputState := s.outputState.erase output }

/-- A new cast. -/
def start (eventLoop : L) (outputState : List Output) : State Output Token L where
  cast := ⟨0, 0, none⟩
  eventLoop
  outputState
  queuedRedraws := []
  recorded := none

/-! ## What a check promises -/

/-- A redraw of the cast is scheduled. -/
def Pending : Prop := ∃ token, (EventLoop.registered s.eventLoop token).isSome = true

/-- **What a check promises**: with a frame skipped a redraw is scheduled, and a frame that is not
skipped is the minimum time after the last one, less the allowance. -/
def Paced : Event Output Token → Prop
  | .check output targetFrameTime now _ =>
    let (skipped, s') := s.checkTimeAndSchedule output targetFrameTime now
    if skipped then s'.Pending
    else ∀ last, s.recorded = some last → last ≤ targetFrameTime →
      s.cast.minTimeBetweenFrames ≤ targetFrameTime - last + castDelayAllowance
  | _ => True

/-- At most one redraw is scheduled. -/
def AtMostOne : Prop := ∀ token token', (EventLoop.registered s.eventLoop token).isSome = true →
    (EventLoop.registered s.eventLoop token').isSome = true → token = token'

/-- **What goes well**: a frame is only too soon while the timer of the cast has not fired, and none
is that close to a frame at time zero. -/
def Careful : Event Output Token → Prop
  | .check _ targetFrameTime _ _ =>
    (s.cast.TooSoon targetFrameTime → ∀ token ∈ s.cast.scheduledRedraw,
      (EventLoop.registered s.eventLoop token).isSome = true) ∧
    (s.recorded = some 0 → s.cast.minTimeBetweenFrames ≤ targetFrameTime + castDelayAllowance)
  | _ => True

instance : ∀ e : Event Output Token, Decidable (s.Careful e)
  | .check .. => inferInstanceAs (Decidable (_ ∧ _))
  | .redrawCast _ | .setMinTime _ | .fire _ | .removeOutput _ => isTrue trivial

/-- The cast knows its timer, and the time of its last frame. -/
structure Inv : Prop where
  known : ∀ token, (EventLoop.registered s.eventLoop token).isSome = true →
    s.cast.scheduledRedraw = some token
  recorded : ∀ last, s.recorded = some last → s.cast.lastFrameTime = last

variable {s}

section

variable (h : s.Inv)
include h

theorem Inv.atMostOne : s.AtMostOne := fun token token' htoken htoken' =>
  some.inj ((h.known token htoken).symm.trans (h.known token' htoken'))

variable {eventLoop : L}

omit h in
theorem isSome_remove_iff {token token' : Token} :
    (EventLoop.registered (EventLoop.remove eventLoop token) token').isSome = true ↔
      token' ≠ token ∧ (EventLoop.registered eventLoop token').isSome = true := by
  simp only [isSome_iff_exists, EventLoop.registered_remove_iff, exists_and_left]

variable (output : Output) (targetTime now : ℕ)

theorem Inv.scheduleRedraw : (s.scheduleRedraw output targetTime now).Inv := by
  unfold State.scheduleRedraw
  split_ifs with hsome
  · exact h
  · refine ⟨fun token htoken => ?_, h.recorded⟩
    obtain ⟨timer, htimer⟩ := isSome_iff_exists.mp htoken
    rcases EventLoop.registered_insertSource_iff.mp htimer with ⟨hnew, -⟩ | hold
    · exact congrArg some hnew.symm
    · have hknown := h.known token (isSome_iff_exists.mpr ⟨timer, hold⟩)
      exact absurd (hknown ▸ rfl) hsome

/-- Once the timer of the cast is removed there is none. -/
theorem Inv.removeScheduledRedraw : s.removeScheduledRedraw.Inv := by
  unfold State.removeScheduledRedraw
  cases hscheduled : s.cast.scheduledRedraw with
  | none => exact h
  | some token =>
    refine ⟨fun token' htoken' => ?_, h.recorded⟩
    obtain ⟨hne, hold⟩ := isSome_remove_iff.mp htoken'
    have hknown := h.known token' hold
    exact absurd (some.inj (hknown.symm.trans hscheduled)) hne

theorem Inv.record (time : ℕ) : (s.record time).Inv :=
  ⟨h.known, fun _ hlast => some.inj hlast⟩

theorem Inv.step [DecidableEq Output] {e : Event Output Token} {s' : State Output Token L}
    (hstep : s.step e = some s') : s'.Inv := by
  cases e with
  | check output targetFrameTime now rendered =>
    have hcheck : (s.checkTimeAndSchedule output targetFrameTime now).2.Inv := by
      unfold checkTimeAndSchedule
      dsimp only
      split_ifs
      · exact h.scheduleRedraw ..
      · exact h.removeScheduledRedraw
    cases hstep
    split_ifs
    · exact hcheck.record _
    · exact hcheck
  | redrawCast now =>
    cases hstep
    exact h.record now
  | setMinTime min | removeOutput output =>
    cases hstep
    exact ⟨h.known, h.recorded⟩
  | fire token =>
    obtain ⟨timer, -, rfl⟩ := map_eq_some_iff.mp hstep
    exact ⟨fun token' htoken' => h.known token' (isSome_remove_iff.mp htoken').2, h.recorded⟩

/-- Skipping a frame leaves a timer unless the one that the cast knows has fired. -/
theorem Inv.pending_scheduleRedraw_iff :
    (s.scheduleRedraw output targetTime now).Pending ↔ ∀ token ∈ s.cast.scheduledRedraw,
      (EventLoop.registered s.eventLoop token).isSome = true := by
  unfold State.scheduleRedraw
  cases hscheduled : s.cast.scheduledRedraw with
  | none =>
    refine iff_of_true ⟨(EventLoop.insertSource s.eventLoop ⟨output, targetTime - now⟩).1, ?_⟩
      fun _ htoken => nomatch htoken
    exact isSome_iff_exists.mpr ⟨_, EventLoop.registered_insertSource_self ..⟩
  | some token =>
    constructor
    · rintro ⟨token', htoken'⟩ _ hsome
      have hknown := h.known token' htoken'
      rw [hscheduled, hsome] at hknown
      exact some.inj hknown ▸ htoken'
    · exact fun hregistered => ⟨token, hregistered token rfl⟩

/-- **One step** keeps its promise exactly when it is careful. -/
theorem Inv.paced_iff (e : Event Output Token) : s.Paced e ↔ s.Careful e := by
  cases e with
  | check output targetFrameTime now rendered =>
    have hzero : s.recorded = some 0 → s.cast.lastFrameTime = 0 := h.recorded 0
    have hspaced := s.cast.computeExtraDelay_lt_iff targetFrameTime
    by_cases hsoon : s.cast.TooSoon targetFrameTime
    · have hcheck : s.Paced (.check output targetFrameTime now rendered) ↔
          (s.scheduleRedraw output (targetFrameTime + s.cast.computeExtraDelay targetFrameTime)
            now).Pending := by
        rw [Paced, checkTimeAndSchedule, if_pos (show castDelayAllowance ≤ _ from hsoon)]
        exact iff_of_eq (if_pos rfl)
      rw [hcheck, h.pending_scheduleRedraw_iff]
      refine ⟨fun hknown => ⟨fun _ => hknown, fun hrecorded => ?_⟩,
        fun hcareful => hcareful.1 hsoon⟩
      exact absurd hsoon (hspaced.mpr (.inl (hzero hrecorded)))
    · have hcheck : s.Paced (.check output targetFrameTime now rendered) ↔
          ∀ last, s.recorded = some last → last ≤ targetFrameTime →
            s.cast.minTimeBetweenFrames ≤ targetFrameTime - last + castDelayAllowance := by
        rw [Paced, checkTimeAndSchedule, if_neg (show ¬castDelayAllowance ≤ _ from hsoon)]
        exact iff_of_eq (if_neg Bool.false_ne_true)
      rw [hcheck]
      refine ⟨fun hpaced => ⟨fun h => absurd h hsoon, fun hrecorded => ?_⟩, fun hcareful last hlast
        hle => ?_⟩
      · exact hpaced 0 hrecorded (Nat.zero_le _)
      · have hrecorded := h.recorded last hlast
        rcases Nat.eq_zero_or_pos last with rfl | hpos
        · exact hcareful.2 hlast
        · have := hspaced.mp hsoon
          omega
  | redrawCast | setMinTime | fire | removeOutput => exact Iff.rfl

omit h in
/-- A new cast has no timer. -/
theorem inv_start (outputState : List Output)
    (hnone : ∀ token, EventLoop.registered eventLoop token = none) :
    (start eventLoop outputState : State Output Token L).Inv := by
  refine ⟨fun token htoken => ?_, fun _ h => nomatch h⟩
  rw [start, hnone] at htoken
  cases htoken

/-- The checks of a run keep their promises just when it is careful. -/
theorem along_paced_iff [DecidableEq Output] (es : List (Event Output Token)) :
    Along step Paced s es ↔ Along step Careful s es :=
  along_congr (fun _ _ _ h hstep => h.step hstep) (fun _ e _ h _ => h.paced_iff e) h

end

/-- **Along every run** the checks keep their promises, with at most one timer at any time, exactly
when the run is careful. -/
theorem paced_iff_careful [DecidableEq Output] (eventLoop : L) (outputState : List Output)
    (hnone : ∀ token, EventLoop.registered eventLoop token = none)
    (es : List (Event Output Token)) :
    Along step Paced (start eventLoop outputState) es ∧
        Always step AtMostOne (start eventLoop outputState) es ↔
      Along step Careful (start eventLoop outputState) es := by
  have hstart := inv_start outputState hnone
  rw [along_paced_iff hstart]
  refine and_iff_left_of_imp fun h => ?_
  exact h.always (fun _ _ _ h _ hstep => h.step hstep) (fun _ h => h.atMostOne) hstart

end State

/-- A cast of one output, in an event loop of its own. -/
def newCast : State Unit ℕ (Sources (RedrawTimer Unit)) := .start .empty [()]

/-- At thirty frames a second, the second frame is drawn by the timer. -/
theorem paced_iff_careful_timer :
    let es := [.setMinTime 33333333, .check () 100000000 99000000 true,
      .check () 110000000 109000000 false, .fire 0, .check () 133333333 133000000 true]
    Along State.step State.Paced newCast es ∧ Always State.step State.AtMostOne newCast es :=
  (State.paced_iff_careful Sources.empty [()] (fun _ => rfl) _).mpr (by decide)

/-- **The minimum time doubles after the timer fired**: the frame that is skipped next is never
followed by a redraw. -/
theorem skipped_forgotten : ¬Along State.step State.Paced newCast
    [.setMinTime 33333333, .check () 100000000 99000000 true, .check () 110000000 109000000 false,
      .fire 0, .setMinTime 66000000, .check () 140000000 139000000 false] := by
  have hnew : newCast.Inv := State.inv_start _ fun _ => rfl
  rw [State.along_paced_iff hnew]
  decide

end Tiri.Screencasting.FramePacing
