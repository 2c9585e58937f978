import Mathlib.Algebra.BigOperators.Group.List.Basic
import Mathlib.Algebra.Order.Field.Rat
import Tiri.Lib.Run

/-!
# The history of a swipe

`src/input/swipe_tracker.rs`: the readings of a gesture, kept for as long as they count for its
velocity.  Durations are in nanoseconds; their sum overflows, and their difference underflows,
with a panic.

Results:
* `trim_spec`: what trimming leaves of a history;
* `history_wellFormed`: what every sequence of readings makes of the tracker;
* `push_latest_overflows`: a reading at the end of time.
-/

namespace Tiri.Input.Swipe

open Run Option List

/-- `Duration::MAX`. -/
def maxDuration : ℕ := 2 ^ 64 * 10 ^ 9 - 1

/-- `HISTORY_LIMIT`. -/
def historyLimit : ℕ := 150000000

structure Event where
  delta : ℚ
  timestamp : ℕ

structure SwipeTracker where
  history : List Event
  pos : ℚ

namespace SwipeTracker

/-- The loop of `trim_history` (lines 78–84). -/
def trim (timestamp : ℕ) : List Event → Option (List Event)
  | [] => some []
  | first :: rest =>
    if maxDuration < first.timestamp + historyLimit then none
    else if timestamp ≤ first.timestamp + historyLimit then some (first :: rest)
    else trim timestamp rest

variable (self : SwipeTracker)

/-- `trim_history` (lines 73–85). -/
def trimHistory : Option SwipeTracker :=
  match self.history.getLast? with
  | none => some self
  | some last => (trim last.timestamp self.history).map ({ self with history := · })

/-- The reading is earlier than the last one that was kept. -/
def isEarly (history : List Event) (event : Event) : Bool :=
  history.getLast?.any (event.timestamp < ·.timestamp)

/-- `push` (lines 28–46). -/
def push (event : Event) : Option SwipeTracker :=
  if isEarly self.history event then some self
  else trimHistory ⟨self.history ++ [event], self.pos + event.delta⟩

/-- `velocity` (lines 54–66). -/
def velocity : Option ℚ :=
  match self.history.head?, self.history.getLast? with
  | some first, some last =>
    if last.timestamp < first.timestamp then none
    else
      let totalTime : ℚ := (last.timestamp - first.timestamp : ℕ) / 10 ^ 9
      if totalTime = 0 then some 0 else some ((self.history.map Event.delta).sum / totalTime)
  | _, _ => some 0

/-- `SwipeTracker::new`. -/
def new : SwipeTracker := ⟨[], 0⟩

/-- The readings that are accepted: none is earlier than the last one before it. -/
def accepted (events : List Event) : List Event :=
  events.foldl (fun kept event => if isEarly kept event then kept else kept ++ [event]) []

/-- **A well-formed history**, of the readings pushed so far. -/
structure WellFormed (tracker : SwipeTracker) (events : List Event) : Prop where
  sorted : tracker.history.Pairwise (·.timestamp ≤ ·.timestamp)
  /-- It is what is left when the readings out of the limit of the newest one are dropped. -/
  suffix : ∃ dropped, accepted events = dropped ++ tracker.history ∧
    ∀ newest ∈ tracker.history.getLast?, ∀ event ∈ dropped,
      event.timestamp + historyLimit < newest.timestamp
  within : ∀ newest ∈ tracker.history.getLast?, ∀ event ∈ tracker.history,
    newest.timestamp ≤ event.timestamp + historyLimit
  pos : tracker.pos = ((accepted events).map Event.delta).sum
  velocity : tracker.velocity ≠ none

variable {self} {event : Event} {l kept : List Event} {timestamp : ℕ}

theorem trim_spec (h : trim timestamp l = some kept) :
    ∃ dropped, l = dropped ++ kept ∧
      (∀ event ∈ dropped, event.timestamp + historyLimit < timestamp) ∧
      ∀ first ∈ kept.head?, timestamp ≤ first.timestamp + historyLimit := by
  induction l with
  | nil =>
    obtain rfl := some.inj h
    exact ⟨[], rfl, by simp, by simp⟩
  | cons first rest ih =>
    unfold trim at h
    split_ifs at h with hover hin
    · obtain rfl := some.inj h
      exact ⟨[], rfl, by simp, by simpa using hin⟩
    · obtain ⟨dropped, rfl, hout, hfirst⟩ := ih h
      exact ⟨first :: dropped, rfl, forall_mem_cons.mpr ⟨not_le.mp hin, hout⟩, hfirst⟩

/-- The limit can be added to the time of a reading. -/
def InTime (event : Event) : Prop := event.timestamp + historyLimit ≤ maxDuration

theorem trim_isSome (h : ∀ event ∈ l, InTime event) :
    ∃ kept, trim timestamp l = some kept ∧ ∀ event ∈ kept, InTime event := by
  induction l with
  | nil => exact ⟨[], rfl, h⟩
  | cons first rest ih =>
    obtain ⟨hfirst, hrest⟩ := forall_mem_cons.mp h
    unfold trim
    rw [if_neg (not_lt.mpr hfirst)]
    split_ifs
    · exact ⟨_, rfl, h⟩
    · exact ih hrest

theorem push_isSome (h : ∀ event ∈ self.history, InTime event) (hevent : InTime event) :
    ∃ self', self.push event = some self' ∧ ∀ event ∈ self'.history, InTime event := by
  unfold push
  split_ifs
  · exact ⟨self, rfl, h⟩
  · unfold trimHistory
    rw [getLast?_concat]
    obtain ⟨kept, htrim, hkept⟩ : ∃ kept, trim event.timestamp (self.history ++ [event]) =
        some kept ∧ ∀ event ∈ kept, InTime event :=
      trim_isSome (forall_mem_append.mpr ⟨h, forall_mem_singleton.mpr hevent⟩)
    exact ⟨_, congrArg (Option.map _) htrim, hkept⟩

/-- The first reading is not later than the last one. -/
theorem velocity_ne_none (h : self.history.Pairwise (·.timestamp ≤ ·.timestamp)) :
    self.velocity ≠ none := by
  unfold velocity
  cases hhistory : self.history with
  | nil => simp
  | cons first rest =>
    rw [hhistory, pairwise_cons] at h
    obtain ⟨last, hlast⟩ : ∃ last, (first :: rest).getLast? = some last := ⟨_, getLast?_cons⟩
    have hle : first.timestamp ≤ last.timestamp := by
      rcases mem_cons.mp (mem_of_getLast? hlast) with rfl | hmem
      · exact le_rfl
      · exact h.1 last hmem
    rw [hlast, head?_cons]
    dsimp only
    rw [if_neg (not_lt.mpr hle)]
    split_ifs <;> exact some_ne_none _

/-- **A push keeps the history well formed.** -/
theorem WellFormed.push {events : List Event} (h : self.WellFormed events)
    (hempty : self.history = [] → accepted events = []) {self' : SwipeTracker}
    (hpush : self.push event = some self') :
    self'.WellFormed (events ++ [event]) ∧
      (self'.history = [] → accepted (events ++ [event]) = []) := by
  obtain ⟨dropped, hsuffix, hout⟩ := h.suffix
  have hearly : isEarly (accepted events) event = isEarly self.history event := by
    by_cases hnil : self.history = []
    · rw [hempty hnil, hnil]
    · unfold isEarly
      rw [hsuffix, getLast?_append_of_ne_nil _ hnil]
  have haccepted : accepted (events ++ [event]) =
      if isEarly self.history event then accepted events else accepted events ++ [event] := by
    rw [← hearly]
    unfold accepted
    rw [foldl_append]
    rfl
  unfold SwipeTracker.push at hpush
  split_ifs at hpush haccepted with hev
  · obtain rfl := some.inj hpush
    rw [haccepted]
    exact ⟨⟨h.sorted, by rw [haccepted]; exact h.suffix, h.within, by rw [haccepted]; exact h.pos,
      h.velocity⟩, hempty⟩
  · -- The new reading is the newest, and stays.
    unfold trimHistory at hpush
    rw [getLast?_concat] at hpush
    obtain ⟨kept, htrim, rfl⟩ := map_eq_some_iff.mp hpush
    obtain ⟨early, hsplit, hearlier, hfirst⟩ := trim_spec htrim
    have hlate : ∀ e ∈ self.history, e.timestamp ≤ event.timestamp := by
      intro e he
      obtain ⟨last, hlast⟩ : ∃ last, self.history.getLast? = some last :=
        isSome_iff_exists.mp (getLast?_isSome.mpr (ne_nil_of_mem he))
      rw [isEarly, hlast, any_some, decide_eq_true_iff, not_lt] at hev
      refine le_trans ?_ hev
      obtain ⟨before, hbefore⟩ := getLast?_eq_some_iff.mp hlast
      have hsorted := h.sorted
      rw [hbefore, pairwise_append] at hsorted
      rw [hbefore, mem_append, mem_singleton] at he
      rcases he with he | rfl
      · exact hsorted.2.2 e he last mem_cons_self
      · exact le_rfl
    have hsorted : (early ++ kept).Pairwise (·.timestamp ≤ ·.timestamp) := by
      rw [← hsplit, pairwise_append]
      exact ⟨h.sorted, pairwise_singleton _ _, fun e he e' he' =>
        mem_singleton.mp he' ▸ hlate e he⟩
    have hkept : kept ≠ [] := by
      rintro rfl
      rw [append_nil] at hsplit
      exact absurd (hearlier event (hsplit ▸ mem_append_right _ mem_cons_self)) (by omega)
    have hnewest : kept.getLast? = some event := by
      rw [← getLast?_append_of_ne_nil early hkept, ← hsplit, getLast?_concat]
    have hsorted' := (pairwise_append.mp hsorted).2.1
    refine ⟨⟨hsorted', ⟨dropped ++ early, ?_, ?_⟩, ?_, ?_, velocity_ne_none hsorted'⟩,
      fun hnil => absurd hnil hkept⟩
    · rw [haccepted, hsuffix, append_assoc, append_assoc]
      exact congrArg (dropped ++ ·) hsplit
    · intro newest hin e he
      rw [hnewest, mem_some_iff] at hin
      subst hin
      rcases mem_append.mp he with he | he
      · cases hlast : self.history.getLast? with
        | none =>
          have hnil := hempty (getLast?_eq_none_iff.mp hlast)
          rw [hsuffix, append_eq_nil_iff] at hnil
          rw [hnil.1] at he
          cases he
        | some last => exact (hout last hlast e he).trans_le (hlate last (mem_of_getLast? hlast))
      · exact hearlier e he
    · intro newest hin e he
      rw [hnewest, mem_some_iff] at hin
      subst hin
      obtain ⟨first, rest, hcons⟩ := exists_cons_of_ne_nil hkept
      rw [hcons] at he hsorted' hfirst
      have hle := hfirst first rfl
      rcases mem_cons.mp he with rfl | he
      · exact hle
      · exact hle.trans (Nat.add_le_add_right ((pairwise_cons.mp hsorted').1 e he) _)
    · rw [haccepted, map_append, sum_append, ← h.pos]
      simp

/-- **Every sequence of readings leaves a well-formed history**, and none overflows before the end
of time is as near as the limit. -/
theorem history_wellFormed (events : List Event) :
    (∀ tracker, exec push new events = some tracker → tracker.WellFormed events) ∧
      ((∀ event ∈ events, InTime event) → (exec push new events).isSome) := by
  constructor
  · intro tracker h
    have hstart : new.WellFormed [] :=
      ⟨Pairwise.nil, ⟨[], rfl, by simp⟩, by simp [new], rfl, by simp [velocity, new]⟩
    exact (exec_induction (P := fun events tracker =>
      tracker.WellFormed events ∧ (tracker.history = [] → accepted events = []))
      ⟨hstart, fun _ => rfl⟩
      (fun _ _ _ _ _ htracker hpush => htracker.1.push htracker.2 hpush) h).1
  · intro h
    have hrun {tracker : SwipeTracker} (hhistory : ∀ event ∈ tracker.history, InTime event) :
        (exec push tracker events).isSome := by
      induction events generalizing tracker with
      | nil => rfl
      | cons event events ih =>
        obtain ⟨hevent, hevents⟩ := forall_mem_cons.mp h
        obtain ⟨tracker', hpush, hhistory'⟩ := push_isSome hhistory hevent
        rw [exec_cons, hpush]
        exact ih hevents hhistory'
    exact hrun fun event hevent => nomatch hevent

/-- At the end of time, the limit cannot be added. -/
theorem push_latest_overflows : exec push new [⟨0, maxDuration⟩] = none := by decide

end SwipeTracker

end Tiri.Input.Swipe
