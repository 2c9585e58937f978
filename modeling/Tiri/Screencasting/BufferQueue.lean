import Mathlib.Data.List.Range
import Mathlib.Data.List.TakeWhile
import Tiri.Lib.Run

/-!
# The buffers of a screencast

`Cast::queue_completed_buffers` and `Cast::queue_after_sync` of `src/screencasting/pw_utils.rs`
(lines 987–1059), with `dequeue_buffer_and_render`, `dequeue_buffer_and_clear` and `remove_buffer`:
a buffer waits for its sync point, and for those before it.

PipeWire hands out any buffer.  A fence can be read from when its sync point is reached.

Results:
* `queueCompletedBuffers_inv`: what is left waits for a callback;
* `delivered`: in every run the buffers are submitted once, in order, and none is left waiting.
-/

namespace Tiri.Screencasting.BufferQueue

open List

variable {Buffer : Type}

/-- A dequeued buffer.  Without a fence its sync point is `SyncPoint::signaled`. -/
structure Frame (Buffer : Type) where
  number : ℕ
  buffer : Buffer
  fence : Bool

/-- How rendering into a buffer, or clearing it, went. -/
inductive Rendered
  | failed
  | rendered (exported : Bool)

/-- The stream: `callbacks` are the frames whose fence the event loop watches. -/
structure Stream (Buffer : Type) where
  renderingBuffers : List (Frame Buffer)
  callbacks : List ℕ
  reached : List ℕ
  dequeued : ℕ
  submitted : List (Frame Buffer)
  returned : List ℕ
  removed : List ℕ

inductive Event (Buffer : Type)
  | dequeue (buffer : Buffer) (result : Rendered)
  | reach (number : ℕ)
  | callback (number : ℕ)
  | removeBuffer (buffer : Buffer)

namespace Stream

variable (s : Stream Buffer)

def start : Stream Buffer := ⟨[], [], [], 0, [], [], []⟩

def isReached (frame : Frame Buffer) : Bool := !frame.fence || frame.number ∈ s.reached

/-- Everything up to the first buffer that is still rendering. -/
def queueCompletedBuffers : Stream Buffer :=
  let firstInProgressIdx := s.renderingBuffers.findIdx fun frame => !s.isReached frame
  { s with
    renderingBuffers := s.renderingBuffers.drop firstInProgressIdx
    submitted := s.submitted ++ s.renderingBuffers.take firstInProgressIdx }

def queueAfterSync (buffer : Buffer) (exported : Bool) : Stream Buffer :=
  let s' : Stream Buffer := { s with
    renderingBuffers := s.renderingBuffers ++ [⟨s.dequeued, buffer, exported⟩]
    dequeued := s.dequeued + 1 }
  if exported then { s' with callbacks := s.callbacks ++ [s.dequeued] }
  -- In case this is the only buffer in the list.
  else s'.queueCompletedBuffers

def step [DecidableEq Buffer] (s : Stream Buffer) : Event Buffer → Option (Stream Buffer)
  | .dequeue _ .failed => some { s with
      dequeued := s.dequeued + 1
      returned := s.returned ++ [s.dequeued] }
  | .dequeue buffer (.rendered exported) => some (s.queueAfterSync buffer exported)
  | .reach number => some { s with reached := number :: s.reached }
  | .callback number =>
    if number ∈ s.callbacks ∧ number ∈ s.reached then
      some { s with callbacks := s.callbacks.filter (· ≠ number) }.queueCompletedBuffers
    else none
  | .removeBuffer buffer => some { s with
      renderingBuffers := s.renderingBuffers.filter (·.buffer ≠ buffer)
      removed := s.removed ++ (s.renderingBuffers.filter (·.buffer = buffer)).map (·.number) }

/-- What becomes of the buffers, one by one. -/
def fates : List ℕ :=
  s.renderingBuffers.map (·.number) ++ (s.submitted.map (·.number) ++ (s.returned ++ s.removed))

/-- **What is promised**: a buffer is waiting, or has been submitted, returned or removed, once;
the submitted ones are in order, their sync points reached; and none waits without a callback. -/
structure Delivered : Prop where
  once : s.fates.Perm (List.range s.dequeued)
  ordered : (s.submitted.map (·.number)).Pairwise (· < ·)
  synced : ∀ frame ∈ s.submitted, s.isReached frame = true
  drained : s.callbacks = [] → s.renderingBuffers = []

/-- What a step relies on. -/
structure Inv : Prop where
  once : s.fates.Perm (List.range s.dequeued)
  ordered : ((s.submitted ++ s.renderingBuffers).map (·.number)).Pairwise (· < ·)
  synced : ∀ frame ∈ s.submitted, s.isReached frame = true
  waited : ∀ frame ∈ s.renderingBuffers, s.isReached frame = false → frame.number ∈ s.callbacks

variable {s}

theorem Inv.lt (h : s.Inv) {number : ℕ}
    (hmem : number ∈ (s.submitted ++ s.renderingBuffers).map (·.number)) : number < s.dequeued := by
  refine mem_range.mp (h.once.mem_iff.mp ?_)
  rw [map_append, mem_append] at hmem
  exact mem_append.mpr (hmem.symm.imp_right (mem_append_left _))

theorem queueCompletedBuffers_eq : s.queueCompletedBuffers = { s with
    renderingBuffers := s.renderingBuffers.dropWhile s.isReached
    submitted := s.submitted ++ s.renderingBuffers.takeWhile s.isReached } := by
  rw [queueCompletedBuffers, ← takeWhile_eq_take_findIdx_not, ← dropWhile_eq_drop_findIdx_not]

/-- **Queueing keeps the order**, and what is left waits for a callback. -/
theorem queueCompletedBuffers_inv (h : s.Inv) : s.queueCompletedBuffers.Inv ∧
    (s.queueCompletedBuffers.callbacks = [] → s.queueCompletedBuffers.renderingBuffers = []) := by
  have hsplit := takeWhile_append_dropWhile (p := s.isReached) (l := s.renderingBuffers)
  rw [queueCompletedBuffers_eq]
  refine ⟨⟨?_, ?_, ?_, ?_⟩, fun hnone => ?_⟩
  · refine .trans (perm_iff_count.mpr fun number => ?_) h.once
    have hcount := congrArg (fun l => (l.map (·.number)).count number) hsplit
    simp only [fates, map_append, count_append] at hcount ⊢
    omega
  · rw [append_assoc, hsplit]
    exact h.ordered
  · intro frame hframe
    rcases mem_append.mp hframe with hframe | hframe
    · exact h.synced frame hframe
    · exact mem_takeWhile_imp hframe
  · exact fun frame hframe => h.waited frame ((dropWhile_sublist _).subset hframe)
  · refine dropWhile_eq_nil_iff.mpr fun frame hframe => ?_
    by_contra hnot
    have hwaits := h.waited frame hframe (eq_false_of_ne_true hnot)
    rw [show s.callbacks = [] from hnone] at hwaits
    cases hwaits

/-- A frame that has been rendered waits, with a callback if it has a fence. -/
theorem Inv.push (h : s.Inv) (buffer : Buffer) (exported : Bool) :
    ({ s with
      renderingBuffers := s.renderingBuffers ++ [⟨s.dequeued, buffer, exported⟩]
      dequeued := s.dequeued + 1
      callbacks := if exported then s.callbacks ++ [s.dequeued] else s.callbacks } :
        Stream Buffer).Inv where
  once := by
    refine perm_iff_count.mpr fun number => ?_
    have hcount := perm_iff_count.mp h.once number
    simp only [fates, count_append, map_append, range_succ] at hcount ⊢
    simp only [map_cons, map_nil]
    omega
  ordered := by
    rw [← append_assoc, map_append]
    refine pairwise_append.mpr ⟨h.ordered, pairwise_singleton .., fun number hnumber m hm => ?_⟩
    rw [mem_singleton.mp hm]
    exact h.lt hnumber
  synced := h.synced
  waited frame hframe hnot := by
    rcases mem_append.mp hframe with hframe | hframe
    · have hwaits := h.waited frame hframe hnot
      dsimp only
      split_ifs
      · exact mem_append_left _ hwaits
      · exact hwaits
    · cases mem_singleton.mp hframe
      cases exported with
      | true => exact mem_append_right _ (mem_singleton_self _)
      | false => cases hnot

theorem Inv.step [DecidableEq Buffer] {e : Event Buffer} {s' : Stream Buffer} (h : s.Inv)
    (hdrained : s.callbacks = [] → s.renderingBuffers = []) (hstep : s.step e = some s') :
    s'.Inv ∧ (s'.callbacks = [] → s'.renderingBuffers = []) := by
  cases e with
  | dequeue buffer result =>
    cases result with
    | failed =>
      cases hstep
      refine ⟨⟨perm_iff_count.mpr fun number => ?_, h.ordered, h.synced, h.waited⟩, hdrained⟩
      have hcount := perm_iff_count.mp h.once number
      simp only [fates, count_append, range_succ] at hcount ⊢
      omega
    | rendered exported =>
      cases hstep
      have hpush := h.push buffer exported
      cases exported with
      | true =>
        exact ⟨hpush, fun hnone => absurd hnone (append_ne_nil_of_right_ne_nil _ (cons_ne_nil _ _))⟩
      | false => exact queueCompletedBuffers_inv hpush
  | reach number =>
    cases hstep
    have hmono (frame : Frame Buffer) (hreached : s.isReached frame = true) :
        { s with reached := number :: s.reached }.isReached frame = true := by
      simp only [isReached, Bool.or_eq_true, decide_eq_true_eq, mem_cons] at hreached ⊢
      exact hreached.imp_right .inr
    refine ⟨⟨h.once, h.ordered, fun frame hframe => hmono frame (h.synced frame hframe),
      fun frame hframe hnot => h.waited frame hframe ?_⟩, hdrained⟩
    by_contra hreached
    rw [hmono frame (eq_true_of_ne_false hreached)] at hnot
    cases hnot
  | callback number =>
    rw [Stream.step] at hstep
    split_ifs at hstep with hready
    cases hstep
    refine queueCompletedBuffers_inv ⟨h.once, h.ordered, h.synced, fun frame hframe hnot => ?_⟩
    refine mem_filter.mpr ⟨h.waited frame hframe hnot, decide_eq_true fun heq => ?_⟩
    have hreached : s.isReached frame = true := by simp [isReached, heq, hready.2]
    exact Bool.false_ne_true (hnot.symm.trans hreached)
  | removeBuffer buffer =>
    cases hstep
    have hsub := filter_sublist (p := fun frame => frame.buffer ≠ buffer)
      (l := s.renderingBuffers)
    refine ⟨⟨?_, ?_, h.synced, fun frame hframe => h.waited frame (hsub.subset hframe)⟩,
      fun hnone => ?_⟩
    · refine .trans (perm_iff_count.mpr fun number => ?_) h.once
      have hcount := perm_iff_count.mp ((filter_append_perm (fun frame : Frame Buffer =>
        frame.buffer ≠ buffer) s.renderingBuffers).map (·.number)) number
      simp only [fates, map_append, count_append] at hcount ⊢
      simp only [ne_eq, decide_not, Bool.not_not] at hcount ⊢
      omega
    · exact h.ordered.sublist (List.Sublist.map _ (List.Sublist.append_left hsub _))
    · rw [hdrained hnone]
      rfl

/-- **In every run** the buffers are delivered. -/
theorem delivered [DecidableEq Buffer] {s : Stream Buffer} (es : List (Event Buffer))
    (h : Run.exec step start es = some s) : s.Delivered := by
  have hinv := Run.exec_invariant
    (I := fun s : Stream Buffer => s.Inv ∧ (s.callbacks = [] → s.renderingBuffers = []))
    (fun _ _ _ h hstep => h.1.step h.2 hstep)
    ⟨⟨.refl _, .nil, fun _ h => absurd h not_mem_nil, fun _ h => absurd h not_mem_nil⟩,
      fun _ => rfl⟩ h
  obtain ⟨⟨honce, hordered, hsynced, -⟩, hdrained⟩ := hinv
  rw [map_append] at hordered
  exact ⟨honce, (pairwise_append.mp hordered).1, hsynced, hdrained⟩

/-- The sync points of two frames are reached the other way round; another one has no fence. -/
def swappedRun : List (Event ℕ) :=
  [.dequeue 1 (.rendered true), .dequeue 2 (.rendered true), .dequeue 3 (.rendered false),
    .reach 1, .callback 1, .reach 0, .callback 0]

theorem delivered_swapped :
    ∃ s, Run.exec step start swappedRun = some s ∧ s.Delivered ∧
      s.submitted.map (·.number) = [0, 1, 2] :=
  ⟨_, rfl, delivered swappedRun rfl, rfl⟩

end Stream

end Tiri.Screencasting.BufferQueue
