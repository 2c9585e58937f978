import Tiri.Protocols.Screencopy

/-!
# What the frames of wlr-screencopy are given

An answer to a frame, its screencopy in a queue and its screencopy at a sync point are what the
frame was given.

Results:
* `Gives.send`, `Gives.submitAfterSync`, `Gives.dropAll`: what the frames are given;
* `total_insert`, `total_putQueue`, `total_cleanupQueues`: what waits in the queues.
-/

namespace Tiri.Protocols.WlrScreencopy

open List Bool HashMap

variable {Output : Type}

namespace ScreencopyQueue

variable {queue : ScreencopyQueue Output}

/-- The screencopies of a frame in a queue. -/
def waiting (queue : ScreencopyQueue Output) (frame : ℕ) : ℕ :=
  queue.screencopies.countP fun screencopy => screencopy.frame = frame

theorem waiting_of_isEmpty (h : queue.isEmpty = true) (f : ℕ) :
    queue.waiting f = 0 := by
  unfold isEmpty at h
  rw [and_eq_true, List.isEmpty_iff] at h
  unfold waiting
  rw [h.2]
  rfl

variable (keep : Screencopy Output → Bool) (now : ℕ)

theorem pendingFrames_retained : (queue.retained keep now).pendingFrames = queue.pendingFrames := by
  unfold retained
  split <;> rfl

theorem screencopies_retained :
    (queue.retained keep now).screencopies = queue.screencopies.filter keep := by
  unfold retained
  split
  · rename_i hempty
    rw [List.isEmpty_iff.mp hempty]
    rfl
  · rfl

theorem cast_retained {keep : Screencopy Output → Bool} {now : ℕ}
    (h : queue.screencopies ≠ [] → queue.cast ≠ none)
    (hne : (queue.retained keep now).screencopies ≠ []) :
    (queue.retained keep now).cast ≠ none := by
  rw [screencopies_retained] at hne
  have hqueue : queue.screencopies ≠ [] := by
    intro hnil
    rw [hnil] at hne
    exact hne rfl
  unfold retained
  rw [if_neg (by rwa [List.isEmpty_iff])]
  dsimp only
  rw [if_neg (by rwa [List.isEmpty_iff])]
  exact h hqueue

/-- The screencopies of a frame are retained or removed. -/
theorem waiting_retained (queue : ScreencopyQueue Output) (keep : Screencopy Output → Bool) (now f : ℕ) :
    queue.waiting f = (queue.retained keep now).waiting f +
      (queue.screencopies.filter fun sc => !keep sc).countP fun sc => sc.frame = f := by
  unfold waiting
  rw [screencopies_retained]
  induction queue.screencopies with
  | nil => rfl
  | cons sc rest ih =>
    cases hkeep : keep sc with
    | true =>
      rw [filter_cons_of_pos hkeep, filter_cons_of_neg (by simp [hkeep]),
        countP_cons, countP_cons, ih]
      omega
    | false =>
      rw [filter_cons_of_neg (by simp [hkeep]), filter_cons_of_pos (by simp [hkeep]),
        countP_cons, countP_cons, ih]
      omega

/-- A cast expires only when nothing waits. -/
theorem clearExpiredCast_spec (queue : ScreencopyQueue Output) (now : ℕ) :
    (queue.clearExpiredCast now).pendingFrames = queue.pendingFrames ∧
      (queue.clearExpiredCast now).screencopies = queue.screencopies ∧
      (queue.screencopies ≠ [] → (queue.clearExpiredCast now).cast = queue.cast) := by
  unfold clearExpiredCast
  split
  · split
    · rename_i hexpired
      rw [and_eq_true, List.isEmpty_iff] at hexpired
      exact ⟨rfl, rfl, fun hne => absurd hexpired.1 hne⟩
    · exact ⟨rfl, rfl, fun _ => rfl⟩
  · exact ⟨rfl, rfl, fun _ => rfl⟩

end ScreencopyQueue

namespace World

variable (w : World Output)

/-- The answers to a frame. -/
def answers (frame : ℕ) : ℕ := (w.log frame).countP FrameEvent.isAnswer

/-- The screencopies of a frame in the queues. -/
def waiting (frame : ℕ) : ℕ :=
  HashMap.sumValues (fun queue => queue.waiting frame) w.queues

/-- The screencopies of a frame that a sync point will submit. -/
def inFlight (frame : ℕ) : ℕ :=
  w.sources.countP fun source => source.screencopy.frame = frame

/-- What a frame was given. -/
def total (frame : ℕ) : ℕ := w.answers frame + w.waiting frame + w.inFlight frame

variable {w w' w'' : World Output} {frame manager : ℕ} {queue queue' : ScreencopyQueue Output}
variable {screencopy : Screencopy Output}

/-! ## What the frames are given -/

/-- Only answers and sync points differ, and each frame was given so many more, if it is alive. -/
structure Gives (w w' : World Output) (given : ℕ → ℕ) : Prop where
  same : w' = { w with log := w'.log, sources := w'.sources }
  atMost : ∀ frame, w'.total frame ≤ w.total frame + given frame
  exactly : ∀ frame ∈ w.aliveFrames, w'.total frame = w.total frame + given frame

/-- One more for the frame. -/
def one (frame : ℕ) : ℕ → ℕ := fun f => if f = frame then 1 else 0

theorem one_eq (screencopy : Screencopy Output) (f : ℕ) :
    (if decide (screencopy.frame = f) = true then 1 else 0) = one screencopy.frame f := by
  unfold one
  by_cases hf : f = screencopy.frame
  · rw [if_pos hf, if_pos (decide_eq_true hf.symm)]
  · rw [if_neg hf, if_neg fun h => hf (of_decide_eq_true h).symm]

theorem Gives.refl (w : World Output) : Gives w w fun _ => 0 where
  same := rfl
  atMost := fun _ => le_rfl
  exactly := fun _ _ => rfl

theorem Gives.aliveFrames {given : ℕ → ℕ} (h : Gives w w' given) :
    w'.aliveFrames = w.aliveFrames := by
  rw [h.same]

theorem Gives.trans {given given' : ℕ → ℕ} (h : Gives w w' given) (h' : Gives w' w'' given') :
    Gives w w'' fun frame => given frame + given' frame where
  same := by
    rw [h'.same, h.same]
  atMost := by
    intro frame
    have hle := h.atMost frame
    have hle' := h'.atMost frame
    omega
  exactly := by
    intro frame hframe
    have heq := h.exactly frame hframe
    have heq' := h'.exactly frame (h.aliveFrames ▸ hframe)
    omega

theorem total_send (w : World Output) (frame : ℕ) (events : List FrameEvent) (f : ℕ) :
    (w.send frame events).total f = w.total f +
      if f = frame ∧ frame ∈ w.aliveFrames then events.countP FrameEvent.isAnswer else 0 := by
  unfold send
  by_cases halive : frame ∈ w.aliveFrames
  · rw [if_pos halive]
    unfold total answers
    by_cases hf : f = frame
    · subst hf
      dsimp only
      rw [Function.update_self, if_pos ⟨rfl, halive⟩, countP_append]
      show _ + w.waiting f + w.inFlight f = _
      omega
    · dsimp only
      rw [Function.update_of_ne hf, if_neg fun h => hf h.1]
      rfl
  · rw [if_neg halive, if_neg fun h => halive h.2]
    rfl

/-- What is sent to a frame counts if it is an answer. -/
theorem Gives.send (w : World Output) (frame : ℕ) (events : List FrameEvent) :
    Gives w (w.send frame events) fun f =>
      if f = frame then events.countP FrameEvent.isAnswer else 0 where
  same := by
    unfold World.send
    split <;> rfl
  atMost := by
    intro f
    rw [total_send]
    split <;> split <;> simp_all
  exactly := by
    intro f hf
    rw [total_send]
    by_cases heq : f = frame
    · rw [if_pos heq, if_pos ⟨heq, heq ▸ hf⟩]
    · rw [if_neg heq, if_neg fun h => heq h.1]

theorem Gives.dropScreencopy (w : World Output) (hsubmitted : screencopy.submitted = false) :
    Gives w (w.dropScreencopy screencopy) (one screencopy.frame) := by
  unfold World.dropScreencopy
  rw [hsubmitted]
  exact Gives.send w screencopy.frame [.failed]

/-- A screencopy that is submitted is not failed as well. -/
theorem Gives.submit (w : World Output) (screencopy : Screencopy Output) (yInvert : Bool)
    (timestamp : ℕ) : Gives w (w.submit screencopy yInvert timestamp) (one screencopy.frame) :=
  Gives.send w screencopy.frame _

theorem Gives.submitAfterSync (w : World Output) (screencopy : Screencopy Output) (yInvert : Bool)
    (sync : Bool) :
    Gives w (w.submitAfterSync screencopy yInvert sync) (one screencopy.frame) := by
  cases sync with
  | false => exact Gives.submit w screencopy yInvert w.now
  | true =>
    have htotal : ∀ f, ({ w with sources := w.sources ++ [⟨screencopy, yInvert, w.now⟩] } :
        World Output).total f = w.total f + one screencopy.frame f := by
      intro f
      unfold total inFlight
      rw [countP_append, countP_singleton, one_eq]
      exact (Nat.add_assoc _ _ _).symm
    exact ⟨rfl, fun f => (htotal f).le, fun f _ => htotal f⟩

/-- All screencopies of a list are dropped. -/
theorem Gives.dropAll (w : World Output) {removed : List (Screencopy Output)}
    (hsubmitted : ∀ screencopy ∈ removed, screencopy.submitted = false) :
    Gives w (removed.foldl World.dropScreencopy w) fun f =>
      removed.countP fun screencopy => screencopy.frame = f := by
  induction removed generalizing w with
  | nil => exact Gives.refl w
  | cons screencopy removed ih =>
    have hhead := Gives.dropScreencopy w (hsubmitted screencopy (mem_cons.mpr (.inl rfl)))
    have htail := ih (w.dropScreencopy screencopy)
      fun s hs => hsubmitted s (mem_cons_of_mem _ hs)
    have hboth := hhead.trans htail
    have heq : (fun f => one screencopy.frame f + removed.countP fun s => s.frame = f) =
        fun f => (screencopy :: removed).countP fun s => s.frame = f := by
      funext f
      rw [countP_cons, one_eq, Nat.add_comm]
    rw [heq] at hboth
    exact hboth

/-! ## Queues -/

/-- A queue is replaced by another. -/
theorem total_insert (queue' : ScreencopyQueue Output) (hqueue : w.queues.lookup manager = some queue) (f : ℕ) :
    ({ w with queues := w.queues.insert manager queue' } : World Output).total f +
      queue.waiting f = w.total f + queue'.waiting f := by
  unfold total waiting
  show w.answers f + HashMap.sumValues _ (w.queues.insert manager queue') + w.inFlight f + _ = _
  rw [sumValues_insert, sumValues_lookup _ hqueue]
  omega

theorem total_putQueue (queue' : ScreencopyQueue Output) (hqueue : w.queues.lookup manager = some queue) (f : ℕ) :
    (w.putQueue manager queue').total f + queue.waiting f = w.total f + queue'.waiting f := by
  unfold putQueue
  split
  · rename_i hgone
    rw [and_eq_true] at hgone
    rw [ScreencopyQueue.waiting_of_isEmpty hgone.1]
    unfold total waiting
    show w.answers f + HashMap.sumValues _ (w.queues.erase manager) + w.inFlight f + _ = _
    rw [sumValues_lookup _ hqueue]
    omega
  · exact total_insert queue' hqueue f

/-- The queues that go hold nothing. -/
theorem total_cleanupQueues (w : World Output) (f : ℕ) : w.cleanupQueues.total f = w.total f := by
  unfold total waiting cleanupQueues
  rw [sumValues_retain]
  · rfl
  · intro m q _ hgone
    rw [or_eq_false_iff, not_eq_false'] at hgone
    exact ScreencopyQueue.waiting_of_isEmpty hgone.2 f

end World

end Tiri.Protocols.WlrScreencopy
