import Tiri.Lib.Fold
import Tiri.Lib.Run
import Tiri.Protocols.ScreencopyInvariant

/-!
# Every frame of wlr-screencopy is answered once

Its capture or its copy gives a frame an answer, a place in a queue or a sync point, and from then
on one is exchanged for another, until its client destroys it.

Results:
* `step_inv`: every step can be taken, and keeps the invariant;
* `frames_answered`: what holds in every run.
-/

namespace Tiri.Protocols.WlrScreencopy

open Run Option List Finmap Nat HashMap
open Utils (Rectangle)
open Finset hiding mem_erase mem_insert mem_singleton

variable {Output : Type}

namespace World

variable {w w' : World Output} {frame manager : ℕ} {queue queue' : ScreencopyQueue Output}
variable {screencopy : Screencopy Output} [DecidableEq Output]

/-! ## Captures -/

section

omit [DecidableEq Output]

/-- A new frame was given what is due to it. -/
theorem Counts.addFrame (h : Counts w) {s : ScreencopyFrameState Output}
    (hframes : w'.frames = w.frames.insert w.nextFrame s)
    (hnext : w'.nextFrame = w.nextFrame + 1)
    (halive : w'.aliveFrames = insert w.nextFrame w.aliveFrames)
    (htotal : ∀ f, w'.total f = w.total f + if f = w.nextFrame then dueOf (some s) else 0) :
    Counts w' := by
  have hnew : w'.total w.nextFrame = w'.due w.nextFrame := by
    have hzero := h.atMost w.nextFrame
    unfold due at hzero
    rw [if_neg (lt_irrefl _), le_zero] at hzero
    rw [htotal, hzero, if_pos rfl, zero_add]
    unfold due
    rw [hnext, if_pos (lt_succ_self _), hframes, lookup_insert]
  have hold : ∀ f, f ≠ w.nextFrame → w'.total f = w.total f ∧ w'.due f = w.due f := by
    intro f hf
    constructor
    · rw [htotal, if_neg hf, add_zero]
    · unfold due
      rw [hnext, hframes, lookup_insert_of_ne _ hf]
      congr 1
      exact propext ⟨fun hlt => lt_of_le_of_ne (Nat.lt_succ_iff.mp hlt) hf,
        fun hlt => lt_succ_of_lt hlt⟩
  refine ⟨fun f => ?_, fun f hmem => ?_⟩
  · by_cases hf : f = w.nextFrame
    · rw [hf]
      exact hnew.le
    · rw [(hold f hf).1, (hold f hf).2]
      exact h.atMost f
  · by_cases hf : f = w.nextFrame
    · rw [hf]
      exact hnew
    · rw [(hold f hf).1, (hold f hf).2]
      rw [halive] at hmem
      exact h.exactly f (mem_of_mem_insert_of_ne hmem hf)

theorem Wf.lookup_nextFrame (h : Wf w) : w.frames.lookup w.nextFrame = none :=
  lookup_eq_none.mpr fun hmem => lt_irrefl _ (h.frames _ hmem)

/-- The frames with a new one. -/
theorem Wf.frames_insert (h : Wf w) (state : ScreencopyFrameState Output) :
    (∀ f ∈ w.frames.insert w.nextFrame state, f < w.nextFrame + 1) ∧
      ∀ f ∈ insert w.nextFrame w.aliveFrames, f ∈ w.frames.insert w.nextFrame state := by
  refine ⟨fun f hf => ?_, fun f hf => ?_⟩
  · rcases mem_insert.mp hf with rfl | hf
    · exact lt_succ_self _
    · exact lt_succ_of_lt (h.frames f hf)
  · rcases Finset.mem_insert.mp hf with rfl | hf
    · exact mem_insert.mpr (.inl rfl)
    · exact mem_insert.mpr (.inr (h.aliveFrames f hf))

end

theorem Inv.failFrame (h : Inv w) : Inv w.failFrame := by
  have hgives := Gives.send { w with
    nextFrame := w.nextFrame + 1
    frames := w.frames.insert w.nextFrame .failed
    aliveFrames := insert w.nextFrame w.aliveFrames } w.nextFrame [.failed]
  have hlookup : ∀ f, f ≠ w.nextFrame →
      (w.frames.insert w.nextFrame .failed).lookup f = w.frames.lookup f :=
    fun f hf => lookup_insert_of_ne _ hf
  have hnone := h.wf.lookup_nextFrame
  obtain ⟨hframes, haliveFrames⟩ := h.wf.frames_insert .failed
  have hwf : Wf { w with
      nextFrame := w.nextFrame + 1
      frames := w.frames.insert w.nextFrame .failed
      aliveFrames := insert w.nextFrame w.aliveFrames } := {
    alive := h.wf.alive
    managers := h.wf.managers
    destroyed := h.wf.destroyed
    frames := hframes
    aliveFrames := haliveFrames
    pending := by
      intro m f
      rw [← h.wf.pending m f]
      unfold Waits
      by_cases hf : f = w.nextFrame
      · rw [hf]
        rw [lookup_insert, hnone]
        simp
      · simp only [hlookup f hf]
    screencopies := by
      intro m q hq sc hsc
      obtain ⟨hsubmitted, hframe⟩ := h.wf.screencopies m q hq sc hsc
      refine ⟨hsubmitted, ?_⟩
      rw [hlookup, hframe]
      intro heq
      rw [heq, hnone] at hframe
      cases hframe
    cast := h.wf.cast }
  unfold World.failFrame
  refine ⟨⟨hwf.gives hgives, ?_, ?_, ?_⟩, ?_⟩
  · refine h.counts.addFrame (s := .failed) (by rw [hgives.same]) (by rw [hgives.same])
      (by rw [hgives.same]) fun f => ?_
    rw [total_send]
    by_cases hf : f = w.nextFrame
    · rw [if_pos ⟨hf, mem_insert_self _ _⟩, if_pos hf]
      rfl
    · rw [if_neg fun hand => hf hand.1, if_neg hf]
      rfl
  · have hconnected : Connected { w with
        nextFrame := w.nextFrame + 1
        frames := w.frames.insert w.nextFrame .failed
        aliveFrames := insert w.nextFrame w.aliveFrames } := h.connected
    exact hconnected.gives hgives
  · rw [hgives.same]
    exact h.modes
  · rw [hgives.same]
    exact h.kept

theorem Inv.createFrame (h : Inv w) (hmanager : manager ∈ w.aliveManagers)
    (info : ScreencopyFrameInfo Output) (version : ℕ) :
    ∃ w', w.createFrame manager info version = some w' ∧ Inv w' := by
  obtain ⟨queue, hqueue⟩ := mem_iff.mp (h.wf.alive manager hmanager)
  have hnone := h.wf.lookup_nextFrame
  unfold World.createFrame
  dsimp only
  have hevents : (bufferParameters info.bufferSize version).countP FrameEvent.isAnswer = 0 := by
    unfold bufferParameters
    split <;> rfl
  generalize bufferParameters info.bufferSize version = events at hevents
  have hgives := Gives.send { w with
    nextFrame := w.nextFrame + 1
    frames := w.frames.insert w.nextFrame (.pending manager info false)
    aliveFrames := insert w.nextFrame w.aliveFrames } w.nextFrame events
  have htotal := fun f => total_of_countP_eq_zero (w := { w with
    nextFrame := w.nextFrame + 1
    frames := w.frames.insert w.nextFrame (.pending manager info false)
    aliveFrames := insert w.nextFrame w.aliveFrames }) hevents w.nextFrame f
  generalize ({ w with
    nextFrame := w.nextFrame + 1
    frames := w.frames.insert w.nextFrame (.pending manager info false)
    aliveFrames := insert w.nextFrame w.aliveFrames } : World Output).send w.nextFrame events = w₁
    at hgives htotal
  have hqueue₁ : w₁.queues.lookup manager = some queue := by
    rw [hgives.same]
    exact hqueue
  rw [hqueue₁]
  dsimp only
  generalize hqueue' : { queue with pendingFrames := insert w.nextFrame queue.pendingFrames } = queue'
  have hscreencopies : queue'.screencopies = queue.screencopies := by rw [← hqueue']
  have hpending : queue'.pendingFrames = insert w.nextFrame queue.pendingFrames := by rw [← hqueue']
  have hreplaces := replaces_insert w manager queue'
  obtain ⟨hframes, haliveFrames⟩ := h.wf.frames_insert (.pending manager info false)
  have hlookup : ∀ f, f ≠ w.nextFrame →
      (w.frames.insert w.nextFrame (.pending manager info false)).lookup f = w.frames.lookup f :=
    fun f hf => lookup_insert_of_ne _ hf
  have hold : ∀ m q, w.queues.lookup m = some q → ∀ sc ∈ q.screencopies,
      (w.frames.insert w.nextFrame (.pending manager info false)).lookup sc.frame =
        w.frames.lookup sc.frame := by
    intro m q hq sc hsc
    refine hlookup sc.frame fun heq => ?_
    have hframe := (h.wf.screencopies m q hq sc hsc).2
    rw [heq, hnone] at hframe
    cases hframe
  refine ⟨_, rfl, ⟨⟨?_, ?_, ?_, ?_⟩, ?_⟩⟩
  · rw [hgives.same]
    refine h.wf.replace hqueue hreplaces hframes haliveFrames (fun m f => ?_) (fun sc hsc => ?_)
      (fun m q _ hq => hold m q hq) (fun hne => ?_) w₁.log w₁.sources
    · unfold Waits
      by_cases hf : f = w.nextFrame
      · rw [hf, lookup_insert, hnone, hpending]
        constructor
        · rintro ⟨info', heq⟩
          cases heq
          exact .inl ⟨rfl, mem_insert_self _ _⟩
        · rintro (⟨rfl, -⟩ | ⟨-, info', hfalse⟩)
          · exact ⟨info, rfl⟩
          · cases hfalse
      · rw [hlookup f hf, hpending, Finset.mem_insert, or_iff_right hf]
        have hwaits := h.wf.pending manager f
        rw [hqueue] at hwaits
        simp only [some.injEq, exists_eq_left'] at hwaits
        by_cases hm : m = manager
        · subst hm
          simp only [true_and, ne_eq, not_true_eq_false, false_and, or_false]
          exact hwaits
        · simp [hm]
    · rw [hscreencopies] at hsc
      rw [hold manager queue hqueue sc hsc]
      exact h.wf.screencopies manager queue hqueue sc hsc
    · rw [hscreencopies] at hne
      rw [← hqueue']
      exact h.wf.cast manager queue hqueue hne
  · refine h.counts.addFrame (s := .pending manager info false) (by rw [hgives.same])
      (by rw [hgives.same]) (by rw [hgives.same]) fun f => ?_
    have hinsert := total_insert queue' hqueue₁ f
    have hsame : queue'.waiting f = queue.waiting f := by
      unfold ScreencopyQueue.waiting
      rw [hscreencopies]
    have hsend : w₁.total f = w.total f := htotal f
    have hdue : dueOf (some (.pending manager info false)) = 0 := rfl
    rw [hdue, ite_self]
    omega
  · rw [hgives.same]
    exact h.connected.replaceQueue hqueue hreplaces fun sc hsc => hscreencopies ▸ hsc
  · rw [hgives.same]
    exact h.modes
  · rw [hgives.same]
    intro m q hm hq
    rcases hreplaces.lookup hq with ⟨-, rfl⟩ | ⟨-, hq⟩
    · unfold ScreencopyQueue.isEmpty
      rw [hpending, Bool.and_eq_false_iff, decide_eq_false_iff_not]
      exact .inl (insert_ne_empty _ _)
    · exact h.kept m q hm hq

variable {output : Option Output}

theorem Inv.captureOutput (h : Inv w) (hmanager : manager ∈ w.aliveManagers) (overlayCursor : ℤ)
    (houtput : ∀ o ∈ output, o ∈ w.outputs) (version : ℕ) :
    ∃ w', w.captureOutput manager overlayCursor output version = some w' ∧ Inv w' := by
  unfold World.captureOutput
  cases output with
  | none => exact ⟨_, rfl, h.failFrame⟩
  | some output =>
    obtain ⟨info, hinfo⟩ := mem_iff.mp (houtput output rfl)
    obtain ⟨size, hsize⟩ := ne_none_iff_exists'.mp (h.modes output info hinfo)
    dsimp only
    rw [hinfo, bind_some, hsize]
    exact h.createFrame hmanager _ version

theorem Inv.captureOutputRegion (h : Inv w) (hmanager : manager ∈ w.aliveManagers)
    (toPhysicalPreciseRound : Rectangle ℤ → ℚ → Rectangle ℤ) (overlayCursor x y width height : ℤ)
    (houtput : ∀ o ∈ output, o ∈ w.outputs) (version : ℕ) :
    ∃ w', w.captureOutputRegion toPhysicalPreciseRound manager overlayCursor x y width height
      output version = some w' ∧ Inv w' := by
  unfold World.captureOutputRegion
  split
  · exact ⟨_, rfl, h.failFrame⟩
  · cases output with
    | none => exact ⟨_, rfl, h.failFrame⟩
    | some output =>
      obtain ⟨info, hinfo⟩ := mem_iff.mp (houtput output rfl)
      obtain ⟨size, hsize⟩ := ne_none_iff_exists'.mp (h.modes output info hinfo)
      dsimp only
      rw [hinfo]
      dsimp only
      rw [hsize]
      dsimp only
      split
      · exact ⟨_, rfl, h.failFrame⟩
      · exact h.createFrame hmanager _ version

/-! ## Copies -/

/-- The handler gave the screencopy an answer or a sync point, or pushed it to the queue. -/
structure Handled (w : World Output) (manager : ℕ) (queue queue' : ScreencopyQueue Output)
    (screencopy : Screencopy Output) (w' : World Output) : Prop where
  same : w' = { w with queues := w'.queues, log := w'.log, sources := w'.sources }
  others : ∀ m, m ≠ manager → w'.queues.lookup m = w.queues.lookup m
  lookup : w'.queues.lookup manager = some queue'
  pending : queue'.pendingFrames = queue.pendingFrames
  screencopies : ∀ sc ∈ queue'.screencopies, sc ∈ queue.screencopies ∨
    sc = screencopy ∧ screencopy.info.output ∈ w.outputState
  cast : (queue.screencopies ≠ [] → queue.cast ≠ none) →
    queue'.screencopies ≠ [] → queue'.cast ≠ none
  atMost : ∀ f, w'.total f ≤ w.total f + one screencopy.frame f
  exactly : ∀ f ∈ w.aliveFrames, w'.total f = w.total f + one screencopy.frame f

omit [DecidableEq Output] in
theorem Gives.handled (hgives : Gives w w' (one screencopy.frame))
    (hqueue : w.queues.lookup manager = some queue) :
    Handled w manager queue queue screencopy w' where
  same := by
    rw [hgives.same]
  others := fun m _ => by rw [hgives.same]
  lookup := by
    rw [hgives.same]
    exact hqueue
  pending := rfl
  screencopies := fun _ hsc => .inl hsc
  cast := id
  atMost := hgives.atMost
  exactly := hgives.exactly

omit [DecidableEq Output] in
theorem handled_push (hqueue : w.queues.lookup manager = some queue)
    (houtput : screencopy.info.output ∈ w.outputState) :
    Handled w manager queue (queue.push screencopy w.now) screencopy
      { w with queues := w.queues.insert manager (queue.push screencopy w.now) } := by
  have htotal : ∀ f, ({ w with queues := w.queues.insert manager (queue.push screencopy w.now) } :
        World Output).total f = w.total f + one screencopy.frame f := by
    intro f
    have hinsert := total_insert (queue.push screencopy w.now) hqueue f
    have hwaiting : (queue.push screencopy w.now).waiting f =
        queue.waiting f + one screencopy.frame f := by
      unfold ScreencopyQueue.waiting ScreencopyQueue.push
      rw [countP_append, countP_singleton, one_eq]
    omega
  refine ⟨rfl, fun m hm => lookup_insert_of_ne _ hm, lookup_insert _, rfl,
    fun sc hsc => ?_, fun _ _ => ?_, fun f => (htotal f).le, fun f _ => htotal f⟩
  · rcases mem_append.mp hsc with hsc | hsc
    · exact .inl hsc
    · exact .inr ⟨mem_singleton.mp hsc, houtput⟩
  · unfold ScreencopyQueue.push
    split
    · split <;> nofun
    · nofun

/-- The handler is done with a screencopy once, whatever comes of the rendering. -/
theorem frame_handled (hqueue : w.queues.lookup manager = some queue)
    (hsubmitted : screencopy.submitted = false) (result : Option RenderResult) :
    ∃ queue', Handled w manager queue queue' screencopy (w.frame manager screencopy result) := by
  have hdrop := (Gives.dropScreencopy w hsubmitted).handled hqueue
  unfold World.frame
  by_cases houtput : screencopy.info.output ∈ w.outputState
  · rw [if_neg (not_not.mpr houtput)]
    split
    · unfold World.push
      rw [hqueue]
      exact ⟨_, handled_push hqueue houtput⟩
    · cases result with
      | none => exact ⟨queue, hdrop⟩
      | some result =>
        dsimp only
        unfold World.renderForScreencopyWithoutDamage
        rw [if_neg (not_not.mpr houtput), if_neg (not_not.mpr (mem_of_lookup_eq_some hqueue))]
        cases result with
        | ok sync => exact ⟨queue, (Gives.submitAfterSync w screencopy false sync).handled hqueue⟩
        | err => exact ⟨queue, hdrop⟩
  · rw [if_pos houtput]
    exact ⟨queue, hdrop⟩

omit [DecidableEq Output] in
/-- The queue of a manager that was destroyed goes with its last object. -/
theorem Kept.putQueue (hkept : ∀ m q, m ≠ manager → m ∈ w.destroyedManagers →
      w.queues.lookup m = some q → q.isEmpty = false)
    (hdestroyed : ∀ m ∈ w.destroyedManagers, m ∉ w.aliveManagers) :
    Kept (w.putQueue manager queue) := by
  intro m q hm hq
  have hm' : m ∈ w.destroyedManagers := hm
  rcases (replaces_putQueue w manager queue).lookup hq with ⟨rfl, rfl⟩ | ⟨hne, hq⟩
  · by_contra hempty
    rw [Bool.not_eq_false] at hempty
    unfold World.putQueue at hq
    have hdead : w.isAlive m = false := decide_eq_false (hdestroyed m hm')
    rw [hempty, hdead, Bool.not_false, Bool.and_true, if_pos rfl, lookup_erase] at hq
    cases hq
  · exact hkept m q hne hm' hq

variable {info : ScreencopyFrameInfo Output}

/-- The frame of a copy that was handled no longer waits for it. -/
theorem Inv.finishCopy (h : Inv w)
    (hframe : w.frames.lookup frame = some (.pending manager info false))
    (hqueue : w.queues.lookup manager = some queue) (hframe' : screencopy.frame = frame)
    (hinfo : screencopy.info = info) (hsubmitted : screencopy.submitted = false)
    (hhandled : Handled { w with frames := w.frames.insert frame (.pending manager info true) }
      manager queue queue' screencopy w') :
    Inv (w'.putQueue manager
      { queue' with pendingFrames := queue'.pendingFrames.erase frame }) := by
  generalize hlast : { queue' with pendingFrames := queue'.pendingFrames.erase frame } = last
  have hscreencopies : last.screencopies = queue'.screencopies := by rw [← hlast]
  have hpending : last.pendingFrames = queue.pendingFrames.erase frame := by
    rw [← hlast]
    exact congrArg (fun s => Finset.erase s frame) hhandled.pending
  have hcast : last.cast = queue'.cast := by rw [← hlast]
  have hsame : w'.putQueue manager last = { w with
      queues := (w'.putQueue manager last).queues
      frames := w.frames.insert frame (.pending manager info true)
      log := w'.log
      sources := w'.sources } := by
    unfold World.putQueue
    rw [hhandled.same]
  have hreplaces : Replaces w manager last (w'.putQueue manager last).queues := by
    obtain ⟨hothers, hmanager⟩ := replaces_putQueue w' manager last
    refine ⟨fun m hm => (hothers m hm).trans (hhandled.others m hm), hmanager.imp_right ?_⟩
    rintro ⟨hnone, hempty, hdead⟩
    rw [hhandled.same] at hdead
    exact ⟨hnone, hempty, hdead⟩
  have htotal : ∀ f, (w'.putQueue manager last).total f = w'.total f := by
    intro f
    have hput := total_putQueue last hhandled.lookup f
    have hwaiting : last.waiting f = queue'.waiting f := by
      unfold ScreencopyQueue.waiting
      rw [hscreencopies]
    omega
  have hlookup : ∀ f, f ≠ frame → (w.frames.insert frame (.pending manager info true)).lookup f =
      w.frames.lookup f := fun f hf => lookup_insert_of_ne _ hf
  have hold : ∀ m q, w.queues.lookup m = some q → ∀ sc ∈ q.screencopies,
      (w.frames.insert frame (.pending manager info true)).lookup sc.frame =
        w.frames.lookup sc.frame := by
    intro m q hq sc hsc
    refine hlookup sc.frame fun heq => ?_
    have hcopied := (h.wf.screencopies m q hq sc hsc).2
    rw [heq, hframe] at hcopied
    cases hcopied
  have hlast' : ∀ sc ∈ last.screencopies, sc ∈ queue.screencopies ∨
      sc = screencopy ∧ screencopy.info.output ∈ w.outputState := by
    rw [hscreencopies]
    exact hhandled.screencopies
  have hmem : frame ∈ w.frames := mem_of_lookup_eq_some hframe
  have hdue : ∀ f, (w'.putQueue manager last).due f = w.due f + one screencopy.frame f := by
    intro f
    rw [hsame, hframe']
    unfold due one
    by_cases hf : f = frame
    · subst hf
      rw [if_pos (h.wf.frames f hmem), if_pos (h.wf.frames f hmem), lookup_insert, hframe,
        if_pos rfl]
      rfl
    · rw [if_neg hf, hlookup f hf, add_zero]
  have hkept : Kept (w'.putQueue manager last) := by
    refine Kept.putQueue (fun m q hm hdestroyed hq => ?_) ?_
    · rw [hhandled.others m hm] at hq
      rw [hhandled.same] at hdestroyed
      exact h.kept m q hdestroyed hq
    · rw [hhandled.same]
      exact h.wf.destroyed
  refine ⟨⟨?_, ⟨fun f => ?_, fun f hf => ?_⟩, ?_, ?_⟩, hkept⟩
  · rw [hsame]
    refine h.wf.replace hqueue hreplaces (fun f hf => ?_) (fun f hf => ?_) (fun m f => ?_)
      (fun sc hsc => ?_) (fun m q _ hq => hold m q hq) (fun hne => ?_) w'.log w'.sources
    · rcases mem_insert.mp hf with rfl | hf
      · exact h.wf.frames f hmem
      · exact h.wf.frames f hf
    · exact mem_insert.mpr (.inr (h.wf.aliveFrames f hf))
    · rw [hpending, Finset.mem_erase]
      unfold Waits
      by_cases hf : f = frame
      · subst hf
        rw [lookup_insert, hframe]
        constructor
        · rintro ⟨info', heq⟩
          cases heq
        · rintro (⟨-, hne, -⟩ | ⟨hm, info', heq⟩)
          · exact absurd rfl hne
          · cases heq
            exact absurd rfl hm
      · rw [hlookup f hf]
        have hwaits := h.wf.pending manager f
        rw [hqueue] at hwaits
        simp only [some.injEq, exists_eq_left'] at hwaits
        by_cases hm : m = manager
        · subst hm
          simp only [true_and, ne_eq, not_true_eq_false, false_and, or_false, hf, not_false_eq_true]
          exact hwaits
        · simp [hm]
    · rcases hlast' sc hsc with hsc | ⟨rfl, -⟩
      · rw [hold manager queue hqueue sc hsc]
        exact h.wf.screencopies manager queue hqueue sc hsc
      · rw [hframe', hinfo, lookup_insert]
        exact ⟨hsubmitted, rfl⟩
    · rw [hcast]
      rw [hscreencopies] at hne
      exact hhandled.cast (h.wf.cast manager queue hqueue) hne
  · rw [htotal, hdue]
    exact (hhandled.atMost f).trans (Nat.add_le_add_right (h.counts.atMost f) _)
  · rw [hsame] at hf
    rw [htotal, hdue, hhandled.exactly f hf]
    exact congrArg (· + one screencopy.frame f) (h.counts.exactly f hf)
  · rw [hsame]
    intro m q hq sc hsc
    rcases hreplaces.lookup hq with ⟨rfl, rfl⟩ | ⟨-, hq⟩
    · rcases hlast' sc hsc with hsc | ⟨rfl, houtput⟩
      · exact h.connected m queue hqueue sc hsc
      · exact houtput
    · exact h.connected m q hq sc hsc
  · rw [hsame]
    exact h.modes

theorem Inv.copy (h : Inv w) (frame : ℕ) (buffer : Buffer) (withDamage : Bool)
    (result : Option RenderResult) :
    ∃ w', w.copy frame buffer withDamage result = some w' ∧ Inv w' := by
  have herror : ∀ error, Inv (w.send frame [.error error]) := by
    intro error
    have hgives := Gives.send w frame [.error error]
    exact ⟨h.gives hgives (h.counts.send rfl frame), h.kept.gives hgives⟩
  unfold World.copy
  split
  · rename_i manager info copied hframe
    split
    · exact ⟨_, rfl, herror .alreadyUsed⟩
    · rename_i hcopied
      rw [Bool.not_eq_true] at hcopied
      subst hcopied
      split
      · exact ⟨_, rfl, herror .invalidBuffer⟩
      · obtain ⟨queue, hqueue, hmem⟩ := (h.wf.pending manager frame).mp ⟨info, hframe⟩
        have hqueue₁ : { w with frames := w.frames.insert frame (.pending manager info true) }.queues.lookup
            manager = some queue := hqueue
        have hsubmitted : (⟨info, frame, buffer, withDamage, false⟩ : Screencopy Output).submitted =
          false := rfl
        obtain ⟨queue', hhandled⟩ := frame_handled hqueue₁ hsubmitted result
        dsimp only
        rw [hhandled.lookup]
        exact ⟨_, rfl, h.finishCopy hframe hqueue rfl rfl rfl hhandled⟩
  · exact ⟨w, rfl, h⟩

/-! ## Ends -/

section

omit [DecidableEq Output]

/-- Nothing reaches a frame that is no longer alive. -/
theorem dropAll_of_notMem {removed : List (Screencopy Output)}
    (h : ∀ sc ∈ removed, sc.frame ∉ w.aliveFrames) :
    removed.foldl World.dropScreencopy w = w := by
  induction removed with
  | nil => rfl
  | cons sc removed ih =>
    have hhead : w.dropScreencopy sc = w := by
      unfold World.dropScreencopy World.send
      rw [if_neg (h sc (mem_cons.mpr (.inl rfl))), ite_self]
    rw [foldl_cons, hhead]
    exact ih fun s hs => h s (mem_cons_of_mem _ hs)

/-- The end of a frame that is no longer alive. -/
theorem Counts.eraseFrame (h : Counts w) (hframes : w'.frames = w.frames.erase frame)
    (hnext : w'.nextFrame = w.nextFrame) (halive : w'.aliveFrames = w.aliveFrames)
    (hframe : frame ∉ w.aliveFrames) (hle : ∀ f, w'.total f ≤ w.total f)
    (heq : ∀ f ∈ w.aliveFrames, w'.total f = w.total f) : Counts w' := by
  have hdue : ∀ f, f ≠ frame → w'.due f = w.due f := by
    intro f hf
    unfold due
    rw [hnext, hframes, lookup_erase_ne hf]
  refine ⟨fun f => (hle f).trans ?_, fun f hf => ?_⟩
  · by_cases hf : f = frame
    · refine (h.atMost f).trans ?_
      unfold due
      rw [hnext, hframes, hf, lookup_erase]
      split
      · unfold dueOf
        split <;> decide
      · exact le_rfl
    · rw [hdue f hf]
      exact h.atMost f
  · rw [halive] at hf
    rw [hdue f fun hfe => hframe (hfe ▸ hf), heq f hf]
    exact h.exactly f hf

/-- A frame of which no queue knows is forgotten. -/
theorem Wf.eraseFrame (h : Wf w) (hframe : frame ∉ w.aliveFrames)
    (hwaits : ∀ m, ¬ Waits w m frame)
    (hscreencopies : ∀ m q, w.queues.lookup m = some q → ∀ sc ∈ q.screencopies, sc.frame ≠ frame) :
    Wf { w with frames := w.frames.erase frame } where
  alive := h.alive
  managers := h.managers
  destroyed := h.destroyed
  frames := fun f hf => h.frames f (mem_erase.mp hf).2
  aliveFrames := fun f hf =>
    mem_erase.mpr ⟨fun heq => hframe (heq ▸ hf), h.aliveFrames f hf⟩
  pending := by
    intro m f
    rw [← h.pending m f]
    by_cases hf : f = frame
    · subst hf
      refine iff_of_false ?_ (hwaits m)
      rintro ⟨info, heq⟩
      rw [lookup_erase] at heq
      cases heq
    · unfold Waits
      rw [lookup_erase_ne hf]
  screencopies := by
    intro m q hq sc hsc
    rw [lookup_erase_ne (hscreencopies m q hq sc hsc)]
    exact h.screencopies m q hq sc hsc
  cast := h.cast

end

section

variable (h : Inv w)
include h

/-- The queue of the manager forgets a frame that was destroyed. -/
theorem Inv.forgetFrame {copied : Bool}
    (hframe : w.frames.lookup frame = some (.pending manager info copied))
    (hdead : frame ∉ w.aliveFrames) (hqueue : w.queues.lookup manager = some queue) :
    Inv ({ w with frames := w.frames.erase frame }.putQueue manager
      (queue.removeFrame frame w.now)) := by
  have hscreencopies : (queue.removeFrame frame w.now).screencopies =
      queue.screencopies.filter fun sc => decide (sc.frame ≠ frame) :=
    ScreencopyQueue.screencopies_retained _ _
  have hpending : (queue.removeFrame frame w.now).pendingFrames = queue.pendingFrames.erase frame :=
    ScreencopyQueue.pendingFrames_retained _ _
  have hcast : (queue.removeFrame frame w.now).screencopies ≠ [] →
      (queue.removeFrame frame w.now).cast ≠ none :=
    ScreencopyQueue.cast_retained (h.wf.cast manager queue hqueue)
  have hwaiting : ∀ f, (queue.removeFrame frame w.now).waiting f ≤ queue.waiting f ∧
      (f ≠ frame → (queue.removeFrame frame w.now).waiting f = queue.waiting f) := by
    intro f
    have hsplit := ScreencopyQueue.waiting_retained
      { queue with pendingFrames := queue.pendingFrames.erase frame }
      (fun sc => decide (sc.frame ≠ frame)) w.now f
    have hqueue' : ScreencopyQueue.waiting
        { queue with pendingFrames := queue.pendingFrames.erase frame } f = queue.waiting f := rfl
    rw [hqueue'] at hsplit
    refine ⟨by rw [hsplit]; exact le_add_right _ _, fun hf => ?_⟩
    rw [hsplit, countP_eq_zero.mpr]
    · rfl
    · intro sc hsc heq
      obtain ⟨-, hremoved⟩ := mem_filter.mp hsc
      simp only [ne_eq, decide_not, Bool.not_not, decide_eq_true_eq] at hremoved heq
      exact hf (heq.symm.trans hremoved)
  generalize queue.removeFrame frame w.now = queue' at hscreencopies hpending hcast hwaiting
  have hsame : { w with frames := w.frames.erase frame }.putQueue manager queue' = { w with
      queues := ({ w with frames := w.frames.erase frame }.putQueue manager queue').queues
      frames := w.frames.erase frame } := rfl
  have hreplaces : Replaces w manager queue'
      ({ w with frames := w.frames.erase frame }.putQueue manager queue').queues :=
    replaces_putQueue w manager queue'
  have htotal := fun f => total_putQueue
    (w := { w with frames := w.frames.erase frame }) queue' hqueue f
  have hframes : ∀ f, ({ w with frames := w.frames.erase frame } : World Output).total f =
      w.total f := fun _ => rfl
  have hmem : ∀ sc ∈ queue'.screencopies, sc ∈ queue.screencopies ∧ sc.frame ≠ frame := by
    intro sc hsc
    rw [hscreencopies] at hsc
    exact (mem_filter.mp hsc).imp_right of_decide_eq_true
  refine ⟨⟨?_, ?_, ?_, h.modes⟩, ?_⟩
  · refine h.wf.replace hqueue hreplaces (fun f hf => h.wf.frames f (mem_erase.mp hf).2)
      (fun f hf => ?_) (fun m f => ?_) (fun sc hsc => ?_) (fun m q hm hq sc hsc => ?_) hcast w.log
      w.sources
    · exact mem_erase.mpr ⟨fun heq => hdead (heq ▸ hf), h.wf.aliveFrames f hf⟩
    · rw [hpending, Finset.mem_erase]
      unfold Waits
      by_cases hf : f = frame
      · subst hf
        rw [lookup_erase, hframe]
        constructor
        · rintro ⟨info', heq⟩
          cases heq
        · rintro (⟨-, hne, -⟩ | ⟨hm, info', heq⟩)
          · exact absurd rfl hne
          · cases heq
            exact absurd rfl hm
      · rw [lookup_erase_ne hf]
        have hwaits := h.wf.pending manager f
        rw [hqueue] at hwaits
        simp only [some.injEq, exists_eq_left'] at hwaits
        by_cases hm : m = manager
        · subst hm
          simp only [true_and, ne_eq, not_true_eq_false, false_and, or_false, hf, not_false_eq_true]
          exact hwaits
        · simp [hm]
    · obtain ⟨hsc, hne⟩ := hmem sc hsc
      rw [lookup_erase_ne hne]
      exact h.wf.screencopies manager queue hqueue sc hsc
    · refine lookup_erase_ne fun heq => ?_
      have hpend := (h.wf.screencopies m q hq sc hsc).2
      rw [heq, hframe] at hpend
      cases hpend
      exact hm rfl
  · refine h.counts.eraseFrame rfl rfl rfl hdead (fun f => ?_) fun f hf => ?_
    · have hput := htotal f
      have hle := (hwaiting f).1
      have hsame := hframes f
      omega
    · have hput := htotal f
      have heq := (hwaiting f).2 fun heq => hdead (heq ▸ hf)
      have hsame := hframes f
      omega
  · intro m q hq sc hsc
    rcases hreplaces.lookup hq with ⟨rfl, rfl⟩ | ⟨-, hq⟩
    · exact h.connected m queue hqueue sc (hmem sc hsc).1
    · exact h.connected m q hq sc hsc
  · exact Kept.putQueue (fun m q _ hm hq => h.kept m q hm hq) h.wf.destroyed

theorem Inv.frameDestroyed (hdead : frame ∉ w.aliveFrames) : Inv (w.frameDestroyed frame) := by
  unfold World.frameDestroyed
  split
  · rename_i manager info copied hframe
    dsimp only
    cases hqueue : w.queues.lookup manager with
    | none =>
      refine ⟨⟨h.wf.eraseFrame hdead (fun m => ?_) fun m q hq sc hsc heq => ?_,
        h.counts.eraseFrame rfl rfl rfl hdead (fun _ => le_rfl) fun _ _ => rfl, h.connected,
        h.modes⟩, h.kept⟩
      · intro hwaits
        obtain ⟨q, hq, -⟩ := (h.wf.pending m frame).mp hwaits
        obtain ⟨info', hinfo⟩ := hwaits
        rw [hframe] at hinfo
        cases hinfo
        rw [hqueue] at hq
        cases hq
      · have hpend := (h.wf.screencopies m q hq sc hsc).2
        rw [heq, hframe] at hpend
        cases hpend
        rw [hqueue] at hq
        cases hq
    | some queue =>
      dsimp only
      rw [dropAll_of_notMem]
      · exact h.forgetFrame hframe hdead hqueue
      · intro sc hsc
        rw [of_decide_eq_true (mem_filter.mp hsc).2]
        exact hdead
  · rename_i hframe
    refine ⟨⟨h.wf.eraseFrame hdead (fun m => ?_) fun m q hq sc hsc heq => ?_,
      h.counts.eraseFrame rfl rfl rfl hdead (fun _ => le_rfl) fun _ _ => rfl, h.connected,
      h.modes⟩, h.kept⟩
    · rintro ⟨info, hinfo⟩
      exact hframe m info false hinfo
    · have hpend := (h.wf.screencopies m q hq sc hsc).2
      rw [heq] at hpend
      exact hframe m sc.info true hpend

theorem Inv.managerDestroyed (hmanager : manager < w.nextManager)
    (hdead : manager ∉ w.aliveManagers) : Inv (w.managerDestroyed manager) := by
  have hdestroy : ∀ {w : World Output}, Wf w → manager < w.nextManager →
      manager ∉ w.aliveManagers →
      Wf { w with destroyedManagers := insert manager w.destroyedManagers } := by
    intro w hwf hlt hdead
    refine ⟨hwf.alive, fun m hm => ?_, fun m hm => ?_, hwf.frames, hwf.aliveFrames, hwf.pending,
      hwf.screencopies, hwf.cast⟩
    · rcases hm with hm | hm | hm
      · exact hwf.managers m (.inl hm)
      · rcases Finset.mem_insert.mp hm with rfl | hm
        · exact hlt
        · exact hwf.managers m (.inr (.inl hm))
      · exact hwf.managers m (.inr (.inr hm))
    · rcases Finset.mem_insert.mp hm with rfl | hm
      · exact hdead
      · exact hwf.destroyed m hm
  unfold World.managerDestroyed
  dsimp only
  cases hqueue : w.queues.lookup manager with
  | none =>
    refine ⟨⟨hdestroy h.wf hmanager hdead, ⟨h.counts.atMost, h.counts.exactly⟩, h.connected,
      h.modes⟩, fun m q hm hq => ?_⟩
    rcases Finset.mem_insert.mp hm with rfl | hm
    · rw [hqueue] at hq
      cases hq
    · exact h.kept m q hm hq
  | some queue =>
    dsimp only
    cases hempty : queue.isEmpty with
    | false =>
      rw [if_neg Bool.false_ne_true]
      refine ⟨⟨hdestroy h.wf hmanager hdead, ⟨h.counts.atMost, h.counts.exactly⟩, h.connected,
        h.modes⟩, fun m q hm hq => ?_⟩
      rcases Finset.mem_insert.mp hm with rfl | hm
      · rw [hqueue, some.injEq] at hq
        rw [← hq]
        exact hempty
      · exact h.kept m q hm hq
    | true =>
      rw [if_pos rfl]
      have hreplaces : Replaces w manager queue (w.queues.erase manager) :=
        ⟨fun m hm => lookup_erase_ne hm, .inr ⟨lookup_erase _ _, hempty, hdead⟩⟩
      have htotal : ∀ f, ({ w with queues := w.queues.erase manager } : World Output).total f =
          w.total f := by
        intro f
        have hzero := ScreencopyQueue.waiting_of_isEmpty hempty f
        unfold total waiting
        show w.answers f + _ + w.inFlight f = _
        rw [sumValues_lookup _ hqueue, hzero, zero_add]
      refine ⟨⟨hdestroy (h.wf.replaceQueue hqueue hreplaces rfl (fun _ hsc => hsc)
          (h.wf.cast manager queue hqueue)) hmanager hdead, ?_,
        h.connected.replaceQueue hqueue hreplaces fun _ hsc => hsc, h.modes⟩, fun m q hm hq => ?_⟩
      · exact h.counts.of_total rfl rfl (fun _ hf => hf) (fun f => (htotal f).le)
          fun f _ => htotal f
      · by_cases heq : m = manager
        · subst heq
          rw [lookup_erase] at hq
          cases hq
        · rw [lookup_erase_ne heq] at hq
          exact h.kept m q (mem_of_mem_insert_of_ne hm heq) hq

theorem Inv.bind : Inv w.bind := by
  have hnone : w.queues.lookup w.nextManager = none := lookup_eq_none.mpr fun hmem =>
    lt_irrefl _ (h.wf.managers _ (.inr (.inr hmem)))
  have hlookup : ∀ m q, (w.queues.insert w.nextManager .new).lookup m = some q →
      m = w.nextManager ∧ q = .new ∨ w.queues.lookup m = some q := by
    intro m q hq
    by_cases hm : m = w.nextManager
    · rw [hm, lookup_insert, some.injEq] at hq
      exact .inl ⟨hm, hq.symm⟩
    · rw [lookup_insert_of_ne _ hm] at hq
      exact .inr hq
  have htotal : ∀ f, w.bind.total f = w.total f := by
    intro f
    show w.answers f + HashMap.sumValues _ (w.queues.insert w.nextManager .new) + w.inFlight f = _
    rw [sumValues_insert, sumValues_erase_of_none _ hnone]
    exact congrArg (fun n => w.answers f + n + w.inFlight f) (zero_add _)
  unfold World.bind at htotal ⊢
  refine ⟨⟨⟨fun m hm => ?_, fun m hm => ?_, fun m hm hm' => ?_, h.wf.frames, h.wf.aliveFrames,
    fun m f => ?_, fun m q hq sc hsc => ?_, fun m q hq => ?_⟩, ?_, fun m q hq sc hsc => ?_,
    h.modes⟩, fun m q hm hq => ?_⟩
  · rcases Finset.mem_insert.mp hm with rfl | hm
    · exact mem_insert.mpr (.inl rfl)
    · exact mem_insert.mpr (.inr (h.wf.alive m hm))
  · rcases hm with hm | hm | hm
    · rcases Finset.mem_insert.mp hm with rfl | hm
      · exact lt_succ_self _
      · exact lt_succ_of_lt (h.wf.managers m (.inl hm))
    · exact lt_succ_of_lt (h.wf.managers m (.inr (.inl hm)))
    · rcases mem_insert.mp hm with rfl | hm
      · exact lt_succ_self _
      · exact lt_succ_of_lt (h.wf.managers m (.inr (.inr hm)))
  · rcases Finset.mem_insert.mp hm' with rfl | hm'
    · exact lt_irrefl _ (h.wf.managers _ (.inr (.inl hm)))
    · exact h.wf.destroyed m hm hm'
  · refine (h.wf.pending m f).trans (exists_congr fun q => ?_)
    by_cases hm : m = w.nextManager
    · rw [hm, hnone, lookup_insert]
      constructor
      · rintro ⟨hfalse, -⟩
        cases hfalse
      · rintro ⟨heq, hmem⟩
        cases heq
        exact absurd hmem (notMem_empty _)
    · rw [lookup_insert_of_ne _ hm]
  · rcases hlookup m q hq with ⟨-, rfl⟩ | hq
    · exact absurd hsc not_mem_nil
    · exact h.wf.screencopies m q hq sc hsc
  · rcases hlookup m q hq with ⟨-, rfl⟩ | hq
    · exact fun hne => absurd rfl hne
    · exact h.wf.cast m q hq
  · exact h.counts.of_total rfl rfl (fun _ hf => hf) (fun f => (htotal f).le) fun f _ => htotal f
  · rcases hlookup m q hq with ⟨-, rfl⟩ | hq
    · exact absurd hsc not_mem_nil
    · exact h.connected m q hq sc hsc
  · rcases hlookup m q hq with ⟨rfl, -⟩ | hq
    · exact absurd (h.wf.managers _ (.inr (.inl hm))) (lt_irrefl _)
    · exact h.kept m q hm hq

omit h in
omit [DecidableEq Output] in
/-- A sync point is taken from the list of them. -/
theorem total_eraseIdx {source : ℕ} {s : Source Output} (hs : w.sources[source]? = some s) (f : ℕ) :
    ({ w with sources := w.sources.eraseIdx source } : World Output).total f +
      one s.screencopy.frame f = w.total f := by
  obtain ⟨hlt, hget⟩ := List.getElem?_eq_some_iff.mp hs
  have hperm := (getElem_cons_eraseIdx_perm hlt).countP_eq
    fun s : Source Output => decide (s.screencopy.frame = f)
  rw [countP_cons, hget, one_eq] at hperm
  unfold total inFlight
  rw [← hperm, ← add_assoc]
  rfl

/-- A sync point is exchanged for the answer that it submits. -/
theorem Inv.synced (source : ℕ) : Inv (w.synced source) := by
  unfold World.synced
  split
  · exact h
  · rename_i s hs
    have hgives := Gives.submit { w with sources := w.sources.eraseIdx source } s.screencopy
      s.yInvert s.timestamp
    have htotal := total_eraseIdx hs
    have hcounts : Counts ({ w with sources := w.sources.eraseIdx source }.submit s.screencopy
        s.yInvert s.timestamp) := by
      refine h.counts.of_total (by rw [hgives.same]) (by rw [hgives.same]) (fun f hf => ?_)
        (fun f => ?_) fun f hf => ?_
      · rwa [hgives.aliveFrames] at hf
      · have hle := hgives.atMost f
        have heq := htotal f
        omega
      · have hgiven := hgives.exactly f hf
        have heq := htotal f
        omega
    rw [hgives.same] at hcounts ⊢
    exact ⟨⟨⟨h.wf.alive, h.wf.managers, h.wf.destroyed, h.wf.frames, h.wf.aliveFrames, h.wf.pending,
      h.wf.screencopies, h.wf.cast⟩, hcounts, h.connected, h.modes⟩, h.kept⟩

theorem Inv.clearExpiredCasts : Inv w.clearExpiredCasts := by
  have hlookup : ∀ m q, w.clearExpiredCasts.queues.lookup m = some q →
      ∃ q₀, w.queues.lookup m = some q₀ ∧ q₀.clearExpiredCast w.now = q := by
    intro m q hq
    unfold World.clearExpiredCasts at hq
    rw [lookup_mapValues] at hq
    exact map_eq_some_iff.mp hq
  have htotal : ∀ f, w.clearExpiredCasts.total f = w.total f := by
    intro f
    unfold total waiting World.clearExpiredCasts
    rw [sumValues_mapValues]
    · rfl
    · intro q
      unfold ScreencopyQueue.waiting
      rw [(q.clearExpiredCast_spec w.now).2.1]
  refine ⟨⟨⟨fun m hm => ?_, fun m hm => ?_, h.wf.destroyed, h.wf.frames, h.wf.aliveFrames,
    fun m f => ?_, fun m q hq sc hsc => ?_, fun m q hq hne => ?_⟩, ?_, fun m q hq sc hsc => ?_,
    h.modes⟩, fun m q hm hq => ?_⟩
  · obtain ⟨q, hq⟩ := mem_iff.mp (h.wf.alive m hm)
    refine mem_iff.mpr ⟨q.clearExpiredCast w.now, ?_⟩
    unfold World.clearExpiredCasts
    rw [lookup_mapValues, hq, map_some]
  · rcases hm with hm | hm | hm
    · exact h.wf.managers m (.inl hm)
    · exact h.wf.managers m (.inr (.inl hm))
    · obtain ⟨q, hq⟩ := mem_iff.mp hm
      obtain ⟨q₀, hq₀, -⟩ := hlookup m q hq
      exact h.wf.managers m (.inr (.inr (mem_of_lookup_eq_some hq₀)))
  · refine (h.wf.pending m f).trans ⟨?_, ?_⟩
    · rintro ⟨q, hq, hmem⟩
      refine ⟨q.clearExpiredCast w.now, ?_, ?_⟩
      · unfold World.clearExpiredCasts
        rw [lookup_mapValues, hq, map_some]
      · rw [(q.clearExpiredCast_spec w.now).1]
        exact hmem
    · rintro ⟨q, hq, hmem⟩
      obtain ⟨q₀, hq₀, rfl⟩ := hlookup m q hq
      rw [(q₀.clearExpiredCast_spec w.now).1] at hmem
      exact ⟨q₀, hq₀, hmem⟩
  · obtain ⟨q₀, hq₀, rfl⟩ := hlookup m q hq
    rw [(q₀.clearExpiredCast_spec w.now).2.1] at hsc
    exact h.wf.screencopies m q₀ hq₀ sc hsc
  · obtain ⟨q₀, hq₀, rfl⟩ := hlookup m q hq
    obtain ⟨-, hscreencopies, hcast⟩ := q₀.clearExpiredCast_spec w.now
    rw [hscreencopies] at hne
    rw [hcast hne]
    exact h.wf.cast m q₀ hq₀ hne
  · exact h.counts.of_total rfl rfl (fun _ hf => hf) (fun f => (htotal f).le) fun f _ => htotal f
  · obtain ⟨q₀, hq₀, rfl⟩ := hlookup m q hq
    rw [(q₀.clearExpiredCast_spec w.now).2.1] at hsc
    exact h.connected m q₀ hq₀ sc hsc
  · obtain ⟨q₀, hq₀, rfl⟩ := hlookup m q hq
    obtain ⟨hpending, hscreencopies, -⟩ := q₀.clearExpiredCast_spec w.now
    have hkept := h.kept m q₀ hm hq₀
    unfold ScreencopyQueue.isEmpty at hkept ⊢
    rw [hpending, hscreencopies]
    exact hkept

/-- The outputs change, and all that were connected and are waited for still are. -/
theorem Inv.setOutputs {outputState : Finset Output} {outputs : HashMap Output OutputInfo}
    (hstate : w.outputState ⊆ outputState) (hmodes : Modes { w with outputs }) :
    Inv { w with outputState, outputs } :=
  ⟨⟨⟨h.wf.alive, h.wf.managers, h.wf.destroyed, h.wf.frames, h.wf.aliveFrames, h.wf.pending,
    h.wf.screencopies, h.wf.cast⟩, ⟨h.counts.atMost, h.counts.exactly⟩,
    fun m q hq sc hsc => hstate (h.connected m q hq sc hsc), hmodes⟩, h.kept⟩

end

theorem Modes.insert (h : Modes w) (output : Output) {info : OutputInfo}
    (hinfo : info.currentMode ≠ none) :
    Modes { w with outputs := w.outputs.insert output info } := by
  intro o i hi
  by_cases heq : o = output
  · subst heq
    rw [lookup_insert, some.injEq] at hi
    exact hi ▸ hinfo
  · rw [lookup_insert_of_ne _ heq] at hi
    exact h o i hi

/-! ## Runs -/

variable {toPhysicalPreciseRound : Rectangle ℤ → ℚ → Rectangle ℤ}

/-- A step that can happen does not abort, and keeps the invariant. -/
theorem step_inv (toPhysicalPreciseRound : Rectangle ℤ → ℚ → Rectangle ℤ) (h : Inv w) {e : Step Output} (henabled : w.Enabled e) :
    ∃ w', w.handle toPhysicalPreciseRound e = some w' ∧ Inv w' := by
  cases e with
  | bind => exact ⟨_, rfl, h.bind⟩
  | captureOutput manager overlayCursor output version =>
    exact h.captureOutput henabled.1 overlayCursor henabled.2 version
  | captureOutputRegion manager overlayCursor x y width height output version =>
    exact h.captureOutputRegion henabled.1 toPhysicalPreciseRound overlayCursor x y width height
      henabled.2 version
  | destroyManager manager =>
    refine ⟨_, rfl, ⟨⟨⟨fun m hm => ?_, fun m hm => ?_, fun m hm hm' => ?_, h.wf.frames,
      h.wf.aliveFrames, h.wf.pending, h.wf.screencopies, h.wf.cast⟩,
      ⟨h.counts.atMost, h.counts.exactly⟩, h.connected, h.modes⟩, h.kept⟩⟩
    · exact h.wf.alive m (mem_of_mem_erase hm)
    · exact h.wf.managers m (hm.imp_left fun hm => mem_of_mem_erase hm)
    · exact h.wf.destroyed m hm (mem_of_mem_erase hm')
  | managerDestroyed manager => exact ⟨_, rfl, h.managerDestroyed henabled.1 henabled.2.1⟩
  | copy frame buffer withDamage result => exact h.copy frame buffer withDamage result
  | destroyFrame frame =>
    refine ⟨_, rfl, ⟨⟨⟨h.wf.alive, h.wf.managers, h.wf.destroyed, h.wf.frames, fun f hf => ?_,
      h.wf.pending, h.wf.screencopies, h.wf.cast⟩, ⟨h.counts.atMost, fun f hf => ?_⟩, h.connected,
      h.modes⟩, h.kept⟩⟩
    · exact h.wf.aliveFrames f (mem_of_mem_erase hf)
    · exact h.counts.exactly f (mem_of_mem_erase hf)
  | frameDestroyed frame => exact ⟨_, rfl, h.frameDestroyed henabled.2⟩
  | addOutput output mode transform scale =>
    exact ⟨_, rfl, h.setOutputs (subset_insert _ _) (h.modes.insert output nofun)⟩
  | changeOutput output mode transform scale =>
    refine ⟨_, rfl, h.setOutputs (fun _ ho => ho) ?_⟩
    cases hinfo : w.outputs.lookup output with
    | none => exact h.modes
    | some info =>
      refine h.modes.insert output ?_
      unfold OutputInfo.changeCurrentState
      rw [ne_eq, or_eq_none_iff]
      exact fun hnone => h.modes output info hinfo hnone.2
  | removeOutput output order => exact h.removeOutput henabled.1 henabled.2
  | redraw output rendering order => exact h.renderForScreencopyWithDamage output rendering order
  | synced source => exact ⟨_, rfl, h.synced source⟩
  | clearExpiredCasts => exact ⟨_, rfl, h.clearExpiredCasts⟩
  | elapse duration =>
    exact ⟨_, rfl, ⟨⟨⟨h.wf.alive, h.wf.managers, h.wf.destroyed, h.wf.frames, h.wf.aliveFrames,
      h.wf.pending, h.wf.screencopies, h.wf.cast⟩, ⟨h.counts.atMost, h.counts.exactly⟩,
      h.connected, h.modes⟩, h.kept⟩⟩

theorem exec_inv {es : List (Step Output)}
    (h : exec (step toPhysicalPreciseRound) start es = some w) : Inv w := by
  refine exec_invariant (fun w e w' hw hstep => ?_) start_inv h
  obtain ⟨henabled, hhandle⟩ := ite_none_right_eq_some.mp hstep
  obtain ⟨w'', hsome, hw''⟩ := step_inv toPhysicalPreciseRound hw henabled
  rw [hhandle, some.injEq] at hsome
  exact hsome ▸ hw''

/-- The copy of the frame was accepted. -/
def Accepted (w : World Output) (frame : ℕ) : Prop :=
  ∃ manager info, w.frames.lookup frame = some (.pending manager info true)

/-- The frame waits in the queue of the manager, for its copy or for a redraw. -/
def Queued (w : World Output) (manager frame : ℕ) : Prop :=
  ∃ queue, w.queues.lookup manager = some queue ∧
    (frame ∈ queue.pendingFrames ∨ 0 < queue.waiting frame)

/-- The frame is one of the manager's, and has still to be copied, or waits for a redraw. -/
def Unfinished (w : World Output) (manager frame : ℕ) : Prop :=
  ∃ info copied, w.frames.lookup frame = some (.pending manager info copied) ∧
    (copied = false ∨ 0 < w.waiting frame)

section

omit [DecidableEq Output]

theorem Wf.queued_iff (h : Wf w) : Queued w manager frame ↔ Unfinished w manager frame := by
  constructor
  · rintro ⟨queue, hqueue, hmem | hwaiting⟩
    · obtain ⟨info, hinfo⟩ := (h.pending manager frame).mpr ⟨queue, hqueue, hmem⟩
      exact ⟨info, false, hinfo, .inl rfl⟩
    · obtain ⟨sc, hsc, heq⟩ := countP_pos_iff.mp hwaiting
      have hframe := (h.screencopies manager queue hqueue sc hsc).2
      rw [of_decide_eq_true heq] at hframe
      exact ⟨sc.info, true, hframe, .inr (hwaiting.trans_le
        (le_sumValues (fun q => q.waiting frame) hqueue))⟩
  · rintro ⟨info, copied, hframe, rfl | hwaiting⟩
    · obtain ⟨queue, hqueue, hmem⟩ := (h.pending manager frame).mp ⟨info, hframe⟩
      exact ⟨queue, hqueue, .inl hmem⟩
    · obtain ⟨m, queue, hqueue, hpos⟩ := exists_of_sumValues_ne_zero hwaiting.ne'
      have hpos := pos_of_ne_zero hpos
      obtain ⟨sc, hsc, heq⟩ := countP_pos_iff.mp hpos
      have hframe' := (h.screencopies m queue hqueue sc hsc).2
      rw [of_decide_eq_true heq, hframe] at hframe'
      cases hframe'
      exact ⟨queue, hqueue, .inr hpos⟩

/-- The queue of a manager that was destroyed is there exactly while it has frames. -/
theorem Wf.mem_queues_iff (h : Wf w) (hkept : Kept w) (hmanager : manager ∈ w.destroyedManagers) :
    manager ∈ w.queues ↔ ∃ frame, Unfinished w manager frame := by
  constructor
  · intro hmem
    obtain ⟨queue, hqueue⟩ := mem_iff.mp hmem
    have hne := hkept manager queue hmanager hqueue
    unfold ScreencopyQueue.isEmpty at hne
    rw [Bool.and_eq_false_iff, decide_eq_false_iff_not] at hne
    rcases hne with hne | hne
    · obtain ⟨frame, hframe⟩ := nonempty_iff_ne_empty.mpr hne
      exact ⟨frame, h.queued_iff.mp ⟨queue, hqueue, .inl hframe⟩⟩
    · obtain ⟨sc, hsc⟩ := exists_mem_of_ne_nil queue.screencopies
        fun hnil => by simp [hnil] at hne
      refine ⟨sc.frame, h.queued_iff.mp ⟨queue, hqueue, .inr ?_⟩⟩
      exact countP_pos_iff.mpr ⟨sc, hsc, decide_eq_true rfl⟩
  · rintro ⟨frame, hframe⟩
    obtain ⟨queue, hqueue, -⟩ := h.queued_iff.mpr hframe
    exact mem_of_lookup_eq_some hqueue

/-- Dropped screencopies leave all but the answers as it is. -/
theorem dropAll_same (w : World Output) (removed : List (Screencopy Output)) :
    removed.foldl World.dropScreencopy w =
      { w with log := (removed.foldl World.dropScreencopy w).log } := by
  refine Fold.foldl_invariant (I := fun w₁ : World Output => w₁ = { w with log := w₁.log })
    (fun sc _ w₁ hw₁ => ?_) rfl
  unfold World.dropScreencopy World.send
  rw [hw₁]
  split
  · rfl
  · split <;> rfl

end

/-- A removed output leaves the frames and the sync points as they are. -/
theorem removeQueueOutput_same (w : World Output) (output : Output) (manager : ℕ) :
    w.removeQueueOutput output manager = { w with
      queues := (w.removeQueueOutput output manager).queues
      log := (w.removeQueueOutput output manager).log } := by
  unfold World.removeQueueOutput
  split
  · rfl
  · dsimp only
    rw [dropAll_same]

theorem removeOutput_same {output : Output} {order : List ℕ}
    (h : w.removeOutput output order = some w') :
    w' = { w with
      outputState := w.outputState.erase output, queues := w'.queues, log := w'.log } := by
  have hloop : ∀ (order : List ℕ) (w₁ : World Output), w₁ = { w with
      outputState := w.outputState.erase output, queues := w₁.queues, log := w₁.log } →
      order.foldl (fun w m => World.removeQueueOutput w output m) w₁ = { w with
        outputState := w.outputState.erase output
        queues := (order.foldl (fun w m => World.removeQueueOutput w output m) w₁).queues
        log := (order.foldl (fun w m => World.removeQueueOutput w output m) w₁).log } := by
    intro order
    induction order with
    | nil => exact fun w₁ hw₁ => hw₁
    | cons manager order ih =>
      intro w₁ hw₁
      refine ih _ ?_
      dsimp only
      rw [removeQueueOutput_same, hw₁]
  obtain ⟨-, heq⟩ := ite_none_left_eq_some.mp h
  rw [← some.inj heq]
  unfold World.cleanupQueues
  rw [hloop order { w with outputState := w.outputState.erase output } rfl]

/-- A frame that is to be given something was given it. -/
theorem Inv.total_eq_one (h : Inv w) (halive : frame ∈ w.aliveFrames)
    (haccepted : Accepted w frame) : w.total frame = 1 := by
  obtain ⟨manager, info, hframe⟩ := haccepted
  have heq := h.counts.exactly frame halive
  unfold due at heq
  rw [if_pos (h.wf.frames frame (mem_of_lookup_eq_some hframe)), hframe] at heq
  exact heq

/-- An answer that is still to be given can be given. -/
theorem Inv.answerable (h : Inv w) (halive : frame ∈ w.aliveFrames) (haccepted : Accepted w frame)
    (hanswers : w.answers frame = 0) : ∃ e w', step toPhysicalPreciseRound w e = some w' ∧
      w'.answers frame = 1 := by
  have htotal := h.total_eq_one halive haccepted
  unfold total at htotal
  by_cases hwaiting : w.waiting frame = 0
  · -- Its sync point is reached.
    obtain ⟨s, hs, hframe⟩ := countP_pos_iff.mp
      (show 0 < w.inFlight frame by omega)
    obtain ⟨source, hlt, hget⟩ := mem_iff_getElem.mp hs
    have hsource : w.sources[source]? = some s := by
      rw [List.getElem?_eq_getElem hlt, hget]
    have hframe := of_decide_eq_true hframe
    subst hframe
    refine ⟨.synced source, w.synced source, if_pos trivial, ?_⟩
    unfold World.synced
    rw [hsource]
    unfold World.submit World.dropScreencopy World.send answers
    dsimp only
    rw [if_pos rfl, if_pos halive]
    dsimp only
    rw [Function.update_self, countP_append]
    show w.answers s.screencopy.frame + 1 = 1
    rw [hanswers]
  · -- Its output is removed.
    obtain ⟨m, queue, hqueue, hpos⟩ := exists_of_sumValues_ne_zero hwaiting
    obtain ⟨sc, hsc, heq⟩ := countP_pos_iff.mp (pos_of_ne_zero hpos)
    have hinfo := (h.wf.screencopies m queue hqueue sc hsc).2
    rw [of_decide_eq_true heq] at hinfo
    have houtput := h.connected m queue hqueue sc hsc
    have horder : HashMap.Lists w.queues.keys.toList w.queues :=
      ⟨nodup_toList _, toList_toFinset _⟩
    obtain ⟨w', hremove, hw'⟩ := h.removeOutput houtput horder
    have hsame := removeOutput_same hremove
    refine ⟨.removeOutput sc.info.output w.queues.keys.toList, w',
      (if_pos ⟨houtput, horder⟩).trans hremove, ?_⟩
    have hframe' : w'.frames.lookup frame = some (.pending m sc.info true) := by
      rw [hsame]
      exact hinfo
    have htotal' := hw'.total_eq_one (show frame ∈ w'.aliveFrames by rw [hsame]; exact halive)
      ⟨m, sc.info, hframe'⟩
    have hinFlight : w'.inFlight frame = w.inFlight frame := by
      rw [hsame]
      rfl
    have hwaiting' : w'.waiting frame = 0 := by
      by_contra hne
      obtain ⟨m', queue', hqueue', hpos'⟩ := exists_of_sumValues_ne_zero hne
      obtain ⟨sc', hsc', heq'⟩ := countP_pos_iff.mp (pos_of_ne_zero hpos')
      have hinfo' := (hw'.wf.screencopies m' queue' hqueue' sc' hsc').2
      rw [of_decide_eq_true heq', hframe', some.injEq, ScreencopyFrameState.pending.injEq] at hinfo'
      have houtput' := hw'.connected m' queue' hqueue' sc' hsc'
      rw [hsame, ← hinfo'.2.1] at houtput'
      exact (Finset.mem_erase.mp houtput').1 rfl
    unfold total at htotal'
    omega

/-- **Every frame is answered once.**  No frame gets a second answer; a frame whose copy was
accepted and that is alive was answered, waits in a queue or waits for a sync point, once and for
one of them, and as long as it was not answered it can be; what waits in a queue waits for a
connected output, in the queue of its manager; the queue of a destroyed manager is there exactly
while it has frames; a queue with waiting screencopies has a cast; and no step that can happen
aborts. -/
theorem frames_answered {es : List (Step Output)}
    (h : exec (step toPhysicalPreciseRound) start es = some w) :
    (∀ frame, w.answers frame ≤ 1) ∧
      (∀ frame ∈ w.aliveFrames, Accepted w frame →
        w.answers frame + w.waiting frame + w.inFlight frame = 1 ∧
          (w.answers frame = 0 → ∃ e w', step toPhysicalPreciseRound w e = some w' ∧
            w'.answers frame = 1)) ∧
      (∀ manager queue, w.queues.lookup manager = some queue →
        (queue.screencopies ≠ [] → queue.cast ≠ none) ∧
          ∀ screencopy ∈ queue.screencopies, screencopy.info.output ∈ w.outputState) ∧
      (∀ manager frame, Queued w manager frame ↔ Unfinished w manager frame) ∧
      (∀ manager ∈ w.destroyedManagers, manager ∈ w.queues ↔ ∃ frame, Unfinished w manager frame) ∧
      ∀ e, w.Enabled e → w.handle toPhysicalPreciseRound e ≠ none := by
  have hinv := exec_inv h
  have hdue : ∀ frame, w.due frame ≤ 1 := by
    intro frame
    unfold due dueOf
    split <;> [split; skip] <;> decide
  refine ⟨fun frame => ?_, fun frame halive haccepted => ?_, fun manager queue hqueue =>
    ⟨hinv.wf.cast manager queue hqueue, hinv.connected manager queue hqueue⟩,
    fun manager frame => hinv.wf.queued_iff,
    fun manager hmanager => hinv.wf.mem_queues_iff hinv.kept hmanager, fun e henabled => ?_⟩
  · have hle := hinv.counts.atMost frame
    have hone := hdue frame
    unfold total at hle
    omega
  · exact ⟨hinv.total_eq_one halive haccepted, hinv.answerable halive haccepted⟩
  · obtain ⟨w', hsome, -⟩ := step_inv toPhysicalPreciseRound hinv henabled
    rw [hsome]
    nofun

/-- The manager goes while one frame waits for a redraw and one for its sync point, and the output
goes before a third is copied. -/
def managerGoes : List (Step ℕ) :=
  [.bind, .addOutput 7 ⟨1920, 1080⟩ ._90 (3 / 2), .captureOutput 0 0 (some 7) 3,
    .captureOutputRegion 0 1 10 10 100 50 (some 7) 3, .captureOutput 0 0 (some 7) 2,
    .captureOutput 0 0 none 3, .copy 0 (.dmabuf .xrgb8888 1920 1080) true none,
    .copy 1 (.shm .xrgb8888 75 150 300 45000) false (some (.ok true)), .destroyManager 0,
    .managerDestroyed 0, .redraw 7 (fun _ => none) [0], .copy 1 .unknown false none,
    .redraw 7 (fun _ => some ([⟨⟨0, 0⟩, ⟨5, 5⟩⟩], .ok false)) [0], .destroyFrame 1, .synced 0,
    .removeOutput 7 [0], .copy 2 (.dmabuf .xrgb8888 1920 1080) true none, .frameDestroyed 1]

/-- `to_physical_precise_round`, of the place and of the size. -/
def scaleRect (rect : Rectangle ℤ) (scale : ℚ) : Rectangle ℤ :=
  ⟨(rect.loc.toF64.upscale scale).toI32Round,
    ((⟨rect.size.w * scale, rect.size.h * scale⟩ : Utils.Size ℚ)).toI32Round⟩

theorem frames_answered_managerGoes :
    ∃ w, exec (step scaleRect) (start : World ℕ) managerGoes = some w ∧
      (∀ frame, w.answers frame ≤ 1) ∧ w.answers 0 = 1 ∧ w.answers 1 = 0 ∧ w.answers 2 = 1 ∧
      0 ∉ w.queues := by
  obtain ⟨w, hw⟩ : ∃ w, exec (step scaleRect) (start : World ℕ) managerGoes = some w :=
    isSome_iff_exists.mp (by decide +kernel)
  have hall : (exec (step scaleRect) (start : World ℕ) managerGoes).all (fun w =>
      w.answers 0 = 1 ∧ w.answers 1 = 0 ∧ w.answers 2 = 1 ∧ 0 ∉ w.queues.keys) = true := by
    decide +kernel
  rw [hw, all_some, decide_eq_true_eq, Finmap.mem_keys] at hall
  exact ⟨w, hw, (frames_answered hw).1, hall⟩

end World

end Tiri.Protocols.WlrScreencopy
