import Tiri.Protocols.ScreencopyGiven

/-!
# The queues of wlr-screencopy

What holds between the steps, and what the redraws and the removal of an output make of the queues.

Results:
* `Inv`: what the queues, the managers and the frames know of each other, and that each frame was
  given what is due to it;
* `Core.renderQueue`, `Inv.renderForScreencopyWithDamage`: a redraw;
* `Inv.removeOutput`: an output is removed.
-/

namespace Tiri.Protocols.WlrScreencopy

open Utils (Rectangle)
open Bool
open Finmap
open List

variable {Output : Type}

namespace World

variable {w w' : World Output} {frame manager : ℕ} {queue queue' : ScreencopyQueue Output}
variable {screencopy : Screencopy Output}

/-! ## The invariant -/

/-- The frame waits for its copy. -/
def Waits (w : World Output) (manager frame : ℕ) : Prop :=
  ∃ info, w.frames.lookup frame = some (.pending manager info false)

/-- What the queues, the managers and the frames know of each other. -/
structure Wf (w : World Output) : Prop where
  alive : ∀ manager ∈ w.aliveManagers, manager ∈ w.queues
  managers : ∀ manager, manager ∈ w.aliveManagers ∨ manager ∈ w.destroyedManagers ∨
    manager ∈ w.queues → manager < w.nextManager
  destroyed : ∀ manager ∈ w.destroyedManagers, manager ∉ w.aliveManagers
  frames : ∀ frame ∈ w.frames, frame < w.nextFrame
  aliveFrames : ∀ frame ∈ w.aliveFrames, frame ∈ w.frames
  pending : ∀ manager frame, Waits w manager frame ↔
    ∃ queue, w.queues.lookup manager = some queue ∧ frame ∈ queue.pendingFrames
  screencopies : ∀ manager queue, w.queues.lookup manager = some queue →
    ∀ screencopy ∈ queue.screencopies, screencopy.submitted = false ∧
      w.frames.lookup screencopy.frame = some (.pending manager screencopy.info true)
  cast : ∀ manager queue, w.queues.lookup manager = some queue → queue.screencopies ≠ [] →
    queue.cast ≠ none

/-- What is due to a frame, once it was captured: nothing while it waits for its copy. -/
def dueOf : Option (ScreencopyFrameState Output) → ℕ
  | some (.pending _ _ false) => 0
  | _ => 1

/-- What is due to a frame, and nothing is before its capture. -/
def due (w : World Output) (frame : ℕ) : ℕ :=
  if frame < w.nextFrame then dueOf (w.frames.lookup frame) else 0

/-- The frames were given what is due, as long as they are alive. -/
structure Counts (w : World Output) : Prop where
  atMost : ∀ frame, w.total frame ≤ w.due frame
  exactly : ∀ frame ∈ w.aliveFrames, w.total frame = w.due frame

/-- The queue of a manager that was destroyed is kept while it holds something. -/
def Kept (w : World Output) : Prop :=
  ∀ manager queue, manager ∈ w.destroyedManagers → w.queues.lookup manager = some queue →
    queue.isEmpty = false

/-- What waits in a queue waits for an output that is connected. -/
def Connected (w : World Output) : Prop :=
  ∀ manager queue, w.queues.lookup manager = some queue →
    ∀ screencopy ∈ queue.screencopies, screencopy.info.output ∈ w.outputState

/-- Every output has a mode. -/
def Modes [DecidableEq Output] (w : World Output) : Prop :=
  ∀ output info, w.outputs.lookup output = some info → info.currentMode ≠ none

/-- What holds in the midst of a step as well. -/
structure Core [DecidableEq Output] (w : World Output) : Prop where
  wf : Wf w
  counts : Counts w
  connected : Connected w
  modes : Modes w

structure Inv [DecidableEq Output] (w : World Output) : Prop extends Core w where
  kept : Kept w

theorem start_inv [DecidableEq Output] : Inv (start : World Output) where
  wf := {
    alive := nofun
    managers := by simp [start, notMem_empty]
    destroyed := nofun
    frames := nofun
    aliveFrames := nofun
    pending := fun _ _ => ⟨nofun, nofun⟩
    screencopies := nofun
    cast := nofun }
  counts := ⟨fun _ => le_rfl, nofun⟩
  kept := nofun
  connected := nofun
  modes := nofun

variable {given : ℕ → ℕ} {queues : HashMap ℕ (ScreencopyQueue Output)}

theorem Wf.gives (h : Wf w) (hgives : Gives w w' given) : Wf w' := by
  rw [hgives.same]
  exact ⟨h.alive, h.managers, h.destroyed, h.frames, h.aliveFrames, h.pending,
    h.screencopies, h.cast⟩

theorem Connected.gives (h : Connected w) (hgives : Gives w w' given) : Connected w' := by
  rw [hgives.same]
  exact h

theorem Kept.gives (h : Kept w) (hgives : Gives w w' given) : Kept w' := by
  rw [hgives.same]
  exact h

/-- What is due stays, and so does what the frames were given. -/
theorem Counts.of_total (h : Counts w) (hframes : w'.frames = w.frames)
    (hnext : w'.nextFrame = w.nextFrame) (halive : ∀ frame ∈ w'.aliveFrames, frame ∈ w.aliveFrames)
    (hle : ∀ frame, w'.total frame ≤ w.total frame)
    (heq : ∀ frame ∈ w.aliveFrames, w'.total frame = w.total frame) : Counts w' := by
  have hdue : ∀ frame, w'.due frame = w.due frame := by
    intro frame
    unfold due
    rw [hframes, hnext]
  refine ⟨fun frame => ?_, fun frame hframe => ?_⟩
  · rw [hdue]
    exact (hle frame).trans (h.atMost frame)
  · rw [hdue, heq frame (halive frame hframe)]
    exact h.exactly frame (halive frame hframe)

/-! ### One queue -/

/-- What a queue is after a step, which may leave it out. -/
def Replaces (w : World Output) (manager : ℕ) (queue : ScreencopyQueue Output)
    (queues : HashMap ℕ (ScreencopyQueue Output)) : Prop :=
  (∀ m, m ≠ manager → queues.lookup m = w.queues.lookup m) ∧
    (queues.lookup manager = some queue ∨
      queues.lookup manager = none ∧ queue.isEmpty = true ∧ manager ∉ w.aliveManagers)

theorem replaces_insert (w : World Output) (manager : ℕ) (queue : ScreencopyQueue Output) :
    Replaces w manager queue (w.queues.insert manager queue) :=
  ⟨fun _ hne => lookup_insert_of_ne _ hne, .inl (lookup_insert _)⟩

theorem replaces_putQueue (w : World Output) (manager : ℕ) (queue : ScreencopyQueue Output) :
    Replaces w manager queue (w.putQueue manager queue).queues := by
  unfold putQueue
  split
  · rename_i hgone
    rw [and_eq_true, not_eq_true', isAlive, decide_eq_false_iff_not] at hgone
    exact ⟨fun _ hne => lookup_erase_ne hne, .inr ⟨lookup_erase _ _, hgone⟩⟩
  · exact replaces_insert w manager queue

theorem Replaces.lookup (h : Replaces w manager queue queues) {m : ℕ} {q : ScreencopyQueue Output}
    (hlookup : queues.lookup m = some q) :
    m = manager ∧ q = queue ∨ m ≠ manager ∧ w.queues.lookup m = some q := by
  by_cases hm : m = manager
  · subst hm
    rcases h.2 with hsome | ⟨hnone, -⟩
    · rw [hlookup, Option.some.injEq] at hsome
      exact .inl ⟨rfl, hsome⟩
    · rw [hlookup] at hnone
      cases hnone
  · rw [h.1 m hm] at hlookup
    exact .inr ⟨hm, hlookup⟩

/-- A queue is replaced together with the data of the frames. -/
theorem Wf.replace (h : Wf w) (hqueue : w.queues.lookup manager = some queue)
    (hreplaces : Replaces w manager queue' queues)
    {frames : HashMap ℕ (ScreencopyFrameState Output)} {nextFrame : ℕ} {aliveFrames : Finset ℕ}
    (hframes : ∀ frame ∈ frames, frame < nextFrame)
    (haliveFrames : ∀ frame ∈ aliveFrames, frame ∈ frames)
    (hpending : ∀ m frame, Waits { w with frames } m frame ↔
      m = manager ∧ frame ∈ queue'.pendingFrames ∨ m ≠ manager ∧ Waits w m frame)
    (hscreencopies : ∀ screencopy ∈ queue'.screencopies, screencopy.submitted = false ∧
      frames.lookup screencopy.frame = some (.pending manager screencopy.info true))
    (hothers : ∀ m q, m ≠ manager → w.queues.lookup m = some q → ∀ screencopy ∈ q.screencopies,
      frames.lookup screencopy.frame = w.frames.lookup screencopy.frame)
    (hcast : queue'.screencopies ≠ [] → queue'.cast ≠ none) (log : ℕ → List FrameEvent)
    (sources : List (Source Output)) :
    Wf { w with queues, frames, nextFrame, aliveFrames, log, sources } where
  alive := by
    intro m hm
    by_cases heq : m = manager
    · subst heq
      rcases hreplaces.2 with hsome | ⟨-, -, hdead⟩
      · exact mem_of_lookup_eq_some hsome
      · exact absurd hm hdead
    · have hmem := h.alive m hm
      rw [← lookup_isSome] at hmem ⊢
      rwa [← hreplaces.1 m heq] at hmem
  managers := by
    rintro m (hm | hm | hm)
    · exact h.managers m (.inl hm)
    · exact h.managers m (.inr (.inl hm))
    · obtain ⟨q, hq⟩ := mem_iff.mp hm
      rcases hreplaces.lookup hq with ⟨rfl, -⟩ | ⟨-, hq⟩
      · exact h.managers m (.inr (.inr (mem_of_lookup_eq_some hqueue)))
      · exact h.managers m (.inr (.inr (mem_of_lookup_eq_some hq)))
  destroyed := h.destroyed
  frames := hframes
  aliveFrames := haliveFrames
  pending := by
    intro m frame
    refine (hpending m frame).trans ?_
    by_cases heq : m = manager
    · subst heq
      rcases hreplaces.2 with hsome | ⟨hnone, hempty, -⟩
      · simp [hsome]
      · unfold ScreencopyQueue.isEmpty at hempty
        rw [and_eq_true, decide_eq_true_eq] at hempty
        simp [hnone, hempty.1]
    · rw [h.pending m frame]
      simp [heq, hreplaces.1 m heq]
  screencopies := by
    intro m q hq sc hsc
    rcases hreplaces.lookup hq with ⟨rfl, rfl⟩ | ⟨hne, hq⟩
    · exact hscreencopies sc hsc
    · obtain ⟨hsubmitted, hlookup⟩ := h.screencopies m q hq sc hsc
      exact ⟨hsubmitted, (hothers m q hne hq sc hsc).trans hlookup⟩
  cast := by
    intro m q hq
    rcases hreplaces.lookup hq with ⟨rfl, rfl⟩ | ⟨-, hq⟩
    · exact hcast
    · exact h.cast m q hq

/-- A queue whose frames wait as before. -/
theorem Wf.replaceQueue (h : Wf w) (hqueue : w.queues.lookup manager = some queue)
    (hreplaces : Replaces w manager queue' queues)
    (hpending : queue'.pendingFrames = queue.pendingFrames)
    (hscreencopies : ∀ screencopy ∈ queue'.screencopies, screencopy ∈ queue.screencopies)
    (hcast : queue'.screencopies ≠ [] → queue'.cast ≠ none) : Wf { w with queues } := by
  refine h.replace hqueue hreplaces h.frames h.aliveFrames (fun m frame => ?_)
    (fun sc hsc => h.screencopies manager queue hqueue sc (hscreencopies sc hsc))
    (fun _ _ _ _ _ _ => rfl) hcast w.log w.sources
  show Waits w m frame ↔ _
  by_cases heq : m = manager
  · subst heq
    rw [hpending, h.pending m frame]
    simp [hqueue]
  · simp [heq]

theorem Connected.replaceQueue (h : Connected w) (hqueue : w.queues.lookup manager = some queue)
    (hreplaces : Replaces w manager queue' queues)
    (hscreencopies : ∀ screencopy ∈ queue'.screencopies, screencopy ∈ queue.screencopies) :
    Connected { w with queues } := by
  intro m q hq sc hsc
  rcases hreplaces.lookup hq with ⟨rfl, rfl⟩ | ⟨-, hq⟩
  · exact h m queue hqueue sc (hscreencopies sc hsc)
  · exact h m q hq sc hsc

/-! ## Redraws -/

variable {rest : List (Screencopy Output)}

/-- A queue with a front pops it, and leaves the rest. -/
theorem Wf.pop (h : Wf w) (hqueue : w.queues.lookup manager = some queue)
    (hfront : queue.screencopies = screencopy :: rest) (now : ℕ) :
    ∃ queue', queue.pop now = some (screencopy, queue') ∧
      queue'.pendingFrames = queue.pendingFrames ∧ queue'.screencopies = rest ∧
      queue'.cast ≠ none := by
  obtain ⟨cast, hcast⟩ := Option.ne_none_iff_exists'.mp
    (h.cast manager queue hqueue (by rw [hfront]; nofun))
  unfold ScreencopyQueue.pop
  rw [hfront, hcast]
  exact ⟨_, rfl, rfl, rfl, nofun⟩

variable {events : List FrameEvent}

theorem total_of_countP_eq_zero (hevents : events.countP FrameEvent.isAnswer = 0) (frame f : ℕ) :
    (w.send frame events).total f = w.total f := by
  rw [total_send, hevents, ite_self, Nat.add_zero]

/-- What is sent and is not an answer changes nothing. -/
theorem Counts.send (h : Counts w) (hevents : events.countP FrameEvent.isAnswer = 0) (frame : ℕ) :
    Counts (w.send frame events) := by
  have hgives := Gives.send w frame events
  refine h.of_total (by rw [hgives.same]) (by rw [hgives.same]) (fun f hf => ?_) (fun f => ?_)
    fun f _ => ?_
  · rwa [hgives.aliveFrames] at hf
  · exact (total_of_countP_eq_zero hevents frame f).le
  · exact total_of_countP_eq_zero hevents frame f

/-- The front of a queue is exchanged for an answer or a sync point. -/
theorem Counts.exchange (h : Counts w) (hqueue : w.queues.lookup manager = some queue)
    (hfront : queue.screencopies = screencopy :: rest) (hrest : queue'.screencopies = rest)
    (hgives : Gives { w with queues := w.queues.insert manager queue' } w'
      (one screencopy.frame)) : Counts w' := by
  have hwaiting : ∀ f, queue.waiting f = queue'.waiting f + one screencopy.frame f := by
    intro f
    unfold ScreencopyQueue.waiting
    rw [hfront, hrest, countP_cons, one_eq]
  have htotal := fun f => total_insert queue' hqueue f
  refine h.of_total (by rw [hgives.same]) (by rw [hgives.same]) (fun f hf => ?_) (fun f => ?_)
    fun f hf => ?_
  · rwa [hgives.aliveFrames] at hf
  · have hle := hgives.atMost f
    have hinsert := htotal f
    have hcount := hwaiting f
    omega
  · have heq := hgives.exactly f hf
    have hinsert := htotal f
    have hcount := hwaiting f
    omega

variable [DecidableEq Output]

theorem Core.gives (h : Core w) (hgives : Gives w w' given) (hcounts : Counts w') : Core w' where
  wf := h.wf.gives hgives
  counts := hcounts
  connected := h.connected.gives hgives
  modes := by
    rw [hgives.same]
    exact h.modes

theorem Core.renderQueue (h : Core w) (output : Output) (manager : ℕ)
    (rendering : Option (List (Rectangle ℤ) × RenderResult)) :
    ∃ w', w.renderQueue output manager rendering = some w' ∧ Core w' := by
  unfold World.renderQueue
  cases hqueue : w.queues.lookup manager with
  | none => exact ⟨w, rfl, h⟩
  | some queue =>
    dsimp only
    split
    · exact ⟨w, rfl, h⟩
    · rename_i screencopy rest hfront
      split
      · exact ⟨w, rfl, h⟩
      · cases rendering with
        | none => exact ⟨w, rfl, h⟩
        | some entry =>
          obtain ⟨damages, result⟩ := entry
          dsimp only
          have hdamage : (damages.map FrameEvent.damage).countP FrameEvent.isAnswer = 0 := by
            rw [countP_map, countP_eq_zero]
            exact fun _ _ => false_ne_true
          have hsend := h.gives (Gives.send w screencopy.frame (damages.map .damage))
            (h.counts.send hdamage screencopy.frame)
          have hqueue' : (w.send screencopy.frame (damages.map .damage)).queues.lookup manager =
              some queue := by
            rw [(Gives.send w screencopy.frame (damages.map .damage)).same]
            exact hqueue
          generalize w.send screencopy.frame (damages.map .damage) = w₁ at hsend hqueue'
          obtain ⟨queue', hpop, hpending, hrest, hcast⟩ := hsend.wf.pop hqueue' hfront w₁.now
          have hmem : ∀ sc ∈ queue'.screencopies, sc ∈ queue.screencopies := by
            rw [hrest, hfront]
            exact fun sc hsc => mem_cons_of_mem _ hsc
          have hreplaces := replaces_insert w₁ manager queue'
          have hwf := hsend.wf.replaceQueue hqueue' hreplaces hpending hmem fun _ => hcast
          have hconnected := hsend.connected.replaceQueue hqueue' hreplaces hmem
          have hsubmitted := (hsend.wf.screencopies manager queue hqueue' screencopy
            (by rw [hfront]; exact mem_cons.mpr (.inl rfl))).1
          -- The front was popped, and one answer or sync point comes for it.
          have hfinish : ∀ w₂, Gives { w₁ with queues := w₁.queues.insert manager queue' } w₂
              (one screencopy.frame) → Core w₂ := fun w₂ hgives => {
            wf := hwf.gives hgives
            counts := hsend.counts.exchange hqueue' hfront hrest hgives
            connected := hconnected.gives hgives
            modes := by
              rw [hgives.same]
              exact hsend.modes }
          rw [hpop]
          cases result with
          | ok sync => exact ⟨_, rfl, hfinish _ (Gives.submitAfterSync _ screencopy false sync)⟩
          | err => exact ⟨_, rfl, hfinish _ (Gives.dropScreencopy _ hsubmitted)⟩

omit [DecidableEq Output] in
theorem lookup_cleanupQueues :
    w.cleanupQueues.queues.lookup manager = some queue ↔ w.queues.lookup manager = some queue ∧
      (manager ∈ w.aliveManagers ∨ queue.isEmpty = false) := by
  unfold World.cleanupQueues
  rw [HashMap.lookup_retain, Option.filter_eq_some_iff, or_eq_true, not_eq_true', isAlive,
    decide_eq_true_eq]

/-- Once the queues are cleaned up, those of the destroyed managers hold something. -/
theorem Core.cleanupQueues (h : Core w) : Inv w.cleanupQueues where
  wf := {
    alive := by
      intro m hm
      obtain ⟨q, hq⟩ := mem_iff.mp (h.wf.alive m hm)
      exact mem_of_lookup_eq_some (lookup_cleanupQueues.mpr ⟨hq, .inl hm⟩)
    managers := by
      rintro m (hm | hm | hm)
      · exact h.wf.managers m (.inl hm)
      · exact h.wf.managers m (.inr (.inl hm))
      · obtain ⟨q, hq⟩ := mem_iff.mp hm
        exact h.wf.managers m
          (.inr (.inr (mem_of_lookup_eq_some (lookup_cleanupQueues.mp hq).1)))
    destroyed := h.wf.destroyed
    frames := h.wf.frames
    aliveFrames := h.wf.aliveFrames
    pending := by
      intro m frame
      refine (h.wf.pending m frame).trans (exists_congr fun q => ?_)
      rw [lookup_cleanupQueues]
      constructor
      · rintro ⟨hq, hmem⟩
        refine ⟨⟨hq, .inr ?_⟩, hmem⟩
        unfold ScreencopyQueue.isEmpty
        rw [and_eq_false_iff, decide_eq_false_iff_not]
        exact .inl (Finset.ne_empty_of_mem hmem)
      · rintro ⟨⟨hq, -⟩, hmem⟩
        exact ⟨hq, hmem⟩
    screencopies := fun m q hq => h.wf.screencopies m q (lookup_cleanupQueues.mp hq).1
    cast := fun m q hq => h.wf.cast m q (lookup_cleanupQueues.mp hq).1 }
  counts := h.counts.of_total rfl rfl (fun _ hf => hf) (fun f => (total_cleanupQueues w f).le)
    fun f _ => total_cleanupQueues w f
  connected := fun m q hq => h.connected m q (lookup_cleanupQueues.mp hq).1
  modes := h.modes
  kept := by
    intro m q hdestroyed hq
    rcases (lookup_cleanupQueues.mp hq).2 with halive | hempty
    · exact absurd halive (h.wf.destroyed m hdestroyed)
    · exact hempty

theorem Inv.renderForScreencopyWithDamage (h : Inv w) (output : Output)
    (rendering : ℕ → Option (List (Rectangle ℤ) × RenderResult)) (order : List ℕ) :
    ∃ w', w.renderForScreencopyWithDamage output rendering order = some w' ∧ Inv w' := by
  have hloop : ∀ (order : List ℕ) (w : World Output), Core w → ∃ w',
      order.foldlM (fun w manager => World.renderQueue w output manager (rendering manager)) w =
        some w' ∧ Core w' := by
    intro order
    induction order with
    | nil => exact fun w hw => ⟨w, rfl, hw⟩
    | cons manager order ih =>
      intro w hw
      obtain ⟨w₁, hrender, hw₁⟩ := hw.renderQueue output manager (rendering manager)
      rw [foldlM_cons, hrender]
      exact ih w₁ hw₁
  obtain ⟨w', hfold, hw'⟩ := hloop order w h.toCore
  unfold World.renderForScreencopyWithDamage
  rw [hfold]
  exact ⟨w'.cleanupQueues, rfl, hw'.cleanupQueues⟩

/-! ## Outputs -/

/-- Only the queues that are still to be gone through wait for the output that was removed. -/
def ConnectedBut (w : World Output) (output : Output) (rest : List ℕ) : Prop :=
  ∀ manager queue, w.queues.lookup manager = some queue → ∀ screencopy ∈ queue.screencopies,
    screencopy.info.output ∈ w.outputState ∨ manager ∈ rest ∧ screencopy.info.output = output

/-- While an output is removed. -/
structure Removing (output : Output) (rest : List ℕ) (w : World Output) : Prop where
  wf : Wf w
  counts : Counts w
  connected : ConnectedBut w output rest
  modes : Modes w

variable {output : Output}

theorem Removing.removeQueueOutput {rest : List ℕ} (h : Removing output (manager :: rest) w) :
    Removing output rest (w.removeQueueOutput output manager) := by
  unfold World.removeQueueOutput
  cases hqueue : w.queues.lookup manager with
  | none =>
    refine ⟨h.wf, h.counts, fun m q hq sc hsc => ?_, h.modes⟩
    refine (h.connected m q hq sc hsc).imp_right fun ⟨hmem, heq⟩ => ⟨?_, heq⟩
    refine (mem_cons.mp hmem).resolve_left ?_
    rintro rfl
    rw [hqueue] at hq
    cases hq
  | some queue =>
    dsimp only
    have hremoved : (queue.screencopies.filter fun sc => sc.info.output = output) =
        queue.screencopies.filter fun sc => !decide (sc.info.output ≠ output) := by
      congr 1
      funext sc
      simp
    have hsubmitted : ∀ sc ∈ queue.screencopies.filter fun sc => !decide (sc.info.output ≠ output),
        sc.submitted = false := fun sc hsc =>
      (h.wf.screencopies manager queue hqueue sc (mem_filter.mp hsc).1).1
    rw [hremoved]
    have hgives := Gives.dropAll w hsubmitted
    generalize (queue.screencopies.filter fun sc => !decide (sc.info.output ≠ output)).foldl
      World.dropScreencopy w = w₁ at hgives
    have hqueue₁ : w₁.queues.lookup manager = some queue := by
      rw [hgives.same]
      exact hqueue
    have hscreencopies : (queue.removeOutput output w₁.now).screencopies =
        queue.screencopies.filter fun sc => decide (sc.info.output ≠ output) :=
      ScreencopyQueue.screencopies_retained _ _
    have hmem : ∀ sc ∈ (queue.removeOutput output w₁.now).screencopies,
        sc ∈ queue.screencopies := by
      intro sc hsc
      rw [hscreencopies] at hsc
      exact (mem_filter.mp hsc).1
    have hreplaces := replaces_insert w₁ manager (queue.removeOutput output w₁.now)
    have htotal := fun f => total_insert (queue.removeOutput output w₁.now) hqueue₁ f
    have hwaiting := fun f =>
      queue.waiting_retained (fun sc => decide (sc.info.output ≠ output)) w₁.now f
    refine ⟨?_, ?_, fun m q hq sc hsc => ?_, ?_⟩
    · exact (h.wf.gives hgives).replaceQueue hqueue₁ hreplaces
        (ScreencopyQueue.pendingFrames_retained _ _) hmem
        (ScreencopyQueue.cast_retained (h.wf.cast manager queue hqueue))
    · refine h.counts.of_total (by rw [hgives.same]) (by rw [hgives.same]) (fun f hf => ?_)
        (fun f => ?_) fun f hf => ?_
      · rwa [hgives.same] at hf
      · have hle := hgives.atMost f
        have heq := htotal f
        have hcount := hwaiting f
        unfold ScreencopyQueue.removeOutput at heq ⊢
        omega
      · have hgiven := hgives.exactly f hf
        have heq := htotal f
        have hcount := hwaiting f
        unfold ScreencopyQueue.removeOutput at heq ⊢
        omega
    · rcases hreplaces.lookup hq with ⟨rfl, rfl⟩ | ⟨hne, hq⟩
      · rw [hscreencopies] at hsc
        obtain ⟨hsc, hout⟩ := mem_filter.mp hsc
        rcases h.connected m queue hqueue sc hsc with hconnected | ⟨-, heq⟩
        · refine .inl ?_
          rw [hgives.same]
          exact hconnected
        · exact absurd heq (of_decide_eq_true hout)
      · rw [hgives.same] at hq ⊢
        exact (h.connected m q hq sc hsc).imp_right fun ⟨hmem, heq⟩ =>
          ⟨(mem_cons.mp hmem).resolve_left hne, heq⟩
    · rw [hgives.same]
      exact h.modes

theorem Inv.removeOutput (h : Inv w) {order : List ℕ} (houtput : output ∈ w.outputState)
    (horder : HashMap.Lists order w.queues) :
    ∃ w', w.removeOutput output order = some w' ∧ Inv w' := by
  have hstart : Removing output order { w with outputState := w.outputState.erase output } := by
    refine ⟨⟨h.wf.alive, h.wf.managers, h.wf.destroyed, h.wf.frames, h.wf.aliveFrames, h.wf.pending,
      h.wf.screencopies, h.wf.cast⟩, ⟨h.counts.atMost, h.counts.exactly⟩,
      fun m q hq sc hsc => ?_, h.modes⟩
    by_cases heq : sc.info.output = output
    · exact .inr ⟨horder.mem_iff.mpr (mem_of_lookup_eq_some hq), heq⟩
    · exact .inl (Finset.mem_erase.mpr ⟨heq, h.connected m q hq sc hsc⟩)
  have hloop : ∀ (order : List ℕ) (w : World Output), Removing output order w →
      Removing output [] (order.foldl (fun w m => w.removeQueueOutput output m) w) := by
    intro order
    induction order with
    | nil => exact fun w hw => hw
    | cons manager order ih => exact fun w hw => ih _ hw.removeQueueOutput
  unfold World.removeOutput
  rw [if_neg (not_not.mpr houtput)]
  have hend := hloop order _ hstart
  refine ⟨_, rfl, Core.cleanupQueues ⟨hend.wf, hend.counts, fun m q hq sc hsc => ?_, hend.modes⟩⟩
  exact (hend.connected m q hq sc hsc).resolve_right fun hnot => not_mem_nil hnot.1

end World

end Tiri.Protocols.WlrScreencopy
