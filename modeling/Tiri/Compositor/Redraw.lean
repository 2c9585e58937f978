import Tiri.Compositor.Timers

/-!
# Redrawing outputs on the TTY backend

The state machine of `RedrawState` over whole runs.

Results:
* `apply_keeps`: a redraw that is owed stays owed until a redraw of the output starts;
* `neverPanics`: while the timers match their tokens, no `unreachable!()` is reached;
* `redraw_state_machine`: both hold all along a run exactly when no vblank that `on_vblank` does
  not throttle comes for an output that waits for an estimated vblank.
-/

namespace Tiri.Compositor

open Run Bool

variable {L Token Output : Type} [DecidableEq Output]

theorem RedrawState.token_eq_some {r : RedrawState Token} {t : Token} :
    r.token = some t ↔
      r = .waitingForEstimatedVBlank t ∨ r = .waitingForEstimatedVBlankAndQueued t := by
  cases r <;> simp [RedrawState.token]

@[simp] theorem RedrawState.leadsToRedraw_queueRedraw (r : RedrawState Token) :
    r.queueRedraw.leadsToRedraw = true := by
  cases r <;> rfl

/-- A redraw of the output starts, or the output is removed. -/
def Event.takes : Event Token Output → Output → Bool
  | .redraw output _ _, o => output = o
  | .removeOutput output, o => output = o
  | _, _ => false

namespace Niri

/-! ## Redraws that are owed -/

/-- The output is connected, in a state that leads to a redraw. -/
def leads (s : Niri L Token Output) (o : Output) : Bool :=
  (s.outputState.lookup o).any fun st => st.redrawState.leadsToRedraw

section Keeps

variable {taken : Output → Prop} {s s' u : Niri L Token Output} {o : Output}
  {st st' : OutputState Token}

/-- The backend stays, and so do the redraws that are owed, but for those that are taken. -/
structure Keeps (taken : Output → Prop) (s s' : Niri L Token Output) : Prop where
  backend : s'.backend = s.backend
  leads : ∀ o, ¬ taken o → s.leads o = true → s'.leads o = true

theorem leads_eq (h : s.outputState.lookup o = some st) :
    s.leads o = st.redrawState.leadsToRedraw := by
  unfold leads
  rw [h]
  rfl

theorem leads_setOutput (s : Niri L Token Output) (o o' : Output) (st : OutputState Token) :
    (s.setOutput o st).leads o' = if o' = o then st.redrawState.leadsToRedraw else s.leads o' := by
  unfold leads
  rw [lookup_setOutput]
  by_cases heq : o' = o
  · rw [if_pos heq, if_pos heq]
    rfl
  · rw [if_neg heq, if_neg heq]

theorem Keeps.refl (s : Niri L Token Output) : Keeps taken s s :=
  ⟨rfl, fun _ _ h => h⟩

theorem Keeps.trans (h : Keeps taken s s') (h' : Keeps taken s' u) : Keeps taken s u :=
  ⟨h'.backend.trans h.backend, fun o ho hl => h'.leads o ho (h.leads o ho hl)⟩

theorem Keeps.after (h' : Keeps taken s' u) (h : Keeps taken s s') : Keeps taken s u :=
  h.trans h'

theorem Keeps.of_same (hb : s'.backend = s.backend) (hs : s'.outputState = s.outputState) :
    Keeps taken s s' := by
  refine ⟨hb, fun o _ hl => ?_⟩
  unfold Niri.leads at hl ⊢
  rwa [hs]

theorem keeps_setOutput (hl : ¬ taken o → s.leads o = true → st.redrawState.leadsToRedraw = true) :
    Keeps taken s (s.setOutput o st) := by
  refine ⟨rfl, fun o' ho' hlo' => ?_⟩
  rw [leads_setOutput]
  by_cases heq : o' = o
  · rw [if_pos heq]
    exact hl (heq ▸ ho') (heq ▸ hlo')
  · rw [if_neg heq]
    exact hlo'

theorem keeps_setOutput_same (ho : s.outputState.lookup o = some st)
    (hr : st'.redrawState = st.redrawState) : Keeps taken s (s.setOutput o st') :=
  keeps_setOutput fun _ hl => by
    rw [leads_eq ho] at hl
    rwa [hr]

theorem Keeps.mapValues {f : OutputState Token → OutputState Token}
    (hb : s'.backend = s.backend) (hs : s'.outputState = HashMap.mapValues f s.outputState)
    (hf : ∀ st : OutputState Token, st.redrawState.leadsToRedraw = true →
      (f st).redrawState.leadsToRedraw = true) : Keeps taken s s' := by
  refine ⟨hb, fun o _ hl => ?_⟩
  unfold Niri.leads at hl ⊢
  rw [hs, HashMap.lookup_mapValues]
  cases hst : s.outputState.lookup o with
  | none =>
    rw [hst] at hl
    cases hl
  | some st =>
    rw [hst] at hl
    exact hf st hl

theorem keeps_queueRedrawAll (s : Niri L Token Output) : Keeps taken s s.queueRedrawAll :=
  Keeps.mapValues (f := fun st => { st with redrawState := st.redrawState.queueRedraw }) rfl rfl
    fun st _ => st.redrawState.leadsToRedraw_queueRedraw

theorem leads_queueRedraw (hs' : s.queueRedraw o = some s') : s'.leads o = true := by
  obtain ⟨st, hst, hs'⟩ := Option.bind_eq_some_iff.mp hs'
  obtain rfl := Option.some.inj hs'
  rw [leads_setOutput, if_pos rfl]
  exact st.redrawState.leadsToRedraw_queueRedraw

theorem keeps_queueRedraw (hs' : s.queueRedraw o = some s') : Keeps taken s s' := by
  obtain ⟨st, -, hs'⟩ := Option.bind_eq_some_iff.mp hs'
  obtain rfl := Option.some.inj hs'
  exact keeps_setOutput fun _ _ => st.redrawState.leadsToRedraw_queueRedraw

theorem keeps_activateMonitors (s : Niri L Token Output) : Keeps taken s s.activateMonitors := by
  unfold activateMonitors
  split_ifs
  · exact Keeps.refl s
  · exact (keeps_queueRedrawAll _).after (Keeps.of_same rfl rfl)

theorem keeps_newLockSurface (s : Niri L Token Output) (surface : LockSurface) (o : Output) :
    Keeps taken s (s.newLockSurface surface o) := by
  unfold newLockSurface
  simp only
  split
  · rename_i hst
    split_ifs
    · exact keeps_setOutput_same hst rfl
    · exact Keeps.refl s
  · exact Keeps.refl s

theorem keeps_tryConfirm (s : Niri L Token Output) (c : SessionLocker) :
    Keeps taken s (s.tryConfirm c) := by
  unfold tryConfirm
  split_ifs
  · exact Keeps.of_same rfl rfl
  · exact Keeps.refl s

theorem keeps_addOutput {refreshInterval : Option ℕ}
    (hs' : s.addOutput o refreshInterval = some s') : Keeps taken s s' := by
  unfold Niri.addOutput at hs'
  by_cases hsome : (s.outputState.lookup o).isSome = true
  · rw [if_pos hsome] at hs'
    cases hs'
  rw [if_neg hsome] at hs'
  obtain rfl := Option.some.inj hs'
  refine keeps_setOutput fun _ hl => ?_
  have hnone : s.outputState.lookup o = none := by
    rwa [not_eq_true, Option.isSome_eq_false_iff, Option.isNone_iff_eq_none] at hsome
  unfold Niri.leads at hl
  rw [hnone] at hl
  cases hl

variable {redrawNeeded : Bool}

theorem keeps_continueRedrawing (hs' : s.continueRedrawing o redrawNeeded = some s') :
    Keeps taken s s' := by
  obtain ⟨st, -, hs'⟩ := Option.bind_eq_some_iff.mp hs'
  split_ifs at hs'
  · exact keeps_queueRedraw hs'
  · obtain rfl := Option.some.inj hs'
    exact Keeps.refl s

theorem leads_continueRedrawing (hs' : s.continueRedrawing o true = some s') :
    s'.leads o = true := by
  obtain ⟨st, -, hs'⟩ := Option.bind_eq_some_iff.mp hs'
  exact leads_queueRedraw hs'

theorem keeps_onEstimatedVBlankTimer (hs' : s.onEstimatedVBlankTimer o = some s') :
    Keeps taken s s' := by
  unfold Niri.onEstimatedVBlankTimer at hs'
  cases hst : s.outputState.lookup o with
  | none =>
    rw [hst] at hs'
    obtain rfl := Option.some.inj hs'
    exact Keeps.refl s
  | some st =>
    rw [hst] at hs'
    simp only at hs'
    split at hs'
    · cases hs'
    · cases hs'
    · cases hs'
    · rename_i hr
      refine Keeps.trans (keeps_setOutput fun _ hl => ?_) (keeps_continueRedrawing hs')
      rw [leads_eq hst] at hl
      change st.redrawState = _ at hr
      rw [hr] at hl
      cases hl
    · obtain rfl := Option.some.inj hs'
      exact keeps_setOutput fun _ _ => rfl

theorem continueRedrawing_frame (hs' : s.continueRedrawing o redrawNeeded = some s') :
    s'.eventLoop = s.eventLoop ∧ s'.tokenOf = s.tokenOf := by
  obtain ⟨st, -, hs'⟩ := Option.bind_eq_some_iff.mp hs'
  split_ifs at hs'
  · obtain ⟨st, hst, hs'⟩ := Option.bind_eq_some_iff.mp hs'
    obtain rfl := Option.some.inj hs'
    exact ⟨rfl, tokenOf_setOutput_same hst st.redrawState.token_queueRedraw⟩
  · obtain rfl := Option.some.inj hs'
    exact ⟨rfl, rfl⟩

theorem queueRedraw_isSome (h : (s.outputState.lookup o).isSome = true) :
    (s.queueRedraw o).isSome = true := by
  obtain ⟨st, hst⟩ := Option.isSome_iff_exists.mp h
  unfold Niri.queueRedraw
  rw [hst]
  rfl

theorem lookup_setOutput_isSome (s : Niri L Token Output) (o : Output) (st : OutputState Token) :
    ((s.setOutput o st).outputState.lookup o).isSome = true := by
  rw [lookup_setOutput_self]
  rfl

theorem continueRedrawing_isSome (h : (s.outputState.lookup o).isSome = true)
    (redrawNeeded : Bool) : (s.continueRedrawing o redrawNeeded).isSome = true := by
  obtain ⟨st, hst⟩ := Option.isSome_iff_exists.mp h
  unfold Niri.continueRedrawing
  rw [hst, Option.bind_eq_bind, Option.bind_some]
  split_ifs
  · exact queueRedraw_isSome h
  · rfl

theorem onEstimatedVBlankTimer_isSome
    (h : ∀ st, s.outputState.lookup o = some st → st.redrawState.token.isSome = true) :
    (s.onEstimatedVBlankTimer o).isSome = true := by
  unfold Niri.onEstimatedVBlankTimer
  cases hst : s.outputState.lookup o with
  | none => rfl
  | some st =>
    have htoken := h st hst
    cases hr : st.redrawState with
    | waitingForEstimatedVBlank t =>
      simp only [hr]
      exact continueRedrawing_isSome (lookup_setOutput_isSome _ _ _) _
    | waitingForEstimatedVBlankAndQueued t =>
      simp only [hr]
      rfl
    | _ =>
      rw [hr] at htoken
      cases htoken

variable [EventLoop L Token (Callback Output)]

theorem keeps_continueToLocking (s : Niri L Token Output) :
    Keeps taken s s.continueToLocking := by
  unfold continueToLocking
  split
  · simp only
    split_ifs
    · exact Keeps.of_same rfl rfl
    · exact (keeps_queueRedrawAll _).after (Keeps.of_same rfl rfl)
  · exact Keeps.refl s

theorem keeps_maybeContinueToLocking (s : Niri L Token Output) :
    Keeps taken s s.maybeContinueToLocking := by
  unfold maybeContinueToLocking
  split
  · split_ifs
    · exact keeps_continueToLocking s
    · exact Keeps.refl s
  · exact Keeps.refl s

theorem keeps_lock (s : Niri L Token Output) (c : SessionLocker) : Keeps taken s (s.lock c) := by
  unfold lock
  split
  · exact Keeps.refl s
  · exact Keeps.refl s
  · split_ifs
    · exact Keeps.of_same rfl rfl
    · exact Keeps.refl s
  · split_ifs
    · exact Keeps.of_same rfl rfl
    · exact Keeps.of_same rfl rfl

theorem keeps_unlock (s : Niri L Token Output) : Keeps taken s s.unlock := by
  refine (keeps_queueRedrawAll _).after ?_
  exact Keeps.mapValues (f := fun st => { st with lockSurface := none }) rfl rfl fun _ => id

theorem keeps_commitLockSurface (hs' : s.commitLockSurface o = some s') : Keeps taken s s' := by
  unfold commitLockSurface at hs'
  split at hs'
  · obtain rfl := Option.some.inj hs'
    exact keeps_maybeContinueToLocking s
  · exact keeps_queueRedraw hs'

theorem keeps_commit {surface : ℕ} {isMapped : Bool} {output : Option Output}
    (hs' : s.commit surface isMapped output = some s') : Keeps taken s s' := by
  unfold Niri.commit at hs'
  generalize (if isMapped then insert surface s.mapped else s.mapped.erase surface) = mapped at hs'
  have hmapped : Keeps taken s { s with mapped } := Keeps.of_same rfl rfl
  cases output with
  | none =>
    obtain rfl := Option.some.inj hs'
    exact hmapped
  | some o =>
    simp only at hs'
    split_ifs at hs'
    · exact hmapped.trans (keeps_commitLockSurface hs')
    · obtain rfl := Option.some.inj hs'
      exact hmapped

theorem keeps_removeOutput (hs' : s.removeOutput o = some s') : Keeps (o = ·) s s' := by
  obtain ⟨st, -, hs'⟩ := Option.bind_eq_some_iff.mp hs'
  have herase : Keeps (o = ·) s { s with
      outputState := s.outputState.erase o
      eventLoop := st.redrawState.token.elim s.eventLoop (EventLoop.remove s.eventLoop) } := by
    refine ⟨rfl, fun o' ho' hl => ?_⟩
    unfold Niri.leads at hl ⊢
    rwa [Finmap.lookup_erase_ne (Ne.symm ho')]
  simp only at hs'
  split at hs'
  · obtain rfl := Option.some.inj hs'
    exact herase.trans (keeps_tryConfirm _ _)
  · obtain rfl := Option.some.inj hs'
    exact herase.trans (keeps_maybeContinueToLocking _)

/-! ## Rendering -/

theorem keeps_queueEstimatedVBlankTimer (hs' : s.queueEstimatedVBlankTimer o = some s') :
    Keeps (o = ·) s s' := by
  obtain ⟨st, -, hs'⟩ := Option.bind_eq_some_iff.mp hs'
  have hset : ∀ l st', Keeps (o = ·) s ({ s with eventLoop := l }.setOutput o st') := fun l st' =>
    (keeps_setOutput fun ho => absurd rfl ho).after (Keeps.of_same rfl rfl)
  split at hs'
  · cases hs'
  · cases hs'
  all_goals
    obtain rfl := Option.some.inj hs'
    exact hset _ _

theorem keeps_frameQueued (hs' : s.frameQueued o = some s') : Keeps (o = ·) s s' := by
  obtain ⟨st, -, hs'⟩ := Option.bind_eq_some_iff.mp hs'
  obtain ⟨u, hu, hs'⟩ := Option.bind_eq_some_iff.mp hs'
  obtain rfl := Option.some.inj hs'
  have hsame : Keeps (o = ·) s u := by
    split at hu
    · cases hu
    · obtain rfl := Option.some.inj hu
      exact Keeps.refl s
    · cases hu
    · cases hu
    · obtain rfl := Option.some.inj hu
      exact Keeps.of_same rfl rfl
  exact hsame.trans (keeps_setOutput fun ho => absurd rfl ho)

variable {frame : Frame}

theorem keeps_render {res : RenderResult} (hs' : s.render o frame = some (res, s')) :
    Keeps (o = ·) s s' := by
  rcases render_cases hs' with rfl | hu | hu | ⟨st, -, -, rfl⟩
  · exact Keeps.refl s'
  · exact keeps_queueEstimatedVBlankTimer hu
  · exact keeps_frameQueued hu
  · exact keeps_setOutput fun ho => absurd rfl ho

theorem keeps_proceedLocking (s : Niri L Token Output) (lockRenderState : LockRenderState) :
    Keeps taken s (s.proceedLocking lockRenderState) := by
  unfold Niri.proceedLocking
  split
  · split_ifs
    · exact (keeps_unlock _).after (Keeps.of_same rfl rfl)
    · exact keeps_tryConfirm s _
  · exact Keeps.refl s

theorem keeps_redraw {animating : Bool} (hs' : s.redraw o frame animating = some s') :
    Keeps (o = ·) s s' := by
  obtain ⟨st, hst, hs'⟩ := Option.bind_eq_some_iff.mp hs'
  obtain ⟨-, -, hs'⟩ := Option.bind_eq_some_iff.mp hs'
  obtain ⟨⟨res, u⟩, hu, hs'⟩ := Option.bind_eq_some_iff.mp hs'
  have hrender : Keeps (o = ·) s u := by
    split_ifs at hu
    · exact (keeps_render hu).after (keeps_setOutput_same hst rfl)
    · obtain ⟨-, rfl⟩ := Prod.mk.inj (Option.some.inj hu)
      exact Keeps.refl s
  obtain ⟨stu, -, hs'⟩ := Option.bind_eq_some_iff.mp hs'
  obtain rfl := Option.some.inj hs'
  refine (keeps_proceedLocking _ _).after ?_
  exact (keeps_setOutput fun ho => absurd rfl ho).after hrender

/-! ## Vblanks and timers -/

variable {target : Option Output}

/-- A vblank, also one that nothing waited for, keeps the redraw that its output is owed. -/
theorem keeps_onVBlank {now presentationTime sequence : ℕ}
    (hs' : s.onVBlank target now presentationTime sequence = some s') : Keeps taken s s' := by
  rcases onVBlank_cases hs' with ⟨rfl, -⟩ | ⟨o, st, rfl, hst, hcases⟩
  · exact Keeps.refl _
  revert hcases
  generalize st.vblankThrottle.throttle s.eventLoop st.refreshInterval
    (vblankTime now presentationTime) sequence = r
  intro hcases
  have hloop : ∀ {taken}, Keeps taken s { s with eventLoop := r.2.2 } := Keeps.of_same rfl rfl
  rcases hcases with ⟨-, rfl⟩ | ⟨-, redrawNeeded, hneeded, hs'⟩
  · refine hloop.trans ?_
    exact keeps_setOutput_same hst rfl
  · -- The output is idle for a moment, in which it is owed nothing.
    have hother : Keeps (o = ·) s s' := by
      refine (keeps_continueRedrawing hs').after ?_
      exact (keeps_setOutput fun ho => absurd rfl ho).after hloop
    refine ⟨hother.backend, fun o' ho' hl => ?_⟩
    by_cases heq : o = o'
    · subst heq
      rw [leads_eq hst] at hl
      rw [hneeded hl] at hs'
      exact leads_continueRedrawing hs'
    · exact hother.leads o' heq hl

theorem keeps_fire {t : Token} {now : ℕ} (hs' : s.fire t target now = some s') :
    Keeps taken s s' := by
  obtain ⟨callback, -, hs'⟩ := Option.bind_eq_some_iff.mp hs'
  have hremoved : Keeps taken s { s with eventLoop := EventLoop.remove s.eventLoop t } :=
    Keeps.of_same rfl rfl
  cases callback with
  | estimatedVBlank o => exact hremoved.trans (keeps_onEstimatedVBlankTimer hs')
  | throttledVBlank sequence => exact hremoved.trans (keeps_onVBlank hs')
  | lockDeadline =>
    obtain rfl := Option.some.inj hs'
    exact hremoved.trans (keeps_continueToLocking _)

/-- **A redraw that is owed stays owed** until a redraw of the output starts or the output goes,
whatever else happens. -/
theorem apply_keeps {e : Event Token Output} (hs' : s.apply e = some s') :
    Keeps (fun o => e.takes o = true) s s' := by
  cases e with
  | queueRedraw o => exact keeps_queueRedraw hs'
  | queueRedrawAll =>
    obtain rfl := Option.some.inj hs'
    exact keeps_queueRedrawAll s
  | redraw o frame animating =>
    have hkeeps := keeps_redraw hs'
    exact ⟨hkeeps.backend, fun o' ho' => hkeeps.leads o' (by simpa [Event.takes] using ho')⟩
  | vblank target now presentationTime sequence => exact keeps_onVBlank hs'
  | fire t target now => exact keeps_fire hs'
  | addOutput o refreshInterval => exact keeps_addOutput hs'
  | removeOutput o =>
    have hkeeps := keeps_removeOutput hs'
    exact ⟨hkeeps.backend, fun o' ho' => hkeeps.leads o' (by simpa [Event.takes] using ho')⟩
  | lock c =>
    obtain rfl := Option.some.inj hs'
    exact (keeps_lock s c).trans (Keeps.of_same rfl rfl)
  | clientUnlock =>
    obtain rfl := Option.some.inj hs'
    exact (keeps_unlock s).trans (keeps_activateMonitors _)
  | lockDied | deactivateMonitors =>
    obtain rfl := Option.some.inj hs'
    exact Keeps.of_same rfl rfl
  | newLockSurface surface o =>
    obtain rfl := Option.some.inj hs'
    exact keeps_newLockSurface s surface o
  | commit surface isMapped output => exact keeps_commit hs'
  | activateMonitors =>
    obtain rfl := Option.some.inj hs'
    exact keeps_activateMonitors s
  | resumeSession =>
    obtain rfl := Option.some.inj hs'
    exact (keeps_queueRedrawAll _).after (Keeps.of_same rfl rfl)

end Keeps

variable [EventLoop L Token (Callback Output)]

/-! ## The state machine -/

/-- An estimated-vblank timer is registered for an output exactly while the redraw state of the
output carries the token of that timer. -/
def TimersMatch (s : Niri L Token Output) : Prop :=
  ∀ o t, EventLoop.registered s.eventLoop t = some (.estimatedVBlank o) ↔
    ∃ st, s.outputState.lookup o = some st ∧
      (st.redrawState = .waitingForEstimatedVBlank t ∨
        st.redrawState = .waitingForEstimatedVBlankAndQueued t)

/-- No event that can happen panics. -/
def NeverPanics (s : Niri L Token Output) : Prop :=
  ∀ e, s.enabled e = true → (s.apply e).isSome = true

/-- From every `queue_redraw` in the run on, the output stays in a state that leads to a redraw
until a redraw of it starts. -/
def KeepsRedraws (s₀ : Niri L Token Output) (es : List (Event Token Output)) : Prop :=
  ∀ es₁ es₂ es₃ o s, es = es₁ ++ .queueRedraw o :: es₂ ++ es₃ →
    exec step s₀ (es₁ ++ .queueRedraw o :: es₂) = some s →
    (∀ e ∈ es₂, e.takes o = false) → s.leads o = true

/-! ## Along a run -/

section Runs

variable {s s' : Niri L Token Output} {o : Output} {st : OutputState Token}

/-- A redraw stays owed over a run in which none of the output starts. -/
theorem exec_leads {es : List (Event Token Output)} (hs' : exec step s es = some s')
    (hes : ∀ e ∈ es, e.takes o = false) (hl : s.leads o = true) : s'.leads o = true := by
  induction es generalizing s with
  | nil =>
    rw [exec_nil, Option.some.injEq] at hs'
    exact hs' ▸ hl
  | cons e es ih =>
    obtain ⟨u, hu, hs'⟩ := exec_cons_eq_some.mp hs'
    have hkeeps := apply_keeps (apply_of_step hu).2
    have he : ¬ e.takes o = true := by
      rw [hes e (List.mem_cons_self ..)]
      exact false_ne_true
    exact ih hs' (fun e' he' => hes e' (List.mem_cons_of_mem _ he')) (hkeeps.leads o he hl)

theorem keepsRedraws (s₀ : Niri L Token Output) (es : List (Event Token Output)) :
    KeepsRedraws s₀ es := by
  rintro es₁ es₂ es₃ o s - hs hes
  obtain ⟨u, -, hu⟩ := exec_append_eq_some.mp hs
  obtain ⟨v, hv, hs⟩ := exec_cons_eq_some.mp hu
  exact exec_leads hs hes (leads_queueRedraw (apply_of_step hv).2)

theorem timersMatch_iff (h : Inv False s) : s.TimersMatch ↔ Inv True s := by
  have hcarry : ∀ o t, s.tokenOf o = some t ↔ ∃ st, s.outputState.lookup o = some st ∧
      (st.redrawState = .waitingForEstimatedVBlank t ∨
        st.redrawState = .waitingForEstimatedVBlankAndQueued t) := by
    intro o t
    unfold tokenOf
    rw [Option.bind_eq_some_iff]
    simp only [RedrawState.token_eq_some]
  constructor
  · intro hmatch
    exact ⟨h.estimated, fun _ o t hreg => (hcarry o t).mpr ((hmatch o t).mp hreg), h.throttled,
      h.deadline_iff⟩
  · intro hinv o t
    rw [← hcarry]
    exact ⟨hinv.exact trivial o t, hinv.estimated o t⟩

/-- A rogue vblank leaves a timer behind whose token is lost. -/
theorem not_timersMatch_onVBlank (h : Inv False s) {target : Option Output}
    {now presentationTime sequence : ℕ} (hrogue : s.rogueVBlank target now presentationTime = true)
    (hs' : s.onVBlank target now presentationTime sequence = some s') : ¬ s'.TimersMatch := by
  have h' : Inv False s' := h.onVBlank nofun hs'
  rw [timersMatch_iff h']
  intro hstrict
  obtain ⟨st, hfound, hst⟩ := (Option.any_eq_true _ _).mp hrogue
  obtain ⟨o, rfl, ho⟩ := Option.bind_eq_some_iff.mp hfound
  rw [and_eq_true, not_eq_true', Option.isSome_iff_exists] at hst
  obtain ⟨hearly, t, ht⟩ := hst
  have hok := throttle_timersOk h (v := st.vblankThrottle) (throttleOf_eq ho)
    st.refreshInterval (vblankTime now presentationTime) sequence
  -- The timer outlives the throttle.
  have hreg := hok.estimated o t ((tokenOf_eq ho).trans ht)
  have hfst := throttle_fst st.vblankThrottle s.eventLoop st.refreshInterval
    (vblankTime now presentationTime) sequence
  rcases onVBlank_cases hs' with ⟨-, hnone⟩ | ⟨o', st', heq, hst', hcases⟩
  · rw [hfound] at hnone
    cases hnone
  · obtain rfl := Option.some.inj heq
    rw [ho, Option.some.injEq] at hst'
    subst hst'
    rcases hcases with ⟨hthrottled, -⟩ | ⟨-, redrawNeeded, -, hcontinue⟩
    · rw [hfst, hearly] at hthrottled
      cases hthrottled
    · obtain ⟨hloop, htoken⟩ := continueRedrawing_frame hcontinue
      have hcarry : s'.tokenOf o = some t :=
        hstrict.exact trivial o t ((congrArg (EventLoop.registered · t) hloop).trans hreg)
      rw [htoken, tokenOf_setOutput, Function.update_self] at hcarry
      cases hcarry

/-- On the other hand, without a rogue vblank the timers keep matching their tokens. -/
theorem timersMatch_step_iff (h : Inv True s) {e : Event Token Output}
    (hs' : s.apply e = some s') : s'.TimersMatch ↔ s.rogue e = false := by
  have hweak : Inv False s := ⟨h.estimated, False.elim, h.throttled, h.deadline_iff⟩
  constructor
  · intro hmatch
    rw [← not_eq_true]
    intro hrogue
    cases e with
    | vblank target now presentationTime sequence =>
      exact not_timersMatch_onVBlank hweak hrogue hs' hmatch
    | fire t target now =>
      change s.fire t target now = some s' at hs'
      obtain ⟨callback, hreg, hs'⟩ := Option.bind_eq_some_iff.mp hs'
      simp only [rogue, hreg] at hrogue
      cases callback with
      | throttledVBlank sequence =>
        have hremoved : Inv False { s with eventLoop := EventLoop.remove s.eventLoop t } := by
          refine TimersOk.remove_other hweak fun c hc => ?_
          rw [hreg, Option.some.injEq] at hc
          rw [← hc]
          rfl
        exact not_timersMatch_onVBlank hremoved hrogue hs' hmatch
      | _ => cases hrogue
    | _ => cases hrogue
  · intro hrogue
    rw [timersMatch_iff (apply_timers hweak False.elim hs')]
    exact apply_timers h (fun _ => hrogue) hs'

/-! ## No panic -/

/-- `on_vblank` tolerates a vblank in any state. -/
theorem onVBlank_isSome (s : Niri L Token Output) (target : Option Output)
    (now presentationTime sequence : ℕ) :
    (s.onVBlank target now presentationTime sequence).isSome = true := by
  unfold Niri.onVBlank
  generalize (if presentationTime = 0 then now else presentationTime) = time
  cases target with
  | none => rfl
  | some o =>
    simp only
    split
    · rfl
    · split_ifs
      · rfl
      · exact continueRedrawing_isSome (lookup_setOutput_isSome _ _ _) _

theorem fire_isSome (h : Inv True s) {t : Token}
    (ht : (EventLoop.registered s.eventLoop t).isSome = true) (target : Option Output) (now : ℕ) :
    (s.fire t target now).isSome = true := by
  obtain ⟨callback, hreg⟩ := Option.isSome_iff_exists.mp ht
  unfold Niri.fire
  rw [hreg, Option.bind_eq_bind, Option.bind_some]
  cases callback with
  | estimatedVBlank o =>
    refine onEstimatedVBlankTimer_isSome fun st hst => ?_
    have hcarry := h.exact trivial o t hreg
    rw [tokenOf_eq (s := s) hst] at hcarry
    rw [hcarry]
    rfl
  | throttledVBlank sequence => exact onVBlank_isSome _ _ _ _ _
  | lockDeadline => rfl

section

variable (ho : s.outputState.lookup o = some st) (hq : st.redrawState.isQueued = true)
include ho hq

theorem queueEstimatedVBlankTimer_isSome :
    ∃ u, s.queueEstimatedVBlankTimer o = some u ∧
      (u.outputState.lookup o).isSome = true := by
  unfold Niri.queueEstimatedVBlankTimer
  rw [ho, Option.bind_eq_bind, Option.bind_some]
  cases hr : st.redrawState with
  | queued | waitingForEstimatedVBlankAndQueued => exact ⟨_, rfl, lookup_setOutput_isSome _ _ _⟩
  | _ =>
    rw [hr] at hq
    cases hq

theorem frameQueued_isSome : ∃ u, s.frameQueued o = some u ∧
      (u.outputState.lookup o).isSome = true := by
  unfold Niri.frameQueued
  rw [ho, Option.bind_eq_bind, Option.bind_some]
  cases hr : st.redrawState with
  | queued | waitingForEstimatedVBlankAndQueued => exact ⟨_, rfl, lookup_setOutput_isSome _ _ _⟩
  | _ =>
    rw [hr] at hq
    cases hq

/-- On the TTY backend, an output that is queued can be rendered. -/
theorem ttyRender_isSome (frame : Frame) :
    ∃ res u, s.ttyRender o frame = some (res, u) ∧ (u.outputState.lookup o).isSome = true := by
  obtain ⟨u, hu, hlookup⟩ := queueEstimatedVBlankTimer_isSome ho hq
  unfold Niri.ttyRender
  cases frame with
  | notRendered => exact ⟨_, _, rfl, by rw [ho]; rfl⟩
  | renderError | empty | queueError => exact ⟨_, u, by rw [hu]; rfl, hlookup⟩
  | submitted =>
    obtain ⟨u, hu, hlookup⟩ := frameQueued_isSome ho hq
    exact ⟨_, u, by rw [hu]; rfl, hlookup⟩

end

theorem redraw_isSome (hb : s.backend = .tty) (ho : s.outputState.lookup o = some st)
    (hq : st.redrawState.isQueued = true) (frame : Frame) (animating : Bool) :
    (s.redraw o frame animating).isSome = true := by
  have hrender : ∃ (res : RenderResult) (u : Niri L Token Output), (if s.monitorsActive then
      (s.setOutput o { st with unfinishedAnimationsRemain := animating }).render o frame
      else some (.skipped, s)) = some (res, u) ∧ (u.outputState.lookup o).isSome = true := by
    split_ifs
    · unfold Niri.render
      rw [show (s.setOutput o { st with unfinishedAnimationsRemain := animating }).backend = .tty
        from hb]
      have hst := lookup_setOutput_self s o { st with unfinishedAnimationsRemain := animating }
      exact ttyRender_isSome hst hq frame
    · exact ⟨_, _, rfl, by rw [ho]; rfl⟩
  obtain ⟨res, u, hu, hlookup⟩ := hrender
  obtain ⟨stu, hstu⟩ := Option.isSome_iff_exists.mp hlookup
  unfold Niri.redraw
  rw [ho, Option.bind_eq_bind, Option.bind_some]
  simp only [hq, guard_true, hu, hstu, Option.bind_eq_bind, Option.bind_some, Option.pure_def]
  rfl

/-- **No `unreachable!()` is reached** while the timers match their tokens. -/
theorem neverPanics (hb : s.backend = .tty) (h : Inv True s) : s.NeverPanics := by
  intro e he
  cases e with
  | queueRedraw o => exact queueRedraw_isSome he
  | redraw o frame animating =>
    obtain ⟨st, hst, hq⟩ := (Option.any_eq_true _ _).mp he
    exact redraw_isSome hb hst hq frame animating
  | vblank target now presentationTime sequence => exact onVBlank_isSome s _ _ _ _
  | fire t target now => exact fire_isSome h he target now
  | addOutput o refreshInterval =>
    have hnone : (s.outputState.lookup o).isSome = false := by
      simpa [Niri.enabled] using he
    simp [Niri.apply, Niri.addOutput, hnone]
  | removeOutput o =>
    obtain ⟨st, hst⟩ := Option.isSome_iff_exists.mp he
    show (s.removeOutput o).isSome = true
    unfold Niri.removeOutput
    rw [hst, Option.bind_eq_bind, Option.bind_some]
    simp only
    split
    · rfl
    · rfl
  | commit surface isMapped output =>
    show (s.commit surface isMapped output).isSome = true
    unfold Niri.commit
    cases output with
    | none => rfl
    | some o =>
      simp only
      by_cases hany : (s.outputState.lookup o).any (fun state =>
          state.lockSurface.any fun lockSurface => lockSurface.surface = surface) = true
      · rw [if_pos hany]
        unfold Niri.commitLockSurface
        split
        · rfl
        · obtain ⟨st, hst, -⟩ := (Option.any_eq_true _ _).mp hany
          refine queueRedraw_isSome ?_
          show (s.outputState.lookup o).isSome = true
          rw [hst]
          rfl
      · rw [if_neg hany]
        rfl
  | _ => rfl

/-- On the TTY backend the timers match their tokens and nothing panics all along a run, and a
redraw that was queued stays so, **exactly when** no vblank that `on_vblank` does not throttle
comes for an output that waits for an estimated one. -/
theorem redraw_state_machine {l : L} (hl : ∀ t, EventLoop.registered l t = none)
    (es : List (Event Token Output)) :
    (Always step (fun s => s.TimersMatch ∧ s.NeverPanics) (init .tty l : Niri L Token Output) es ∧
      KeepsRedraws (init .tty l : Niri L Token Output) es) ↔
    Along step (fun s e => s.rogue e = false) (init .tty l : Niri L Token Output) es := by
  rw [and_iff_left (keepsRedraws _ _)]
  refine always_iff_along (J := fun s => s.backend = .tty ∧ Inv False s) ?_ ?_ ?_ ?_
  · rintro s e s' ⟨hb, hinv⟩ hstep
    obtain ⟨-, happly⟩ := apply_of_step hstep
    exact ⟨(apply_keeps happly).backend.trans hb, apply_timers hinv nofun happly⟩
  · rintro s e s' ⟨hb, hinv⟩ ⟨hmatch, -⟩ hstep
    obtain ⟨-, happly⟩ := apply_of_step hstep
    have hiff := timersMatch_step_iff ((timersMatch_iff hinv).mp hmatch) happly
    constructor
    · rintro ⟨hmatch', -⟩
      exact hiff.mp hmatch'
    · intro hrogue
      have hmatch' := hiff.mpr hrogue
      have hinv' : Inv False s' := apply_timers hinv nofun happly
      have hb' : s'.backend = .tty := (apply_keeps happly).backend.trans hb
      exact ⟨hmatch', neverPanics hb' ((timersMatch_iff hinv').mp hmatch')⟩
  · exact ⟨rfl, init_inv .tty hl⟩
  · have hstart : Inv True (init .tty l : Niri L Token Output) := init_inv .tty hl
    exact ⟨(timersMatch_iff (init_inv .tty hl)).mpr hstart, neverPanics rfl hstart⟩

/-- A frame is drawn and shown, then an empty one, whose estimated vblank comes. -/
def shownRun : List (Event ℕ ℕ) :=
  [.addOutput 0 none, .queueRedraw 0, .redraw 0 .submitted false, .vblank (some 0) 1 1 0,
    .queueRedraw 0, .redraw 0 .empty false, .fire 0 none 0]

theorem redraw_state_machine_shownRun :
    (exec step (init .tty Sources.empty : Niri (Sources (Callback ℕ)) ℕ ℕ) shownRun).isSome = true ∧
      ((Always step (fun s => s.TimersMatch ∧ s.NeverPanics)
          (init .tty Sources.empty : Niri (Sources (Callback ℕ)) ℕ ℕ) shownRun ∧
        KeepsRedraws (init .tty Sources.empty : Niri (Sources (Callback ℕ)) ℕ ℕ) shownRun) ↔
      Along step (fun s e => s.rogue e = false)
        (init .tty Sources.empty : Niri (Sources (Callback ℕ)) ℕ ℕ) shownRun) :=
  ⟨by decide +kernel, redraw_state_machine (fun _ => rfl) _⟩

/-- The events of a run in which a vblank comes for an output whose frame was empty. -/
def rogueRun : List (Event ℕ ℕ) :=
  [.addOutput 0 none, .queueRedraw 0, .redraw 0 .empty false, .vblank (some 0) 1 1 0]

theorem rogueRun_exec :
    ((exec step (init .tty Sources.empty : Niri (Sources (Callback ℕ)) ℕ ℕ) rogueRun).any
      fun s => s.enabled (.fire 0 none 0) && (s.apply (.fire 0 none 0)).isNone) = true := by
  decide +kernel

/-- After the vblank, the timer is still there and hits an `unreachable!()`. -/
theorem rogue_vblank_panics :
    ¬ (Always step (fun s => s.TimersMatch ∧ s.NeverPanics)
        (init .tty Sources.empty : Niri (Sources (Callback ℕ)) ℕ ℕ) rogueRun ∧
      KeepsRedraws (init .tty Sources.empty : Niri (Sources (Callback ℕ)) ℕ ℕ) rogueRun) := by
  rintro ⟨halways, -⟩
  obtain ⟨s, hs, hfire⟩ := (Option.any_eq_true _ _).mp rogueRun_exec
  rw [and_eq_true, Option.isNone_iff_eq_none] at hfire
  obtain ⟨-, hpanics⟩ := halways.finish hs
  have hsome := hpanics (.fire 0 none 0) hfire.1
  rw [hfire.2] at hsome
  cases hsome

end Runs

end Niri

end Tiri.Compositor
