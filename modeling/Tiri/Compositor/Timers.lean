import Tiri.Compositor.State

/-!
# The timers of the outputs and of the lock

Which sources the event loop holds, against the tokens that the outputs and the lock state hold.

Results:
* `apply_timers`: every event keeps the tokens and the timers in agreement; that no timer is left
  without its token needs that no vblank comes for an output that waits for an estimated one.
-/

namespace Tiri.Compositor

open Option Finmap Function EventLoop

variable {L Token Output : Type} [EventLoop L Token (Callback Output)]

/-! ## Tokens against sources -/

/-- The callback of a throttled vblank. -/
def Callback.isThrottled : Callback Output → Bool
  | throttledVBlank _ => true
  | _ => false

/-- The event loop against the tokens of the outputs, of their throttles and of the lock.  With
`strict` there is no estimated-vblank timer whose token is lost. -/
structure TimersOk (strict : Prop) (l : L) (token throttle : Output → Option Token)
    (deadline : Option Token) : Prop where
  estimated : ∀ o t, token o = some t → EventLoop.registered l t = some (.estimatedVBlank o)
  exact : strict → ∀ o t, EventLoop.registered l t = some (.estimatedVBlank o) → token o = some t
  throttled : ∀ o t, throttle o = some t → EventLoop.Used l t ∧
    ∀ c, EventLoop.registered l t = some c → c.isThrottled = true
  deadline_iff : ∀ t, EventLoop.registered l t = some .lockDeadline ↔ deadline = some t

namespace TimersOk

variable {strict : Prop} {l : L} {token throttle : Output → Option Token} {deadline : Option Token}

variable {t : Token} {o : Output}

/-- A source that is none of those that tokens are held for can be removed. -/
theorem remove_other (h : TimersOk strict l token throttle deadline)
    (ht : ∀ c, EventLoop.registered l t = some c → c.isThrottled = true) :
    TimersOk strict (EventLoop.remove l t) token throttle deadline := by
  have hkeep : ∀ t' (c : Callback Output), c.isThrottled = false →
      (EventLoop.registered (EventLoop.remove l t) t' = some c ↔
        EventLoop.registered l t' = some c) := by
    intro t' c hc
    rw [registered_remove_iff]
    constructor
    · exact And.right
    · intro hreg
      refine ⟨?_, hreg⟩
      rintro rfl
      rw [ht c hreg] at hc
      cases hc
  constructor
  · intro o t' ho
    exact (hkeep t' _ rfl).mpr (h.estimated o t' ho)
  · intro hs o t' hreg
    exact h.exact hs o t' ((hkeep t' _ rfl).mp hreg)
  · intro o t' ho
    obtain ⟨hused, hreg⟩ := h.throttled o t' ho
    refine ⟨(used_remove l t t').mpr hused, fun c hc => ?_⟩
    exact hreg c (registered_remove_iff.mp hc).2
  · intro t'
    rw [hkeep t' _ rfl]
    exact h.deadline_iff t'

variable [DecidableEq Output]

section

variable (h : TimersOk strict l token throttle deadline)
include h

/-- A new timer for an output that has none. -/
theorem insert_estimated (ho : token o = none) :
    TimersOk strict (EventLoop.insertSource l (.estimatedVBlank o : Callback Output)).2
      (update token o
        (some (EventLoop.insertSource l (.estimatedVBlank o : Callback Output)).1))
      throttle deadline := by
  constructor
  · intro o' t hcarry
    rw [registered_insertSource_iff]
    by_cases heq : o' = o
    · rw [heq, update_self, some.injEq] at hcarry
      exact Or.inl ⟨hcarry.symm, by rw [heq]⟩
    · rw [update_of_ne heq] at hcarry
      exact Or.inr (h.estimated o' t hcarry)
  · intro hs o' t hreg
    rcases registered_insertSource_iff.mp hreg with ⟨ht, hc⟩ | hreg
    · obtain rfl : o' = o := by simpa using hc
      rw [update_self, ht]
    · have hcarry := h.exact hs o' t hreg
      have heq : o' ≠ o := by
        rintro rfl
        rw [ho] at hcarry
        cases hcarry
      rw [update_of_ne heq, hcarry]
  · intro o' t ht
    obtain ⟨hused, hreg⟩ := h.throttled o' t ht
    refine ⟨(used_insertSource _ _ _).mpr (Or.inr hused), fun c hc => ?_⟩
    rcases registered_insertSource_iff.mp hc with ⟨heq, -⟩ | hc
    · exact absurd (heq ▸ hused) (insertSource_fresh l _)
    · exact hreg c hc
  · intro t
    rw [registered_insertSource_iff, ← h.deadline_iff]
    simp

/-- A timer goes together with its token. -/
theorem remove_estimated (ht : EventLoop.registered l t = some (.estimatedVBlank o)) :
    TimersOk strict (EventLoop.remove l t) (update token o none) throttle deadline := by
  constructor
  · intro o' t' hcarry
    by_cases heq : o' = o
    · rw [heq, update_self] at hcarry
      cases hcarry
    · rw [update_of_ne heq] at hcarry
      have hreg := h.estimated o' t' hcarry
      refine registered_remove_iff.mpr ⟨?_, hreg⟩
      rintro rfl
      rw [ht] at hreg
      simp only [some.injEq, Callback.estimatedVBlank.injEq] at hreg
      exact heq hreg.symm
  · intro hs o' t' hreg
    obtain ⟨hne, hreg⟩ := registered_remove_iff.mp hreg
    have hcarry := h.exact hs o' t' hreg
    have heq : o' ≠ o := by
      rintro rfl
      rw [h.exact hs _ t ht, some.injEq] at hcarry
      exact hne hcarry.symm
    rw [update_of_ne heq, hcarry]
  · intro o' t' ho'
    obtain ⟨hused, hreg⟩ := h.throttled o' t' ho'
    refine ⟨(used_remove l t t').mpr hused, fun c hc => ?_⟩
    exact hreg c (registered_remove_iff.mp hc).2
  · intro t'
    rw [registered_remove_iff, ← h.deadline_iff]
    constructor
    · exact And.right
    · intro hreg
      refine ⟨?_, hreg⟩
      rintro rfl
      rw [ht] at hreg
      simp at hreg

omit [DecidableEq Output] in
/-- The token of a timer is lost. -/
theorem lose_token [DecidableEq Output] (ho : strict → token o = none) :
    TimersOk strict l (update token o none) throttle deadline := by
  constructor
  · intro o' t hcarry
    by_cases heq : o' = o
    · rw [heq, update_self] at hcarry
      cases hcarry
    · rw [update_of_ne heq] at hcarry
      exact h.estimated o' t hcarry
  · intro hs o' t hreg
    have hcarry := h.exact hs o' t hreg
    have heq : o' ≠ o := by
      rintro rfl
      rw [ho hs] at hcarry
      cases hcarry
    rw [update_of_ne heq, hcarry]
  · exact h.throttled
  · exact h.deadline_iff

/-- The token of a throttle is dropped. -/
theorem lose_throttle (o : Output) : TimersOk strict l token (update throttle o none) deadline := by
  constructor
  · exact h.estimated
  · exact h.exact
  · intro o' t ho'
    by_cases heq : o' = o
    · rw [heq, update_self] at ho'
      cases ho'
    · rw [update_of_ne heq] at ho'
      exact h.throttled o' t ho'
  · exact h.deadline_iff

/-- A vblank is throttled. -/
theorem insert_throttled (o : Output) (sequence : ℕ) :
    TimersOk strict (EventLoop.insertSource l (.throttledVBlank sequence : Callback Output)).2
      token (update throttle o
        (some (EventLoop.insertSource l (.throttledVBlank sequence : Callback Output)).1))
      deadline := by
  have hkeep : ∀ t (c : Callback Output), c.isThrottled = false →
      (EventLoop.registered
          (EventLoop.insertSource l (.throttledVBlank sequence : Callback Output)).2 t = some c ↔
        EventLoop.registered l t = some c) := by
    intro t c hc
    rw [registered_insertSource_iff]
    refine or_iff_right ?_
    rintro ⟨-, rfl⟩
    cases hc
  constructor
  · intro o' t hcarry
    exact (hkeep t _ rfl).mpr (h.estimated o' t hcarry)
  · intro hs o' t hreg
    exact h.exact hs o' t ((hkeep t _ rfl).mp hreg)
  · intro o' t ho'
    by_cases heq : o' = o
    · rw [heq, update_self, some.injEq] at ho'
      refine ⟨(used_insertSource _ _ _).mpr (Or.inl ho'.symm), fun c hc => ?_⟩
      rcases registered_insertSource_iff.mp hc with ⟨-, hc⟩ | hc
      · rw [hc]
        rfl
      · exact absurd (used_of_registered hc)
          (ho' ▸ insertSource_fresh l _)
    · rw [update_of_ne heq] at ho'
      obtain ⟨hused, hreg⟩ := h.throttled o' t ho'
      refine ⟨(used_insertSource _ _ _).mpr (Or.inr hused), fun c hc => ?_⟩
      rcases registered_insertSource_iff.mp hc with ⟨-, hc⟩ | hc
      · rw [hc]
        rfl
      · exact hreg c hc
  · intro t
    rw [hkeep t _ rfl]
    exact h.deadline_iff t

end

section

omit [DecidableEq Output]

/-- The lock waits with a deadline. -/
theorem insert_deadline (h : TimersOk strict l token throttle none) :
    TimersOk strict (EventLoop.insertSource l (.lockDeadline : Callback Output)).2 token throttle
      (some (EventLoop.insertSource l (.lockDeadline : Callback Output)).1) := by
  constructor
  · intro o t hcarry
    exact registered_insertSource_iff.mpr (Or.inr (h.estimated o t hcarry))
  · intro hs o t hreg
    rcases registered_insertSource_iff.mp hreg with ⟨-, hc⟩ | hreg
    · cases hc
    · exact h.exact hs o t hreg
  · intro o t ho
    obtain ⟨hused, hreg⟩ := h.throttled o t ho
    refine ⟨(used_insertSource _ _ _).mpr (Or.inr hused), fun c hc => ?_⟩
    rcases registered_insertSource_iff.mp hc with ⟨heq, -⟩ | hc
    · exact absurd (heq ▸ hused) (insertSource_fresh l _)
    · exact hreg c hc
  · intro t
    rw [registered_insertSource_iff, h.deadline_iff, some.injEq]
    simp [eq_comm]

/-- The deadline goes together with its token. -/
theorem remove_deadline (h : TimersOk strict l token throttle (some t)) :
    TimersOk strict (EventLoop.remove l t) token throttle none := by
  have ht : EventLoop.registered l t = some .lockDeadline := (h.deadline_iff t).mpr rfl
  constructor
  · intro o t' hcarry
    have hreg := h.estimated o t' hcarry
    refine registered_remove_iff.mpr ⟨?_, hreg⟩
    rintro rfl
    rw [ht] at hreg
    cases hreg
  · intro hs o t' hreg
    exact h.exact hs o t' (registered_remove_iff.mp hreg).2
  · intro o t' ho
    obtain ⟨hused, hreg⟩ := h.throttled o t' ho
    refine ⟨(used_remove l t t').mpr hused, fun c hc => ?_⟩
    exact hreg c (registered_remove_iff.mp hc).2
  · intro t'
    rw [registered_remove_iff, h.deadline_iff, some.injEq]
    constructor
    · rintro ⟨hne, heq⟩
      exact absurd heq.symm hne
    · intro hn
      cases hn

/-- Removing a timer that has fired does nothing. -/
theorem remove_gone (h : TimersOk strict l token throttle none)
    (ht : EventLoop.registered l t = none) :
    TimersOk strict (EventLoop.remove l t) token throttle none :=
  h.remove_other fun c hc => by
    rw [ht] at hc
    cases hc

end

end TimersOk

/-! ## The tokens of a state -/

/-- The token of the deadline. -/
def LockState.deadline : LockState Token → Option Token
  | waitingForSurfaces _ deadlineToken => some deadlineToken
  | _ => none

@[simp] theorem RedrawState.token_queueRedraw (r : RedrawState Token) :
    r.queueRedraw.token = r.token := by
  cases r <;> rfl

namespace Niri

variable [DecidableEq Output]

/-- The token of the estimated-vblank timer of an output. -/
def tokenOf (self : Niri L Token Output) (o : Output) : Option Token :=
  (self.outputState.lookup o).bind fun state => state.redrawState.token

/-- The token of the throttle of an output. -/
def throttleOf (self : Niri L Token Output) (o : Output) : Option Token :=
  (self.outputState.lookup o).bind fun state => state.vblankThrottle.throttleTimerToken

/-- Tokens and timers agree. -/
def Inv (strict : Prop) (s : Niri L Token Output) : Prop :=
  TimersOk strict s.eventLoop s.tokenOf s.throttleOf s.lockState.deadline

section Lookups

omit [EventLoop L Token (Callback Output)]

variable {s : Niri L Token Output} {o : Output} {st : OutputState Token}

theorem lookup_setOutput (s : Niri L Token Output) (o o' : Output) (st : OutputState Token) :
    (s.setOutput o st).outputState.lookup o' =
      if o' = o then some st else s.outputState.lookup o' := by
  split_ifs with heq
  · rw [heq]
    exact lookup_insert _
  · exact lookup_insert_of_ne _ heq

@[simp] theorem lookup_setOutput_self (s : Niri L Token Output) (o : Output)
    (st : OutputState Token) : (s.setOutput o st).outputState.lookup o = some st := by
  rw [lookup_setOutput, if_pos rfl]

theorem tokenOf_eq (h : s.outputState.lookup o = some st) : s.tokenOf o = st.redrawState.token := by
  unfold tokenOf
  rw [h]
  rfl

theorem throttleOf_eq (h : s.outputState.lookup o = some st) :
    s.throttleOf o = st.vblankThrottle.throttleTimerToken := by
  unfold throttleOf
  rw [h]
  rfl

theorem tokenOf_setOutput (s : Niri L Token Output) (o : Output) (st : OutputState Token) :
    (s.setOutput o st).tokenOf = update s.tokenOf o st.redrawState.token := by
  funext o'
  unfold tokenOf
  rw [lookup_setOutput]
  by_cases heq : o' = o
  · rw [if_pos heq, heq, update_self]
    rfl
  · rw [if_neg heq, update_of_ne heq]

theorem throttleOf_setOutput (s : Niri L Token Output) (o : Output) (st : OutputState Token) :
    (s.setOutput o st).throttleOf = update s.throttleOf o st.vblankThrottle.throttleTimerToken := by
  funext o'
  unfold throttleOf
  rw [lookup_setOutput]
  by_cases heq : o' = o
  · rw [if_pos heq, heq, update_self]
    rfl
  · rw [if_neg heq, update_of_ne heq]

variable {st' : OutputState Token}

theorem tokenOf_setOutput_same (h : s.outputState.lookup o = some st)
    (htoken : st'.redrawState.token = st.redrawState.token) :
    (s.setOutput o st').tokenOf = s.tokenOf := by
  rw [tokenOf_setOutput, htoken, ← tokenOf_eq h, update_eq_self]

theorem throttleOf_setOutput_same (h : s.outputState.lookup o = some st)
    (hthrottle : st'.vblankThrottle = st.vblankThrottle) :
    (s.setOutput o st').throttleOf = s.throttleOf := by
  rw [throttleOf_setOutput, hthrottle, ← throttleOf_eq h, update_eq_self]

variable {f : OutputState Token → OutputState Token}

/-- Every output is changed in the same way, which leaves its tokens alone. -/
theorem tokenOf_mapValues {s s' : Niri L Token Output}
    (hs : s'.outputState = HashMap.mapValues f s.outputState)
    (hf : ∀ st, (f st).redrawState.token = st.redrawState.token) : s'.tokenOf = s.tokenOf := by
  funext o
  unfold tokenOf
  rw [hs, HashMap.lookup_mapValues, bind_map]
  congr 1
  funext st
  exact hf st

theorem throttleOf_mapValues {s s' : Niri L Token Output}
    (hs : s'.outputState = HashMap.mapValues f s.outputState)
    (hf : ∀ st, (f st).vblankThrottle = st.vblankThrottle) : s'.throttleOf = s.throttleOf := by
  funext o
  unfold throttleOf
  rw [hs, HashMap.lookup_mapValues, bind_map]
  congr 1
  funext st
  exact congrArg _ (hf st)

end Lookups

/-! ## What the functions do to the timers -/

section Functions

variable {strict : Prop} {s : Niri L Token Output} {o : Output} {st : OutputState Token}

variable {s' : Niri L Token Output} {target : Option Output}

/-- A change that touches no timer and no token. -/
theorem Inv.of_same (h : Inv strict s) (hl : s'.eventLoop = s.eventLoop)
    (htoken : s'.tokenOf = s.tokenOf) (hthrottle : s'.throttleOf = s.throttleOf)
    (hlock : s'.lockState.deadline = s.lockState.deadline) : Inv strict s' := by
  unfold Inv
  rw [hl, htoken, hthrottle, hlock]
  exact h

theorem Inv.setOutput (h : Inv strict s) (ho : s.outputState.lookup o = some st)
    {st' : OutputState Token} (htoken : st'.redrawState.token = st.redrawState.token)
    (hthrottle : st'.vblankThrottle = st.vblankThrottle) : Inv strict (s.setOutput o st') :=
  h.of_same rfl (tokenOf_setOutput_same ho htoken) (throttleOf_setOutput_same ho hthrottle) rfl

theorem Inv.queueRedrawAll (h : Inv strict s) : Inv strict s.queueRedrawAll :=
  h.of_same rfl
    (tokenOf_mapValues (f := fun st => { st with redrawState := st.redrawState.queueRedraw }) rfl
      fun st => st.redrawState.token_queueRedraw)
    (throttleOf_mapValues (f := fun st => { st with redrawState := st.redrawState.queueRedraw }) rfl
      fun _ => rfl) rfl

theorem Inv.queueRedraw (h : Inv strict s) (hs' : s.queueRedraw o = some s') : Inv strict s' := by
  obtain ⟨st, hst, hs'⟩ := bind_eq_some_iff.mp hs'
  obtain rfl := some.inj hs'
  exact h.setOutput hst st.redrawState.token_queueRedraw rfl

theorem Inv.confirm (h : TimersOk strict s.eventLoop s.tokenOf s.throttleOf none)
    (c : SessionLocker) : Inv strict (s.confirm c) := h

variable {t : Token}

/-- The lock goes on, whether its deadline is still registered or has just fired. -/
theorem continueToLocking_inv {c : SessionLocker} (hlock : s.lockState = .waitingForSurfaces c t)
    (h : TimersOk strict (EventLoop.remove s.eventLoop t) s.tokenOf s.throttleOf none) :
    Inv strict s.continueToLocking := by
  unfold continueToLocking
  rw [hlock]
  simp only
  split_ifs
  · exact Inv.confirm (s := { s with eventLoop := EventLoop.remove s.eventLoop t }) h c
  · refine Inv.queueRedrawAll ?_
    exact h

section

variable (h : Inv strict s)
include h

theorem Inv.continueToLocking : Inv strict s.continueToLocking := by
  cases hlock : s.lockState with
  | waitingForSurfaces c t =>
    refine continueToLocking_inv hlock ?_
    unfold Inv at h
    rw [hlock] at h
    exact h.remove_deadline
  | _ =>
    unfold Niri.continueToLocking
    rw [hlock]
    exact h

theorem Inv.maybeContinueToLocking : Inv strict s.maybeContinueToLocking := by
  unfold Niri.maybeContinueToLocking
  split
  · split_ifs
    · exact h.continueToLocking
    · exact h
  · exact h

theorem Inv.lock (c : SessionLocker) : Inv strict (s.lock c) := by
  unfold Niri.lock
  cases hlock : s.lockState with
  | waitingForSurfaces c' t => exact h
  | locking c' => exact h
  | locked lock =>
    simp only
    split_ifs
    · unfold Inv at h
      rw [hlock] at h
      exact Inv.confirm h c
    · exact h
  | unlocked =>
    unfold Inv at h
    rw [hlock] at h
    split_ifs
    · exact Inv.confirm h c
    · exact h.insert_deadline

theorem Inv.unlock : Inv strict s.unlock := by
  refine Inv.queueRedrawAll ?_
  unfold Inv at h ⊢
  rw [tokenOf_mapValues (s := s) (f := fun st => { st with lockSurface := none }) rfl fun _ => rfl,
    throttleOf_mapValues (s := s) (f := fun st => { st with lockSurface := none }) rfl fun _ => rfl]
  cases hlock : s.lockState with
  | waitingForSurfaces c t =>
    rw [hlock] at h
    exact h.remove_deadline
  | _ =>
    rw [hlock] at h
    exact h

theorem Inv.activateMonitors : Inv strict s.activateMonitors := by
  unfold Niri.activateMonitors
  split_ifs
  · exact h
  · refine Inv.queueRedrawAll ?_
    exact h

theorem Inv.newLockSurface (surface : LockSurface) (o : Output) :
    Inv strict (s.newLockSurface surface o) := by
  unfold Niri.newLockSurface
  simp only
  split
  · rename_i hst
    split_ifs
    · exact h.setOutput hst rfl rfl
    · exact h
  · exact h

theorem Inv.tryConfirm {c : SessionLocker} (hlock : s.lockState = .locking c) (c' : SessionLocker) :
    Inv strict (s.tryConfirm c') := by
  unfold Niri.tryConfirm
  split_ifs
  · unfold Inv at h
    rw [hlock] at h
    exact Inv.confirm h c'
  · exact h

theorem Inv.commitLockSurface (hs' : s.commitLockSurface o = some s') : Inv strict s' := by
  unfold Niri.commitLockSurface at hs'
  split at hs'
  · obtain rfl := some.inj hs'
    exact h.maybeContinueToLocking
  · exact h.queueRedraw hs'

theorem Inv.addOutput {refreshInterval : Option ℕ} (hs' : s.addOutput o refreshInterval = some s') :
    Inv strict s' := by
  unfold Niri.addOutput at hs'
  by_cases hsome : (s.outputState.lookup o).isSome = true
  · rw [if_pos hsome] at hs'
    cases hs'
  rw [if_neg hsome] at hs'
  obtain rfl := some.inj hs'
  have hnone : s.outputState.lookup o = none := by
    rwa [Bool.not_eq_true, isSome_eq_false_iff, isNone_iff_eq_none] at hsome
  have htoken : s.tokenOf o = none := by
    unfold tokenOf
    rw [hnone]
    rfl
  have hthrottle : s.throttleOf o = none := by
    unfold throttleOf
    rw [hnone]
    rfl
  refine h.of_same rfl ?_ ?_ rfl
  · rw [tokenOf_setOutput]
    exact update_eq_self_iff.mpr htoken.symm
  · rw [throttleOf_setOutput]
    exact update_eq_self_iff.mpr hthrottle.symm

/-- An output goes, and its timer with it. -/
theorem Inv.erase (ho : s.outputState.lookup o = some st) :
    Inv strict { s with
      outputState := s.outputState.erase o
      eventLoop := st.redrawState.token.elim s.eventLoop (EventLoop.remove s.eventLoop) } := by
  have htoken : tokenOf { s with
      outputState := s.outputState.erase o
      eventLoop := st.redrawState.token.elim s.eventLoop (EventLoop.remove s.eventLoop) } =
      update s.tokenOf o none := by
    funext o'
    unfold tokenOf
    by_cases heq : o' = o
    · rw [heq, update_self, lookup_erase]
      rfl
    · rw [update_of_ne heq, lookup_erase_ne heq]
  have hthrottle : throttleOf { s with
      outputState := s.outputState.erase o
      eventLoop := st.redrawState.token.elim s.eventLoop (EventLoop.remove s.eventLoop) } =
      update s.throttleOf o none := by
    funext o'
    unfold throttleOf
    by_cases heq : o' = o
    · rw [heq, update_self, lookup_erase]
      rfl
    · rw [update_of_ne heq, lookup_erase_ne heq]
  unfold Inv at h ⊢
  rw [htoken, hthrottle]
  refine TimersOk.lose_throttle ?_ o
  have hst := tokenOf_eq ho
  cases ht : st.redrawState.token with
  | none =>
    rw [ht] at hst
    exact h.lose_token fun _ => hst
  | some t =>
    rw [ht] at hst
    exact h.remove_estimated (h.estimated o t hst)

theorem Inv.removeOutput (hs' : s.removeOutput o = some s') : Inv strict s' := by
  obtain ⟨st, hst, hs'⟩ := bind_eq_some_iff.mp hs'
  have herase := h.erase hst
  simp only at hs'
  split at hs'
  · rename_i hlock
    obtain rfl := some.inj hs'
    exact herase.tryConfirm hlock _
  · obtain rfl := some.inj hs'
    exact herase.maybeContinueToLocking

/-! ## Rendering -/

theorem Inv.queueEstimatedVBlankTimer (hs' : s.queueEstimatedVBlankTimer o = some s') :
    Inv strict s' := by
  obtain ⟨st, hst, hs'⟩ := bind_eq_some_iff.mp hs'
  cases hr : st.redrawState with
  | idle | waitingForVBlank =>
    rw [hr] at hs'
    cases hs'
  | waitingForEstimatedVBlank t =>
    rw [hr] at hs'
    obtain rfl := some.inj hs'
    exact h.setOutput hst (by rw [hr]) rfl
  | waitingForEstimatedVBlankAndQueued t =>
    rw [hr] at hs'
    obtain rfl := some.inj hs'
    exact h.setOutput hst (by rw [hr]; rfl) rfl
  | queued =>
    rw [hr] at hs'
    obtain rfl := some.inj hs'
    have htoken : s.tokenOf o = none := by
      rw [tokenOf_eq hst, hr]
      rfl
    unfold Inv at h ⊢
    rw [tokenOf_setOutput, throttleOf_setOutput]
    have hthrottle : update s.throttleOf o st.vblankThrottle.throttleTimerToken = s.throttleOf := by
      rw [← throttleOf_eq hst, update_eq_self]
    exact hthrottle.symm ▸ h.insert_estimated htoken

theorem Inv.frameQueued (hs' : s.frameQueued o = some s') : Inv strict s' := by
  obtain ⟨st, hst, hs'⟩ := bind_eq_some_iff.mp hs'
  have hthrottle : update s.throttleOf o st.vblankThrottle.throttleTimerToken = s.throttleOf := by
    rw [← throttleOf_eq hst, update_eq_self]
  cases hr : st.redrawState with
  | idle | waitingForVBlank | waitingForEstimatedVBlank =>
    rw [hr] at hs'
    cases hs'
  | queued =>
    rw [hr] at hs'
    obtain rfl := some.inj hs'
    exact h.setOutput hst (by rw [hr]; rfl) rfl
  | waitingForEstimatedVBlankAndQueued t =>
    rw [hr] at hs'
    obtain rfl := some.inj hs'
    have htoken : s.tokenOf o = some t := by
      rw [tokenOf_eq hst, hr]
      rfl
    unfold Inv at h ⊢
    rw [tokenOf_setOutput, throttleOf_setOutput]
    exact hthrottle.symm ▸ h.remove_estimated (h.estimated o t htoken)

variable {frame : Frame} {res : RenderResult}

omit h in
/-- What rendering does to an output, in any backend. -/
theorem render_cases (hs' : s.render o frame = some (res, s')) :
    s' = s ∨ s.queueEstimatedVBlankTimer o = some s' ∨ s.frameQueued o = some s' ∨
      ∃ st, s.outputState.lookup o = some st ∧ st.redrawState = .queued ∧
        s' = s.setOutput o { st with
          redrawState := .idle
          frameCallbackSequence := st.frameCallbackSequence + 1 } := by
  have hnested : ∀ result, s.nestedRender o result = some (res, s') →
      ∃ st, s.outputState.lookup o = some st ∧ st.redrawState = .queued ∧
        s' = s.setOutput o { st with
          redrawState := .idle
          frameCallbackSequence := st.frameCallbackSequence + 1 } := by
    intro result hs'
    obtain ⟨st, hst, hs'⟩ := bind_eq_some_iff.mp hs'
    split at hs'
    · rename_i hr
      exact ⟨st, hst, hr, (Prod.mk.inj (some.inj hs')).2.symm⟩
    · cases hs'
  have hmapped : ∀ {result} {u : Option (Niri L Token Output)},
      u.map (result, ·) = some (res, s') → u = some s' := by
    intro result u hs'
    obtain ⟨_, rfl, heq⟩ := map_eq_some_iff.mp hs'
    rw [(Prod.mk.inj heq).2]
  unfold Niri.render at hs'
  cases hb : s.backend with
  | winit | headless =>
    rw [hb] at hs'
    exact .inr (.inr (.inr (hnested _ hs')))
  | tty =>
    rw [hb] at hs'
    cases frame with
    | notRendered => exact .inl (Prod.mk.inj (some.inj hs')).2.symm
    | renderError | empty | queueError => exact .inr (.inl (hmapped hs'))
    | submitted => exact .inr (.inr (.inl (hmapped hs')))

theorem Inv.render (hs' : s.render o frame = some (res, s')) : Inv strict s' := by
  rcases render_cases hs' with rfl | hu | hu | ⟨st, hst, hr, rfl⟩
  · exact h
  · exact h.queueEstimatedVBlankTimer hu
  · exact h.frameQueued hu
  · exact h.setOutput hst (by rw [hr]; rfl) rfl

omit h in
@[simp] theorem token_afterSkipped (r : RedrawState Token) : (afterSkipped r).token = r.token := by
  cases r <;> rfl

theorem Inv.proceedLocking (lockRenderState : LockRenderState) :
    Inv strict (s.proceedLocking lockRenderState) := by
  unfold Niri.proceedLocking
  split
  · rename_i hlock
    split_ifs
    · refine Inv.unlock (h.of_same rfl rfl rfl ?_)
      rw [hlock]
      rfl
    · exact h.tryConfirm hlock _
  · exact h

theorem Inv.redraw {animating : Bool} (hs' : s.redraw o frame animating = some s') :
    Inv strict s' := by
  obtain ⟨st, hst, hs'⟩ := bind_eq_some_iff.mp hs'
  obtain ⟨-, -, hs'⟩ := bind_eq_some_iff.mp hs'
  obtain ⟨⟨res, u⟩, hu, hs'⟩ := bind_eq_some_iff.mp hs'
  have hinv : Inv strict u := by
    split_ifs at hu
    · refine Inv.render (s := s.setOutput o { st with unfinishedAnimationsRemain := animating }) ?_
        hu
      exact h.setOutput hst rfl rfl
    · obtain ⟨-, rfl⟩ := Prod.mk.inj (some.inj hu)
      exact h
  obtain ⟨stu, hstu, hs'⟩ := bind_eq_some_iff.mp hs'
  obtain rfl := some.inj hs'
  refine Inv.proceedLocking ?_ _
  refine hinv.of_same rfl ?_ ?_ rfl
  · refine tokenOf_setOutput_same hstu ?_
    show RedrawState.token (if _ then _ else _) = _
    split_ifs
    · exact token_afterSkipped _
    · rfl
  · exact throttleOf_setOutput_same hstu rfl

end

/-! ## Vblanks and timers -/

omit [DecidableEq Output] in
/-- A throttle removes the timer it has and may set a new one. -/
theorem throttle_timersOk [DecidableEq Output] {l : L} {token throttle : Output → Option Token}
    {deadline : Option Token} (h : TimersOk strict l token throttle deadline)
    {v : VBlankThrottle Token} (hv : throttle o = v.throttleTimerToken)
    (refreshInterval : Option ℕ) (timestamp sequence : ℕ) :
    TimersOk strict (v.throttle l refreshInterval timestamp sequence).2.2 token
      (update throttle o
        (v.throttle l refreshInterval timestamp sequence).2.1.throttleTimerToken) deadline := by
  have hremoved : TimersOk strict (v.throttleTimerToken.elim l (EventLoop.remove l)) token
      (update throttle o none) deadline := by
    refine TimersOk.lose_throttle ?_ o
    cases ht : v.throttleTimerToken with
    | none => exact h
    | some t => exact h.remove_other (h.throttled o t (hv.trans ht)).2
  unfold VBlankThrottle.throttle
  by_cases hearly : v.tooEarly refreshInterval timestamp = true
  · have hset := hremoved.insert_throttled o sequence
    rw [update_idem] at hset
    simp only [if_pos hearly]
    exact hset
  · simp only [if_neg hearly]
    exact hremoved

omit [DecidableEq Output] in
theorem throttle_fst (v : VBlankThrottle Token) (l : L) (refreshInterval : Option ℕ)
    (timestamp sequence : ℕ) :
    (v.throttle l refreshInterval timestamp sequence).1 = v.tooEarly refreshInterval timestamp := by
  unfold VBlankThrottle.throttle
  by_cases hearly : v.tooEarly refreshInterval timestamp = true
  · rw [hearly]
    rfl
  · rw [Bool.not_eq_true] at hearly
    rw [hearly]
    rfl

/-- The redraw state of an output is changed for another one with the same token. -/
theorem Inv.continueRedrawing (h : Inv strict s) {redrawNeeded : Bool}
    (hs' : s.continueRedrawing o redrawNeeded = some s') : Inv strict s' := by
  obtain ⟨st, -, hs'⟩ := bind_eq_some_iff.mp hs'
  split_ifs at hs'
  · exact h.queueRedraw hs'
  · obtain rfl := some.inj hs'
    exact h

/-- The time that a vblank is throttled by. -/
def vblankTime (now presentationTime : ℕ) : ℕ :=
  if presentationTime = 0 then now else presentationTime

/-- A vblank that is not throttled finds an output that holds the token of an estimated-vblank
timer. -/
def rogueVBlank (s : Niri L Token Output) (target : Option Output) (now presentationTime : ℕ) :
    Bool :=
  (target.bind fun output => s.outputState.lookup output).any fun state =>
    !state.vblankThrottle.tooEarly state.refreshInterval (vblankTime now presentationTime) &&
      state.redrawState.token.isSome

variable {now presentationTime sequence : ℕ}

/-- What a vblank for an output does: it is throttled, or the output goes on. -/
theorem onVBlank_cases (hs' : s.onVBlank target now presentationTime sequence = some s') :
    (s' = s ∧ (target.bind fun output => s.outputState.lookup output) = none) ∨
      ∃ o st, target = some o ∧ s.outputState.lookup o = some st ∧
      let r := st.vblankThrottle.throttle s.eventLoop st.refreshInterval
        (vblankTime now presentationTime) sequence
      (r.1 = true ∧
        s' = { s with eventLoop := r.2.2 }.setOutput o { st with vblankThrottle := r.2.1 }) ∨
      (r.1 = false ∧ ∃ redrawNeeded, (st.redrawState.leadsToRedraw = true → redrawNeeded = true) ∧
        ({ s with eventLoop := r.2.2 }.setOutput o { st with
          vblankThrottle := r.2.1
          redrawState := .idle
          lastDrmSequence := some sequence }).continueRedrawing o redrawNeeded = some s') := by
  unfold Niri.onVBlank at hs'
  cases target with
  | none => exact Or.inl ⟨(some.inj hs').symm, rfl⟩
  | some o =>
    cases hst : s.outputState.lookup o with
    | none =>
      simp only [hst] at hs'
      exact Or.inl ⟨(some.inj hs').symm, hst⟩
    | some st =>
      refine Or.inr ⟨o, st, rfl, hst, ?_⟩
      simp only [hst] at hs'
      intro r
      change (if r.1 = true then _ else _) = _ at hs'
      cases hr : r.1 with
      | true =>
        rw [if_pos hr] at hs'
        exact Or.inl ⟨rfl, (some.inj hs').symm⟩
      | false =>
        rw [if_neg (by rw [hr]; exact Bool.false_ne_true)] at hs'
        refine Or.inr ⟨rfl, _, ?_, hs'⟩
        cases st.redrawState with
        | waitingForVBlank redrawNeeded => exact id
        | _ => exact fun _ => rfl

theorem Inv.onVBlank (h : Inv strict s)
    (hrogue : strict → s.rogueVBlank target now presentationTime = false)
    (hs' : s.onVBlank target now presentationTime sequence = some s') : Inv strict s' := by
  rcases onVBlank_cases hs' with ⟨rfl, -⟩ | ⟨o, st, rfl, hst, hcases⟩
  · exact h
  have hok := throttle_timersOk h (v := st.vblankThrottle) (throttleOf_eq hst)
    st.refreshInterval (vblankTime now presentationTime) sequence
  have hearly := throttle_fst st.vblankThrottle s.eventLoop st.refreshInterval
    (vblankTime now presentationTime) sequence
  revert hok hearly hcases
  generalize st.vblankThrottle.throttle s.eventLoop st.refreshInterval
    (vblankTime now presentationTime) sequence = r
  intro hcases hok hearly
  rcases hcases with ⟨-, rfl⟩ | ⟨hr, redrawNeeded, -, hs'⟩
  · unfold Inv
    rw [tokenOf_setOutput, throttleOf_setOutput]
    have htoken : update s.tokenOf o st.redrawState.token = s.tokenOf := by
      rw [← tokenOf_eq hst, update_eq_self]
    exact htoken.symm ▸ hok
  · refine Inv.continueRedrawing ?_ hs'
    unfold Inv
    rw [tokenOf_setOutput, throttleOf_setOutput]
    refine hok.lose_token fun hs => ?_
    have hquiet := hrogue hs
    unfold rogueVBlank at hquiet
    rw [bind_some, hst, any_some, ← hearly, hr] at hquiet
    rw [tokenOf_eq hst]
    simpa using hquiet

/-- The timer of an output fires and is gone. -/
theorem Inv.onEstimatedVBlankTimer
    (h : TimersOk strict s.eventLoop (update s.tokenOf o none) s.throttleOf
      s.lockState.deadline) (hs' : s.onEstimatedVBlankTimer o = some s') : Inv strict s' := by
  unfold Niri.onEstimatedVBlankTimer at hs'
  cases hst : s.outputState.lookup o with
  | none =>
    rw [hst] at hs'
    obtain rfl := some.inj hs'
    have htoken : s.tokenOf o = none := by
      unfold tokenOf
      rw [hst]
      rfl
    rwa [update_eq_self_iff.mpr htoken.symm] at h
  | some st =>
    rw [hst] at hs'
    have hset : ∀ st' : OutputState Token, st'.redrawState.token = none →
        st'.vblankThrottle = st.vblankThrottle → Inv strict (s.setOutput o st') := by
      intro st' hnone hthrottle
      unfold Inv
      rw [tokenOf_setOutput, hnone, throttleOf_setOutput_same hst hthrottle]
      exact h
    simp only at hs'
    split at hs'
    · cases hs'
    · cases hs'
    · cases hs'
    · refine Inv.continueRedrawing ?_ hs'
      exact hset _ rfl rfl
    · obtain rfl := some.inj hs'
      exact hset _ rfl rfl

/-! ## Events -/

/-- The event is, or makes, a vblank for an output that waits for an estimated one. -/
def rogue (s : Niri L Token Output) : Event Token Output → Bool
  | .vblank target now presentationTime _ => s.rogueVBlank target now presentationTime
  | .fire token target now =>
    match EventLoop.registered s.eventLoop token with
    | some (.throttledVBlank _) => s.rogueVBlank target now 0
    | _ => false
  | _ => false

theorem Inv.fire (h : Inv strict s) {now : ℕ}
    (hrogue : strict → s.rogue (.fire t target now) = false) (hs' : s.fire t target now = some s') :
    Inv strict s' := by
  obtain ⟨callback, hreg, hs'⟩ := bind_eq_some_iff.mp hs'
  cases callback with
  | estimatedVBlank o =>
    refine Inv.onEstimatedVBlankTimer ?_ hs'
    exact TimersOk.remove_estimated h hreg
  | throttledVBlank sequence =>
    have hremoved : Inv strict { s with eventLoop := EventLoop.remove s.eventLoop t } := by
      refine TimersOk.remove_other h fun c hc => ?_
      rw [hreg, some.injEq] at hc
      rw [← hc]
      rfl
    refine hremoved.onVBlank (fun hs => ?_) hs'
    have hquiet := hrogue hs
    simp only [Niri.rogue, hreg] at hquiet
    exact hquiet
  | lockDeadline =>
    obtain rfl := some.inj hs'
    have hdeadline : s.lockState.deadline = some t := (h.deadline_iff t).mp hreg
    cases hlock : s.lockState with
    | waitingForSurfaces c t' =>
      rw [hlock] at hdeadline
      obtain rfl : t' = t := some.inj hdeadline
      refine continueToLocking_inv (c := c) (t := t') rfl ?_
      unfold Inv at h
      rw [hlock] at h
      exact h.remove_deadline.remove_gone (registered_remove_self s.eventLoop t')
    | _ =>
      rw [hlock] at hdeadline
      cases hdeadline

theorem Inv.commit (h : Inv strict s) {surface : ℕ} {isMapped : Bool} {output : Option Output}
    (hs' : s.commit surface isMapped output = some s') : Inv strict s' := by
  unfold Niri.commit at hs'
  have hmapped : Inv strict { s with
      mapped := if isMapped then insert surface s.mapped else s.mapped.erase surface } := h
  cases output with
  | none =>
    obtain rfl := some.inj hs'
    exact hmapped
  | some o =>
    revert hmapped hs'
    generalize (if isMapped then insert surface s.mapped else s.mapped.erase surface) = mapped
    intro hmapped hs'
    simp only at hs'
    split_ifs at hs'
    · exact hmapped.commitLockSurface hs'
    · obtain rfl := some.inj hs'
      exact hmapped

variable {e : Event Token Output}

/-- **Every event keeps the tokens and the timers in agreement**; that no timer is left without
its token needs that the event is no rogue vblank. -/
theorem apply_timers (h : Inv strict s) (hrogue : strict → s.rogue e = false)
    (hs' : s.apply e = some s') : Inv strict s' := by
  cases e with
  | queueRedraw o => exact h.queueRedraw hs'
  | queueRedrawAll =>
    obtain rfl := some.inj hs'
    exact h.queueRedrawAll
  | redraw o frame animating => exact h.redraw hs'
  | vblank target now presentationTime sequence => exact h.onVBlank hrogue hs'
  | fire t target now => exact h.fire hrogue hs'
  | addOutput o refreshInterval => exact h.addOutput hs'
  | removeOutput o => exact h.removeOutput hs'
  | lock c =>
    obtain rfl := some.inj hs'
    exact h.lock c
  | clientUnlock =>
    obtain rfl := some.inj hs'
    exact h.unlock.activateMonitors
  | lockDied | deactivateMonitors =>
    obtain rfl := some.inj hs'
    exact h
  | newLockSurface surface o =>
    obtain rfl := some.inj hs'
    exact h.newLockSurface surface o
  | commit surface isMapped output => exact h.commit hs'
  | activateMonitors =>
    obtain rfl := some.inj hs'
    exact h.activateMonitors
  | resumeSession =>
    obtain rfl := some.inj hs'
    refine Inv.queueRedrawAll ?_
    exact h

theorem apply_of_step (hs' : s.step e = some s') : s.enabled e = true ∧ s.apply e = some s' := by
  unfold Niri.step at hs'
  split_ifs at hs' with henabled
  exact ⟨henabled, hs'⟩

/-- Nothing is registered and no token held at the start. -/
theorem init_inv (backend : Backend) {l : L} (hl : ∀ t, EventLoop.registered l t = none) :
    Inv strict (init backend l : Niri L Token Output) := by
  have htoken : ∀ o, (init backend l : Niri L Token Output).tokenOf o = none := fun _ => rfl
  have hthrottle : ∀ o, (init backend l : Niri L Token Output).throttleOf o = none := fun _ => rfl
  have hreg : ∀ t c, EventLoop.registered (init backend l : Niri L Token Output).eventLoop t ≠
      some c := by
    intro t c h
    rw [show EventLoop.registered (init backend l : Niri L Token Output).eventLoop t = none from
      hl t] at h
    cases h
  constructor
  · intro o t ho
    cases ho
  · intro _ o t h
    exact absurd h (hreg t _)
  · intro o t ho
    cases ho
  · intro t
    constructor
    · intro h
      exact absurd h (hreg t _)
    · nofun

end Functions

end Niri

end Tiri.Compositor
