import Tiri.Compositor.Timers

/-!
# The session lock

The lock goes through the states of `LockState` while the outputs are redrawn one by one.

Results:
* `apply_lock`: every event keeps the invariant of the lock, and a session that is locked stays
  so but for the unlock of its client;
* `session_lock`: in every run, a locked session shows locked frames only, and no lock request is
  granted twice or too early.
-/

namespace Tiri.Compositor

open Run Option Function
open List hiding map_map

variable {L Token Output : Type}

/-- The confirmation of a lock that is under way. -/
def LockState.pending : LockState Token → Option SessionLocker
  | waitingForSurfaces confirmation _ => some confirmation
  | locking confirmation => some confirmation
  | _ => none

namespace Niri

/-- The session is locked. -/
def Held (s : Niri L Token Output) : Prop :=
  ∃ lock, s.lockState = .locked lock

/-- What holds of the lock, between events. -/
structure LockInv (s : Niri L Token Output) : Prop where
  held : s.Held → s.allLocked = true
  granted_allLocked : ∀ g ∈ s.granted, g.2 = true
  granted_nodup : (s.granted.map fun g => g.1.id).Nodup
  granted_requested : ∀ g ∈ s.granted, g.1.id ∈ s.requested
  pending : ∀ c, s.lockState.pending = some c →
    c.extSessionLock.id ∈ s.requested ∧ ∀ g ∈ s.granted, g.1.id ≠ c.extSessionLock.id

/-- The invariant is kept, and a session that is locked stays so. -/
structure Advances (s s' : Niri L Token Output) : Prop where
  inv : LockInv s → LockInv s'
  held : s.Held → s'.Held

section Lock

variable {s s' u : Niri L Token Output} {o : Output} {st st' : OutputState Token}
  {c : SessionLocker}

theorem Advances.refl (s : Niri L Token Output) : Advances s s := ⟨id, id⟩

theorem Advances.after (h' : Advances s' u) (h : Advances s s') : Advances s u :=
  ⟨fun hinv => h'.inv (h.inv hinv), fun hs => h'.held (h.held hs)⟩

/-- A session in another state than `Locked` is not held. -/
theorem not_held {P : Prop} (hlock : ∀ lock, s.lockState ≠ .locked lock) : s.Held → P := by
  rintro ⟨lock, h⟩
  exact absurd h (hlock lock)

theorem isLocked_of_held (h : s.Held) : s.isLocked = true := by
  obtain ⟨lock, hlock⟩ := h
  unfold isLocked
  rw [hlock]

/-- A pending lock is granted when every output is locked. -/
theorem LockInv.confirm (h : LockInv s) (hall : s.allLocked = true)
    (hrequested : c.extSessionLock.id ∈ s.requested)
    (hfresh : ∀ g ∈ s.granted, g.1.id ≠ c.extSessionLock.id) : LockInv (s.confirm c) := by
  constructor
  · intro _
    exact hall
  · intro g hg
    rcases mem_append.mp hg with hg | hg
    · exact h.granted_allLocked g hg
    · rw [mem_singleton.mp hg]
      exact hall
  · show ((s.granted ++ [(c.extSessionLock, s.allLocked)]).map fun g => g.1.id).Nodup
    rw [map_append, nodup_append]
    refine ⟨h.granted_nodup, nodup_singleton _, ?_⟩
    intro a ha b hb
    obtain ⟨g, hg, rfl⟩ := mem_map.mp ha
    rw [map_singleton, mem_singleton] at hb
    rw [hb]
    exact hfresh g hg
  · intro g hg
    rcases mem_append.mp hg with hg | hg
    · exact h.granted_requested g hg
    · rw [mem_singleton.mp hg]
      exact hrequested
  · intro c' hc'
    cases hc'

/-- The same for the lock that is under way. -/
theorem LockInv.confirm_pending (h : LockInv s) (hall : s.allLocked = true)
    (hc : s.lockState.pending = some c) : LockInv (s.confirm c) :=
  h.confirm hall (h.pending c hc).1 (h.pending c hc).2

/-- The lock moves to a state in which it is not held, and waits for no other confirmation. -/
theorem LockInv.moves (h : LockInv s) {lockState : LockState Token} {l : L}
    (hlocked : ∀ lock, lockState ≠ .locked lock)
    (hpending : ∀ c, lockState.pending = some c → s.lockState.pending = some c) :
    LockInv { s with lockState, eventLoop := l } := by
  constructor
  · rintro ⟨lock, hlock⟩
    exact absurd hlock (hlocked lock)
  · exact h.granted_allLocked
  · exact h.granted_nodup
  · exact h.granted_requested
  · intro c hc
    exact h.pending c (hpending c hc)

theorem advances_tryConfirm (hlock : s.lockState = .locking c) : Advances s (s.tryConfirm c) := by
  unfold tryConfirm
  split_ifs with hall
  · exact ⟨fun h => h.confirm_pending hall (by rw [hlock]; rfl), fun _ => ⟨_, rfl⟩⟩
  · exact Advances.refl s

theorem init_lockInv (backend : Backend) (l : L) :
    LockInv (init backend l : Niri L Token Output) := by
  constructor
  · rintro ⟨lock, hlock⟩
    cases hlock
  · nofun
  · exact nodup_nil
  · nofun
  · nofun

variable [DecidableEq Output]

/-- What was last rendered on an output. -/
def lockRender (s : Niri L Token Output) (o : Output) : Option LockRenderState :=
  (s.outputState.lookup o).map fun st => st.lockRenderState

/-- Nothing of what the lock depends on is changed. -/
structure SameLock (s s' : Niri L Token Output) : Prop where
  lockState : s'.lockState = s.lockState
  granted : s'.granted = s.granted
  requested : s'.requested = s.requested
  lockRender : s'.lockRender = s.lockRender

theorem allLocked_iff : s.allLocked = true ↔ ∀ o, s.lockRender o ≠ some .unlocked := by
  unfold allLocked lockRender
  rw [HashMap.all_eq_true]
  constructor
  · intro h o hunlocked
    obtain ⟨st, hst, heq⟩ := map_eq_some_iff.mp hunlocked
    have hlocked := h o st hst
    rw [heq] at hlocked
    cases hlocked
  · intro h o st hst
    have hne := h o
    rw [hst] at hne
    cases hr : st.lockRenderState with
    | locked => rfl
    | unlocked => exact absurd (congrArg some hr) hne

theorem SameLock.refl (s : Niri L Token Output) : SameLock s s := ⟨rfl, rfl, rfl, rfl⟩

theorem SameLock.trans (h : SameLock s s') (h' : SameLock s' u) : SameLock s u :=
  ⟨h'.lockState.trans h.lockState, h'.granted.trans h.granted, h'.requested.trans h.requested,
    h'.lockRender.trans h.lockRender⟩

theorem SameLock.advances (h : SameLock s s') : Advances s s' := by
  have hheld : s'.Held ↔ s.Held := by
    unfold Held
    rw [h.lockState]
  refine ⟨fun hinv => ?_, hheld.mpr⟩
  constructor
  · intro hs'
    rw [allLocked_iff, h.lockRender, ← allLocked_iff]
    exact hinv.held (hheld.mp hs')
  · rw [h.granted]
    exact hinv.granted_allLocked
  · rw [h.granted]
    exact hinv.granted_nodup
  · rw [h.granted, h.requested]
    exact hinv.granted_requested
  · rw [h.lockState, h.granted, h.requested]
    exact hinv.pending

/-! ## What leaves the lock alone -/

theorem lockRender_setOutput (s : Niri L Token Output) (o : Output) (st : OutputState Token) :
    (s.setOutput o st).lockRender = update s.lockRender o (some st.lockRenderState) := by
  funext o'
  unfold lockRender
  rw [lookup_setOutput]
  by_cases heq : o' = o
  · rw [if_pos heq, heq, update_self]
    rfl
  · rw [if_neg heq, update_of_ne heq]

theorem sameLock_setOutput (ho : s.outputState.lookup o = some st)
    (hr : st'.lockRenderState = st.lockRenderState) : SameLock s (s.setOutput o st') := by
  refine ⟨rfl, rfl, rfl, ?_⟩
  rw [lockRender_setOutput, hr]
  refine update_eq_self_iff.mpr ?_
  unfold Niri.lockRender
  rw [ho]
  rfl

theorem lockRender_mapValues {f : OutputState Token → OutputState Token}
    (hs : s'.outputState = HashMap.mapValues f s.outputState)
    (hf : ∀ st, (f st).lockRenderState = st.lockRenderState) : s'.lockRender = s.lockRender := by
  funext o
  unfold lockRender
  rw [hs, HashMap.lookup_mapValues, map_map]
  congr 1
  funext st
  exact hf st

theorem sameLock_queueRedrawAll (s : Niri L Token Output) : SameLock s s.queueRedrawAll :=
  ⟨rfl, rfl, rfl, lockRender_mapValues
    (f := fun st => { st with redrawState := st.redrawState.queueRedraw }) rfl fun _ => rfl⟩

theorem sameLock_queueRedraw (hs' : s.queueRedraw o = some s') : SameLock s s' := by
  obtain ⟨st, hst, hs'⟩ := bind_eq_some_iff.mp hs'
  obtain rfl := some.inj hs'
  exact sameLock_setOutput hst rfl

theorem sameLock_activateMonitors (s : Niri L Token Output) : SameLock s s.activateMonitors := by
  unfold activateMonitors
  split_ifs
  · exact SameLock.refl s
  · refine SameLock.trans ?_ (sameLock_queueRedrawAll _)
    exact ⟨rfl, rfl, rfl, rfl⟩

theorem sameLock_newLockSurface (s : Niri L Token Output) (surface : LockSurface) (o : Output) :
    SameLock s (s.newLockSurface surface o) := by
  unfold newLockSurface
  simp only
  split
  · rename_i hst
    split_ifs
    · exact sameLock_setOutput hst rfl
    · exact SameLock.refl s
  · exact SameLock.refl s

theorem sameLock_continueRedrawing {redrawNeeded : Bool}
    (hs' : s.continueRedrawing o redrawNeeded = some s') : SameLock s s' := by
  obtain ⟨st, -, hs'⟩ := bind_eq_some_iff.mp hs'
  split_ifs at hs'
  · exact sameLock_queueRedraw hs'
  · obtain rfl := some.inj hs'
    exact SameLock.refl s

theorem sameLock_onEstimatedVBlankTimer (hs' : s.onEstimatedVBlankTimer o = some s') :
    SameLock s s' := by
  unfold Niri.onEstimatedVBlankTimer at hs'
  cases hst : s.outputState.lookup o with
  | none =>
    rw [hst] at hs'
    obtain rfl := some.inj hs'
    exact SameLock.refl s
  | some st =>
    rw [hst] at hs'
    simp only at hs'
    split at hs'
    · cases hs'
    · cases hs'
    · cases hs'
    · refine SameLock.trans ?_ (sameLock_continueRedrawing hs')
      exact sameLock_setOutput hst rfl
    · obtain rfl := some.inj hs'
      exact sameLock_setOutput hst rfl

theorem allLocked_of_isEmpty (h : HashMap.isEmpty s.outputState = true) : s.allLocked = true := by
  rw [allLocked_iff]
  intro o
  unfold lockRender
  rw [HashMap.isEmpty_eq_true.mp h o]
  nofun

/-- An output gets another state; while the session is locked, a locked one. -/
theorem advances_setOutput (hr : s.Held → s.allLocked = true → st.lockRenderState = .locked) :
    Advances s (s.setOutput o st) := by
  refine ⟨fun h => ?_, id⟩
  constructor
  · intro hheld
    have hall := h.held hheld
    rw [allLocked_iff, lockRender_setOutput]
    intro o'
    by_cases heq : o' = o
    · rw [heq, update_self, hr hheld hall]
      nofun
    · rw [update_of_ne heq]
      exact allLocked_iff.mp hall o'
  · exact h.granted_allLocked
  · exact h.granted_nodup
  · exact h.granted_requested
  · exact h.pending

theorem advances_addOutput {refreshInterval : Option ℕ}
    (hs' : s.addOutput o refreshInterval = some s') : Advances s s' := by
  unfold Niri.addOutput at hs'
  by_cases hsome : (s.outputState.lookup o).isSome = true
  · rw [if_pos hsome] at hs'
    cases hs'
  rw [if_neg hsome] at hs'
  obtain rfl := some.inj hs'
  exact advances_setOutput fun hheld _ => if_pos (isLocked_of_held hheld)

section EventLoop

variable [EventLoop L Token (Callback Output)] {target : Option Output}

theorem sameLock_onVBlank {now presentationTime sequence : ℕ}
    (hs' : s.onVBlank target now presentationTime sequence = some s') : SameLock s s' := by
  rcases onVBlank_cases hs' with ⟨rfl, -⟩ | ⟨o, st, rfl, hst, hcases⟩
  · exact SameLock.refl _
  revert hcases
  generalize st.vblankThrottle.throttle s.eventLoop st.refreshInterval
    (vblankTime now presentationTime) sequence = r
  intro hcases
  have hloop : SameLock s { s with eventLoop := r.2.2 } := ⟨rfl, rfl, rfl, rfl⟩
  refine hloop.trans ?_
  rcases hcases with ⟨-, rfl⟩ | ⟨-, redrawNeeded, -, hs'⟩
  · exact sameLock_setOutput hst rfl
  · refine SameLock.trans ?_ (sameLock_continueRedrawing hs')
    exact sameLock_setOutput hst rfl

theorem sameLock_queueEstimatedVBlankTimer (hs' : s.queueEstimatedVBlankTimer o = some s') :
    SameLock s s' := by
  obtain ⟨st, hst, hs'⟩ := bind_eq_some_iff.mp hs'
  have hset : ∀ l st', st'.lockRenderState = st.lockRenderState →
      SameLock s ({ s with eventLoop := l }.setOutput o st') := by
    intro l st' hr
    have hloop : SameLock s { s with eventLoop := l } := ⟨rfl, rfl, rfl, rfl⟩
    exact hloop.trans (sameLock_setOutput hst hr)
  split at hs'
  · cases hs'
  · cases hs'
  all_goals
    obtain rfl := some.inj hs'
    exact hset _ _ rfl

theorem sameLock_frameQueued (hs' : s.frameQueued o = some s') : SameLock s s' := by
  obtain ⟨st, hst, hs'⟩ := bind_eq_some_iff.mp hs'
  obtain ⟨u, hu, hs'⟩ := bind_eq_some_iff.mp hs'
  obtain rfl := some.inj hs'
  have hsame : SameLock s u ∧ u.outputState = s.outputState := by
    split at hu
    · cases hu
    · obtain rfl := some.inj hu
      exact ⟨SameLock.refl s, rfl⟩
    · cases hu
    · cases hu
    · obtain rfl := some.inj hu
      exact ⟨⟨rfl, rfl, rfl, rfl⟩, rfl⟩
  have hstu : u.outputState.lookup o = some st := by
    rw [hsame.2]
    exact hst
  exact hsame.1.trans (sameLock_setOutput hstu rfl)

variable {frame : Frame}

theorem sameLock_render {res : RenderResult} (hs' : s.render o frame = some (res, s')) :
    SameLock s s' := by
  rcases render_cases hs' with rfl | hu | hu | ⟨st, hst, -, rfl⟩
  · exact SameLock.refl s'
  · exact sameLock_queueEstimatedVBlankTimer hu
  · exact sameLock_frameQueued hu
  · exact sameLock_setOutput hst rfl

/-! ## What moves the lock -/

/-- A lock request whose confirmation is new. -/
theorem advances_lock (hrequested : c.extSessionLock.id ∈ s.requested)
    (hfresh : ∀ g ∈ s.granted, g.1.id ≠ c.extSessionLock.id) : Advances s (s.lock c) := by
  unfold lock
  cases hlock : s.lockState with
  | waitingForSurfaces | locking => exact Advances.refl s
  | locked lock =>
    simp only
    split_ifs
    · exact ⟨fun h => h.confirm (h.held ⟨lock, hlock⟩) hrequested hfresh, fun _ => ⟨_, rfl⟩⟩
    · exact Advances.refl s
  | unlocked =>
    refine ⟨fun h => ?_, not_held (by rw [hlock]; nofun)⟩
    split_ifs with hempty
    · exact h.confirm (allLocked_of_isEmpty hempty) hrequested hfresh
    · constructor
      · exact not_held nofun
      · exact h.granted_allLocked
      · exact h.granted_nodup
      · exact h.granted_requested
      · intro c' hc'
        obtain rfl := some.inj hc'
        exact ⟨hrequested, hfresh⟩

theorem advances_continueToLocking (s : Niri L Token Output) : Advances s s.continueToLocking := by
  unfold continueToLocking
  cases hlock : s.lockState with
  | waitingForSurfaces c t =>
    refine ⟨fun h => ?_, not_held (by rw [hlock]; nofun)⟩
    have hremoved : LockInv { s with eventLoop := EventLoop.remove s.eventLoop t } :=
      h.moves (by rw [hlock]; nofun) fun _ => id
    simp only
    split_ifs with hempty
    · refine LockInv.confirm_pending (hlock ▸ hremoved) (allLocked_of_isEmpty hempty) ?_
      rfl
    · refine (sameLock_queueRedrawAll _).advances.inv ?_
      refine h.moves nofun ?_
      rw [hlock]
      exact fun _ => id
  | _ => exact Advances.refl s

theorem advances_maybeContinueToLocking (s : Niri L Token Output) :
    Advances s s.maybeContinueToLocking := by
  unfold maybeContinueToLocking
  split
  · split_ifs
    · exact advances_continueToLocking s
    · exact Advances.refl s
  · exact Advances.refl s

theorem LockInv.unlock (h : LockInv s) : LockInv s.unlock := by
  have hinv : ∀ l : L, LockInv { s with
      eventLoop := l
      lockState := .unlocked
      outputState := HashMap.mapValues (fun st => { st with lockSurface := none })
        s.outputState }.queueRedrawAll := by
    intro l
    have hmoved : LockInv { s with lockState := .unlocked, eventLoop := l } := h.moves nofun nofun
    have hsurfaces : SameLock { s with lockState := .unlocked, eventLoop := l } { s with
        lockState := .unlocked
        eventLoop := l
        outputState := HashMap.mapValues (fun st => { st with lockSurface := none })
          s.outputState } :=
      ⟨rfl, rfl, rfl, lockRender_mapValues (f := fun st => { st with lockSurface := none }) rfl
        fun _ => rfl⟩
    exact (hsurfaces.trans (sameLock_queueRedrawAll _)).advances.inv hmoved
  exact hinv _

theorem advances_commitLockSurface (hs' : s.commitLockSurface o = some s') : Advances s s' := by
  unfold Niri.commitLockSurface at hs'
  split at hs'
  · obtain rfl := some.inj hs'
    exact advances_maybeContinueToLocking s
  · exact (sameLock_queueRedraw hs').advances

theorem advances_commit {surface : ℕ} {isMapped : Bool} {output : Option Output}
    (hs' : s.commit surface isMapped output = some s') : Advances s s' := by
  unfold Niri.commit at hs'
  generalize (if isMapped then insert surface s.mapped else s.mapped.erase surface) = mapped at hs'
  have hmapped : SameLock s { s with mapped } := ⟨rfl, rfl, rfl, rfl⟩
  cases output with
  | none =>
    obtain rfl := some.inj hs'
    exact hmapped.advances
  | some o =>
    simp only at hs'
    split_ifs at hs'
    · exact (advances_commitLockSurface hs').after hmapped.advances
    · obtain rfl := some.inj hs'
      exact hmapped.advances

theorem advances_removeOutput (hs' : s.removeOutput o = some s') : Advances s s' := by
  obtain ⟨st, -, hs'⟩ := bind_eq_some_iff.mp hs'
  have herase : Advances s { s with
      outputState := s.outputState.erase o
      eventLoop := st.redrawState.token.elim s.eventLoop (EventLoop.remove s.eventLoop) } := by
    refine ⟨fun h => ?_, id⟩
    constructor
    · intro hheld
      have hall := allLocked_iff.mp (h.held hheld)
      rw [allLocked_iff]
      intro o'
      unfold Niri.lockRender
      by_cases heq : o' = o
      · rw [heq, Finmap.lookup_erase]
        nofun
      · rw [Finmap.lookup_erase_ne heq]
        exact hall o'
    · exact h.granted_allLocked
    · exact h.granted_nodup
    · exact h.granted_requested
    · exact h.pending
  simp only at hs'
  split at hs'
  · rename_i hlock
    obtain rfl := some.inj hs'
    refine Advances.after ?_ herase
    exact advances_tryConfirm hlock
  · obtain rfl := some.inj hs'
    exact (advances_maybeContinueToLocking _).after herase

theorem advances_proceedLocking (s : Niri L Token Output) (lockRenderState : LockRenderState) :
    Advances s (s.proceedLocking lockRenderState) := by
  unfold Niri.proceedLocking
  split
  · rename_i c hlock
    split_ifs
    · refine ⟨fun h => LockInv.unlock ?_, not_held (by rw [hlock]; nofun)⟩
      exact h.moves nofun nofun
    · exact advances_tryConfirm hlock
  · exact Advances.refl s

theorem advances_redraw {animating : Bool} (hs' : s.redraw o frame animating = some s') :
    Advances s s' := by
  obtain ⟨st, hst, hs'⟩ := bind_eq_some_iff.mp hs'
  obtain ⟨-, -, hs'⟩ := bind_eq_some_iff.mp hs'
  obtain ⟨⟨res, u⟩, hu, hs'⟩ := bind_eq_some_iff.mp hs'
  have hrender : SameLock s u := by
    split_ifs at hu
    · refine SameLock.trans ?_ (sameLock_render hu)
      exact sameLock_setOutput hst rfl
    · obtain ⟨-, rfl⟩ := Prod.mk.inj (some.inj hu)
      exact SameLock.refl s
  obtain ⟨stu, hstu, hs'⟩ := bind_eq_some_iff.mp hs'
  obtain rfl := some.inj hs'
  refine (advances_proceedLocking _ _).after (Advances.after ?_ hrender.advances)
  refine advances_setOutput fun hheld hall => ?_
  show u.lockRenderStateAfter res stu.lockRenderState = .locked
  unfold lockRenderStateAfter
  rw [isLocked_of_held hheld]
  split_ifs
  · rfl
  · exact absurd rfl ‹_›
  · -- A skipped render leaves what was there, which was locked.
    cases hr : stu.lockRenderState with
    | locked => rfl
    | unlocked =>
      refine absurd ?_ (allLocked_iff.mp hall o)
      unfold Niri.lockRender
      rw [hstu, ← hr]
      rfl

theorem advances_fire {t : Token} {now : ℕ} (hs' : s.fire t target now = some s') :
    Advances s s' := by
  obtain ⟨callback, -, hs'⟩ := bind_eq_some_iff.mp hs'
  have hremoved : SameLock s { s with eventLoop := EventLoop.remove s.eventLoop t } :=
    ⟨rfl, rfl, rfl, rfl⟩
  cases callback with
  | estimatedVBlank o =>
    exact (hremoved.trans (sameLock_onEstimatedVBlankTimer hs')).advances
  | throttledVBlank sequence => exact (hremoved.trans (sameLock_onVBlank hs')).advances
  | lockDeadline =>
    obtain rfl := some.inj hs'
    exact (advances_continueToLocking _).after hremoved.advances

omit [DecidableEq Output] in
theorem lock_requested (s : Niri L Token Output) (c : SessionLocker)
    (requested : Finset ℕ) :
    { s.lock c with requested } = { s with requested }.lock c := by
  obtain ⟨backend, l, outputState, monitorsActive, lockState, mapped, dead, granted, old⟩ := s
  unfold lock
  cases lockState with
  | waitingForSurfaces c' t => rfl
  | locking c' => rfl
  | locked | unlocked =>
    simp only
    split_ifs
    · rfl
    · rfl

/-- **Every event keeps the invariant of the lock**, and but for the unlock of its client, a
session that is locked stays so. -/
theorem apply_lock {e : Event Token Output} (henabled : s.enabled e = true)
    (hs' : s.apply e = some s') :
    (LockInv s → LockInv s') ∧ (LockInv s → s.Held → s'.Held ∨ e = .clientUnlock) := by
  have hadvances : Advances s s' →
      (LockInv s → LockInv s') ∧ (LockInv s → s.Held → s'.Held ∨ e = .clientUnlock) :=
    fun h => ⟨h.inv, fun _ hs => Or.inl (h.held hs)⟩
  cases e with
  | queueRedraw o => exact hadvances (sameLock_queueRedraw hs').advances
  | queueRedrawAll =>
    obtain rfl := some.inj hs'
    exact hadvances (sameLock_queueRedrawAll s).advances
  | redraw o frame animating => exact hadvances (advances_redraw hs')
  | vblank target now presentationTime sequence =>
    exact hadvances (sameLock_onVBlank hs').advances
  | fire t target now => exact hadvances (advances_fire hs')
  | addOutput o refreshInterval => exact hadvances (advances_addOutput hs')
  | removeOutput o => exact hadvances (advances_removeOutput hs')
  | lock c =>
    obtain rfl := some.inj hs'
    have hnew : c.extSessionLock.id ∉ s.requested := of_decide_eq_true henabled
    rw [lock_requested]
    have hrequest : LockInv s → LockInv { s with
        requested := insert c.extSessionLock.id s.requested } := fun h =>
      ⟨h.held, h.granted_allLocked, h.granted_nodup,
        fun g hg => Finset.mem_insert_of_mem (h.granted_requested g hg),
        fun c' hc' => ⟨Finset.mem_insert_of_mem (h.pending c' hc').1, (h.pending c' hc').2⟩⟩
    have hlock : LockInv s → Advances { s with
        requested := insert c.extSessionLock.id s.requested } _ := fun h =>
      advances_lock (c := c) (Finset.mem_insert_self ..) fun g hg heq =>
        hnew (heq ▸ h.granted_requested g hg)
    exact ⟨fun h => (hlock h).inv (hrequest h), fun h hs => Or.inl ((hlock h).held hs)⟩
  | clientUnlock =>
    obtain rfl := some.inj hs'
    exact ⟨fun h => (sameLock_activateMonitors _).advances.inv h.unlock, fun _ _ => Or.inr rfl⟩
  | lockDied | deactivateMonitors =>
    obtain rfl := some.inj hs'
    exact hadvances (SameLock.advances ⟨rfl, rfl, rfl, rfl⟩)
  | newLockSurface surface o =>
    obtain rfl := some.inj hs'
    exact hadvances (sameLock_newLockSurface s surface o).advances
  | commit surface isMapped output => exact hadvances (advances_commit hs')
  | activateMonitors =>
    obtain rfl := some.inj hs'
    exact hadvances (sameLock_activateMonitors s).advances
  | resumeSession =>
    obtain rfl := some.inj hs'
    refine hadvances (SameLock.advances (SameLock.trans ?_ (sameLock_queueRedrawAll _)))
    exact ⟨rfl, rfl, rfl, rfl⟩

end EventLoop

end Lock

/-! ## Runs -/

variable [DecidableEq Output] [EventLoop L Token (Callback Output)]

/-- **The session lock.**  In every run: a locked session shows a locked frame on every output; no
lock request is granted twice, and none while an output shows something else; only the unlock of
its client ends a locked session; and the deadline is registered exactly while the lock waits for
surfaces. -/
theorem session_lock (backend : Backend) {l : L} (hl : ∀ t, EventLoop.registered l t = none)
    {es : List (Event Token Output)} {s : Niri L Token Output}
    (h : exec step (init backend l) es = some s) :
    (∀ lock, s.lockState = .locked lock →
      ∀ o st, s.outputState.lookup o = some st → st.lockRenderState = .locked) ∧
    (s.granted.map fun g => g.1.id).Nodup ∧
    (∀ g ∈ s.granted, g.2 = true) ∧
    (∀ lock e s', s.lockState = .locked lock → step s e = some s' →
      (∃ lock', s'.lockState = .locked lock') ∨ e = .clientUnlock) ∧
    (∀ t, EventLoop.registered s.eventLoop t = some .lockDeadline ↔
      ∃ c, s.lockState = .waitingForSurfaces c t) := by
  have hinv : LockInv s ∧ Inv False s := by
    refine exec_invariant (I := fun s => LockInv s ∧ Inv False s) ?_ ?_ h
    · rintro s e s' ⟨hlock, htimers⟩ hstep
      obtain ⟨henabled, happly⟩ := apply_of_step hstep
      exact ⟨(apply_lock henabled happly).1 hlock, apply_timers htimers nofun happly⟩
    · exact ⟨init_lockInv backend l, init_inv backend hl⟩
  obtain ⟨hlock, htimers⟩ := hinv
  refine ⟨?_, hlock.granted_nodup, hlock.granted_allLocked, ?_, ?_⟩
  · intro lock hlocked o st hst
    have hall := HashMap.all_eq_true.mp (hlock.held ⟨lock, hlocked⟩) o st hst
    exact eq_of_beq hall
  · intro lock e s' hlocked hstep
    obtain ⟨henabled, happly⟩ := apply_of_step hstep
    exact (apply_lock henabled happly).2 hlock ⟨lock, hlocked⟩
  · intro t
    rw [htimers.deadline_iff]
    cases s.lockState with
    | waitingForSurfaces c t' =>
      show some t' = some t ↔ _
      simp [eq_comm]
    | _ =>
      constructor
      · nofun
      · rintro ⟨c, hc⟩
        cases hc

/-- A lock is requested with one output, its surface is mapped, and the locked frame is drawn. -/
def lockRun : List (Event ℕ ℕ) :=
  [.addOutput 0 none, .lock ⟨⟨0, 0⟩⟩, .newLockSurface ⟨1, 0⟩ 0, .commit 1 true (some 0),
    .redraw 0 .submitted false]

theorem session_lock_lockRun :
    ∃ s : Niri (Sources (Callback ℕ)) ℕ ℕ, exec step (init .tty Sources.empty) lockRun = some s ∧
      s.lockState = .locked ⟨0, 0⟩ ∧
      (∀ lock, s.lockState = .locked lock →
        ∀ o st, s.outputState.lookup o = some st → st.lockRenderState = .locked) ∧
      (s.granted.map fun g => g.1.id).Nodup ∧
      (∀ g ∈ s.granted, g.2 = true) ∧
      (∀ lock e s', s.lockState = .locked lock → step s e = some s' →
        (∃ lock', s'.lockState = .locked lock') ∨ e = .clientUnlock) ∧
      (∀ t, EventLoop.registered s.eventLoop t = some .lockDeadline ↔
        ∃ c, s.lockState = .waitingForSurfaces c t) := by
  have hrun : exec step (init .tty Sources.empty : Niri (Sources (Callback ℕ)) ℕ ℕ) lockRun =
      some _ := rfl
  exact ⟨_, hrun, rfl, session_lock .tty (fun _ => rfl) hrun⟩

end Niri

end Tiri.Compositor
