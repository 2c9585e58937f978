import Tiri.Window.Mapped

/-!
# Sizing modes once the client has caught up

The windowed-fullscreen and maximized values of a window: what is requested, what was sent and
not committed, and what is committed.

Results:
* `Inv.stuck_step_iff`: what every event keeps, and when a request gets lost, that is, differs from
  what was sent last with nothing left to send;
* `sizing_mode_agrees`: in a run in which no request gets lost, the values agree whenever the
  client has caught up.
-/

namespace Tiri.Window

open Layout (SizingMode)
open ToplevelSurface
open ToplevelData
open Nat
open Option
open Run
open List hiding any_eq_true

/-! ## Values that were sent -/

section Values

variable {k : ℕ} {l : List (ℕ × Bool)} {v : Bool}

theorem commitValues_of_lt (h : ∀ e ∈ l, k < e.1) : commitValues k l v = (l, v) := by
  induction l generalizing v with
  | nil => rfl
  | cons e l ih =>
    unfold commitValues
    rw [if_neg (not_le.mpr (h e (mem_cons_self ..))), ih fun e' he' => h e' (mem_cons_of_mem _ he')]

/-- A commit takes away the values up to its serial. -/
theorem commitValues_fst (k : ℕ) (l : List (ℕ × Bool)) (v : Bool) :
    (commitValues k l v).1 = l.filter fun e => decide (k < e.1) := by
  induction l generalizing v with
  | nil => rfl
  | cons e l ih =>
    unfold commitValues
    by_cases hle : e.1 ≤ k
    · rw [if_pos hle, ih, filter_cons_of_neg (by simpa using hle)]
    · rw [if_neg hle, filter_cons_of_pos (by simpa using hle), ← ih v]

theorem lastSent_cons (e : ℕ × Bool) (l : List (ℕ × Bool)) (v : Bool) :
    Mapped.lastSent (e :: l) v = Mapped.lastSent l e.2 := by
  unfold Mapped.lastSent
  rw [List.getLast?_cons]
  cases l.getLast? with
  | none => rfl
  | some e' => rfl

/-- A commit leaves the value that was sent last. -/
theorem lastSent_commitValues (h : l.Pairwise fun e e' => e.1 < e'.1) :
    Mapped.lastSent (commitValues k l v).1 (commitValues k l v).2 = Mapped.lastSent l v := by
  induction l generalizing v with
  | nil => rfl
  | cons e l ih =>
    obtain ⟨hlt, hl⟩ := pairwise_cons.mp h
    by_cases hle : e.1 ≤ k
    · unfold commitValues
      rw [if_pos hle, lastSent_cons]
      exact ih hl
    · have hnewer : ∀ e' ∈ e :: l, k < e'.1 := by
        intro e' he'
        rcases mem_cons.mp he' with rfl | he'
        · exact not_le.mp hle
        · exact (not_le.mp hle).trans (hlt e' he')
      rw [commitValues_of_lt hnewer]

@[simp] theorem lastSent_recordSent (l : List (ℕ × Bool)) (v p : Bool) (serial : ℕ) :
    Mapped.lastSent (Mapped.recordSent l v p serial) v = p := by
  unfold Mapped.recordSent
  by_cases hne : Mapped.lastSent l v ≠ p
  · rw [if_pos hne]
    unfold Mapped.lastSent
    rw [List.getLast?_concat]
    rfl
  · rw [if_neg hne]
    exact not_ne_iff.mp hne

/-- Values that were sent and not committed, in the order of their serials. -/
structure Uncommitted (d : ToplevelData) (l : List (ℕ × Bool)) : Prop where
  sorted : l.Pairwise fun e e' => e.1 < e'.1
  committed_lt : ∀ e ∈ l, ∀ c, d.committed = some c → c.serial < e.1
  le_last : ∀ e ∈ l, ∃ c, d.live.getLast? = some c ∧ e.1 ≤ c.serial

variable {d d' : ToplevelData}

section

variable (h : Uncommitted d l)
include h

theorem Uncommitted.of_same (hcommitted : d'.committed = d.committed)
    (hlast : d'.live.getLast? = d.live.getLast?) : Uncommitted d' l := by
  constructor
  · exact h.sorted
  · rw [hcommitted]
    exact h.committed_lt
  · rw [hlast]
    exact h.le_last

omit h in
theorem mem_live_of_committed {c : ToplevelConfigure} (h : d.committed = some c) : c ∈ d.live := by
  unfold ToplevelData.live
  rw [h]
  simp

variable {serial : ℕ}

theorem Uncommitted.recordSent (hok : d.Ok) (hserial : d.lastSerial < serial) (v p : Bool) :
    Uncommitted (d.sendConfigure serial) (Mapped.recordSent l v p serial) := by
  have hlast : (d.sendConfigure serial).live.getLast? =
      some { serial, state := d.pendingState } := by
    rw [live_sendConfigure, List.getLast?_concat]
  have hlt : ∀ e ∈ l, e.1 < serial := by
    intro e he
    obtain ⟨c, hc, hle⟩ := h.le_last e he
    have := hok.le_lastSerial c (mem_of_getLast? hc)
    omega
  have hold : Uncommitted (d.sendConfigure serial) l := by
    constructor
    · exact h.sorted
    · exact h.committed_lt
    · intro e he
      exact ⟨_, hlast, (hlt e he).le⟩
  unfold Mapped.recordSent
  by_cases hne : Mapped.lastSent l v ≠ p
  · rw [if_pos hne]
    constructor
    · rw [pairwise_append]
      refine ⟨h.sorted, pairwise_singleton _ _, ?_⟩
      intro e he e' he'
      rw [mem_singleton.mp he']
      exact hlt e he
    · intro e he c hc
      rcases mem_append.mp he with he | he
      · exact hold.committed_lt e he c hc
      · have := hok.le_lastSerial c (mem_live_of_committed hc)
        rw [mem_singleton.mp he]
        omega
    · intro e he
      rcases mem_append.mp he with he | he
      · exact hold.le_last e he
      · rw [mem_singleton.mp he]
        exact ⟨_, hlast, le_refl serial⟩
  · rw [if_neg hne]
    exact hold

theorem Uncommitted.commit
    (hcommitted : ∃ c, (d.commit serial).committed = some c ∧ c.serial = serial) (v : Bool) :
    Uncommitted (d.commit serial) (commitValues serial l v).1 := by
  rw [commitValues_fst]
  constructor
  · exact h.sorted.filter _
  · intro e he c hc
    obtain ⟨c', hc', hserial⟩ := hcommitted
    rw [hc', some.injEq] at hc
    rw [← hc, hserial]
    simpa using (mem_filter.mp he).2
  · intro e he
    rw [(live_commit d serial).2]
    exact h.le_last e (mem_filter.mp he).1

/-- Nothing is uncommitted once the client has caught up. -/
theorem Uncommitted.eq_nil (hcaughtUp : d.caughtUp = true) : l = [] := by
  obtain ⟨c, hc, hlive⟩ := caughtUp_live hcaughtUp
  rw [eq_nil_iff_forall_not_mem]
  intro e he
  obtain ⟨c', hc', hle⟩ := h.le_last e he
  rw [hlive, List.getLast?_singleton, some.injEq] at hc'
  have := h.committed_lt e he c hc
  rw [hc'] at this
  omega

end

end Values

/-- The flags of a state show a windowed-fullscreen and a maximized value, where they are set. -/
structure ToplevelState.Shows (state : ToplevelState) (windowed maximized : Bool) : Prop where
  of_windowed : windowed = true → state.fullscreen = true ∧ state.maximized = false
  of_maximized : maximized = true → windowed = false →
    state.fullscreen = false ∧ state.maximized = true

/-- The state differs from the one that was sent at most in its size, where that is ignored. -/
def ToplevelState.SameAs (state sent : ToplevelState) (ignoreSize : Bool) : Prop :=
  (if ignoreSize then { state with size := sent.size } else state) = sent

/-- The state differs at most in its size, so it has the same sizing mode. -/
theorem ToplevelState.SameAs.sizingMode_eq {state sent : ToplevelState} {ignoreSize : Bool}
    (h : state.SameAs sent ignoreSize) : state.sizingMode = sent.sizingMode := by
  rw [← h]
  cases ignoreSize with
  | true => rfl
  | false => rfl

namespace Mapped

variable {T Transaction Data : Type} [ToplevelSurface T]

/-- The windowed-fullscreen value that was sent last. -/
def sentWindowed (s : Mapped T Transaction Data) : Bool :=
  lastSent s.uncommittedWindowedFullscreen s.isWindowedFullscreen

/-- The maximized value that was sent last. -/
def sentMaximized (s : Mapped T Transaction Data) : Bool :=
  lastSent s.uncommittedMaximized s.isMaximized

/-- The requested values are not the ones that were sent last. -/
def Unsent (s : Mapped T Transaction Data) : Prop :=
  s.sentWindowed ≠ s.isPendingWindowedFullscreen ∨ s.sentMaximized ≠ s.isPendingMaximized

/-- A request got lost: the values were not sent, and there is nothing to send. -/
def Stuck (s : Mapped T Transaction Data) : Prop :=
  s.Unsent ∧ s.hasPendingChanges = false

/-- The next configure carries the size of the window. -/
def usesWindowSize (s : Mapped T Transaction Data) : Bool :=
  s.requestSizeOnce = some .useWindowSize

/-- The event loses a request. -/
def Drops (s : Mapped T Transaction Data) : Event Transaction Data → Prop
  | .requestSize size mode _ _ =>
    -- The values go back to the committed ones, in a state that looks like the last one sent.
    s.needsConfigure = false ∧
    { s.data.pendingState with
      size := some size
      fullscreen := mode = .fullscreen || s.isPendingWindowedFullscreen
      maximized := mode = .maximized && !s.isPendingWindowedFullscreen } =
      s.data.currentServerState ∧
    (mode = .fullscreen ∧ s.sentWindowed = true ∧ s.isWindowedFullscreen = false ∧
        s.isMaximized = false ∨
      mode ≠ .fullscreen ∧ s.isMaximized = decide (mode = .maximized) ∧
        s.sentMaximized ≠ s.isMaximized)
  | .requestSizeOnce size _ =>
    s.needsConfigure = false ∧ (s.alreadySent size).isSome = true ∧
    s.isPendingWindowedFullscreen = true ∧ s.isMaximized = false ∧ s.sentMaximized = true ∧
    s.data.pendingState.SameAs s.data.currentServerState s.data.committed.isNone
  | .setActivated active =>
    s.needsConfigure = false ∧ s.Unsent ∧
    { s.data.pendingState with activated := active }.SameAs s.data.currentServerState
      s.usesWindowSize
  | .setBounds bounds =>
    s.needsConfigure = false ∧ s.Unsent ∧
    { s.data.pendingState with bounds := some bounds }.SameAs s.data.currentServerState
      s.usesWindowSize
  | .setInteractiveResize data =>
    s.needsConfigure = false ∧ s.Unsent ∧
    { s.data.pendingState with resizing := data.isSome }.SameAs s.data.currentServerState
      s.usesWindowSize
  | .commit serial =>
    -- From now on the size alone is not worth a configure.
    s.needsConfigure = false ∧ s.Unsent ∧
    (∃ k, s.requestSizeOnce = some (.waitingForCommit k) ∧ k ≤ serial) ∧
    s.data.pendingState.SameAs s.data.currentServerState true
  | _ => False

/-- What every event keeps. -/
structure Inv (s : Mapped T Transaction Data) : Prop where
  ok : s.data.Ok
  windowed : Uncommitted s.data s.uncommittedWindowedFullscreen
  maximized : Uncommitted s.data s.uncommittedMaximized
  pendingShows :
    s.data.pendingState.Shows s.isPendingWindowedFullscreen s.isPendingMaximized
  -- The client may have been sent something else before the window was mapped.
  sentShows : s.data.currentServerState.Shows s.sentWindowed s.sentMaximized ∨
    s.uncommittedWindowedFullscreen = [] ∧ s.uncommittedMaximized = [] ∧
      s.isWindowedFullscreen = false
  forced : s.isPendingWindowedFullscreen = true → s.sentWindowed = false →
    s.needsConfigure = true

section Inv

variable {s s' : Mapped T Transaction Data}

@[simp] theorem data_withPendingState (s : Mapped T Transaction Data)
    (f : ToplevelState → ToplevelState) :
    (s.withPendingState f).data = s.data.withPendingState f :=
  ToplevelSurface.data_withPendingState s.toplevel f

/-- The flags for windowed fullscreen and for maximized are the same. -/
structure SameFlags (s s' : Mapped T Transaction Data) : Prop where
  uncommittedWindowedFullscreen :
    s'.uncommittedWindowedFullscreen = s.uncommittedWindowedFullscreen
  uncommittedMaximized : s'.uncommittedMaximized = s.uncommittedMaximized
  isWindowedFullscreen : s'.isWindowedFullscreen = s.isWindowedFullscreen
  isMaximized : s'.isMaximized = s.isMaximized
  isPendingWindowedFullscreen : s'.isPendingWindowedFullscreen = s.isPendingWindowedFullscreen
  isPendingMaximized : s'.isPendingMaximized = s.isPendingMaximized

omit [ToplevelSurface T] in
theorem SameFlags.sentWindowed (h : SameFlags s s') : s'.sentWindowed = s.sentWindowed := by
  unfold Mapped.sentWindowed
  rw [h.uncommittedWindowedFullscreen, h.isWindowedFullscreen]

omit [ToplevelSurface T] in
theorem SameFlags.sentMaximized (h : SameFlags s s') : s'.sentMaximized = s.sentMaximized := by
  unfold Mapped.sentMaximized
  rw [h.uncommittedMaximized, h.isMaximized]

variable {f : ToplevelState → ToplevelState}

/-- The event only changes pending flags other than the two, or nothing that matters. -/
theorem Inv.of_same (h : Inv s) (hdata : s'.data = s.data.withPendingState f)
    (hf : ∀ state, (f state).fullscreen = state.fullscreen ∧
      (f state).maximized = state.maximized) (hflags : SameFlags s s')
    (hneeds : s.needsConfigure = true → s'.needsConfigure = true) : Inv s' := by
  have hsentW := hflags.sentWindowed
  have hsentM := hflags.sentMaximized
  obtain ⟨hw, hm, hiw, him, hpw, hpm⟩ := hflags
  constructor
  · rw [hdata]
    exact h.ok.withPendingState f
  · rw [hdata, hw]
    exact h.windowed.of_same rfl rfl
  · rw [hdata, hm]
    exact h.maximized.of_same rfl rfl
  · rw [hdata, hpw, hpm, pendingState_withPendingState]
    obtain ⟨hfull, hmax⟩ := hf s.data.pendingState
    constructor
    · rw [hfull, hmax]
      exact h.pendingShows.of_windowed
    · rw [hfull, hmax]
      exact h.pendingShows.of_maximized
  · rw [hdata, hw, hm, hsentW, hsentM, hiw]
    exact h.sentShows
  · rw [hpw, hsentW]
    exact fun hp hn => hneeds (h.forced hp hn)

theorem stateChanged_eq_false :
    s.stateChanged = false ↔
      s.data.pendingState.SameAs s.data.currentServerState s.usesWindowSize := by
  unfold stateChanged ToplevelData.pendingState ToplevelState.SameAs usesWindowSize
  cases s.data.serverPending with
  | none | some => simp

theorem stuck_iff :
    s.Stuck ↔ s.Unsent ∧ s.needsConfigure = false ∧
      s.data.pendingState.SameAs s.data.currentServerState s.usesWindowSize := by
  unfold Stuck hasPendingChanges
  rw [Bool.or_eq_false_iff, stateChanged_eq_false]

/-- A windowed-fullscreen value that was sent shows in the state that was sent last. -/
theorem Inv.fullscreen_of_sent (h : Inv s) (hsent : s.sentWindowed = true) :
    s.data.currentServerState.fullscreen = true := by
  rcases h.sentShows with hshows | ⟨hnil, -, hiw⟩
  · exact (hshows.of_windowed hsent).1
  · unfold sentWindowed at hsent
    rw [hnil, hiw] at hsent
    cases hsent

/-- A maximized value that was sent shows in the state that was sent last, or was committed. -/
theorem Inv.maximized_of_sent (h : Inv s) (hsent : s.sentMaximized = true)
    (hwindowed : s.sentWindowed = false) (him : s.isMaximized = false) :
    s.data.currentServerState.maximized = true := by
  rcases h.sentShows with hshows | ⟨-, hnil, -⟩
  · exact (hshows.of_maximized hsent hwindowed).2
  · unfold sentMaximized at hsent
    rw [hnil] at hsent
    exact absurd (him.symm.trans hsent) Bool.false_ne_true

/-- An event that sets a pending flag other than the two. -/
theorem stuck_of_same (hdata : s'.data = s.data.withPendingState f) (hflags : SameFlags s s')
    (hneeds : s'.needsConfigure = s.needsConfigure)
    (honce : s'.requestSizeOnce = s.requestSizeOnce) :
    s'.Stuck ↔ s.needsConfigure = false ∧ s.Unsent ∧
      (f s.data.pendingState).SameAs s.data.currentServerState s.usesWindowSize := by
  have hunsent : s'.Unsent ↔ s.Unsent := by
    unfold Unsent
    rw [hflags.sentWindowed, hflags.sentMaximized, hflags.isPendingWindowedFullscreen,
      hflags.isPendingMaximized]
  have huses : s'.usesWindowSize = s.usesWindowSize := by
    unfold usesWindowSize
    rw [honce]
  rw [stuck_iff, hunsent, hneeds, huses, hdata, pendingState_withPendingState,
    currentServerState_withPendingState]
  exact and_left_comm

/-! ## Size requests -/

section RequestSize

variable (s : Mapped T Transaction Data) (size : Layout.ISize) (mode : SizingMode)
  (animate : Bool) (transaction : Option Transaction)

theorem data_requestSize :
    (s.requestSize size mode animate transaction).data =
      s.data.withPendingState fun state => { state with
        size := some size
        fullscreen := mode = .fullscreen || s.isPendingWindowedFullscreen
        maximized := mode = .maximized && !s.isPendingWindowedFullscreen } := by
  have htoplevel : (s.requestSize size mode animate transaction).toplevel =
      ToplevelSurface.withPendingState s.toplevel fun state => { state with
        size := some size
        fullscreen := mode = .fullscreen || s.isPendingWindowedFullscreen
        maximized := !(mode = .fullscreen || s.isPendingWindowedFullscreen) &&
          decide (mode = .maximized) } := by
    cases mode <;> rfl
  have hflag : (!(mode = .fullscreen || s.isPendingWindowedFullscreen) &&
      decide (mode = .maximized)) =
      (mode = .maximized && !s.isPendingWindowedFullscreen) := by
    cases mode <;> simp
  unfold data
  rw [htoplevel, ToplevelSurface.data_withPendingState, hflag]

theorem requestSize_isPendingWindowedFullscreen :
    (s.requestSize size mode animate transaction).isPendingWindowedFullscreen =
      (decide (mode ≠ .fullscreen) && s.isPendingWindowedFullscreen) := by
  cases mode <;> rfl

theorem requestSize_needsConfigure :
    (s.requestSize size mode animate transaction).needsConfigure =
      (s.needsConfigure || (decide (mode = .fullscreen) && s.isWindowedFullscreen) ||
        s.isMaximized != decide (mode = .maximized)) := by
  cases mode <;> simp [requestSize, withPendingState]

theorem requestSize_uncommitted :
    (s.requestSize size mode animate transaction).uncommittedWindowedFullscreen =
        s.uncommittedWindowedFullscreen ∧
      (s.requestSize size mode animate transaction).uncommittedMaximized = s.uncommittedMaximized ∧
      (s.requestSize size mode animate transaction).isWindowedFullscreen = s.isWindowedFullscreen ∧
      (s.requestSize size mode animate transaction).isMaximized = s.isMaximized := by
  cases mode <;> exact ⟨rfl, rfl, rfl, rfl⟩

theorem requestSize_isPendingMaximized :
    (s.requestSize size mode animate transaction).isPendingMaximized =
      decide (mode = .maximized) := by
  cases mode <;> rfl

theorem requestSize_sent :
    (s.requestSize size mode animate transaction).sentWindowed = s.sentWindowed ∧
      (s.requestSize size mode animate transaction).sentMaximized = s.sentMaximized := by
  obtain ⟨hw, hm, hiw, him⟩ := requestSize_uncommitted s size mode animate transaction
  unfold sentWindowed sentMaximized
  rw [hw, hm, hiw, him]
  exact ⟨rfl, rfl⟩

theorem Inv.requestSize (h : Inv s) : Inv (s.requestSize size mode animate transaction) := by
  obtain ⟨hw, hm, hiw, him⟩ := requestSize_uncommitted s size mode animate transaction
  obtain ⟨hsentW, hsentM⟩ := requestSize_sent s size mode animate transaction
  constructor
  · rw [data_requestSize]
    exact h.ok.withPendingState _
  · rw [data_requestSize, hw]
    exact h.windowed.of_same rfl rfl
  · rw [data_requestSize, hm]
    exact h.maximized.of_same rfl rfl
  · rw [data_requestSize, requestSize_isPendingWindowedFullscreen, requestSize_isPendingMaximized,
      pendingState_withPendingState]
    constructor
    · cases mode <;> simp
    · cases mode <;> simp
  · rw [data_requestSize, hw, hm, hsentW, hsentM, hiw]
    exact h.sentShows
  · rw [requestSize_isPendingWindowedFullscreen, hsentW, requestSize_needsConfigure,
      Bool.and_eq_true]
    rintro ⟨-, hp⟩ hsent
    rw [h.forced hp hsent]
    rfl

/-- A size request gets lost that takes back what was sent. -/
theorem stuck_requestSize_iff (h : Inv s) :
    (s.requestSize size mode animate transaction).Stuck ↔
      s.Drops (.requestSize size mode animate transaction) := by
  obtain ⟨hsentW, hsentM⟩ := requestSize_sent s size mode animate transaction
  have huses : (s.requestSize size mode animate transaction).usesWindowSize = false := rfl
  rw [stuck_iff, huses, data_requestSize, pendingState_withPendingState,
    currentServerState_withPendingState, requestSize_needsConfigure]
  unfold Unsent Drops ToplevelState.SameAs
  rw [hsentW, hsentM, requestSize_isPendingWindowedFullscreen, requestSize_isPendingMaximized,
    if_neg Bool.false_ne_true, Bool.or_eq_false_iff, Bool.or_eq_false_iff]
  by_cases hmode : mode = .fullscreen
  · subst hmode
    constructor
    · rintro ⟨hunsent, ⟨⟨hneeds, hiw⟩, him⟩, hnew⟩
      have him : s.isMaximized = false := by simpa using him
      refine ⟨hneeds, hnew, Or.inl ⟨rfl, ?_, hiw, him⟩⟩
      by_contra hsent
      have hsent : s.sentWindowed = false := by simpa using hsent
      have hsentM : s.sentMaximized = true := by simpa [hsent] using hunsent
      have hshows := h.maximized_of_sent hsentM hsent him
      rw [← hnew] at hshows
      cases hshows
    · rintro ⟨hneeds, hnew, ⟨-, hsent, hiw, him⟩ | ⟨hne, -⟩⟩
      · exact ⟨Or.inl (by simp [hsent]), ⟨⟨hneeds, by simp [hiw]⟩, by simp [him]⟩, hnew⟩
      · exact absurd rfl hne
  · have hfull : decide (mode = .fullscreen) = false := decide_eq_false hmode
    constructor
    · rintro ⟨hunsent, ⟨⟨hneeds, -⟩, him⟩, hnew⟩
      have him : s.isMaximized = decide (mode = .maximized) := by simpa using him
      refine ⟨hneeds, hnew, Or.inr ⟨hmode, him, ?_⟩⟩
      rcases hunsent with hunsent | hunsent
      · -- The windowed-fullscreen value would show, or force a configure.
        have hunsent : s.sentWindowed ≠ s.isPendingWindowedFullscreen := by
          simpa [hmode] using hunsent
        cases hp : s.isPendingWindowedFullscreen with
        | true =>
          rw [hp] at hunsent
          have hforced := h.forced hp (by simpa using hunsent)
          rw [hneeds] at hforced
          cases hforced
        | false =>
          rw [hp] at hunsent
          have hshows := h.fullscreen_of_sent (by simpa using hunsent)
          rw [← hnew, hp, hfull] at hshows
          cases hshows
      · rw [him]
        exact hunsent
    · rintro ⟨hneeds, hnew, ⟨heq, -⟩ | ⟨-, him, hsent⟩⟩
      · exact absurd heq hmode
      · refine ⟨Or.inr ?_, ⟨⟨hneeds, by rw [hfull]; rfl⟩, by simp [him]⟩, hnew⟩
        rw [← him]
        exact hsent

end RequestSize

section RequestSizeOnce

variable (s : Mapped T Transaction Data) (size : Layout.ISize) (animate : Bool)

theorem requestSizeOnceOf_frame :
    (s.requestSizeOnceOf size animate).isPendingWindowedFullscreen = s.isPendingWindowedFullscreen ∧
      (s.requestSizeOnceOf size animate).isPendingMaximized = false ∧
      (s.requestSizeOnceOf size animate).needsConfigure = (s.needsConfigure || s.isMaximized) ∧
      (s.requestSizeOnceOf size animate).sentWindowed = s.sentWindowed ∧
      (s.requestSizeOnceOf size animate).sentMaximized = s.sentMaximized ∧
      (s.requestSizeOnceOf size animate).uncommittedWindowedFullscreen =
        s.uncommittedWindowedFullscreen ∧
      (s.requestSizeOnceOf size animate).uncommittedMaximized = s.uncommittedMaximized ∧
      (s.requestSizeOnceOf size animate).isWindowedFullscreen = s.isWindowedFullscreen := by
  have hneeds : (s.needsConfigure || s.isMaximized != false) =
      (s.needsConfigure || s.isMaximized) := by
    cases s.isMaximized <;> rfl
  unfold requestSizeOnceOf
  simp only
  split
  · exact ⟨rfl, rfl, hneeds, rfl, rfl, rfl, rfl, rfl⟩
  · exact ⟨rfl, rfl, hneeds, rfl, rfl, rfl, rfl, rfl⟩

variable {serial : ℕ}

/-- Where the size was already sent, nothing changes on the surface. -/
theorem requestSizeOnceOf_of_sent (hsent : s.alreadySent size = some serial) :
    (s.requestSizeOnceOf size animate).data = s.data ∧
      (s.requestSizeOnceOf size animate).requestSizeOnce = some (s.onceAfterSent serial) := by
  unfold requestSizeOnceOf
  simp only
  split
  · rename_i serial' hsent'
    obtain rfl : serial' = serial := some.inj (hsent'.symm.trans hsent)
    exact ⟨rfl, rfl⟩
  · rename_i hnone
    exact absurd (hnone.symm.trans hsent) nofun

/-- Otherwise it becomes pending. -/
theorem requestSizeOnceOf_of_not_sent (hnone : s.alreadySent size = none) :
    (s.requestSizeOnceOf size animate).data = s.data.withPendingState (fun state => { state with
        size := some size
        fullscreen := s.isPendingWindowedFullscreen && state.fullscreen
        maximized := false }) ∧
      (s.requestSizeOnceOf size animate).requestSizeOnce = some .waitingForConfigure := by
  unfold requestSizeOnceOf
  simp only
  split
  · rename_i hsent
    exact absurd (hsent.symm.trans hnone) nofun
  · exact ⟨ToplevelSurface.data_withPendingState s.toplevel _, rfl⟩

theorem Inv.requestSizeOnceOf (h : Inv s) : Inv (s.requestSizeOnceOf size animate) := by
  obtain ⟨hpw, hpm, hneeds, hsentW, hsentM, hw, hm, hiw⟩ := requestSizeOnceOf_frame s size animate
  have hforced : (s.requestSizeOnceOf size animate).isPendingWindowedFullscreen = true →
      (s.requestSizeOnceOf size animate).sentWindowed = false →
      (s.requestSizeOnceOf size animate).needsConfigure = true := by
    rw [hpw, hsentW, hneeds]
    intro hp hsent
    rw [h.forced hp hsent]
    rfl
  have hof : ∀ f : ToplevelState → ToplevelState,
      (s.requestSizeOnceOf size animate).data = s.data.withPendingState f →
      (s.isPendingWindowedFullscreen = true → (f s.data.pendingState).fullscreen = true ∧
        (f s.data.pendingState).maximized = false) → Inv (s.requestSizeOnceOf size animate) := by
    intro f hdata hf
    constructor
    · rw [hdata]
      exact h.ok.withPendingState f
    · rw [hdata, hw]
      exact h.windowed.of_same rfl rfl
    · rw [hdata, hm]
      exact h.maximized.of_same rfl rfl
    · rw [hdata, hpw, hpm]
      exact ⟨hf, nofun⟩
    · rw [hdata, hw, hm, hsentW, hsentM, hiw]
      exact h.sentShows
    · exact hforced
  cases hsent : s.alreadySent size with
  | some serial =>
    obtain ⟨hdata, -⟩ := requestSizeOnceOf_of_sent s size animate hsent
    constructor
    · rw [hdata]
      exact h.ok
    · rw [hdata, hw]
      exact h.windowed
    · rw [hdata, hm]
      exact h.maximized
    · rw [hdata, hpw, hpm]
      exact ⟨h.pendingShows.of_windowed, nofun⟩
    · rw [hdata, hw, hm, hsentW, hsentM, hiw]
      exact h.sentShows
    · exact hforced
  | none =>
    obtain ⟨hdata, -⟩ := requestSizeOnceOf_of_not_sent s size animate hsent
    refine hof _ hdata fun hp => ⟨?_, rfl⟩
    show (s.isPendingWindowedFullscreen && s.data.pendingState.fullscreen) = true
    rw [hp, (h.pendingShows.of_windowed hp).1]
    rfl

omit [ToplevelSurface T] in
theorem live_getLast?_eq (d : ToplevelData) :
    d.live.getLast? = d.pendingConfigures.getLast?.or d.lastAcked := by
  unfold ToplevelData.live ToplevelData.lastAcked
  rw [List.getLast?_append, List.getLast?_append]
  cases d.committed with
  | none => rfl
  | some c => rfl

/-- The configure that counts as already sent is the last one, and not committed to. -/
theorem lastUncommittedConfigure_spec (hok : s.data.Ok) {c : ToplevelConfigure}
    (hc : s.lastUncommittedConfigure = some c) :
    c.state = s.data.currentServerState ∧
      ∀ c', s.data.committed = some c' → c'.serial < c.serial := by
  unfold lastUncommittedConfigure at hc
  unfold ToplevelData.currentServerState
  cases hpending : s.data.pendingConfigures.getLast? with
  | some last =>
    rw [hpending] at hc
    obtain rfl := some.inj hc
    refine ⟨rfl, fun c' hc' => ?_⟩
    have hsorted := hok.sorted
    unfold ToplevelData.live at hsorted
    rw [pairwise_append] at hsorted
    refine hsorted.2.2 c' ?_ last (mem_of_getLast? hpending)
    rw [hc']
    simp
  | none =>
    rw [hpending] at hc
    cases hacked : s.data.lastAcked with
    | none =>
      rw [hacked] at hc
      cases hc
    | some acked =>
      simp only [hacked] at hc
      by_cases hany : (s.data.committed.any fun committed =>
          decide (acked.serial ≤ committed.serial)) = true
      · rw [if_pos hany] at hc
        cases hc
      · rw [if_neg hany] at hc
        obtain rfl := some.inj hc
        refine ⟨rfl, fun c' hc' => ?_⟩
        rw [hc'] at hany
        simpa using hany

/-- A value that was sent and not committed was sent with a configure that is not committed. -/
theorem Inv.lastUncommittedConfigure_of_ne (h : Inv s) (hne : s.sentMaximized ≠ s.isMaximized) :
    ∃ c, s.lastUncommittedConfigure = some c := by
  have hcons : s.uncommittedMaximized ≠ [] := by
    intro hnil
    unfold sentMaximized at hne
    rw [hnil] at hne
    exact hne rfl
  obtain ⟨e, he⟩ := exists_mem_of_ne_nil _ hcons
  obtain ⟨c, hc, hle⟩ := h.maximized.le_last e he
  rw [live_getLast?_eq] at hc
  unfold lastUncommittedConfigure
  cases hpending : s.data.pendingConfigures.getLast? with
  | some last => exact ⟨last, rfl⟩
  | none =>
    rw [hpending, none_or] at hc
    simp only [hc]
    refine ⟨c, if_neg ?_⟩
    rw [any_eq_true]
    rintro ⟨c', hc', hle'⟩
    have hlt := h.maximized.committed_lt e he c' hc'
    have hle' := of_decide_eq_true hle'
    omega

theorem alreadySent_eq_some (hsent : s.alreadySent size = some serial) :
    ∃ c, s.lastUncommittedConfigure = some c ∧ s.matchesOnce size c.state = true ∧
      c.serial = serial := by
  obtain ⟨c, hc, hserial⟩ := map_eq_some_iff.mp hsent
  obtain ⟨hlast, hmatches⟩ := filter_eq_some_iff.mp hc
  exact ⟨c, hlast, hmatches, hserial⟩

omit [ToplevelSurface T] in
theorem matchesOnce_eq_true {state : ToplevelState} :
    s.matchesOnce size state = true ↔ state.size.getD ⟨0, 0⟩ = size ∧
      state.fullscreen = s.isPendingWindowedFullscreen ∧ state.maximized = false := by
  unfold matchesOnce
  simp only [Bool.and_eq_true, decide_eq_true_eq, Bool.not_eq_true', and_assoc]

/-- A windowed-fullscreen value that was requested and not sent shows, or forces a configure. -/
theorem Inv.sentWindowed_eq (h : Inv s) (hneeds : s.needsConfigure = false)
    (hshows : s.isPendingWindowedFullscreen = false →
      s.data.currentServerState.fullscreen = false) :
    s.sentWindowed = s.isPendingWindowedFullscreen := by
  cases hp : s.isPendingWindowedFullscreen with
  | true =>
    by_contra hsent
    have hforced := h.forced hp (by simpa using hsent)
    rw [hneeds] at hforced
    cases hforced
  | false =>
    by_contra hsent
    have hfull := h.fullscreen_of_sent (by simpa using hsent)
    rw [hshows hp] at hfull
    cases hfull

/-- A configure that is not committed to is waited for. -/
theorem onceAfterSent_eq (hlt : ∀ c, s.data.committed = some c → c.serial < serial) :
    s.onceAfterSent serial =
      if s.data.committed.isNone then .useWindowSize else .waitingForCommit serial := by
  unfold onceAfterSent
  cases hcommitted : s.data.committed with
  | none => rfl
  | some c =>
    have := hlt c hcommitted
    exact if_pos (by omega)

/-- A size request once gets lost in windowed fullscreen, when it takes back a maximized value
that was sent. -/
theorem stuck_requestSizeOnceOf_iff (h : Inv s) :
    (s.requestSizeOnceOf size animate).Stuck ↔ s.Drops (.requestSizeOnce size animate) := by
  obtain ⟨hpw, hpm, hneeds, hsentW, hsentM, hw, hm, hiw⟩ := requestSizeOnceOf_frame s size animate
  rw [stuck_iff, hneeds, Bool.or_eq_false_iff]
  unfold Unsent Drops
  rw [hsentW, hsentM, hpw, hpm]
  cases hsent : s.alreadySent size with
  | some serial =>
    obtain ⟨hdata, honce⟩ := requestSizeOnceOf_of_sent s size animate hsent
    obtain ⟨c, hc, hmatches, hserial⟩ := alreadySent_eq_some s size hsent
    obtain ⟨hstate, hlt⟩ := lastUncommittedConfigure_spec s h.ok hc
    obtain ⟨-, hfull, hmax⟩ := (matchesOnce_eq_true s size).mp hmatches
    rw [hstate] at hfull hmax
    have huses : (s.requestSizeOnceOf size animate).usesWindowSize = s.data.committed.isNone := by
      unfold usesWindowSize
      rw [honce, onceAfterSent_eq s (hserial ▸ hlt)]
      cases s.data.committed.isNone with
      | true => rfl
      | false => rfl
    rw [hdata, huses]
    constructor
    · rintro ⟨hunsent, ⟨hneeds, him⟩, hsame⟩
      have hwindowed := h.sentWindowed_eq s hneeds fun hp => hfull.trans hp
      have hmaximized : s.sentMaximized = true := by
        rcases hunsent with hunsent | hunsent
        · exact absurd hwindowed hunsent
        · simpa using hunsent
      have hp : s.isPendingWindowedFullscreen = true := by
        by_contra hp
        have hp : s.isPendingWindowedFullscreen = false := by simpa using hp
        rw [h.maximized_of_sent hmaximized (hwindowed.trans hp) him] at hmax
        cases hmax
      exact ⟨hneeds, by rw [hsent]; rfl, hp, him, hmaximized, hsame⟩
    · rintro ⟨hneeds, -, -, him, hmaximized, hsame⟩
      exact ⟨Or.inr (by rw [hmaximized]; nofun), ⟨hneeds, him⟩, hsame⟩
  | none =>
    obtain ⟨hdata, honce⟩ := requestSizeOnceOf_of_not_sent s size animate hsent
    have huses : (s.requestSizeOnceOf size animate).usesWindowSize = false := by
      unfold usesWindowSize
      rw [honce]
      rfl
    refine iff_of_false ?_ fun hdrops => ?_
    swap
    · have hsome := hdrops.2.1
      rw [hsent] at hsome
      cases hsome
    rintro ⟨hunsent, ⟨hneeds, him⟩, hsame⟩
    rw [hdata, huses] at hsame
    unfold ToplevelState.SameAs at hsame
    rw [if_neg Bool.false_ne_true, pendingState_withPendingState,
      currentServerState_withPendingState] at hsame
    have hwindowed := h.sentWindowed_eq s hneeds fun hp => by
      rw [← hsame, hp]
      rfl
    have hmaximized : s.sentMaximized ≠ s.isMaximized := by
      rcases hunsent with hunsent | hunsent
      · exact absurd hwindowed hunsent
      · rw [him]
        exact hunsent
    -- The last configure requests the size in this very state, so it was already sent.
    obtain ⟨c, hc⟩ := h.lastUncommittedConfigure_of_ne s hmaximized
    obtain ⟨hstate, -⟩ := lastUncommittedConfigure_spec s h.ok hc
    have hmatches : s.matchesOnce size c.state = true := by
      rw [matchesOnce_eq_true, hstate, ← hsame]
      refine ⟨rfl, ?_, rfl⟩
      cases hp : s.isPendingWindowedFullscreen with
      | false => rfl
      | true => exact (h.pendingShows.of_windowed hp).1
    unfold alreadySent at hsent
    rw [hc, filter_some, hmatches] at hsent
    cases hsent

end RequestSizeOnce

/-! ## The other events -/

theorem Inv.requestWindowedFullscreen (h : Inv s) (value : Bool) :
    Inv (s.requestWindowedFullscreen value) := by
  unfold Mapped.requestWindowedFullscreen
  by_cases heq : s.isPendingWindowedFullscreen = value
  · rw [if_pos heq]
    exact h
  rw [if_neg heq]
  have hdata : ∀ (u : Mapped T Transaction Data) (f : ToplevelState → ToplevelState),
      ({ u.withPendingState f with needsConfigure := true } : Mapped T Transaction Data).data =
        u.data.withPendingState f := data_withPendingState
  constructor
  · rw [hdata]
    exact h.ok.withPendingState _
  · rw [hdata]
    exact h.windowed.of_same rfl rfl
  · rw [hdata]
    exact h.maximized.of_same rfl rfl
  · rw [hdata, pendingState_withPendingState]
    show ToplevelState.Shows _ value s.isPendingMaximized
    cases value with
    | true => exact ⟨fun _ => ⟨rfl, rfl⟩, fun _ => nofun⟩
    | false => exact ⟨nofun, fun hp _ => ⟨rfl, by simp [hp]⟩⟩
  · rw [hdata]
    exact h.sentShows
  · exact fun _ _ => rfl

theorem not_stuck_requestWindowedFullscreen (hs : ¬ s.Stuck) (value : Bool) :
    ¬ (s.requestWindowedFullscreen value).Stuck := by
  unfold Mapped.requestWindowedFullscreen
  by_cases heq : s.isPendingWindowedFullscreen = value
  · rw [if_pos heq]
    exact hs
  · rw [if_neg heq]
    rintro ⟨-, hpending⟩
    cases hpending

/-- The state that a configure is sent with. -/
def toSend (s : Mapped T Transaction Data) : ToplevelState :=
  if s.usesWindowSize then { s.data.pendingState with size := some s.geometry }
  else s.data.pendingState

/-- What sending a configure does. -/
theorem sendConfigure_frame (s : Mapped T Transaction Data) :
    ∃ serial, s.data.lastSerial < serial ∧
      s.sendConfigure.data = (s.data.withPendingState fun _ => s.toSend).sendConfigure serial ∧
      s.sendConfigure.uncommittedWindowedFullscreen = recordSent
        s.uncommittedWindowedFullscreen s.isWindowedFullscreen s.isPendingWindowedFullscreen
        serial ∧
      s.sendConfigure.uncommittedMaximized = recordSent s.uncommittedMaximized s.isMaximized
        s.isPendingMaximized serial ∧
      s.sendConfigure.isWindowedFullscreen = s.isWindowedFullscreen ∧
      s.sendConfigure.isMaximized = s.isMaximized ∧
      s.sendConfigure.isPendingWindowedFullscreen = s.isPendingWindowedFullscreen ∧
      s.sendConfigure.isPendingMaximized = s.isPendingMaximized ∧
      s.sendConfigure.geometry = s.geometry ∧
      s.sendConfigure.requestSizeOnce =
        s.requestSizeOnce.map (RequestSizeOnce.afterConfigure serial) := by
  unfold toSend
  by_cases huses : s.requestSizeOnce = some .useWindowSize
  · have husesW : s.usesWindowSize = true := decide_eq_true huses
    let u := s.withPendingState fun state => { state with size := some s.geometry }
    have hu : u.data = s.data.withPendingState fun state =>
        { state with size := some s.geometry } := data_withPendingState _ _
    have hsend : s.sendConfigure.toplevel = (ToplevelSurface.sendConfigure u.toplevel).2 := by
      unfold Mapped.sendConfigure
      simp only [if_pos huses]
      rfl
    refine ⟨(ToplevelSurface.sendConfigure u.toplevel).1, ?_, ?_, ?_⟩
    · have hlt : u.data.lastSerial < _ := lastSerial_lt u.toplevel
      rwa [hu] at hlt
    · have hdata : s.sendConfigure.data =
          u.data.sendConfigure (ToplevelSurface.sendConfigure u.toplevel).1 := by
        unfold data
        rw [hsend]
        exact data_sendConfigure u.toplevel
      rw [hdata, hu, if_pos husesW]
      rfl
    · unfold Mapped.sendConfigure
      simp only [if_pos huses]
      exact ⟨rfl, rfl, rfl, rfl, rfl, rfl, rfl, rfl⟩
  · have husesW : ¬ s.usesWindowSize = true := by simpa [usesWindowSize] using huses
    have hsend : s.sendConfigure.toplevel = (ToplevelSurface.sendConfigure s.toplevel).2 := by
      unfold Mapped.sendConfigure
      simp only [if_neg huses]
    refine ⟨(ToplevelSurface.sendConfigure s.toplevel).1, lastSerial_lt s.toplevel, ?_, ?_⟩
    · have hdata : s.sendConfigure.data =
          s.data.sendConfigure (ToplevelSurface.sendConfigure s.toplevel).1 := by
        unfold data
        rw [hsend]
        exact data_sendConfigure s.toplevel
      rw [hdata, if_neg husesW]
      rfl
    · unfold Mapped.sendConfigure
      simp only [if_neg huses, true_and]

theorem toSend_flags (s : Mapped T Transaction Data) :
    s.toSend.fullscreen = s.data.pendingState.fullscreen ∧
      s.toSend.maximized = s.data.pendingState.maximized := by
  unfold toSend
  split_ifs
  · exact ⟨rfl, rfl⟩
  · exact ⟨rfl, rfl⟩

theorem Inv.sendConfigure (h : Inv s) :
    Inv s.sendConfigure ∧ ¬ s.sendConfigure.Unsent := by
  obtain ⟨serial, hlt, hdata, hw, hm, hiw, him, hpw, hpm, -, -⟩ := s.sendConfigure_frame
  obtain ⟨hfull, hmax⟩ := s.toSend_flags
  have hsentW : s.sendConfigure.sentWindowed = s.isPendingWindowedFullscreen := by
    unfold sentWindowed
    rw [hw, hiw, lastSent_recordSent]
  have hsentM : s.sendConfigure.sentMaximized = s.isPendingMaximized := by
    unfold sentMaximized
    rw [hm, him, lastSent_recordSent]
  have hshows : s.toSend.Shows s.isPendingWindowedFullscreen s.isPendingMaximized := by
    constructor
    · rw [hfull, hmax]
      exact h.pendingShows.of_windowed
    · rw [hfull, hmax]
      exact h.pendingShows.of_maximized
  have hok : (s.data.withPendingState fun _ => s.toSend).Ok := h.ok.withPendingState _
  have hwindowed : Uncommitted (s.data.withPendingState fun _ => s.toSend)
      s.uncommittedWindowedFullscreen := h.windowed.of_same rfl rfl
  have hmaximized : Uncommitted (s.data.withPendingState fun _ => s.toSend)
      s.uncommittedMaximized := h.maximized.of_same rfl rfl
  constructor
  · constructor
    · rw [hdata]
      exact hok.sendConfigure hlt
    · rw [hdata, hw]
      exact hwindowed.recordSent hok hlt _ _
    · rw [hdata, hm]
      exact hmaximized.recordSent hok hlt _ _
    · rw [hdata, hpw, hpm, pendingState_sendConfigure]
      exact hshows
    · refine Or.inl ?_
      rw [hdata, hsentW, hsentM, currentServerState_sendConfigure]
      exact hshows
    · rw [hpw, hsentW]
      intro hp hn
      rw [hp] at hn
      cases hn
  · unfold Unsent
    rw [hsentW, hsentM, hpw, hpm]
    rintro (hne | hne)
    · exact hne rfl
    · exact hne rfl

theorem skipConfigure_data (s : Mapped T Transaction Data) :
    s.skipConfigure.data = s.data ∨
      s.skipConfigure.data = s.data.withPendingState fun state =>
        { state with size := s.data.currentServerState.size } := by
  unfold skipConfigure
  by_cases hcond : s.requestSizeOnce = some .useWindowSize ∧ s.data.serverPending.isSome = true
  · right
    simp only [if_pos hcond]
    exact data_withPendingState s _
  · left
    simp only [if_neg hcond]
    rfl

theorem skipConfigure_frame (s : Mapped T Transaction Data) :
    SameFlags s s.skipConfigure ∧ s.skipConfigure.needsConfigure = s.needsConfigure := by
  unfold skipConfigure
  by_cases hcond : s.requestSizeOnce = some .useWindowSize ∧ s.data.serverPending.isSome = true
  · simp only [if_pos hcond]
    exact ⟨⟨rfl, rfl, rfl, rfl, rfl, rfl⟩, rfl⟩
  · simp only [if_neg hcond, and_true]
    exact ⟨rfl, rfl, rfl, rfl, rfl, rfl⟩

/-- Nothing that matters changes. -/
theorem Inv.of_data_eq (h : Inv s) (hdata : s'.data = s.data)
    (hflags : SameFlags s s')
    (hneeds : s.needsConfigure = true → s'.needsConfigure = true) : Inv s' := by
  have hsentW := hflags.sentWindowed
  have hsentM := hflags.sentMaximized
  obtain ⟨hw, hm, hiw, him, hpw, hpm⟩ := hflags
  constructor
  · rw [hdata]
    exact h.ok
  · rw [hdata, hw]
    exact h.windowed
  · rw [hdata, hm]
    exact h.maximized
  · rw [hdata, hpw, hpm]
    exact h.pendingShows
  · rw [hdata, hw, hm, hsentW, hsentM, hiw]
    exact h.sentShows
  · rw [hpw, hsentW]
    exact fun hp hn => hneeds (h.forced hp hn)

theorem Inv.skipConfigure (h : Inv s) : Inv s.skipConfigure := by
  obtain ⟨hflags, hneeds⟩ := s.skipConfigure_frame
  rcases s.skipConfigure_data with hdata | hdata
  · exact h.of_data_eq hdata hflags (hneeds ▸ id)
  · exact h.of_same hdata (fun _ => ⟨rfl, rfl⟩) hflags (hneeds ▸ id)

theorem Inv.sendPendingConfigure (h : Inv s) : Inv s.sendPendingConfigure := by
  unfold Mapped.sendPendingConfigure
  have hreset : ∀ {u : Mapped T Transaction Data}, Inv u →
      Inv { u with animateNextConfigure := false, transactionForNextConfigure := none } :=
    fun hu => hu.of_data_eq rfl ⟨rfl, rfl, rfl, rfl, rfl, rfl⟩ id
  split_ifs
  · exact hreset h.sendConfigure.1
  · exact hreset h.skipConfigure

/-- **Sending** loses no request. -/
theorem Inv.not_stuck_sendPendingConfigure (h : Inv s) (hs : ¬ s.Stuck) :
    ¬ s.sendPendingConfigure.Stuck := by
  unfold Mapped.sendPendingConfigure
  split_ifs with hpending
  · rintro ⟨hunsent, -⟩
    exact h.sendConfigure.2 hunsent
  · obtain ⟨⟨hw, hm, hiw, him, hpw, hpm⟩, -⟩ := s.skipConfigure_frame
    rintro ⟨hunsent, -⟩
    refine hs ⟨?_, by simpa using hpending⟩
    change Mapped.lastSent s.skipConfigure.uncommittedWindowedFullscreen
        s.skipConfigure.isWindowedFullscreen ≠ s.skipConfigure.isPendingWindowedFullscreen ∨
      Mapped.lastSent s.skipConfigure.uncommittedMaximized s.skipConfigure.isMaximized ≠
        s.skipConfigure.isPendingMaximized at hunsent
    rwa [hw, hm, hiw, him, hpw, hpm] at hunsent

section Commit

variable {serial : ℕ}

/-- A commit takes effect. -/
theorem commit_data (s : Mapped T Transaction Data) (serial : ℕ) :
    ({ s with toplevel := ToplevelSurface.commit s.toplevel serial }.onCommit serial).data =
      s.data.commit serial :=
  data_commit s.toplevel serial

theorem Inv.commit_sent (h : Inv s) (serial : ℕ) :
    ({ s with toplevel := ToplevelSurface.commit s.toplevel serial }.onCommit
        serial).sentWindowed = s.sentWindowed ∧
      ({ s with toplevel := ToplevelSurface.commit s.toplevel serial }.onCommit
        serial).sentMaximized = s.sentMaximized :=
  ⟨lastSent_commitValues h.windowed.sorted, lastSent_commitValues h.maximized.sorted⟩

theorem Inv.commit (h : Inv s)
    (hcommitted : ∃ c, (s.data.commit serial).committed = some c ∧ c.serial = serial) :
    Inv ({ s with toplevel := ToplevelSurface.commit s.toplevel serial }.onCommit serial) := by
  obtain ⟨hsentW, hsentM⟩ := h.commit_sent serial
  constructor
  · rw [commit_data]
    exact h.ok.commit serial
  · rw [commit_data]
    exact h.windowed.commit hcommitted s.isWindowedFullscreen
  · rw [commit_data]
    exact h.maximized.commit hcommitted s.isMaximized
  · rw [commit_data, pendingState_commit]
    exact h.pendingShows
  · rw [commit_data, currentServerState_commit, hsentW, hsentM]
    rcases h.sentShows with hshows | ⟨hw, hm, hiw⟩
    · exact Or.inl hshows
    · refine Or.inr ⟨?_, ?_, ?_⟩
      · show (commitValues serial s.uncommittedWindowedFullscreen _).1 = []
        rw [hw]
        rfl
      · show (commitValues serial s.uncommittedMaximized _).1 = []
        rw [hm]
        rfl
      · show (commitValues serial s.uncommittedWindowedFullscreen _).2 = false
        rw [hw]
        exact hiw
  · rw [hsentW]
    exact h.forced

/-- A commit loses a request whose configure would now only change the size. -/
theorem Inv.stuck_commit_iff (h : Inv s) (hs : ¬ s.Stuck) :
    ({ s with toplevel := ToplevelSurface.commit s.toplevel serial }.onCommit serial).Stuck ↔
      s.Drops (.commit serial) := by
  obtain ⟨hsentW, hsentM⟩ := h.commit_sent serial
  rw [stuck_iff] at hs
  rw [stuck_iff, commit_data, pendingState_commit, currentServerState_commit]
  have hunsent : ({ s with toplevel := ToplevelSurface.commit s.toplevel serial }.onCommit
      serial).Unsent ↔ s.Unsent := by
    unfold Unsent
    rw [hsentW, hsentM]
    exact Iff.rfl
  rw [hunsent]
  have hneeds : ({ s with toplevel := ToplevelSurface.commit s.toplevel serial }.onCommit
      serial).needsConfigure = s.needsConfigure := rfl
  have hsame : ∀ {uses : Bool}, uses = s.usesWindowSize → ¬ (s.Unsent ∧
      s.needsConfigure = false ∧
      s.data.pendingState.SameAs s.data.currentServerState uses) := by
    rintro uses rfl
    exact hs
  have huses : ({ s with toplevel := ToplevelSurface.commit s.toplevel serial }.onCommit
      serial).usesWindowSize = decide (s.requestSizeOnce.map (RequestSizeOnce.afterCommit serial) =
        some .useWindowSize) := rfl
  rw [huses]
  unfold Drops
  cases honce : s.requestSizeOnce with
  | none =>
    refine iff_of_false (hsame (by rw [usesWindowSize, honce]; rfl)) ?_
    rintro ⟨-, -, ⟨k, hk, -⟩, -⟩
    cases hk
  | some once =>
    cases once with
    | waitingForConfigure | useWindowSize =>
      refine iff_of_false (hsame (by rw [usesWindowSize, honce]; rfl)) ?_
      rintro ⟨-, -, ⟨k, hk, -⟩, -⟩
      cases hk
    | waitingForCommit k =>
      by_cases hle : k ≤ serial
      · simp only [map_some, RequestSizeOnce.afterCommit, if_pos hle, decide_true]
        constructor
        · rintro ⟨hunsent, hneeds, hsize⟩
          exact ⟨hneeds, hunsent, ⟨k, rfl, hle⟩, hsize⟩
        · rintro ⟨hneeds, hunsent, -, hsize⟩
          exact ⟨hunsent, hneeds, hsize⟩
      · simp only [map_some, RequestSizeOnce.afterCommit, if_neg hle]
        refine iff_of_false (hsame (by rw [usesWindowSize, honce])) ?_
        rintro ⟨-, -, ⟨k', hk', hle'⟩, -⟩
        obtain rfl : k = k' := by simpa using hk'
        exact hle hle'

end Commit

/-- The client acks a configure. -/
theorem ack_data (s : Mapped T Transaction Data) (serial : ℕ) :
    ({ s with toplevel := ToplevelSurface.ackConfigure s.toplevel serial } :
      Mapped T Transaction Data).data = s.data.ackConfigure serial :=
  data_ackConfigure s.toplevel serial

theorem committed_ackConfigure (d : ToplevelData) (serial : ℕ) :
    (d.ackConfigure serial).committed = d.committed := by
  rcases d.ackConfigure_cases serial with heq | ⟨_, _, _, _, _, heq⟩
  · rw [heq]
  · rw [heq]

theorem Inv.ack (h : Inv s) (serial : ℕ) :
    Inv { s with toplevel := ToplevelSurface.ackConfigure s.toplevel serial } := by
  constructor
  · rw [ack_data]
    exact h.ok.ackConfigure serial
  · rw [ack_data]
    exact h.windowed.of_same (committed_ackConfigure _ _) (live_ackConfigure _ _).2
  · rw [ack_data]
    exact h.maximized.of_same (committed_ackConfigure _ _) (live_ackConfigure _ _).2
  · rw [ack_data, pendingState_ackConfigure]
    exact h.pendingShows
  · rw [ack_data, currentServerState_ackConfigure]
    exact h.sentShows
  · exact h.forced

theorem stuck_ack_iff (serial : ℕ) :
    ({ s with toplevel := ToplevelSurface.ackConfigure s.toplevel serial } :
      Mapped T Transaction Data).Stuck ↔ s.Stuck := by
  rw [stuck_iff, stuck_iff, ack_data, pendingState_ackConfigure, currentServerState_ackConfigure]
  exact Iff.rfl

theorem setInteractiveResize_eq (s : Mapped T Transaction Data) (data : Option Data) :
    ∃ interactiveResize, s.setInteractiveResize data =
      { s.withPendingState (fun state => { state with resizing := data.isSome }) with
        interactiveResize } := by
  unfold setInteractiveResize
  cases data with
  | some data => exact ⟨_, rfl⟩
  | none =>
    simp only
    split
    · exact ⟨_, rfl⟩
    · exact ⟨_, rfl⟩

theorem data_setInteractiveResize (s : Mapped T Transaction Data) (data : Option Data) :
    (s.setInteractiveResize data).data =
      s.data.withPendingState fun state => { state with resizing := data.isSome } := by
  obtain ⟨resize, heq⟩ := s.setInteractiveResize_eq data
  rw [heq]
  exact data_withPendingState s _

/-! ## Runs -/

theorem preCommit_data (s : Mapped T Transaction Data) : s.preCommit.data = s.data := by
  unfold preCommit
  split
  · rfl
  · rfl

theorem Inv.preCommit (h : Inv s) : Inv s.preCommit := by
  unfold Mapped.preCommit
  split
  · exact h
  · exact h.of_data_eq rfl ⟨rfl, rfl, rfl, rfl, rfl, rfl⟩ id

theorem stuck_preCommit_iff : s.preCommit.Stuck ↔ s.Stuck := by
  unfold Mapped.preCommit
  split
  · exact Iff.rfl
  · exact Iff.rfl

variable {e : Event Transaction Data}

/-- **What every event keeps**, and when it loses a request. -/
theorem Inv.stuck_step_iff (h : Inv s) (hs' : s.step e = some s') :
    Inv s' ∧ (¬ s.Stuck → (s'.Stuck ↔ s.Drops e)) := by
  cases e with
  | requestSize size mode animate transaction =>
    obtain rfl := some.inj hs'
    exact ⟨h.requestSize s size mode animate transaction,
      fun _ => stuck_requestSize_iff s size mode animate transaction h⟩
  | requestSizeOnce size animate =>
    obtain rfl := some.inj hs'
    exact ⟨h.requestSizeOnceOf s size animate,
      fun _ => stuck_requestSizeOnceOf_iff s size animate h⟩
  | requestWindowedFullscreen value =>
    obtain rfl := some.inj hs'
    exact ⟨h.requestWindowedFullscreen value,
      fun hs => iff_of_false (not_stuck_requestWindowedFullscreen hs value) id⟩
  | setActivated | setBounds =>
    obtain rfl := some.inj hs'
    exact ⟨h.of_same (data_withPendingState _ _) (fun _ => ⟨rfl, rfl⟩)
      ⟨rfl, rfl, rfl, rfl, rfl, rfl⟩ id,
      fun _ => stuck_of_same (data_withPendingState _ _) ⟨rfl, rfl, rfl, rfl, rfl, rfl⟩ rfl rfl⟩
  | setNeedsConfigure =>
    obtain rfl := some.inj hs'
    refine ⟨h.of_data_eq rfl ⟨rfl, rfl, rfl, rfl, rfl, rfl⟩ fun _ => rfl,
      fun _ => iff_of_false ?_ id⟩
    rintro ⟨-, hpending⟩
    cases hpending
  | setInteractiveResize data =>
    obtain rfl := some.inj hs'
    obtain ⟨resize, heq⟩ := s.setInteractiveResize_eq data
    have hdata := s.data_setInteractiveResize data
    rw [heq] at hdata ⊢
    exact ⟨h.of_same hdata (fun _ => ⟨rfl, rfl⟩) ⟨rfl, rfl, rfl, rfl, rfl, rfl⟩ id,
      fun _ => stuck_of_same hdata ⟨rfl, rfl, rfl, rfl, rfl, rfl⟩ rfl rfl⟩
  | sendPendingConfigure =>
    obtain rfl := some.inj hs'
    exact ⟨h.sendPendingConfigure, fun hs => iff_of_false (h.not_stuck_sendPendingConfigure hs) id⟩
  | preCommit =>
    obtain rfl := some.inj hs'
    exact ⟨h.preCommit,
      fun hs => iff_of_false (fun hstuck => hs (stuck_preCommit_iff.mp hstuck)) id⟩
  | ackConfigure serial =>
    obtain ⟨-, rfl⟩ := ite_some_none_eq_some.mp hs'
    exact ⟨h.ack serial,
      fun hs => iff_of_false (fun hstuck => hs ((stuck_ack_iff serial).mp hstuck)) id⟩
  | commit serial =>
    obtain ⟨hany, rfl⟩ := ite_some_none_eq_some.mp hs'
    exact ⟨h.commit (committed_commit hany), fun hs => h.stuck_commit_iff hs⟩
  | resize geometry =>
    obtain rfl := some.inj hs'
    exact ⟨h.of_data_eq rfl ⟨rfl, rfl, rfl, rfl, rfl, rfl⟩ id, fun hs => iff_of_false hs id⟩

/-- Once the client has caught up, and there is nothing to send, the values are the pending ones. -/
def Agrees (s : Mapped T Transaction Data) : Prop :=
  s.data.caughtUp = true → s.hasPendingChanges = false →
    s.isWindowedFullscreen = s.isPendingWindowedFullscreen ∧
      s.isMaximized = s.isPendingMaximized ∧ s.sizingMode = s.pendingSizingMode

/-- **The values agree** unless a request got lost. -/
theorem Inv.agrees (h : Inv s) (hs : ¬ s.Stuck) : s.Agrees := by
  intro hcaughtUp hpending
  have hw := h.windowed.eq_nil hcaughtUp
  have hm := h.maximized.eq_nil hcaughtUp
  have hsent : ¬ s.Unsent := fun hunsent => hs ⟨hunsent, hpending⟩
  unfold Unsent sentWindowed sentMaximized at hsent
  rw [hw, hm, not_or, not_ne_iff, not_ne_iff] at hsent
  obtain ⟨hwindowed, hmaximized⟩ := hsent
  have hwindowed : s.isWindowedFullscreen = s.isPendingWindowedFullscreen := hwindowed
  have hmaximized : s.isMaximized = s.isPendingMaximized := hmaximized
  refine ⟨hwindowed, hmaximized, ?_⟩
  obtain ⟨c, hc, hlive⟩ := caughtUp_live hcaughtUp
  have hcurrent : s.data.currentServerState = c.state := by
    rw [currentServerState_eq, hlive]
    rfl
  have hsame := stateChanged_eq_false.mp (Bool.or_eq_false_iff.mp hpending).2
  unfold sizingMode pendingSizingMode
  rw [hwindowed, hmaximized, hc, hsame.sizingMode_eq, hcurrent]

theorem new_inv {t : T} (ht : (ToplevelSurface.data t).Ok) (geometry : Layout.ISize) :
    Inv (new t geometry : Mapped T Transaction Data) := by
  constructor
  · exact ht
  · exact ⟨List.Pairwise.nil, nofun, nofun⟩
  · exact ⟨List.Pairwise.nil, nofun, nofun⟩
  · refine ⟨nofun, fun hp _ => ?_⟩
    have hmode : (ToplevelSurface.data t).pendingState.sizingMode = .maximized :=
      of_decide_eq_true hp
    unfold ToplevelState.sizingMode at hmode
    show (ToplevelSurface.data t).pendingState.fullscreen = false ∧
      (ToplevelSurface.data t).pendingState.maximized = true
    split_ifs at hmode with hfull hmax
    exact ⟨by simpa using hfull, hmax⟩
  · exact Or.inr ⟨rfl, rfl, rfl⟩
  · nofun

/-- **Windowed-fullscreen and maximized state agree with the client** after it has caught up, in
every state of a run in which no step loses a request. -/
theorem sizing_mode_agrees {t : T} (ht : (ToplevelSurface.data t).Ok) (geometry : Layout.ISize)
    (hstart : (new t geometry : Mapped T Transaction Data).isMaximized =
        (new t geometry : Mapped T Transaction Data).isPendingMaximized ∨
      (new t geometry : Mapped T Transaction Data).hasPendingChanges = true)
    {es : List (Event Transaction Data)}
    (hes : Along step (fun s e => ¬ s.Drops e) (new t geometry) es)
    {s : Mapped T Transaction Data} (hs : exec step (new t geometry) es = some s) : s.Agrees := by
  have hnew : ¬ (new t geometry : Mapped T Transaction Data).Stuck := by
    rintro ⟨hunsent, hpending⟩
    rcases hstart with heq | hchanges
    · rcases hunsent with hne | hne
      · exact hne rfl
      · exact hne heq
    · rw [hpending] at hchanges
      cases hchanges
  have hinv : Inv s ∧ ¬ s.Stuck := by
    refine along_invariant (I := fun s => Inv s ∧ ¬ s.Stuck) ?_ ⟨new_inv ht geometry, hnew⟩ hes hs
    rintro s e s' ⟨hinv, hstuck⟩ hdrops hstep
    obtain ⟨hinv', hlost⟩ := hinv.stuck_step_iff hstep
    exact ⟨hinv', fun hs' => hdrops ((hlost hstuck).mp hs')⟩
  exact hinv.1.agrees hinv.2

end Inv

/-! ## A request that gets lost -/

/-- A surface whose client has committed to its initial configure. -/
def committedSurface : ToplevelData where
  serverPending := none
  pendingConfigures := []
  acked := []
  committed := some { serial := 1, state := { (default : ToplevelState) with
    size := some ⟨800, 600⟩ } }
  lastSerial := 1

theorem committedSurface_ok : (ToplevelSurface.data committedSurface).Ok where
  sorted := pairwise_singleton _ _
  le_lastSerial c hc := by
    rw [mem_singleton.mp hc]
    exact le_refl 1

/-- Windowed fullscreen is requested, and the client answers the configure. -/
def answeredRun : List (Event Unit Unit) :=
  [.requestWindowedFullscreen true, .sendPendingConfigure, .ackConfigure 2, .commit 2]

theorem sizing_mode_agrees_answeredRun :
    ∃ s : Mapped ToplevelData Unit Unit,
      exec step (new committedSurface ⟨800, 600⟩) answeredRun = some s ∧
      s.isWindowedFullscreen = true ∧ s.data.caughtUp = true ∧ s.Agrees := by
  have hrun : exec step (new committedSurface ⟨800, 600⟩ : Mapped ToplevelData Unit Unit)
      answeredRun = some _ := rfl
  have hdrops : Along step (fun s e => ¬ s.Drops e)
      (new committedSurface ⟨800, 600⟩ : Mapped ToplevelData Unit Unit) answeredRun := by
    refine fun s₁ h₁ => ⟨id, fun s₂ h₂ => ⟨id, fun s₃ h₃ => ⟨id, fun s₄ h₄ => ⟨?_, trivial⟩⟩⟩⟩
    obtain rfl := some.inj h₁
    obtain rfl := some.inj h₂
    obtain rfl := some.inj h₃
    rintro ⟨-, hne | hne, -⟩
    · exact hne rfl
    · exact hne rfl
  exact ⟨_, hrun, rfl, rfl,
    sizing_mode_agrees committedSurface_ok ⟨800, 600⟩ (Or.inl rfl) hdrops hrun⟩

/-- Fullscreen is requested before the client answers to windowed fullscreen, with the size that it
has. -/
def lostRun : List (Event Unit Unit) :=
  [.requestWindowedFullscreen true, .sendPendingConfigure,
    .requestSize ⟨800, 600⟩ .fullscreen false none, .sendPendingConfigure,
    .ackConfigure 2, .commit 2]

/-- The client catches up, nothing is left to send, and the window is in windowed fullscreen,
which was taken back. -/
theorem lostRun_not_agrees :
    ¬ ∀ s : Mapped ToplevelData Unit Unit,
      exec step (new committedSurface ⟨800, 600⟩) lostRun = some s → s.Agrees := by
  intro h
  have hrun : exec step (new committedSurface ⟨800, 600⟩ : Mapped ToplevelData Unit Unit)
      lostRun = some _ := rfl
  obtain ⟨hwindowed, -⟩ := h _ hrun rfl rfl
  cases hwindowed

end Mapped

end Tiri.Window
