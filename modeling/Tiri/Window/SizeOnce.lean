import Tiri.Window.SizingMode

/-!
# Sizes that are requested once

`request_size_once` asks for a size that the window may give up again: once the client has
committed to it, further configures carry the size that the window has.

Results:
* `Waiting.step`: while the request is waited for, no configure that the client can commit to
  before has the size;
* `imposed_once_iff`: the size is imposed only once exactly when no configure that the client has
  committed to or can still commit to has the size at the time of the request, but for the last
  one.
-/

namespace Tiri.Window

open Run Option List Bool ToplevelData

/-- The event requests a size. -/
def Event.requestsSize {Transaction Data : Type} : Event Transaction Data → Bool
  | .requestSize .. => true
  | .requestSizeOnce .. => true
  | _ => false

namespace Mapped

variable {T Transaction Data : Type} [ToplevelSurface T]

/-- The size that is requested once is imposed only once: after the client has committed to it, in
the states that were asked for, every configure that is sent before the next size request carries
the size that the window has. -/
def ImposedOnce (s : Mapped T Transaction Data) (size : Layout.ISize) (animate : Bool) : Prop :=
  ∀ es₁ es₂ u v w, (∀ e ∈ es₁ ++ es₂, e.requestsSize = false) →
    exec step (s.requestSizeOnceOf size animate) es₁ = some u →
    (∃ c, u.data.committed = some c ∧ s.matchesOnce size c.state = true) →
    exec step u es₂ = some v → v.hasPendingChanges = true →
    step v .sendPendingConfigure = some w →
    ∃ c, w.data.pendingConfigures.getLast? = some c ∧ c.state.size = some v.geometry

/-- The request is waited for: whether a configure was committed to that requests the same, in a
state that satisfies `requested`, shows. -/
def Waiting (requested : ToplevelState → Bool) (s : Mapped T Transaction Data) : Prop :=
  match s.requestSizeOnce with
  | none => False
  | some .waitingForConfigure => ∀ c ∈ s.data.live, requested c.state = false
  | some (.waitingForCommit k) =>
    (∀ c ∈ s.data.live, requested c.state = true → k ≤ c.serial) ∧
      (∀ c, s.data.committed = some c → c.serial < k) ∧ k ≤ s.data.lastSerial
  | some .useWindowSize => True

section Once

variable {s s' : Mapped T Transaction Data}

variable {e : Event Transaction Data} {requested : ToplevelState → Bool} {c : ToplevelConfigure}
variable {size : Layout.ISize} {animate : Bool}

/-- What an event that requests no size does to the configures and to what is waited for. -/
theorem step_once (he : e.requestsSize = false) (hs' : s.step e = some s') :
    (s'.requestSizeOnce = s.requestSizeOnce ∧ s'.data.live.Sublist s.data.live ∧
      s'.data.committed = s.data.committed ∧ s'.data.lastSerial = s.data.lastSerial) ∨
    (∃ c, s.data.lastSerial < c.serial ∧
      s'.requestSizeOnce = s.requestSizeOnce.map (RequestSizeOnce.afterConfigure c.serial) ∧
      s'.data.live = s.data.live ++ [c] ∧ s'.data.committed = s.data.committed ∧
      s'.data.lastSerial = c.serial) ∨
    (∃ c, s'.requestSizeOnce = s.requestSizeOnce.map (RequestSizeOnce.afterCommit c.serial) ∧
      s'.data.live.Sublist s.data.live ∧ s'.data.committed = some c ∧
      s'.data.lastSerial = s.data.lastSerial) := by
  have hquiet : ∀ {u : Mapped T Transaction Data} {f : ToplevelState → ToplevelState},
      u.data = s.data.withPendingState f → u.requestSizeOnce = s.requestSizeOnce →
      u.requestSizeOnce = s.requestSizeOnce ∧ u.data.live.Sublist s.data.live ∧
        u.data.committed = s.data.committed ∧ u.data.lastSerial = s.data.lastSerial := by
    intro u f hdata honce
    rw [hdata]
    exact ⟨honce, List.Sublist.refl _, rfl, rfl⟩
  have hsame : ∀ {u : Mapped T Transaction Data}, u.data = s.data →
      u.requestSizeOnce = s.requestSizeOnce →
      u.requestSizeOnce = s.requestSizeOnce ∧ u.data.live.Sublist s.data.live ∧
        u.data.committed = s.data.committed ∧ u.data.lastSerial = s.data.lastSerial := by
    intro u hdata honce
    rw [hdata]
    exact ⟨honce, List.Sublist.refl _, rfl, rfl⟩
  cases e with
  | requestSize | requestSizeOnce => cases he
  | requestWindowedFullscreen value =>
    obtain rfl := some.inj hs'
    refine Or.inl ?_
    unfold Mapped.requestWindowedFullscreen
    by_cases heq : s.isPendingWindowedFullscreen = value
    · rw [if_pos heq]
      exact hsame rfl rfl
    · rw [if_neg heq]
      exact hquiet (ToplevelSurface.data_withPendingState s.toplevel _) rfl
  | setActivated | setBounds =>
    obtain rfl := some.inj hs'
    exact Or.inl (hquiet (data_withPendingState _ _) rfl)
  | setNeedsConfigure | resize =>
    obtain rfl := some.inj hs'
    exact Or.inl (hsame rfl rfl)
  | setInteractiveResize data =>
    obtain rfl := some.inj hs'
    obtain ⟨resize, heq⟩ := s.setInteractiveResize_eq data
    exact Or.inl (hquiet (s.data_setInteractiveResize data) (by rw [heq]; rfl))
  | sendPendingConfigure =>
    obtain rfl := some.inj hs'
    unfold Mapped.sendPendingConfigure
    split_ifs
    · obtain ⟨serial, hlt, hdata, -, -, -, -, -, -, -, honce⟩ := s.sendConfigure_frame
      refine Or.inr (Or.inl ⟨{ serial, state := s.toSend }, hlt, honce, ?_, ?_, ?_⟩)
      · show s.sendConfigure.data.live = _
        rw [hdata, live_sendConfigure]
        rfl
      · show s.sendConfigure.data.committed = _
        rw [hdata]
        rfl
      · show s.sendConfigure.data.lastSerial = _
        rw [hdata]
        rfl
    · refine Or.inl ?_
      have honce : s.skipConfigure.requestSizeOnce = s.requestSizeOnce := by
        unfold skipConfigure
        split_ifs
        · rfl
        · rfl
      rcases s.skipConfigure_data with hdata | hdata
      · exact hsame hdata honce
      · exact hquiet hdata honce
  | preCommit =>
    obtain rfl := some.inj hs'
    refine Or.inl (hsame s.preCommit_data ?_)
    unfold Mapped.preCommit
    split
    · rfl
    · rfl
  | ackConfigure serial =>
    obtain ⟨-, rfl⟩ := ite_some_none_eq_some.mp hs'
    refine Or.inl ⟨rfl, ?_, ?_, ?_⟩
    · rw [ack_data]
      exact (live_ackConfigure _ _).1
    · rw [ack_data]
      exact committed_ackConfigure _ _
    · rw [ack_data]
      exact lastSerial_ackConfigure _ _
  | commit serial =>
    obtain ⟨hany, rfl⟩ := ite_some_none_eq_some.mp hs'
    obtain ⟨c, hc, hserial⟩ := committed_commit hany
    refine Or.inr (Or.inr ⟨c, ?_, ?_, ?_, ?_⟩)
    · rw [hserial]
      rfl
    · rw [commit_data]
      exact (live_commit _ _).1
    · rw [commit_data]
      exact hc
    · rw [commit_data]
      exact lastSerial_commit _ _

/-- **Waiting goes on** until the client commits to the request. -/
theorem Waiting.step (h : Waiting requested s) (hok : s.data.Ok) (he : e.requestsSize = false)
    (hs' : s.step e = some s') : Waiting requested s' := by
  unfold Waiting at h ⊢
  rcases step_once he hs' with ⟨honce, hlive, hcommitted, hlast⟩ |
    ⟨c, hlt, honce, hlive, hcommitted, hlast⟩ | ⟨c, honce, hlive, hcommitted, hlast⟩
  · rw [honce, hcommitted, hlast]
    cases hro : s.requestSizeOnce with
    | none =>
      rw [hro] at h
      exact h
    | some once =>
      rw [hro] at h
      cases once with
      | waitingForConfigure => exact fun c hc => h c (hlive.subset hc)
      | waitingForCommit k => exact ⟨fun c hc => h.1 c (hlive.subset hc), h.2⟩
      | useWindowSize => trivial
  · rw [honce, hcommitted, hlast, hlive]
    cases hro : s.requestSizeOnce with
    | none =>
      rw [hro] at h
      exact h
    | some once =>
      rw [hro] at h
      cases once with
      | waitingForConfigure =>
        refine ⟨?_, ?_, Nat.le_refl _⟩
        · intro c' hc' hrequested
          rcases mem_append.mp hc' with hc' | hc'
          · rw [h c' hc'] at hrequested
            cases hrequested
          · rw [mem_singleton.mp hc']
        · intro c' hc'
          exact Nat.lt_of_le_of_lt (hok.le_lastSerial c' (mem_live_of_committed hc')) hlt
      | waitingForCommit k =>
        obtain ⟨hlive, hcommitted, hle⟩ := h
        refine ⟨?_, hcommitted, by omega⟩
        intro c' hc' hrequested
        rcases mem_append.mp hc' with hc' | hc'
        · exact hlive c' hc' hrequested
        · rw [mem_singleton.mp hc']
          omega
      | useWindowSize => trivial
  · rw [honce, hcommitted, hlast]
    cases hro : s.requestSizeOnce with
    | none =>
      rw [hro] at h
      exact h
    | some once =>
      rw [hro] at h
      cases once with
      | waitingForConfigure => exact fun c' hc' => h c' (hlive.subset hc')
      | waitingForCommit k =>
        simp only [map_some, RequestSizeOnce.afterCommit]
        by_cases hle : k ≤ c.serial
        · rw [if_pos hle]
          trivial
        · rw [if_neg hle]
          refine ⟨fun c' hc' => h.1 c' (hlive.subset hc'), ?_, h.2.2⟩
          intro c' hc'
          rw [← some.inj hc']
          omega
      | useWindowSize => trivial

theorem useWindowSize_step (he : e.requestsSize = false) (hs' : s.step e = some s')
    (honce : s.requestSizeOnce = some .useWindowSize) :
    s'.requestSizeOnce = some .useWindowSize := by
  rcases step_once he hs' with ⟨h, -⟩ | ⟨c, -, h, -⟩ | ⟨c, h, -⟩
  · rw [h, honce]
  · rw [h, honce]
    rfl
  · rw [h, honce]
    rfl

variable {es : List (Event Transaction Data)}

theorem exec_useWindowSize (hes : ∀ e ∈ es, e.requestsSize = false) (hs' : exec step s es = some s')
    (honce : s.requestSizeOnce = some .useWindowSize) :
    s'.requestSizeOnce = some .useWindowSize := by
  induction es generalizing s with
  | nil =>
    rw [exec_nil, some.injEq] at hs'
    exact hs' ▸ honce
  | cons e es ih =>
    obtain ⟨u, hu, hs'⟩ := exec_cons_eq_some.mp hs'
    exact ih (fun e' he' => hes e' (mem_cons_of_mem _ he')) hs'
      (useWindowSize_step (hes e (mem_cons_self ..)) hu honce)

theorem exec_waiting (hes : ∀ e ∈ es, e.requestsSize = false) (hs' : exec step s es = some s')
    (hinv : Inv s) (h : Waiting requested s) : Waiting requested s' := by
  induction es generalizing s with
  | nil =>
    rw [exec_nil, some.injEq] at hs'
    exact hs' ▸ h
  | cons e es ih =>
    obtain ⟨u, hu, hs'⟩ := exec_cons_eq_some.mp hs'
    exact ih (fun e' he' => hes e' (mem_cons_of_mem _ he')) hs' (hinv.stuck_step_iff hu).1
      (h.step hinv.ok (hes e (mem_cons_self ..)) hu)

/-- Once the client has committed to the request, the window has its own size. -/
theorem Waiting.useWindowSize (h : Waiting requested s) (hc : s.data.committed = some c)
    (hrequested : requested c.state = true) : s.requestSizeOnce = some .useWindowSize := by
  have hlive := mem_live_of_committed hc
  unfold Waiting at h
  cases hro : s.requestSizeOnce with
  | none =>
    rw [hro] at h
    exact h.elim
  | some once =>
    rw [hro] at h
    cases once with
    | waitingForConfigure =>
      rw [h c hlive] at hrequested
      cases hrequested
    | waitingForCommit k =>
      have hle := h.1 c hlive hrequested
      have hlt := h.2.1 c hc
      omega
    | useWindowSize => rfl

/-- What a configure carries. -/
theorem sendPendingConfigure_last (hpending : s.hasPendingChanges = true) :
    ∃ serial, s.sendPendingConfigure.data.pendingConfigures.getLast? =
      some { serial, state := s.toSend } := by
  obtain ⟨serial, -, hdata, -⟩ := s.sendConfigure_frame
  refine ⟨serial, ?_⟩
  have heq : s.sendPendingConfigure.data = s.sendConfigure.data := by
    unfold Mapped.sendPendingConfigure
    rw [if_pos hpending]
    rfl
  rw [heq, hdata]
  exact List.getLast?_concat ..

theorem lastUncommittedConfigure_getLast? (hc : s.lastUncommittedConfigure = some c) :
    s.data.live.getLast? = some c := by
  rw [live_getLast?_eq]
  unfold lastUncommittedConfigure at hc
  cases hpending : s.data.pendingConfigures.getLast? with
  | some last =>
    rw [hpending] at hc
    exact hc
  | none =>
    rw [hpending] at hc
    cases hacked : s.data.lastAcked with
    | none =>
      rw [hacked] at hc
      cases hc
    | some acked =>
      simp only [hacked] at hc
      split_ifs at hc
      exact hc

/-- At the time of the request, no configure that the client has committed to or can still commit
to requests the same, but for the last one, and that is not committed to. -/
def OnlyLastMatches (s : Mapped T Transaction Data) (size : Layout.ISize) : Prop :=
  ∀ c ∈ s.data.live, s.matchesOnce size c.state = true → s.lastUncommittedConfigure = some c

theorem alreadySent_isSome (size : Layout.ISize) : (s.alreadySent size).isSome =
    s.lastUncommittedConfigure.any fun c => s.matchesOnce size c.state := by
  unfold alreadySent
  cases s.lastUncommittedConfigure with
  | none => rfl
  | some c =>
    rw [filter_some, any_some]
    by_cases hmatches : s.matchesOnce size c.state = true
    · rw [if_pos hmatches, hmatches]
      rfl
    · rw [if_neg hmatches, not_eq_true _ |>.mp hmatches]
      rfl

/-- The request is waited for. -/
theorem waiting_requestSizeOnceOf (hok : s.data.Ok) (h : s.OnlyLastMatches size ∨
      s.data.committed = none ∧
        (s.lastUncommittedConfigure.any fun c => s.matchesOnce size c.state) = true) :
    Waiting (s.matchesOnce size) (s.requestSizeOnceOf size animate) := by
  unfold Waiting
  cases hsent : s.alreadySent size with
  | some serial =>
    obtain ⟨hdata, honce⟩ := requestSizeOnceOf_of_sent s size animate hsent
    obtain ⟨last, hlast, -, hserial⟩ := alreadySent_eq_some s size hsent
    obtain ⟨-, hlt⟩ := lastUncommittedConfigure_spec s hok hlast
    rw [honce, onceAfterSent_eq s (hserial ▸ hlt), hdata]
    cases hcommitted : s.data.committed with
    | none => trivial
    | some c =>
      have hcond : s.OnlyLastMatches size := by
        rcases h with h | ⟨hnone, -⟩
        · exact h
        · rw [hcommitted] at hnone
          cases hnone
      refine ⟨?_, ?_, ?_⟩
      · intro c' hc' hmatches
        have heq := hcond c' hc' hmatches
        rw [hlast, some.injEq] at heq
        rw [← heq, hserial]
      · intro c' hc'
        rw [← hserial]
        exact hlt c' (hcommitted.trans hc')
      · rw [← hserial]
        exact hok.le_lastSerial last
          (mem_of_getLast? (lastUncommittedConfigure_getLast? hlast))
  | none =>
    obtain ⟨hdata, honce⟩ := requestSizeOnceOf_of_not_sent s size animate hsent
    rw [honce, hdata]
    intro c hc
    rw [← not_eq_true]
    intro hmatches
    rcases h with h | ⟨-, hsome⟩
    · unfold alreadySent at hsent
      rw [h c hc hmatches, filter_some, hmatches] at hsent
      cases hsent
    · rw [← alreadySent_isSome, hsent] at hsome
      cases hsome

/-- **The size is imposed only once.** -/
theorem Inv.imposedOnce (hinv : Inv s) (h : s.OnlyLastMatches size ∨
      s.data.committed = none ∧
        (s.lastUncommittedConfigure.any fun c => s.matchesOnce size c.state) = true) :
    s.ImposedOnce size animate := by
  rintro es₁ es₂ u v w hes hu ⟨c, hc, hmatches⟩ hv hpending hw
  have hwaiting := exec_waiting (fun e he => hes e (mem_append_left _ he)) hu
    (hinv.requestSizeOnceOf s size animate) (waiting_requestSizeOnceOf hinv.ok h)
  have honce := exec_useWindowSize (fun e he => hes e (mem_append_right _ he)) hv
    (hwaiting.useWindowSize hc hmatches)
  obtain rfl := some.inj hw
  obtain ⟨serial, hlast⟩ := v.sendPendingConfigure_last hpending
  refine ⟨_, hlast, ?_⟩
  show v.toSend.size = some v.geometry
  unfold toSend usesWindowSize
  rw [honce]
  rfl

/-! ### When the client can commit to an older configure -/

/-- The client can commit to every configure that it can still answer to. -/
theorem exists_commit (hok : s.data.Ok) (hc : c ∈ s.data.live) {once : RequestSizeOnce}
    (honce : s.requestSizeOnce = some once) (hkept : once.afterCommit c.serial = once) :
    ∃ es u, (∀ e ∈ es, e.requestsSize = false) ∧ exec step s es = some u ∧
      u.data.committed = some c ∧ u.requestSizeOnce = some once := by
  have hcommit : ∀ {v : Mapped T Transaction Data}, v.data.Ok → c ∈ v.data.acked →
      v.requestSizeOnce = some once → ∃ u, v.step (.commit c.serial) = some u ∧
        u.data.committed = some c ∧ u.requestSizeOnce = some once := by
    intro v hok hacked honce
    have hmem : c ∈ v.data.committed.toList ++ v.data.acked := mem_append_right _ hacked
    have hany : ((v.data.committed.toList ++ v.data.acked).any fun c' =>
        c'.serial = c.serial) = true :=
      any_eq_true.mpr ⟨c, hmem, decide_eq_true rfl⟩
    refine ⟨_, if_pos hany, ?_, ?_⟩
    · obtain ⟨c', hc', hserial⟩ := committed_commit hany
      have hlive' : c' ∈ v.data.live := by
        refine (live_commit v.data c.serial).1.subset ?_
        exact mem_live_of_committed hc'
      rw [commit_data, hc', hok.eq_of_serial hlive' (mem_append_left _ hmem) hserial]
    · show v.requestSizeOnce.map _ = _
      rw [honce, map_some, hkept]
  unfold ToplevelData.live at hc
  rw [mem_append, mem_append] at hc
  rcases hc with (hc | hc) | hc
  · exact ⟨[], s, nofun, rfl, mem_toList.mp hc, honce⟩
  · obtain ⟨u, hu, hcommitted, honce⟩ := hcommit hok hc honce
    refine ⟨[.commit c.serial], u, ?_, ?_, hcommitted, honce⟩
    · intro e he
      rw [mem_singleton.mp he]
      rfl
    · exact exec_cons_eq_some.mpr ⟨u, hu, rfl⟩
  · have hany : (s.data.pendingConfigures.any fun c' => c'.serial = c.serial) = true :=
      any_eq_true.mpr ⟨c, hc, decide_eq_true rfl⟩
    let toplevel := ToplevelSurface.ackConfigure s.toplevel c.serial
    let v : Mapped T Transaction Data := { s with toplevel }
    have hack : s.step (.ackConfigure c.serial) = some v := if_pos hany
    have hdata : v.data = s.data.ackConfigure c.serial := ack_data s c.serial
    have hok' : v.data.Ok := hdata ▸ hok.ackConfigure c.serial
    have hacked : c ∈ v.data.acked := hdata ▸ hok.mem_acked_ackConfigure hc
    obtain ⟨u, hu, hcommitted, honce⟩ := hcommit hok' hacked honce
    refine ⟨[.ackConfigure c.serial, .commit c.serial], u, ?_, ?_, hcommitted, honce⟩
    · intro e he
      rcases mem_pair.mp he with rfl | rfl
      · rfl
      · rfl
    · exact exec_cons_eq_some.mpr ⟨_, hack, exec_cons_eq_some.mpr ⟨u, hu, rfl⟩⟩

/-- While the size is still asked for, a configure carries a size that the window does not have. -/
theorem exists_imposed (honce : s.requestSizeOnce ≠ some .useWindowSize) :
    ∃ es v w, (∀ e ∈ es, e.requestsSize = false) ∧ exec step s es = some v ∧
      v.hasPendingChanges = true ∧ step v .sendPendingConfigure = some w ∧
      ∀ c, w.data.pendingConfigures.getLast? = some c → c.state.size ≠ some v.geometry := by
  obtain ⟨geometry, hgeometry⟩ : ∃ geometry, s.data.pendingState.size ≠ some geometry := by
    by_cases hzero : s.data.pendingState.size = some ⟨0, 0⟩
    · refine ⟨⟨1, 1⟩, ?_⟩
      rw [hzero]
      simp
    · exact ⟨⟨0, 0⟩, hzero⟩
  let active := !s.data.currentServerState.activated
  let v : Mapped T Transaction Data := { s with geometry }.setActivated active
  have hdata : v.data = s.data.withPendingState fun state => { state with activated := active } :=
    data_withPendingState _ _
  have huses : v.usesWindowSize = false := decide_eq_false honce
  have hpending : v.hasPendingChanges = true := by
    unfold hasPendingChanges
    rw [or_eq_true]
    right
    rw [← not_eq_false]
    intro hsame
    have hsent := stateChanged_eq_false.mp hsame
    rw [huses, hdata] at hsent
    have hactivated : active = s.data.currentServerState.activated :=
      congrArg ToplevelState.activated hsent
    exact not_ne_self _ hactivated
  obtain ⟨serial, hlast⟩ := v.sendPendingConfigure_last hpending
  refine ⟨[.resize geometry, .setActivated active], v, _, ?_, rfl, hpending, rfl, ?_⟩
  · intro e he
    rcases mem_pair.mp he with rfl | rfl
    · rfl
    · rfl
  · intro c hc
    rw [hlast, some.injEq] at hc
    rw [← hc]
    show v.toSend.size ≠ some geometry
    unfold toSend
    rw [huses, hdata]
    exact hgeometry

/-- **The size is imposed again** when the client can commit to an older configure that requests
the same. -/
theorem Inv.not_imposedOnce (hinv : Inv s)
    (hnot : ¬ (s.OnlyLastMatches size ∨ s.data.committed = none ∧
      (s.lastUncommittedConfigure.any fun c => s.matchesOnce size c.state) = true)) :
    ¬ s.ImposedOnce size animate := by
  obtain ⟨honly, hcommitted⟩ := not_or.mp hnot
  obtain ⟨c, hc⟩ := not_forall.mp honly
  obtain ⟨hlive, hc⟩ := Classical.not_imp.mp hc
  obtain ⟨hmatches, hne⟩ := Classical.not_imp.mp hc
  -- The window does not take its own size before the client commits to a newer configure.
  obtain ⟨once, honce, hkept, huse, hlive'⟩ : ∃ once,
      (s.requestSizeOnceOf size animate).requestSizeOnce = some once ∧
      once.afterCommit c.serial = once ∧ once ≠ .useWindowSize ∧
      c ∈ (s.requestSizeOnceOf size animate).data.live := by
    cases hsent : s.alreadySent size with
    | none =>
      obtain ⟨hdata, honce⟩ := requestSizeOnceOf_of_not_sent s size animate hsent
      refine ⟨.waitingForConfigure, honce, rfl, nofun, ?_⟩
      rw [hdata]
      exact hlive
    | some serial =>
      obtain ⟨hdata, honce⟩ := requestSizeOnceOf_of_sent s size animate hsent
      obtain ⟨last, hlast, -, hserial⟩ := alreadySent_eq_some s size hsent
      obtain ⟨-, hlt⟩ := lastUncommittedConfigure_spec s hinv.ok hlast
      have hlt' : c.serial < serial := by
        rw [← hserial]
        refine hinv.ok.lt_last hlive (lastUncommittedConfigure_getLast? hlast) ?_
        rintro rfl
        exact hne hlast
      rw [onceAfterSent_eq s (hserial ▸ hlt)] at honce
      cases hcommitted' : s.data.committed with
      | none =>
        refine absurd ⟨hcommitted', ?_⟩ hcommitted
        rw [← alreadySent_isSome, hsent]
        rfl
      | some current =>
        rw [hcommitted'] at honce
        refine ⟨.waitingForCommit serial, honce, if_neg (by omega), nofun, ?_⟩
        rw [hdata]
        exact hlive
  obtain ⟨es₁, u, hes₁, hu, hcommitted, honce⟩ :=
    exists_commit (hinv.requestSizeOnceOf s size animate).ok hlive' honce hkept
  obtain ⟨es₂, v, w, hes₂, hv, hpending, hw, hsize⟩ :=
    exists_imposed (s := u) fun h => huse (some.inj (honce.symm.trans h))
  intro himposed
  have hes : ∀ e ∈ es₁ ++ es₂, e.requestsSize = false := by
    intro e he
    exact (mem_append.mp he).elim (hes₁ e) (hes₂ e)
  obtain ⟨c', hlast, hsize'⟩ :=
    himposed es₁ es₂ u v w hes hu ⟨c, hcommitted, hmatches⟩ hv hpending hw
  exact hsize c' hlast hsize'

/-- **A size is imposed only once** after it was requested, whatever the window and its client did
before, exactly when no configure that the client has committed to, or can still commit to, requests
the same at that time, but for the last one where it is not committed to. -/
theorem imposed_once_iff {t : T} (ht : (ToplevelSurface.data t).Ok) (geometry : Layout.ISize)
    {es : List (Event Transaction Data)} (hs : exec step (new t geometry) es = some s)
    (size : Layout.ISize) (animate : Bool) :
    s.ImposedOnce size animate ↔ s.OnlyLastMatches size ∨ s.data.committed = none ∧
      (s.lastUncommittedConfigure.any fun c => s.matchesOnce size c.state) = true := by
  have hinv : Inv s :=
    exec_invariant (fun _ _ _ h hstep => (h.stuck_step_iff hstep).1) (new_inv ht geometry) hs
  constructor
  · intro himposed
    by_contra hnot
    exact hinv.not_imposedOnce hnot himposed
  · exact fun h => hinv.imposedOnce h

end Once

/-! ## A size that is imposed again -/

/-- A size is requested once and sent. -/
def sentOnceRun : List (Event Unit Unit) :=
  [.requestSizeOnce ⟨640, 480⟩ false, .sendPendingConfigure]

theorem imposed_once_iff_sentOnceRun :
    ∃ s : Mapped ToplevelData Unit Unit,
      exec step (new committedSurface ⟨800, 600⟩) sentOnceRun = some s ∧
      s.ImposedOnce ⟨640, 480⟩ false := by
  have hrun : exec step (new committedSurface ⟨800, 600⟩ : Mapped ToplevelData Unit Unit)
      sentOnceRun = some _ := rfl
  refine ⟨_, hrun, ?_⟩
  refine (imposed_once_iff committedSurface_ok ⟨800, 600⟩ hrun ⟨640, 480⟩ false).mpr (Or.inl ?_)
  intro c hc
  rcases mem_pair.mp hc with rfl | rfl
  · intro hmatches
    exact absurd hmatches (by decide)
  · exact fun _ => rfl

/-- A window resizes itself. -/
def resizedRun : List (Event Unit Unit) := [.resize ⟨700, 500⟩]

/-- The client has committed to the size already, and the window gets it again when it is
activated. -/
theorem resizedRun_not_imposedOnce :
    ¬ ∀ s : Mapped ToplevelData Unit Unit,
      exec step (new committedSurface ⟨800, 600⟩) resizedRun = some s →
      s.ImposedOnce ⟨800, 600⟩ false := by
  intro h
  have hrequests : ∀ e ∈ ([] ++ [.setActivated true] : List (Event Unit Unit)),
      e.requestsSize = false := by
    intro e he
    rw [mem_singleton.mp he]
    rfl
  obtain ⟨c, hlast, hsize⟩ :=
    h _ rfl [] [.setActivated true] _ _ _ hrequests rfl ⟨_, rfl, rfl⟩ rfl rfl rfl
  obtain rfl := some.inj hlast
  have hne : (⟨800, 600⟩ : Layout.ISize) = ⟨700, 500⟩ := some.inj hsize
  cases hne

end Mapped

end Tiri.Window
