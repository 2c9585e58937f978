import Tiri.Lib.Run
import Tiri.Screencasting.Casting

/-!
# What a dynamic cast shows

`set_dynamic_cast_target` (`src/screencasting/mod.rs`) sets the target of every dynamic cast.  When
a target goes away, `stop_casts_for_target` leaves its dynamic casts to an idle callback, which
sets the target of every dynamic cast to nothing when it runs.

Results:
* `reaches_iff`: a call sets the target of every dynamic cast that is still running exactly when
  each cast whose refresh rate cannot be set has the target already, or its session is stopped;
* `dynamicTarget_shown`: the casts show what was chosen all along a run exactly when every call is
  such a call, and no idle callback finds casts with another target chosen since;
* `leftBehind`, `choiceLost`: the two ways to show something else.
-/

namespace Tiri.Casting

open Option List
open Multiset hiding foldl_cons mem_cons mem_singleton mem_singleton_self

namespace Screencasting

variable (s : Screencasting) (a : Answers) {s' : Screencasting} {target : CastTarget}

/-! ## Which casts are left -/

variable {cast : Cast} {sessionId : ℕ}

theorem mem_casts_stopCast :
    cast ∈ (s.stopCast sessionId).casts ↔ cast ∈ s.casts ∧ cast.sessionId ≠ sessionId := by
  rw [(s.casts_stopCast sessionId).mem_iff, mem_filter, decide_eq_true_iff]

variable {p : PendingCast}

theorem mem_pending_stopCast :
    p ∈ (s.stopCast sessionId).pendingDynamicCasts ↔
      p ∈ s.pendingDynamicCasts ∧ p.sessionId ≠ sessionId := by
  rw [stopCast, mem_filter, decide_eq_true_iff]

variable {sessionIds : List ℕ}

theorem mem_casts_stopCasts :
    cast ∈ (s.stopCasts sessionIds).casts ↔ cast ∈ s.casts ∧ cast.sessionId ∉ sessionIds := by
  induction sessionIds generalizing s with
  | nil => simp [stopCasts]
  | cons sessionId sessionIds ih =>
    have h := ih (s.stopCast sessionId)
    rw [stopCasts] at h
    rw [stopCasts, foldl_cons, h, mem_casts_stopCast, mem_cons, not_or, and_assoc]

theorem mem_pending_stopCasts :
    p ∈ (s.stopCasts sessionIds).pendingDynamicCasts ↔
      p ∈ s.pendingDynamicCasts ∧ p.sessionId ∉ sessionIds := by
  induction sessionIds generalizing s with
  | nil => simp [stopCasts]
  | cons sessionId sessionIds ih =>
    have h := ih (s.stopCast sessionId)
    rw [stopCasts] at h
    rw [stopCasts, foldl_cons, h, mem_pending_stopCast, mem_cons, not_or, and_assoc]

/-- The session of a cast whose window is found and whose stream does not take the size. -/
def sizeFails (cast : Cast) : Bool :=
  match cast.target with
  | .window id => a.castParamsForWindow id && !a.ensureSize cast.streamId
  | _ => false

theorem redrawCast_eq (h : (s.casts.map (·.streamId)).Nodup) (hcast : cast ∈ s.casts) :
    s.redrawCast a cast.streamId = if sizeFails a cast then s.stopCast cast.sessionId else s := by
  have hfind : s.casts.find? (·.streamId = cast.streamId) = some cast := by
    cases hfound : s.casts.find? (·.streamId = cast.streamId) with
    | none =>
      have hne := List.find?_eq_none.mp hfound cast hcast
      exact absurd (decide_eq_true rfl) hne
    | some other =>
      have hid : other.streamId = cast.streamId := by simpa using List.find?_some hfound
      rw [inj_on_of_nodup_map h (mem_of_find?_eq_some hfound) hcast hid]
  unfold redrawCast sizeFails
  rw [hfind]
  dsimp only
  cases cast.target with
  | nothing | output _ _ => rfl
  | window id => rfl

theorem redrawCast_none {streamId : ℕ} (h : ∀ cast ∈ s.casts, cast.streamId ≠ streamId) :
    s.redrawCast a streamId = s := by
  have hfind : s.casts.find? (·.streamId = streamId) = none :=
    List.find?_eq_none.mpr fun cast hcast => by simpa using h cast hcast
  rw [redrawCast, hfind]

/-- Redrawing casts stops the sessions of those that do not take their size. -/
theorem redrawCasts_eq (h : (s.casts.map (·.streamId)).Nodup) (streamIds : List ℕ) :
    ∃ sessionIds, streamIds.foldl (fun s streamId => s.redrawCast a streamId) s =
        s.stopCasts sessionIds ∧
      ∀ sessionId, sessionId ∈ sessionIds ↔ ∃ cast ∈ s.casts,
        cast.sessionId = sessionId ∧ cast.streamId ∈ streamIds ∧ sizeFails a cast = true := by
  induction streamIds generalizing s with
  | nil => exact ⟨[], rfl, by simp⟩
  | cons streamId streamIds ih =>
    rw [foldl_cons]
    by_cases hthere : ∃ cast ∈ s.casts, cast.streamId = streamId
    · obtain ⟨cast, hcast, rfl⟩ := hthere
      rw [s.redrawCast_eq a h hcast]
      by_cases hfails : sizeFails a cast = true
      · rw [if_pos hfails]
        have hnodup : ((s.stopCast cast.sessionId).casts.map (·.streamId)).Nodup :=
          ((s.casts_stopCast _).map _).nodup_iff.mpr (h.sublist (filter_sublist.map _))
        obtain ⟨sessionIds, hrun, hmem⟩ := ih (s.stopCast cast.sessionId) hnodup
        refine ⟨cast.sessionId :: sessionIds, hrun, fun sessionId => ?_⟩
        rw [mem_cons, hmem]
        constructor
        · rintro (rfl | ⟨other, hother, hsession, hstream, hother_fails⟩)
          · exact ⟨cast, hcast, rfl, mem_cons_self, hfails⟩
          · exact ⟨other, ((s.mem_casts_stopCast).mp hother).1, hsession,
              mem_cons_of_mem _ hstream, hother_fails⟩
        · rintro ⟨other, hother, hsession, hstream, hother_fails⟩
          by_cases hsame : sessionId = cast.sessionId
          · exact .inl hsame
          · have hne : other.sessionId ≠ cast.sessionId := fun heq => hsame (hsession ▸ heq)
            refine .inr ⟨other, (s.mem_casts_stopCast).mpr ⟨hother, hne⟩, hsession, ?_,
              hother_fails⟩
            refine (mem_cons.mp hstream).resolve_left fun hid => hne ?_
            rw [inj_on_of_nodup_map h hother hcast hid]
      · rw [if_neg hfails]
        obtain ⟨sessionIds, hrun, hmem⟩ := ih s h
        refine ⟨sessionIds, hrun, fun sessionId => ?_⟩
        rw [hmem]
        refine exists_congr fun other => and_congr_right fun hother => and_congr_right fun _ => ?_
        refine and_congr_left fun hother_fails => ?_
        rw [mem_cons, or_iff_right]
        intro hid
        rw [inj_on_of_nodup_map h hother hcast hid] at hother_fails
        exact hfails hother_fails
    · have hnone : ∀ cast ∈ s.casts, cast.streamId ≠ streamId := fun cast hcast hid =>
        hthere ⟨cast, hcast, hid⟩
      rw [s.redrawCast_none a hnone]
      obtain ⟨sessionIds, hrun, hmem⟩ := ih s h
      refine ⟨sessionIds, hrun, fun sessionId => ?_⟩
      rw [hmem]
      refine exists_congr fun other => and_congr_right fun hother => and_congr_right fun _ => ?_
      rw [mem_cons, or_iff_right (hnone other hother)]

/-! ## Changing the target -/

/-- The new target is there. -/
def found : CastTarget → Bool
  | .nothing => false
  | .output output _ => a.upgrade output
  | .window id => a.castParamsForWindow id

/-- Starting the casts that wait stops the session. -/
def StartStops (target : CastTarget) (sessionId : ℕ) : Prop :=
  found a target = true ∧ ∃ p ∈ s.pendingDynamicCasts, p.sessionId = sessionId ∧
    ¬(a.preparePwCast = true ∧ a.startCast p.streamId = true)

/-- Setting the target stops the session. -/
def SetStops (target : CastTarget) (sessionId : ℕ) : Prop :=
  (∃ cast ∈ s.casts, retargets a target cast = true ∧ cast.sessionId = sessionId ∧
      sizeFails a { cast with target } = true) ∨
    s.StartStops a target sessionId

/-- Every dynamic cast has the target, takes it, or stops. -/
def Reaches (target : CastTarget) : Prop :=
  ∀ cast ∈ s.casts, cast.dynamicTarget = true →
    cast.target = target ∨ retargets a target cast = true ∨ s.SetStops a target cast.sessionId

/-- The casts that wait and can be started. -/
def startable : List PendingCast := s.pendingDynamicCasts.filter fun p => a.startCast p.streamId

/-- The casts that wait and cannot be started. -/
def unstartable : List PendingCast := s.pendingDynamicCasts.filter fun p => !a.startCast p.streamId

theorem startPendingDynamicCasts_eq (target : CastTarget) :
    s.startPendingDynamicCasts a target = if s.pendingDynamicCasts.isEmpty || !found a target then s
      else
        if !a.preparePwCast then
          { s with pendingDynamicCasts := [] }.stopCasts
            (a.hashOrder.iter (s.pendingDynamicCasts.map PendingCast.sessionId).toFinset)
        else
          { s with
            pendingDynamicCasts := []
            pipewire := true
            casts := s.casts ++ (s.startable a).map (PendingCast.start · target) }.stopCasts
            (a.hashOrder.iter ((s.unstartable a).map PendingCast.sessionId).toFinset) := by
  cases target <;> rfl

/-- The casts that ran before go on unless their session is stopped; the others have the target. -/
theorem mem_casts_startPending (target : CastTarget) (cast : Cast) :
    (cast ∈ s.casts → ¬s.StartStops a target cast.sessionId →
        cast ∈ (s.startPendingDynamicCasts a target).casts) ∧
      (cast ∈ (s.startPendingDynamicCasts a target).casts →
        cast ∈ s.casts ∧ ¬s.StartStops a target cast.sessionId ∨ cast.target = target) := by
  rw [startPendingDynamicCasts_eq]
  by_cases hstarts : (s.pendingDynamicCasts.isEmpty || !found a target) = true
  · rw [if_pos hstarts]
    refine ⟨fun hcast _ => hcast, fun hcast => .inl ⟨hcast, ?_⟩⟩
    rintro ⟨hfound, p, hp, -, -⟩
    rw [hfound, Bool.not_true, Bool.or_false, List.isEmpty_iff] at hstarts
    rw [hstarts] at hp
    exact not_mem_nil hp
  rw [if_neg hstarts]
  have hfound : found a target = true := by
    simp only [Bool.or_eq_true, Bool.not_eq_true', not_or, Bool.not_eq_false] at hstarts
    exact hstarts.2
  by_cases hprepare : a.preparePwCast = true
  · rw [if_neg (by simpa using hprepare), mem_casts_stopCasts]
    have hstops : cast.sessionId ∈ a.hashOrder.iter
        ((s.unstartable a).map PendingCast.sessionId).toFinset ↔
          s.StartStops a target cast.sessionId := by
      rw [a.hashOrder.mem_iter, List.mem_toFinset, List.mem_map]
      simp only [StartStops, hfound, hprepare, unstartable, mem_filter, Bool.not_eq_true',
        true_and, Bool.not_eq_true, and_assoc]
      exact exists_congr fun p => and_congr_right fun _ => and_comm
    rw [hstops, mem_append]
    refine ⟨fun hcast hgoes => ⟨.inl hcast, hgoes⟩, ?_⟩
    rintro ⟨hcast | hnew, hgoes⟩
    · exact .inl ⟨hcast, hgoes⟩
    · obtain ⟨p, -, rfl⟩ := List.mem_map.mp hnew
      exact .inr rfl
  · rw [if_pos (by simpa using hprepare), mem_casts_stopCasts]
    have hstops : cast.sessionId ∈ a.hashOrder.iter
        (s.pendingDynamicCasts.map PendingCast.sessionId).toFinset ↔
          s.StartStops a target cast.sessionId := by
      rw [a.hashOrder.mem_iter, List.mem_toFinset, List.mem_map]
      simp only [StartStops, hfound, hprepare, Bool.false_eq_true, true_and, false_and,
        not_false_eq_true, and_true]
    rw [hstops]
    exact ⟨fun hcast hgoes => ⟨hcast, hgoes⟩, fun hcast => .inl hcast⟩

theorem streamIds_retargeted (target : CastTarget) :
    (s.retargeted a target).casts.map (·.streamId) = s.casts.map (·.streamId) := by
  rw [retargeted, List.map_map]
  refine map_congr_left fun cast _ => ?_
  rw [Function.comp_apply]
  split_ifs <;> rfl

/-- The same for the whole call. -/
theorem mem_casts_setDynamicCastTarget (h : s.Distinct) (target : CastTarget) :
    (∀ cast ∈ s.casts, ¬s.SetStops a target cast.sessionId →
        (if retargets a target cast then { cast with target } else cast) ∈
          (s.setDynamicCastTarget a target).casts) ∧
      (∀ cast ∈ (s.setDynamicCastTarget a target).casts, cast.target = target ∨
        cast ∈ s.casts ∧ retargets a target cast = false ∧
          ¬s.SetStops a target cast.sessionId) := by
  have hnodup : ((s.retargeted a target).casts.map (·.streamId)).Nodup :=
    s.streamIds_retargeted a target ▸ h.casts
  obtain ⟨sessionIds, hredraw, hmem⟩ :=
    (s.retargeted a target).redrawCasts_eq a hnodup (s.toRedraw a target)
  -- What is redrawn is what has been retargeted.
  have hstopped (sessionId : ℕ) : sessionId ∈ sessionIds ↔ ∃ cast ∈ s.casts,
      retargets a target cast = true ∧ cast.sessionId = sessionId ∧
        sizeFails a { cast with target } = true := by
    rw [hmem]
    constructor
    · rintro ⟨cast, hcast, hsession, hstream, hfails⟩
      obtain ⟨cast₀, hcast₀, rfl⟩ := List.mem_map.mp hcast
      obtain ⟨cast₁, hcast₁, hid⟩ := List.mem_map.mp hstream
      obtain ⟨hcast₁, hretargets⟩ := mem_filter.mp hcast₁
      have hsame : cast₁.streamId = cast₀.streamId := by
        rw [hid]
        split_ifs <;> rfl
      obtain rfl : cast₁ = cast₀ := inj_on_of_nodup_map h.casts hcast₁ hcast₀ hsame
      rw [if_pos hretargets] at hsession hfails
      exact ⟨cast₁, hcast₁, hretargets, hsession, hfails⟩
    · rintro ⟨cast, hcast, hretargets, hsession, hfails⟩
      refine ⟨{ cast with target }, List.mem_map.mpr ⟨cast, hcast, if_pos hretargets⟩, hsession,
        ?_, hfails⟩
      exact List.mem_map.mpr ⟨cast, mem_filter.mpr ⟨hcast, hretargets⟩, rfl⟩
  -- A session that a failed start stops is stopped, be it for the size already.
  have hstops (sessionId : ℕ) : s.SetStops a target sessionId ↔
      sessionId ∈ sessionIds ∨
        ((s.retargeted a target).stopCasts sessionIds).StartStops a target sessionId := by
    rw [SetStops, ← hstopped]
    by_cases hsize : sessionId ∈ sessionIds
    · exact iff_of_true (.inl hsize) (.inl hsize)
    · rw [or_iff_right hsize, or_iff_right hsize, StartStops, StartStops]
      refine and_congr_right fun _ => exists_congr fun p => ?_
      rw [mem_pending_stopCasts]
      constructor
      · rintro ⟨hp, rfl, hfails⟩
        exact ⟨⟨hp, hsize⟩, rfl, hfails⟩
      · rintro ⟨⟨hp, -⟩, hsession, hfails⟩
        exact ⟨hp, hsession, hfails⟩
  have hsplit (cast : Cast) :
      (cast ∈ (s.retargeted a target).casts → ¬s.SetStops a target cast.sessionId →
          cast ∈ (s.setDynamicCastTarget a target).casts) ∧
        (cast ∈ (s.setDynamicCastTarget a target).casts →
          cast ∈ (s.retargeted a target).casts ∧ ¬s.SetStops a target cast.sessionId ∨
            cast.target = target) := by
    rw [setDynamicCastTarget_eq, hredraw, hstops, not_or]
    have hstart := mem_casts_startPending
      ((s.retargeted a target).stopCasts sessionIds) a target cast
    rw [mem_casts_stopCasts] at hstart
    by_cases htarget : target = .nothing
    · rw [if_neg (not_not.mpr htarget), mem_casts_stopCasts]
      have hnone : ¬((s.retargeted a target).stopCasts sessionIds).StartStops a target
          cast.sessionId := by
        rintro ⟨hfound, -⟩
        rw [htarget] at hfound
        exact Bool.false_ne_true hfound
      exact ⟨fun hcast hgoes => ⟨hcast, hgoes.1⟩, fun hcast => .inl ⟨hcast.1, hcast.2, hnone⟩⟩
    · rw [if_pos htarget]
      refine ⟨fun hcast hgoes => hstart.1 ⟨hcast, hgoes.1⟩ hgoes.2, fun hcast => ?_⟩
      exact (hstart.2 hcast).imp_left fun hold => ⟨hold.1.1, hold.1.2, hold.2⟩
  constructor
  · intro cast hcast hgoes
    refine (hsplit _).1 (mem_map_of_mem hcast) ?_
    split_ifs <;> exact hgoes
  · intro cast hcast
    rcases (hsplit cast).2 hcast with ⟨hold, hgoes⟩ | htarget
    · obtain ⟨cast₀, hcast₀, rfl⟩ := List.mem_map.mp hold
      by_cases hretargets : retargets a target cast₀ = true
      · rw [if_pos hretargets]
        exact .inl rfl
      · rw [if_neg hretargets] at hgoes ⊢
        exact .inr ⟨hcast₀, Bool.eq_false_of_not_eq_true hretargets, hgoes⟩
    · exact .inl htarget

/-- **A call sets the target of every dynamic cast that is still running exactly when each cast
    whose refresh rate cannot be set has the target already, or its session is stopped.** -/
theorem reaches_iff (h : s.Distinct) (target : CastTarget) :
    (∀ cast ∈ (s.setDynamicCastTarget a target).casts,
        cast.dynamicTarget = true → cast.target = target) ↔ s.Reaches a target := by
  obtain ⟨hstays, hcasts⟩ := s.mem_casts_setDynamicCastTarget a h target
  constructor
  · intro hall cast hcast hdynamic
    by_contra hnot
    obtain ⟨htarget, hnot⟩ := not_or.mp hnot
    obtain ⟨hretargets, hgoes⟩ := not_or.mp hnot
    have hrun := hstays cast hcast hgoes
    rw [if_neg hretargets] at hrun
    exact htarget (hall cast hrun hdynamic)
  · intro hreaches cast hcast hdynamic
    rcases hcasts cast hcast with htarget | ⟨hold, hretargets, hgoes⟩
    · exact htarget
    · rcases hreaches cast hold hdynamic with htarget | hretargets' | hstops
      · exact htarget
      · rw [hretargets] at hretargets'
        exact absurd hretargets' Bool.false_ne_true
      · exact absurd hstops hgoes

/-! ### Nothing as the target -/

theorem retargets_nothing (cast : Cast) : retargets a .nothing cast = cast.dynamicTarget := by
  rw [retargets, Bool.not_false, Bool.true_or, Bool.and_true]

/-- A call with nothing stops no cast. -/
theorem setDynamicCastTarget_nothing (h : s.Distinct) :
    s.setDynamicCastTarget a .nothing = s.retargeted a .nothing := by
  have hnodup : ((s.retargeted a .nothing).casts.map (·.streamId)).Nodup :=
    s.streamIds_retargeted a .nothing ▸ h.casts
  obtain ⟨sessionIds, hredraw, hmem⟩ :=
    (s.retargeted a .nothing).redrawCasts_eq a hnodup (s.toRedraw a .nothing)
  have hnone : sessionIds = [] := by
    refine eq_nil_iff_forall_not_mem.mpr fun sessionId hin => ?_
    obtain ⟨cast, hcast, -, hstream, hfails⟩ := (hmem sessionId).mp hin
    obtain ⟨cast₀, hcast₀, hid⟩ := List.mem_map.mp hstream
    obtain ⟨hcast₀, hretargets⟩ := mem_filter.mp hcast₀
    have hmap : { cast₀ with target := .nothing } ∈ (s.retargeted a .nothing).casts :=
      List.mem_map.mpr ⟨cast₀, hcast₀, if_pos hretargets⟩
    rw [inj_on_of_nodup_map hnodup hcast hmap hid.symm] at hfails
    exact Bool.false_ne_true hfails
  rw [setDynamicCastTarget_eq, hredraw, hnone]
  rfl

theorem retargeted_retargeted :
    (s.retargeted a .nothing).retargeted a .nothing = s.retargeted a .nothing := by
  unfold retargeted
  rw [List.map_map]
  congr 1
  refine map_congr_left fun cast _ => ?_
  rw [Function.comp_apply, retargets_nothing, retargets_nothing]
  by_cases hdynamic : cast.dynamicTarget = true <;> simp [hdynamic]

/-- One call with nothing does as much as many. -/
theorem iterate_setNothing (h : s.Distinct) (n : ℕ) :
    (fun s => setDynamicCastTarget s a .nothing)^[n + 1] s = s.retargeted a .nothing := by
  induction n with
  | zero => exact s.setDynamicCastTarget_nothing a h
  | succ n ih =>
    rw [Function.iterate_succ_apply', ih]
    have hdistinct : (s.retargeted a .nothing).Distinct :=
      s.setDynamicCastTarget_nothing a h ▸ nodup_of_le
        (map_le_map (s.shrinks_setDynamicCastTarget a .nothing).keys) h
    rw [setDynamicCastTarget_nothing _ a hdistinct, retargeted_retargeted]

/-! ## What the other events leave of dynamic targets -/

/-- Every dynamic cast was one, with the same target. -/
def KeepsTargets (s' : Screencasting) : Prop :=
  ∀ cast ∈ s'.casts, cast.dynamicTarget = true →
    ∃ cast₀ ∈ s.casts, cast₀.dynamicTarget = true ∧ cast₀.target = cast.target

theorem keepsTargets_of_subset (h : s'.casts ⊆ s.casts) : KeepsTargets s s' :=
  fun cast hcast hdynamic => ⟨cast, h hcast, hdynamic, rfl⟩

theorem keepsTargets_stopCasts (sessionIds : List ℕ) : KeepsTargets s (s.stopCasts sessionIds) :=
  s.keepsTargets_of_subset fun _ hcast => ((s.mem_casts_stopCasts).mp hcast).1

theorem keepsTargets_stopCast (sessionId : ℕ) : KeepsTargets s (s.stopCast sessionId) :=
  s.keepsTargets_of_subset fun _ hcast => ((s.mem_casts_stopCast).mp hcast).1

theorem keepsTargets_startCast (sessionId streamId : ℕ) (target : CastTarget) :
    KeepsTargets s (s.startCast a sessionId streamId target) := by
  unfold startCast
  split_ifs
  · exact s.keepsTargets_stopCast sessionId
  · intro cast hcast hdynamic
    rcases mem_append.mp hcast with hold | hnew
    · exact ⟨cast, hold, hdynamic, rfl⟩
    · rw [mem_singleton.mp hnew] at hdynamic
      exact absurd hdynamic Bool.false_ne_true
  · exact keepsTargets_stopCast { s with pipewire := true } sessionId

theorem keepsTargets_onScreenCastMsg (msg : ScreenCastToNiri) :
    KeepsTargets s (s.onScreenCastMsg a msg) := by
  cases msg with
  | stopCast sessionId => exact s.keepsTargets_stopCast sessionId
  | startCast sessionId streamId streamTarget =>
    cases streamTarget with
    | output name =>
      simp only [onScreenCastMsg]
      split
      · exact s.keepsTargets_stopCast sessionId
      · exact s.keepsTargets_startCast a sessionId streamId _
    | window id =>
      simp only [onScreenCastMsg]
      split_ifs
      · exact s.keepsTargets_of_subset fun _ hcast => hcast
      · exact s.keepsTargets_startCast a sessionId streamId _
      · exact s.keepsTargets_stopCast sessionId

theorem keepsTargets_stateChanged (idx : ℕ) (new : StreamState) :
    KeepsTargets s (s.step a (.stateChanged idx new)) := by
  intro cast hcast hdynamic
  obtain ⟨i, hi⟩ := mem_iff_getElem?.mp hcast
  rw [step, List.getElem?_modify] at hi
  obtain ⟨cast₀, hcast₀, rfl⟩ := map_eq_some_iff.mp hi
  refine ⟨cast₀, mem_of_getElem? hcast₀, ?_⟩
  by_cases h : idx = i
  · rw [if_pos h] at hdynamic ⊢
    cases new <;> exact ⟨hdynamic, rfl⟩
  · rw [if_neg h] at hdynamic ⊢
    exact ⟨hdynamic, rfl⟩

/-- Only `set_dynamic_cast_target` changes the target of a dynamic cast. -/
theorem keepsTargets_step {e : CastingEvent} (he : ∀ target, e ≠ .setDynamicCastTarget target) :
    KeepsTargets s (s.step a e) := by
  cases e with
  | screenCastMsg msg => exact s.keepsTargets_onScreenCastMsg a msg
  | pwMsg msg =>
    cases msg with
    | stopCast sessionId => exact s.keepsTargets_stopCast sessionId
    | redraw streamId => exact s.keepsTargets_of_subset fun _ hcast => mem_casts_redrawCast hcast
    | fatalError =>
      simp only [step, onPwMsg]
      split_ifs
      · exact keepsTargets_stopCasts { s with pipewire := false } _
      · exact s.keepsTargets_of_subset fun _ hcast => hcast
  | stateChanged idx new => exact s.keepsTargets_stateChanged a idx new
  | setDynamicCastTarget target => exact absurd rfl (he target)
  | stopCastsForTarget | refreshMappedCastOutputs | renderForScreenCast
  | renderWindowsForScreenCast => exact s.keepsTargets_stopCasts _
  | stopCast sessionId => exact s.keepsTargets_stopCast sessionId

end Screencasting

/-! ## Runs -/

namespace DynamicTarget

open Casting.Screencasting

/-- The casts and the idle callbacks, and what has been asked for. -/
structure World where
  casting : Screencasting
  /-- The idle callbacks of `stop_casts_for_target` that have not run yet. -/
  idles : ℕ
  /-- The target that was last requested. -/
  requested : CastTarget
  /-- It has gone away since. -/
  gone : Bool
  /-- The target of the call of `set_dynamic_cast_target` that has just returned. -/
  justSet : Option CastTarget
  /-- The streams that there have been. -/
  streams : Finset ℕ
  /-- The target of each cast without a dynamic one, when it was first there. -/
  firstTarget : ℕ → Option CastTarget

inductive Event
  /-- An action chooses a target. -/
  | setDynamicCastTarget (a : Answers) (target : CastTarget)
  /-- A window closes, or an output is removed. -/
  | stopCastsForTarget (target : CastTarget)
  /-- The event loop runs its idle callbacks. -/
  | dispatchIdles (a : Answers)
  /-- Anything else that happens to the casts. -/
  | casting (a : Answers) (e : CastingEvent)

namespace World

/-- Nothing is cast. -/
def start (dynamicCastIdForPortal : ℕ) : World where
  casting := .new dynamicCastIdForPortal
  idles := 0
  requested := .nothing
  gone := false
  justSet := none
  streams := ∅
  firstTarget _ := none

/-- The casts are `casting` now. -/
def observe (w : World) (casting : Screencasting) : World :=
  { w with
    casting
    firstTarget := fun streamId => (w.firstTarget streamId).or
      ((casting.casts.find? fun cast => cast.streamId = streamId && !cast.dynamicTarget).map
        (·.target)) }

/-- The event that the casts see, where it is no other event of the world. -/
def other : CastingEvent → Bool
  | .setDynamicCastTarget _ | .stopCastsForTarget _ => false
  | _ => true

/-- The stream that an event starts. -/
def newStream : CastingEvent → Option ℕ
  | .screenCastMsg (.startCast _ streamId _) => some streamId
  | _ => none

/-- What an event does, `none` where it cannot happen: a stream that starts has a new id. -/
def step (w : World) : Event → Option World
  | .setDynamicCastTarget a target =>
    some { w.observe (w.casting.setDynamicCastTarget a target) with
      requested := target
      gone := false
      justSet := some target }
  | .stopCastsForTarget target =>
    if target = .nothing then none
    else
      let sawDynamic := w.casting.casts.any fun cast => cast.target = target && cast.dynamicTarget
      some { w.observe (w.casting.stopCastsForTarget target) with
        idles := if sawDynamic then w.idles + 1 else w.idles
        gone := w.gone || w.requested = target
        justSet := none }
  | .dispatchIdles a =>
    some { w.observe ((fun s => s.setDynamicCastTarget a .nothing)^[w.idles] w.casting) with
      idles := 0
      justSet := if w.idles = 0 then none else some .nothing }
  | .casting a e =>
    if other e = true ∧ ∀ streamId ∈ newStream e, streamId ∉ w.streams then
      some { w.observe (w.casting.step a e) with
        justSet := none
        streams := w.streams ∪ (newStream e).toFinset }
    else none

/-- **What was last chosen is shown.** -/
structure ShowsChosen (w : World) : Prop where
  /-- After a call every dynamic cast that runs has the target. -/
  justSet : ∀ target ∈ w.justSet, ∀ cast ∈ w.casting.casts,
    cast.dynamicTarget = true → cast.target = target
  /-- When no idle callback is pending it has the one last requested, if that is still there. -/
  settled : w.idles = 0 → ∀ cast ∈ w.casting.casts, cast.dynamicTarget = true →
    cast.target = if w.gone then .nothing else w.requested
  /-- The others keep theirs. -/
  others : ∀ cast ∈ w.casting.casts, cast.dynamicTarget = false →
    w.firstTarget cast.streamId = some cast.target

/-- No dynamic cast is left behind by a call, and no idle callback finds dynamic casts that show a
    target chosen since. -/
def Careful (w : World) : Event → Prop
  | .setDynamicCastTarget a target => w.casting.Reaches a target
  | .dispatchIdles _ => w.idles ≠ 0 → (∃ cast ∈ w.casting.casts, cast.dynamicTarget = true) →
    w.gone = true ∨ w.requested = .nothing
  | _ => True

/-! ### What every step keeps -/

/-- The streams have ids of their own, and the casts that have no dynamic target keep theirs. -/
structure Inv (w : World) : Prop where
  distinct : w.casting.Distinct
  keys : ∀ key ∈ w.casting.keys, key.streamId ∈ w.streams
  firstTarget : ∀ streamId, (w.firstTarget streamId).isSome = true → streamId ∈ w.streams
  others : ∀ cast ∈ w.casting.casts, cast.dynamicTarget = false →
    w.firstTarget cast.streamId = some cast.target

variable (dynamicCastIdForPortal : ℕ)

theorem inv_start : Inv (start dynamicCastIdForPortal) where
  distinct := nodup_zero
  keys _ h := (notMem_zero _ h).elim
  firstTarget _ h := absurd h Bool.false_ne_true
  others _ h := (not_mem_nil h).elim

variable {w w' : World} {s' : Screencasting} {s : Screencasting}

theorem mem_keys_of_mem_casts {cast : Cast} (h : cast ∈ s.casts) :
    cast.key ∈ s.keys := mem_add.mpr (.inr (mem_map_of_mem h))

/-- The casts change, and at most one stream starts. -/
theorem Inv.observe (h : Inv w) {new : Multiset CastKey} (hopens : Opens new w.casting s')
    (hdistinct : s'.Distinct) (hnew : ∀ key ∈ new, key.streamId ∉ w.streams) {streams : Finset ℕ}
    (hstreams : w.streams ⊆ streams) (hnewStreams : ∀ key ∈ new, key.streamId ∈ streams) :
    Inv { w.observe s' with streams } := by
  have hkeys : ∀ key ∈ s'.keys, key.streamId ∈ streams := by
    intro key hkey
    rcases mem_add.mp (mem_of_le hopens.keys hkey) with hold | hnew
    · exact hstreams (h.keys key hold)
    · exact hnewStreams key hnew
  refine ⟨hdistinct, hkeys, fun streamId hsome => ?_, fun cast hcast hstatic => ?_⟩
  · dsimp only [World.observe] at hsome
    rw [isSome_or, Bool.or_eq_true, isSome_map] at hsome
    rcases hsome with hold | hfound
    · exact hstreams (h.firstTarget streamId hold)
    · obtain ⟨cast, hcast⟩ := isSome_iff_exists.mp hfound
      have hid : cast.streamId = streamId := by
        have hboth := List.find?_some hcast
        rw [Bool.and_eq_true, decide_eq_true_iff] at hboth
        exact hboth.1
      exact hid ▸ hkeys cast.key (mem_keys_of_mem_casts (mem_of_find?_eq_some hcast))
  · dsimp only [World.observe]
    have htarget : cast.key.target = some cast.target := by rw [Cast.key, hstatic]; rfl
    rcases mem_add.mp
        (mem_of_le hopens.keys (mem_keys_of_mem_casts hcast)) with hold | hstarted
    · -- It ran before.
      rcases mem_add.mp hold with hpending | hcasts
      · obtain ⟨p, -, hkey⟩ := List.mem_map.mp hpending
        rw [← hkey] at htarget
        cases htarget
      · obtain ⟨cast₀, hcast₀, hkey⟩ := List.mem_map.mp hcasts
        rw [← hkey] at htarget
        obtain ⟨hdynamic, htarget⟩ := ite_none_left_eq_some.mp htarget
        have hid : cast₀.streamId = cast.streamId := congrArg CastKey.streamId hkey
        have hfirst := h.others cast₀ hcast₀ (Bool.eq_false_of_not_eq_true hdynamic)
        rw [hid] at hfirst
        rw [hfirst, some_or, htarget]
    · -- It has just started.
      have hfresh : w.firstTarget cast.streamId = none :=
        not_isSome_iff_eq_none.mp fun hsome =>
          hnew cast.key hstarted (h.firstTarget cast.streamId hsome)
      rw [hfresh, none_or]
      cases hfind : s'.casts.find? fun other =>
          other.streamId = cast.streamId && !other.dynamicTarget with
      | none =>
        have hno := List.find?_eq_none.mp hfind cast hcast
        simp [hstatic] at hno
      | some found =>
        have hboth := List.find?_some hfind
        rw [Bool.and_eq_true, decide_eq_true_iff] at hboth
        rw [inj_on_of_nodup_map hdistinct.casts (mem_of_find?_eq_some hfind) hcast
          hboth.1, map_some]

/-- No stream starts. -/
theorem Inv.shrink (h : Inv w) (hshrinks : Shrinks w.casting s') : Inv (w.observe s') := by
  have hdistinct : s'.Distinct :=
    nodup_of_le (map_le_map hshrinks.keys) h.distinct
  exact h.observe (hshrinks.opens 0) hdistinct (fun _ hkey => (notMem_zero _ hkey).elim)
    Finset.Subset.rfl (fun _ hkey => (notMem_zero _ hkey).elim)

variable (a : Answers)

theorem shrinks_iterate (n : ℕ) (s : Screencasting) :
    Shrinks s ((fun s => s.setDynamicCastTarget a .nothing)^[n] s) := by
  induction n generalizing s with
  | zero => exact .refl s
  | succ n ih =>
    exact (s.shrinks_setDynamicCastTarget a .nothing).trans (ih _)

theorem inv_step (w : World) (e : Event) (w' : World) (h : Inv w) (hstep : w.step e = some w') :
    Inv w' := by
  cases e with
  | setDynamicCastTarget a target =>
    obtain rfl := some.inj hstep
    have hinv := h.shrink (w.casting.shrinks_setDynamicCastTarget a target)
    exact ⟨hinv.distinct, hinv.keys, hinv.firstTarget, hinv.others⟩
  | stopCastsForTarget target =>
    obtain ⟨-, hstep⟩ := ite_none_left_eq_some.mp hstep
    obtain rfl := some.inj hstep
    have hshrinks : Shrinks w.casting (w.casting.stopCastsForTarget target) :=
      w.casting.shrinks_stopCasts _
    have hinv := h.shrink hshrinks
    exact ⟨hinv.distinct, hinv.keys, hinv.firstTarget, hinv.others⟩
  | dispatchIdles a =>
    obtain rfl := some.inj hstep
    have hinv := h.shrink (shrinks_iterate a w.idles w.casting)
    exact ⟨hinv.distinct, hinv.keys, hinv.firstTarget, hinv.others⟩
  | casting a e =>
    unfold step at hstep
    dsimp only at hstep
    split_ifs at hstep with hcan
    obtain rfl := some.inj hstep
    have hopens := w.casting.opens_step a e
    have hnew : ∀ key ∈ w.casting.opens a e, key.streamId ∈ newStream e := by
      intro key hkey
      rcases w.casting.opens_cases (a := a) e with hnone | ⟨_, _, _, started, rfl, hid, -, hone⟩
      · rw [hnone] at hkey
        exact (notMem_zero _ hkey).elim
      · rw [hone, Multiset.mem_singleton] at hkey
        rw [hkey, hid]
        exact rfl
    have hdistinct : (w.casting.step a e).Distinct := by
      refine h.distinct.step fun sessionId streamId target he hin => ?_
      obtain ⟨key, hkey, hid⟩ := Multiset.mem_map.mp hin
      exact hcan.2 streamId (he ▸ rfl) (hid ▸ h.keys key hkey)
    have hinv := h.observe hopens hdistinct (fun key hkey => hcan.2 _ (hnew key hkey))
      Finset.subset_union_left
      (fun key hkey => Finset.mem_union_right _ (mem_toFinset.mpr (hnew key hkey)))
    exact ⟨hinv.distinct, hinv.keys, hinv.firstTarget, hinv.others⟩

/-! ### A step -/

/-- A dynamic cast before the idle callbacks is one after them, and shows nothing. -/
theorem dynamicTarget_iterate (h : s.Distinct) {n : ℕ} (hn : n ≠ 0) :
    (∀ cast ∈ ((fun s => s.setDynamicCastTarget a .nothing)^[n] s).casts,
        cast.dynamicTarget = true → cast.target = .nothing) ∧
      ((∃ cast ∈ ((fun s => s.setDynamicCastTarget a .nothing)^[n] s).casts,
          cast.dynamicTarget = true) ↔ ∃ cast ∈ s.casts, cast.dynamicTarget = true) := by
  obtain ⟨n, rfl⟩ := Nat.exists_eq_succ_of_ne_zero hn
  rw [iterate_setNothing s a h]
  have hmem {cast : Cast} (hcast : cast ∈ (s.retargeted a .nothing).casts)
      (hdynamic : cast.dynamicTarget = true) :
      cast.target = .nothing ∧ ∃ cast₀ ∈ s.casts, cast₀.dynamicTarget = true := by
    obtain ⟨cast₀, hcast₀, rfl⟩ := List.mem_map.mp hcast
    rw [retargets_nothing] at hdynamic ⊢
    by_cases hdynamic₀ : cast₀.dynamicTarget = true
    · rw [if_pos hdynamic₀]
      exact ⟨rfl, cast₀, hcast₀, hdynamic₀⟩
    · rw [if_neg hdynamic₀] at hdynamic
      exact absurd hdynamic hdynamic₀
  refine ⟨fun cast hcast hdynamic => (hmem hcast hdynamic).1, ?_, ?_⟩
  · rintro ⟨cast, hcast, hdynamic⟩
    exact (hmem hcast hdynamic).2
  · rintro ⟨cast, hcast, hdynamic⟩
    refine ⟨{ cast with target := .nothing }, List.mem_map.mpr ⟨cast, hcast, ?_⟩, hdynamic⟩
    rw [retargets_nothing, if_pos hdynamic]

/-- A step leaves the casts with what was chosen exactly when it is careful. -/
theorem showsChosen_step (w : World) (e : Event) (w' : World) (h : Inv w) (hw : ShowsChosen w)
    (hstep : w.step e = some w') : ShowsChosen w' ↔ w.Careful e := by
  have hothers := (inv_step w e w' h hstep).others
  cases e with
  | setDynamicCastTarget a target =>
    obtain rfl := some.inj hstep
    rw [Careful, ← w.casting.reaches_iff a h.distinct target]
    constructor
    · exact fun hshows => hshows.justSet target rfl
    · intro hall
      refine ⟨fun t ht => ?_, fun _ => hall, hothers⟩
      rw [← some.inj ht]
      exact hall
  | stopCastsForTarget target =>
    obtain ⟨-, hstep⟩ := ite_none_left_eq_some.mp hstep
    obtain rfl := some.inj hstep
    refine iff_of_true ⟨fun t ht => (nomatch ht), fun hidle cast hcast hdynamic => ?_, hothers⟩ trivial
    obtain ⟨cast₀, hcast₀, hdynamic₀, htarget⟩ :=
      w.casting.keepsTargets_stopCasts _ cast hcast hdynamic
    have hnone : ¬(w.casting.casts.any fun cast =>
        cast.target = target && cast.dynamicTarget) = true := by
      intro hsaw
      rw [if_pos hsaw] at hidle
      exact Nat.succ_ne_zero _ hidle
    rw [if_neg hnone] at hidle
    have hchosen := hw.settled hidle cast₀ hcast₀ hdynamic₀
    by_cases hgone : w.gone = true
    · rw [if_pos hgone] at hchosen
      rw [hgone, Bool.true_or, if_pos rfl, ← htarget, hchosen]
    · -- Had the target that goes been requested, the cast would show it.
      rw [if_neg hgone] at hchosen
      have hne : w.requested ≠ target := by
        intro heq
        refine hnone (any_eq_true.mpr ⟨cast₀, hcast₀, ?_⟩)
        rw [hchosen, heq, hdynamic₀, decide_eq_true rfl]
        rfl
      rw [Bool.eq_false_of_not_eq_true hgone, decide_eq_false hne, ← htarget, hchosen]
      rfl
  | dispatchIdles a =>
    obtain rfl := some.inj hstep
    by_cases hidles : w.idles = 0
    · refine iff_of_true ⟨fun t ht => ?_, fun _ => ?_, hothers⟩ fun hne => absurd hidles hne
      · rw [if_pos hidles] at ht
        exact nomatch ht
      · rw [hidles]
        exact hw.settled hidles
    · obtain ⟨hcleared, hsome⟩ := dynamicTarget_iterate a h.distinct hidles
      constructor
      · intro hshows _ hdynamic
        obtain ⟨cast, hcast, hdynamic⟩ := hsome.mpr hdynamic
        have hchosen := hshows.settled rfl cast hcast hdynamic
        rw [hcleared cast hcast hdynamic] at hchosen
        by_cases hgone : w.gone = true
        · exact .inl hgone
        · exact .inr (hchosen.trans (if_neg hgone)).symm
      · intro hcareful
        refine ⟨fun t ht => ?_, fun _ cast hcast hdynamic => ?_, hothers⟩
        · rw [if_neg hidles] at ht
          rw [← some.inj ht]
          exact hcleared
        · rw [hcleared cast hcast hdynamic]
          change .nothing = if w.gone = true then .nothing else w.requested
          rcases hcareful hidles (hsome.mp ⟨cast, hcast, hdynamic⟩) with hgone | hnothing
          · rw [if_pos hgone]
          · rw [hnothing, ite_self]
  | casting a e =>
    unfold step at hstep
    dsimp only at hstep
    split_ifs at hstep with hcan
    obtain rfl := some.inj hstep
    have hother : ∀ target, e ≠ .setDynamicCastTarget target := by
      rintro target rfl
      exact Bool.false_ne_true hcan.1
    refine iff_of_true ⟨fun t ht => (nomatch ht), fun hidle cast hcast hdynamic => ?_, hothers⟩ trivial
    obtain ⟨cast₀, hcast₀, hdynamic₀, htarget⟩ :=
      w.casting.keepsTargets_step a hother cast hcast hdynamic
    rw [← htarget]
    exact hw.settled hidle cast₀ hcast₀ hdynamic₀

/-! ### What was chosen -/

theorem showsChosen_start :
    ShowsChosen (start dynamicCastIdForPortal) where
  justSet _ h := nomatch h
  settled _ _ h := (not_mem_nil h).elim
  others _ h := (not_mem_nil h).elim

/-- **The dynamic casts show what was last chosen all along a run exactly when no call leaves one
    behind, and no idle callback finds dynamic casts with a target chosen since.** -/
theorem dynamicTarget_shown (dynamicCastIdForPortal : ℕ) (es : List Event) :
    Run.Always step ShowsChosen (start dynamicCastIdForPortal) es ↔
      Run.Along step Careful (start dynamicCastIdForPortal) es :=
  Run.always_iff_along inv_step showsChosen_step (inv_start _) (showsChosen_start _)

/-- Everything succeeds but changing the refresh rate. -/
def rateStays : Answers := { obliging with setRefresh := fun _ => false }

/-- A cast shows an output, its rate cannot be changed, and a window is chosen. -/
def leftBehind : List Event :=
  [.casting obliging (.screenCastMsg (.startCast 1 1 (.window 0))),
    .setDynamicCastTarget obliging (.output 0 "DP-1"), .setDynamicCastTarget rateStays (.window 7)]

/-- The window that a cast shows closes, and an output is chosen before the idle callback runs. -/
def choiceLost : List Event :=
  [.casting obliging (.screenCastMsg (.startCast 1 1 (.window 0))),
    .setDynamicCastTarget obliging (.window 7), .stopCastsForTarget (.window 7),
    .setDynamicCastTarget obliging (.output 0 "DP-1"), .dispatchIdles obliging]

/-- The first goes on showing the output, the second shows nothing. -/
theorem chosen_notShown :
    ¬Run.Always step ShowsChosen (start 0) leftBehind ∧
      ¬Run.Always step ShowsChosen (start 0) choiceLost := by
  constructor
  · intro h
    have hrun : (Run.exec step (start 0) leftBehind).map (fun w => (w.casting.casts, w.justSet)) =
        some ([⟨1, 1, .output 0 "DP-1", true, false, none⟩], some (.window 7)) := by
      decide +kernel
    obtain ⟨w, hw, hcasts⟩ := map_eq_some_iff.mp hrun
    rw [Prod.mk.injEq] at hcasts
    have htarget := (h.finish hw).justSet _ hcasts.2 ⟨1, 1, .output 0 "DP-1", true, false, none⟩
      (hcasts.1 ▸ mem_singleton_self _) rfl
    exact nomatch htarget
  · intro h
    have hrun : (Run.exec step (start 0) choiceLost).map
        (fun w => (w.casting.casts, w.idles, w.gone, w.requested)) =
        some ([⟨1, 1, .nothing, true, false, none⟩], 0, false, .output 0 "DP-1") := by
      decide +kernel
    obtain ⟨w, hw, hcasts⟩ := map_eq_some_iff.mp hrun
    simp only [Prod.mk.injEq] at hcasts
    obtain ⟨hcasts, hidles, hgone, hrequested⟩ := hcasts
    have htarget := (h.finish hw).settled hidles ⟨1, 1, .nothing, true, false, none⟩
      (hcasts ▸ mem_singleton_self _) rfl
    rw [hgone, hrequested] at htarget
    exact nomatch htarget

end World

end DynamicTarget

end Tiri.Casting
