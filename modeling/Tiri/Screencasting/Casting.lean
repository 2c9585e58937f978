import Mathlib.Data.Finset.Sort
import Mathlib.Data.Multiset.Fintype
import Tiri.Ipc.State

/-!
# Screencasts in the main loop

`src/screencasting/mod.rs`: the casts that run, the dynamic casts that wait for a target, and
what the messages of the D-Bus thread and of PipeWire do to them.

Whether PipeWire starts a cast or takes a new size or refresh rate, and which outputs and windows
are there, is given with each step as `Answers`.

Results:
* `opens_step`: a step starts at most the stream that it is told to start; every other cast was
  there before, with the same session, and with the same target unless that is dynamic, and a
  cast that waits was waiting;
* `keys_stopCasts`: nothing is left of a session that is stopped;
* `streams_since_stop`: nothing brings it back, in any run, but messages that start a cast for it.
-/

namespace Tiri.Casting

open Option List
open Multiset hiding cast filter_singleton foldl_cons mem_cons mem_singleton

/-! ## The casts -/

structure Output where
  id : ℕ
  name : String
  deriving DecidableEq

/-- `CastTarget` (`niri.rs`): the output is a weak reference, with its name. -/
inductive CastTarget
  | nothing
  | output (output : ℕ) (name : String)
  | window (id : ℕ)
  deriving DecidableEq

namespace CastTarget

def matchesOutput (weak : ℕ) : CastTarget → Bool
  | .output o _ => o = weak
  | _ => false

/-- `matches`. -/
def «matches» : CastTarget → Ipc.CastTarget → Bool
  | .nothing, .nothing => true
  | .output _ name, .output ipcName => name = ipcName
  | .window id, .window ipcId => id = ipcId
  | _, _ => false

def makeIpc : CastTarget → Ipc.CastTarget
  | .nothing => .nothing
  | .output _ name => .output name
  | .window id => .window id

theorem matches_iff {target : CastTarget} {ipc : Ipc.CastTarget} :
    target.matches ipc = true ↔ ipc = target.makeIpc := by
  cases target <;> cases ipc <;> simp [«matches», makeIpc, eq_comm]

end CastTarget

/-- `Cast` (`screencasting/pw_utils.rs`). -/
structure Cast where
  sessionId : ℕ
  streamId : ℕ
  target : CastTarget
  dynamicTarget : Bool
  isActive : Bool
  nodeId : Option ℕ
  deriving DecidableEq

structure PendingCast where
  sessionId : ℕ
  streamId : ℕ

/-- The cast that it becomes. -/
def PendingCast.start (p : PendingCast) (target : CastTarget) : Cast :=
  ⟨p.sessionId, p.streamId, target, true, false, none⟩

structure Screencasting where
  casts : List Cast
  /-- The casts with a dynamic target that wait for their first one. -/
  pendingDynamicCasts : List PendingCast
  /-- The id of the window that stands for a dynamic target. -/
  dynamicCastIdForPortal : ℕ
  /-- PipeWire is there. -/
  pipewire : Bool
  /-- The sessions that `Session::stop` was called for, in order. -/
  stops : List ℕ

def Screencasting.new (dynamicCastIdForPortal : ℕ) : Screencasting :=
  ⟨[], [], dynamicCastIdForPortal, false, []⟩

/-! ## What is outside -/

/-- An order in which a `HashSet` is iterated. -/
structure HashOrder where
  iter : Finset ℕ → List ℕ
  mem_iter : ∀ s a, a ∈ iter s ↔ a ∈ s

def HashOrder.sorted : HashOrder where
  iter s := s.sort
  mem_iter _ _ := Finset.mem_sort _

/-- What the rest of the compositor and PipeWire answer during a step. -/
structure Answers where
  /-- The outputs of the global space. -/
  outputs : List Output
  /-- The output of a weak reference is still there. -/
  upgrade : ℕ → Bool
  /-- `cast_params_for_window` finds the window and the output it is cast on. -/
  castParamsForWindow : ℕ → Bool
  /-- `prepare_pw_cast` succeeds. -/
  preparePwCast : Bool
  /-- `start_cast` succeeds for the stream. -/
  startCast : ℕ → Bool
  /-- `set_refresh` succeeds for the stream. -/
  setRefresh : ℕ → Bool
  /-- `ensure_size` succeeds for the stream. -/
  ensureSize : ℕ → Bool
  hashOrder : HashOrder

/-- Everything succeeds, with one output. -/
def obliging : Answers where
  outputs := [⟨0, "DP-1"⟩]
  upgrade _ := true
  castParamsForWindow _ := true
  preparePwCast := true
  startCast _ := true
  setRefresh _ := true
  ensureSize _ := true
  hashOrder := .sorted

/-- `StreamTargetId` (`dbus/mutter_screen_cast.rs`). -/
inductive StreamTargetId
  | output (name : String)
  | window (id : ℕ)
  deriving DecidableEq

/-- `ScreenCastToNiri`: what the D-Bus thread sends. -/
inductive ScreenCastToNiri
  | startCast (sessionId streamId : ℕ) (target : StreamTargetId)
  | stopCast (sessionId : ℕ)

/-- `PwToNiri`: what the callbacks of PipeWire send. -/
inductive PwToNiri
  | stopCast (sessionId : ℕ)
  | redraw (streamId : ℕ)
  | fatalError

/-- `StreamState`, of PipeWire; a stream that is paused has a node. -/
inductive StreamState
  | error
  | unconnected
  | connecting
  | paused (nodeId : ℕ)
  | streaming

/-! ## Stopping -/

/-- `swap_remove`: the last item takes the place. -/
def swapRemove {α : Type} (l : List α) (i : ℕ) : List α :=
  match l.getLast? with
  | none => l
  | some last => (l.set i last).dropLast

/-- The loop over `(0..casts.len()).rev()`, with the indices below `i` still to come. -/
def removeSession (sessionId : ℕ) : ℕ → List Cast → List Cast
  | 0, casts => casts
  | i + 1, casts =>
    match casts[i]? with
    | none => removeSession sessionId i casts
    | some cast =>
      if cast.sessionId ≠ sessionId then removeSession sessionId i casts
      else removeSession sessionId i (swapRemove casts i)

namespace Screencasting

variable (s : Screencasting) (a : Answers)

def stopCast (sessionId : ℕ) : Screencasting :=
  { s with
    pendingDynamicCasts := s.pendingDynamicCasts.filter (·.sessionId ≠ sessionId)
    casts := removeSession sessionId s.casts.length s.casts
    stops := s.stops ++ [sessionId] }

/-- `stop_cast`, for one session after the other. -/
def stopCasts (sessionIds : List ℕ) : Screencasting :=
  sessionIds.foldl stopCast s

/-! ## Starting -/

/-- The end of `StartCast`, once the target is known. -/
def startCast (sessionId streamId : ℕ) (target : CastTarget) : Screencasting :=
  if !a.preparePwCast then s.stopCast sessionId
  else
    let s := { s with pipewire := true }
    if a.startCast streamId then
      { s with casts := s.casts ++ [⟨sessionId, streamId, target, false, false, none⟩] }
    else s.stopCast sessionId

def onScreenCastMsg : ScreenCastToNiri → Screencasting
  | .startCast sessionId streamId (.output name) =>
    match a.outputs.find? (·.name = name) with
    | none => s.stopCast sessionId
    | some output => s.startCast a sessionId streamId (.output output.id output.name)
  | .startCast sessionId streamId (.window id) =>
    if id = s.dynamicCastIdForPortal then
      { s with pendingDynamicCasts := s.pendingDynamicCasts ++ [⟨sessionId, streamId⟩] }
    else if a.castParamsForWindow id then s.startCast a sessionId streamId (.window id)
    else s.stopCast sessionId
  | .stopCast sessionId => s.stopCast sessionId

def startPendingDynamicCasts (target : CastTarget) : Screencasting :=
  let found :=
    match target with
    | .nothing => false
    | .output output _ => a.upgrade output
    | .window id => a.castParamsForWindow id
  if s.pendingDynamicCasts.isEmpty || !found then s
  else
    let pending := s.pendingDynamicCasts
    let s := { s with pendingDynamicCasts := [] }
    if !a.preparePwCast then
      s.stopCasts (a.hashOrder.iter (pending.map PendingCast.sessionId).toFinset)
    else
      let s := { s with pipewire := true }
      let started := pending.filter fun p => a.startCast p.streamId
      let failed := pending.filter fun p => !a.startCast p.streamId
      let s := { s with
        casts := s.casts ++ started.map (PendingCast.start · target) }
      s.stopCasts (a.hashOrder.iter (failed.map PendingCast.sessionId).toFinset)

/-! ## Redrawing and re-targeting -/

/-- `redraw_cast`, as far as it can stop the cast. -/
def redrawCast (streamId : ℕ) : Screencasting :=
  match s.casts.find? (·.streamId = streamId) with
  | none => s
  | some cast =>
    match cast.target with
    | .window id =>
      if a.castParamsForWindow id && !a.ensureSize streamId then s.stopCast cast.sessionId else s
    | _ => s

/-- `set_dynamic_cast_target`.  A cast whose refresh rate cannot be set keeps its target, and is
not stopped either. -/
def setDynamicCastTarget (target : CastTarget) : Screencasting :=
  let refresh :=
    match target with
    | .nothing => false
    | .output output _ => a.upgrade output
    | .window id => a.castParamsForWindow id
  let retargets := fun cast : Cast =>
    cast.dynamicTarget && (!refresh || a.setRefresh cast.streamId)
  let toRedraw := (s.casts.filter retargets).map (·.streamId)
  let s := { s with
    casts := s.casts.map fun cast => if retargets cast then { cast with target } else cast }
  let s := toRedraw.foldl (fun s streamId => s.redrawCast a streamId) s
  if target ≠ .nothing then s.startPendingDynamicCasts a target else s

/-- `stop_casts_for_target`.  Dynamic casts are left to an idle callback, which sets their target
to nothing. -/
def stopCastsForTarget (target : CastTarget) : Screencasting :=
  s.stopCasts
    ((s.casts.filter fun cast => cast.target = target && !cast.dynamicTarget).map (·.sessionId))

/-! ## PipeWire -/

def onPwMsg : PwToNiri → Screencasting
  | .stopCast sessionId => s.stopCast sessionId
  | .redraw streamId => s.redrawCast a streamId
  | .fatalError =>
    if s.pipewire then
      { s with pipewire := false }.stopCasts (a.hashOrder.iter
        (s.pendingDynamicCasts.map PendingCast.sessionId ++ s.casts.map Cast.sessionId).toFinset)
    else s

end Screencasting

/-- `state_changed`, of a stream.  What it sends back comes as a message of its own. -/
def Cast.stateChanged (cast : Cast) : StreamState → Cast
  | .paused nodeId => { cast with nodeId := cast.nodeId.or (some nodeId), isActive := false }
  | .error => { cast with isActive := false }
  | .unconnected | .connecting => cast
  | .streaming => { cast with isActive := true }

namespace Screencasting

variable (s : Screencasting) (a : Answers)

/-- `refresh_mapped_cast_outputs`, for the windows whose output has changed. -/
def refreshMappedCastOutputs (outputChanged : List ℕ) : Screencasting :=
  s.stopCasts (outputChanged.flatMap fun id =>
    (s.casts.filter fun cast => cast.target = .window id && !a.setRefresh cast.streamId).map
      (·.sessionId))

/-- `render_for_screen_cast`, as far as it stops casts. -/
def renderForScreenCast (weak : ℕ) : Screencasting :=
  s.stopCasts ((s.casts.filter fun cast =>
    cast.isActive && cast.target.matchesOutput weak && !a.ensureSize cast.streamId).map
      (·.sessionId))

/-- `render_windows_for_screen_cast`, for the windows on the output, as far as it stops casts. -/
def renderWindowsForScreenCast (windows : List ℕ) : Screencasting :=
  s.stopCasts ((s.casts.filter fun cast =>
    cast.isActive && windows.any (fun id => cast.target = .window id) &&
      !a.ensureSize cast.streamId).map (·.sessionId))

end Screencasting

/-- What happens to the casts. -/
inductive CastingEvent
  | screenCastMsg (msg : ScreenCastToNiri)
  | pwMsg (msg : PwToNiri)
  | stateChanged (idx : ℕ) (new : StreamState)
  | setDynamicCastTarget (target : CastTarget)
  | stopCastsForTarget (target : CastTarget)
  | refreshMappedCastOutputs (outputChanged : List ℕ)
  | renderForScreenCast (weak : ℕ)
  | renderWindowsForScreenCast (windows : List ℕ)
  /-- `Action::StopCast`. -/
  | stopCast (sessionId : ℕ)

/-- One of them happens. -/
def Screencasting.step (s : Screencasting) (a : Answers) : CastingEvent → Screencasting
  | .screenCastMsg msg => s.onScreenCastMsg a msg
  | .pwMsg msg => s.onPwMsg a msg
  | .stateChanged idx new => { s with casts := s.casts.modify idx (·.stateChanged new) }
  | .setDynamicCastTarget target => s.setDynamicCastTarget a target
  | .stopCastsForTarget target => s.stopCastsForTarget target
  | .refreshMappedCastOutputs outputChanged => s.refreshMappedCastOutputs a outputChanged
  | .renderForScreenCast weak => s.renderForScreenCast a weak
  | .renderWindowsForScreenCast windows => s.renderWindowsForScreenCast a windows
  | .stopCast sessionId => s.stopCast sessionId

/-! ## What a step can do -/

/-- What stays the same while a cast exists: its ids, and its target where that is not dynamic. -/
structure CastKey where
  streamId : ℕ
  sessionId : ℕ
  target : Option CastTarget

def Cast.key (cast : Cast) : CastKey :=
  ⟨cast.streamId, cast.sessionId, if cast.dynamicTarget then none else some cast.target⟩

def PendingCast.key (p : PendingCast) : CastKey := ⟨p.streamId, p.sessionId, none⟩

theorem Cast.key_stateChanged (cast : Cast) (new : StreamState) :
    (cast.stateChanged new).key = cast.key := by
  cases new <;> rfl

/-- All casts, the ones that wait among them. -/
def Screencasting.keys (s : Screencasting) : Multiset CastKey :=
  (s.pendingDynamicCasts.map PendingCast.key : Multiset CastKey) + (s.casts.map Cast.key)

/-- The casts that a message asks for. -/
def ScreenCastToNiri.opens (s : Screencasting) (a : Answers) :
    ScreenCastToNiri → Multiset CastKey
  | .startCast sessionId streamId (.output name) =>
    match a.outputs.find? (·.name = name) with
    | none => 0
    | some output => {⟨streamId, sessionId, some (.output output.id output.name)⟩}
  | .startCast sessionId streamId (.window id) =>
    if id = s.dynamicCastIdForPortal then {⟨streamId, sessionId, none⟩}
    else if a.castParamsForWindow id then {⟨streamId, sessionId, some (.window id)⟩}
    else 0
  | .stopCast _ => 0

/-- The casts that an event asks for. -/
def Screencasting.opens (s : Screencasting) (a : Answers) : CastingEvent → Multiset CastKey
  | .screenCastMsg msg => msg.opens s a
  | _ => 0

/-! ### Stopping -/

theorem swapRemove_perm {α : Type} (pre : List α) (x : α) (post : List α) :
    ∃ post', swapRemove (pre ++ x :: post) pre.length = pre ++ post' ∧ post'.Perm post := by
  induction post using List.reverseRecOn with
  | nil =>
    refine ⟨[], ?_, .nil⟩
    simp [swapRemove]
  | append_singleton post last _ =>
    refine ⟨last :: post, ?_, @List.perm_append_comm _ [last] post⟩
    have hlast : (pre ++ x :: (post ++ [last])).getLast? = some last := by
      rw [← cons_append, ← append_assoc, List.getLast?_concat]
    have hset : (pre ++ x :: (post ++ [last])).set pre.length last =
        (pre ++ last :: post) ++ [last] := by simp
    simp only [swapRemove, hlast, hset, dropLast_concat]

theorem removeSession_perm (sessionId : ℕ) (pre post : List Cast) :
    (removeSession sessionId pre.length (pre ++ post)).Perm
      (pre.filter (·.sessionId ≠ sessionId) ++ post) := by
  induction pre using List.reverseRecOn generalizing post with
  | nil => exact .refl _
  | append_singleton pre cast ih =>
    rw [length_append, length_singleton, removeSession, append_assoc,
      singleton_append, List.getElem?_append_right le_rfl, Nat.sub_self,
      List.getElem?_cons_zero, filter_append]
    dsimp only
    by_cases hcast : cast.sessionId ≠ sessionId
    · rw [if_pos hcast, filter_singleton, decide_eq_true hcast, cond_true, append_assoc]
      exact ih (cast :: post)
    · obtain ⟨post', heq, hperm⟩ := swapRemove_perm pre cast post
      rw [if_neg hcast, heq, filter_singleton, decide_eq_false hcast, cond_false, append_nil]
      exact (ih post').trans (hperm.append_left _)

namespace Screencasting

variable (s : Screencasting) (a : Answers)

variable (sessionId : ℕ)

theorem casts_stopCast :
    (s.stopCast sessionId).casts.Perm (s.casts.filter (·.sessionId ≠ sessionId)) := by
  have h := removeSession_perm sessionId s.casts []
  rwa [append_nil, append_nil] at h

/-- What is left is what is of another session. -/
theorem keys_stopCast : (s.stopCast sessionId).keys = s.keys.filter (·.sessionId ≠ sessionId) := by
  have hcasts : ((s.stopCast sessionId).casts.map Cast.key : Multiset CastKey) =
      ((s.casts.map Cast.key).filter (·.sessionId ≠ sessionId) : List CastKey) := by
    rw [coe_eq_coe, List.filter_map]
    exact (s.casts_stopCast sessionId).map Cast.key
  have hpending : ((s.stopCast sessionId).pendingDynamicCasts.map PendingCast.key) =
      (s.pendingDynamicCasts.map PendingCast.key).filter (·.sessionId ≠ sessionId) := by
    rw [List.filter_map]
    rfl
  rw [keys, hcasts, hpending, keys, filter_add, filter_coe, filter_coe]

/-- The casts of `s'` are casts of `s`, and the ones that wait in `s'` wait in `s`. -/
structure Shrinks (s s' : Screencasting) : Prop where
  keys : s'.keys ≤ s.keys
  pending : ∀ p ∈ s'.pendingDynamicCasts, p ∈ s.pendingDynamicCasts
  portal : s'.dynamicCastIdForPortal = s.dynamicCastIdForPortal

namespace Shrinks

variable {s s' s'' : Screencasting}

theorem refl (s : Screencasting) : Shrinks s s := ⟨le_rfl, fun _ hp => hp, rfl⟩

theorem trans (h : Shrinks s s') (h' : Shrinks s' s'') : Shrinks s s'' :=
  ⟨h'.keys.trans h.keys, fun p hp => h.pending p (h'.pending p hp), h'.portal.trans h.portal⟩

theorem foldl {α : Type} {f : Screencasting → α → Screencasting}
    (hf : ∀ s x, Shrinks s (f s x)) (l : List α) (s : Screencasting) :
    Shrinks s (l.foldl f s) := by
  induction l generalizing s with
  | nil => exact refl s
  | cons x l ih => exact (hf s x).trans (ih (f s x))

end Shrinks

theorem shrinks_stopCast : Shrinks s (s.stopCast sessionId) where
  keys := s.keys_stopCast sessionId ▸ filter_le _ _
  pending _ hp := (mem_filter.mp hp).1
  portal := rfl

theorem shrinks_setPipewire (pipewire : Bool) : Shrinks s { s with pipewire } :=
  ⟨le_rfl, fun _ hp => hp, rfl⟩

variable (sessionIds : List ℕ)

theorem shrinks_stopCasts : Shrinks s (s.stopCasts sessionIds) :=
  .foldl shrinks_stopCast sessionIds s

/-- Nothing is left of the sessions that are stopped. -/
theorem keys_stopCasts :
    (s.stopCasts sessionIds).keys = s.keys.filter (·.sessionId ∉ sessionIds) := by
  induction sessionIds generalizing s with
  | nil => simp [stopCasts]
  | cons sessionId sessionIds ih =>
    have h := ih (s.stopCast sessionId)
    rw [stopCasts] at h
    rw [stopCasts, foldl_cons, h, keys_stopCast, Multiset.filter_filter]
    refine filter_congr fun key _ => ?_
    rw [mem_cons, not_or, and_comm]

/-! ### Starting -/

/-- The keys are told from the casts. -/
theorem keys_congr {s s' : Screencasting}
    (hpending : s'.pendingDynamicCasts = s.pendingDynamicCasts)
    (hcasts : s'.casts.map Cast.key = s.casts.map Cast.key) : s'.keys = s.keys := by
  rw [keys, hpending, hcasts, keys]

/-- The cast that a step may add: `s'` has no others that `s` has not. -/
structure Opens (new : Multiset CastKey) (s s' : Screencasting) : Prop where
  keys : s'.keys ≤ s.keys + new
  pending : ∀ p ∈ s'.pendingDynamicCasts, p ∈ s.pendingDynamicCasts ∨ p.key ∈ new
  portal : s'.dynamicCastIdForPortal = s.dynamicCastIdForPortal

theorem Shrinks.opens {s s' : Screencasting} (h : Shrinks s s') (new : Multiset CastKey) :
    Opens new s s' :=
  ⟨h.keys.trans (le_add_right _ _), fun p hp => .inl (h.pending p hp), h.portal⟩

variable (streamId : ℕ)

theorem opens_startCast (target : CastTarget) :
    Opens {⟨streamId, sessionId, some target⟩} s (s.startCast a sessionId streamId target) := by
  unfold startCast
  by_cases hprepare : a.preparePwCast = true
  · rw [if_neg (by simpa using hprepare)]
    by_cases hstart : a.startCast streamId = true
    · rw [if_pos hstart]
      refine ⟨?_, fun p hp => .inl hp, rfl⟩
      simp only [keys, map_append, ← coe_add, add_assoc]
      exact le_rfl
    · rw [if_neg hstart]
      exact ((s.shrinks_setPipewire true).trans (shrinks_stopCast _ sessionId)).opens _
  · rw [if_pos (by simpa using hprepare)]
    exact (s.shrinks_stopCast sessionId).opens _

theorem opens_onScreenCastMsg (msg : ScreenCastToNiri) :
    Opens (msg.opens s a) s (s.onScreenCastMsg a msg) := by
  cases msg with
  | stopCast sessionId => exact (s.shrinks_stopCast sessionId).opens _
  | startCast sessionId streamId target =>
    cases target with
    | output name =>
      simp only [onScreenCastMsg, ScreenCastToNiri.opens]
      cases a.outputs.find? (·.name = name) with
      | none => exact (s.shrinks_stopCast sessionId).opens _
      | some output => exact s.opens_startCast a sessionId streamId _
    | window id =>
      simp only [onScreenCastMsg, ScreenCastToNiri.opens]
      by_cases hportal : id = s.dynamicCastIdForPortal
      · rw [if_pos hportal, if_pos hportal]
        refine ⟨?_, fun p hp => ?_, rfl⟩
        · simp only [keys, map_append, ← coe_add]
          rw [add_right_comm]
          exact le_rfl
        · rcases mem_append.mp hp with hp | hp
          · exact .inl hp
          · rw [mem_singleton.mp hp]
            exact .inr (Multiset.mem_singleton_self _)
      · rw [if_neg hportal, if_neg hportal]
        by_cases hparams : a.castParamsForWindow id = true
        · rw [if_pos hparams, if_pos hparams]
          exact s.opens_startCast a sessionId streamId _
        · rw [if_neg hparams, if_neg hparams]
          exact (s.shrinks_stopCast sessionId).opens _

variable (target : CastTarget)

theorem shrinks_startPendingDynamicCasts : Shrinks s (s.startPendingDynamicCasts a target) := by
  unfold startPendingDynamicCasts
  extract_lets found pending s₁ s₂ started failed s₃
  split
  · exact .refl s
  have hs₁ : Shrinks s s₁ :=
    ⟨le_add_left _ _ |>.trans' (by simp [keys, s₁]), fun _ hp => (not_mem_nil hp).elim, rfl⟩
  split
  · exact hs₁.trans (s₁.shrinks_stopCasts _)
  have hs₃ : Shrinks s s₃ := by
    refine ⟨?_, fun _ hp => (not_mem_nil hp).elim, rfl⟩
    have hstarted : (started.map (PendingCast.start · target)).map Cast.key =
        started.map PendingCast.key := by
      rw [List.map_map]
      rfl
    have hle : (started.map PendingCast.key : Multiset CastKey) ≤
        s.pendingDynamicCasts.map PendingCast.key :=
      coe_le.mpr ((filter_sublist).map PendingCast.key).subperm
    have hkeys : s₃.keys = (s.casts.map Cast.key : Multiset CastKey) +
        started.map PendingCast.key := by
      simp only [keys, s₃, s₂, s₁, map_append, ← coe_add, hstarted, map_nil, coe_nil, zero_add]
    rw [hkeys, keys, add_comm]
    exact add_le_add_left hle _
  exact hs₃.trans (s₃.shrinks_stopCasts _)

/-! ### Redrawing and re-targeting -/

theorem shrinks_redrawCast : Shrinks s (s.redrawCast a streamId) := by
  unfold redrawCast
  split
  · exact .refl s
  · split
    · split
      · exact s.shrinks_stopCast _
      · exact .refl s
    · exact .refl s

theorem shrinks_setDynamicCastTarget : Shrinks s (s.setDynamicCastTarget a target) := by
  unfold setDynamicCastTarget
  extract_lets refresh retargets toRedraw s₁ s₂
  have hs₁ : Shrinks s s₁ := by
    refine ⟨le_of_eq (keys_congr rfl ?_), fun _ hp => hp, rfl⟩
    rw [List.map_map]
    refine map_congr_left fun cast _ => ?_
    by_cases h : retargets cast = true
    · -- the key of a dynamic cast leaves its target out
      have hdynamic : cast.dynamicTarget = true := (Bool.and_eq_true_iff.mp h).1
      simp [Function.comp_apply, h, Cast.key, hdynamic]
    · simp only [Function.comp_apply, if_neg h]
  have hs₂ : Shrinks s₁ s₂ := .foldl (fun s streamId => s.shrinks_redrawCast a streamId) toRedraw s₁
  split
  · exact (hs₁.trans hs₂).trans (s₂.shrinks_startPendingDynamicCasts a target)
  · exact hs₁.trans hs₂

/-- **What a step can do**: it starts at most the stream that it is told to start. -/
theorem opens_step (event : CastingEvent) : Opens (s.opens a event) s (s.step a event) := by
  cases event with
  | screenCastMsg msg => exact s.opens_onScreenCastMsg a msg
  | pwMsg msg =>
    cases msg with
    | stopCast sessionId => exact (s.shrinks_stopCast sessionId).opens _
    | redraw streamId => exact (s.shrinks_redrawCast a streamId).opens _
    | fatalError =>
      simp only [step, onPwMsg]
      split
      · exact ((s.shrinks_setPipewire false).trans (shrinks_stopCasts _ _)).opens _
      · exact (Shrinks.refl s).opens _
  | stateChanged idx new =>
    have hcasts : (s.step a (.stateChanged idx new)).casts.map Cast.key = s.casts.map Cast.key := by
      refine ext_getElem? fun i => ?_
      rw [step, List.getElem?_map, List.getElem?_map, List.getElem?_modify]
      cases s.casts[i]? with
      | none => rfl
      | some cast =>
        by_cases h : idx = i
        · simp [h, Cast.key_stateChanged]
        · simp [h]
    have h : Shrinks s (s.step a (.stateChanged idx new)) :=
      ⟨le_of_eq (keys_congr rfl hcasts), fun _ hp => hp, rfl⟩
    exact h.opens _
  | setDynamicCastTarget target => exact (s.shrinks_setDynamicCastTarget a target).opens _
  | stopCastsForTarget | refreshMappedCastOutputs | renderForScreenCast
  | renderWindowsForScreenCast => exact (s.shrinks_stopCasts _).opens _
  | stopCast sessionId => exact (s.shrinks_stopCast sessionId).opens _

/-! ## Targets that do not change -/

/-- Some cast has the target, and keeps it. -/
def Shows (target : CastTarget) : Prop :=
  ∃ cast ∈ s.casts, cast.dynamicTarget = false ∧ cast.target = target

variable {s} {s' : Screencasting} {target : CastTarget}

theorem shows_iff_key : s.Shows target ↔ ∃ key ∈ s.keys, key.target = some target := by
  constructor
  · rintro ⟨cast, hcast, hstatic, rfl⟩
    refine ⟨cast.key, ?_, by simp [Cast.key, hstatic]⟩
    exact mem_add.mpr (.inr (mem_map_of_mem hcast))
  · rintro ⟨key, hkey, htarget⟩
    rcases mem_add.mp hkey with hpending | hcasts
    · obtain ⟨p, -, rfl⟩ := mem_map.mp hpending
      exact nomatch htarget
    · obtain ⟨cast, hcast, rfl⟩ := mem_map.mp hcasts
      obtain ⟨hdynamic, htarget⟩ := ite_none_left_eq_some.mp htarget
      exact ⟨cast, hcast, Bool.eq_false_of_not_eq_true hdynamic, some.inj htarget⟩

/-- A step shows no other target than the one it is told to start. -/
theorem Opens.shows {new : Multiset CastKey} (h : Opens new s s') (hshows : s'.Shows target) :
    s.Shows target ∨ ∃ key ∈ new, key.target = some target := by
  obtain ⟨key, hkey, htarget⟩ := shows_iff_key.mp hshows
  rcases mem_add.mp (mem_of_le h.keys hkey) with hold | hnew
  · exact .inl (shows_iff_key.mpr ⟨key, hold, htarget⟩)
  · exact .inr ⟨key, hnew, htarget⟩

/-- The casts of a target that is gone are stopped. -/
theorem shows_stopCastsForTarget {gone : CastTarget}
    (hshows : (s.stopCastsForTarget gone).Shows target) : s.Shows target ∧ target ≠ gone := by
  obtain ⟨key, hkey, htarget⟩ := shows_iff_key.mp hshows
  rw [stopCastsForTarget, keys_stopCasts, Multiset.mem_filter] at hkey
  obtain ⟨hkey, hsession⟩ := hkey
  refine ⟨shows_iff_key.mpr ⟨key, hkey, htarget⟩, ?_⟩
  rintro rfl
  rcases mem_add.mp hkey with hpending | hcasts
  · obtain ⟨p, -, rfl⟩ := mem_map.mp hpending
    exact nomatch htarget
  · obtain ⟨cast, hcast, rfl⟩ := mem_map.mp hcasts
    obtain ⟨hdynamic, htarget⟩ := ite_none_left_eq_some.mp htarget
    refine hsession (mem_map_of_mem (f := Cast.sessionId) (mem_filter.mpr ⟨hcast, ?_⟩))
    simp [some.inj htarget, hdynamic]

variable {e : CastingEvent}

/-- A message starts the cast of a window only if the window is found. -/
theorem target_opens {a : Answers} {key : CastKey} {id : ℕ} (h : key ∈ s.opens a e)
    (htarget : key.target = some (.window id)) : a.castParamsForWindow id = true := by
  cases e with
  | screenCastMsg msg =>
    cases msg with
    | stopCast _ => exact (notMem_zero _ h).elim
    | startCast sessionId streamId streamTarget =>
      cases streamTarget with
      | output name =>
        simp only [opens, ScreenCastToNiri.opens] at h
        split at h
        · exact (notMem_zero _ h).elim
        · rw [Multiset.mem_singleton.mp h] at htarget
          exact nomatch htarget
      | window windowId =>
        simp only [opens, ScreenCastToNiri.opens] at h
        split at h
        · rw [Multiset.mem_singleton.mp h] at htarget
          exact nomatch htarget
        split at h
        · rw [Multiset.mem_singleton.mp h, some.injEq, CastTarget.window.injEq] at htarget
          exact htarget ▸ ‹_›
        · exact (notMem_zero _ h).elim
  | pwMsg _ | stateChanged _ _ | setDynamicCastTarget _ | stopCastsForTarget _
  | refreshMappedCastOutputs _ | renderForScreenCast _ | renderWindowsForScreenCast _
  | stopCast _ => exact (notMem_zero _ h).elim

/-! ## The steps of a new target -/

section

variable (s) (a : Answers)

/-- What `set_dynamic_cast_target` does to a cast. -/
def retargets (target : CastTarget) (cast : Cast) : Bool :=
  let refresh :=
    match target with
    | .nothing => false
    | .output output _ => a.upgrade output
    | .window id => a.castParamsForWindow id
  cast.dynamicTarget && (!refresh || a.setRefresh cast.streamId)

/-- The casts with their new target, before they are redrawn. -/
def retargeted (target : CastTarget) : Screencasting :=
  { s with
    casts := s.casts.map fun cast =>
      if retargets a target cast then { cast with target } else cast }

/-- The streams that are redrawn with their new target. -/
def toRedraw (target : CastTarget) : List ℕ :=
  (s.casts.filter (retargets a target)).map (·.streamId)

theorem setDynamicCastTarget_eq (target : CastTarget) :
    s.setDynamicCastTarget a target =
      let s' := (s.toRedraw a target).foldl (fun s streamId => s.redrawCast a streamId)
        (s.retargeted a target)
      if target ≠ .nothing then s'.startPendingDynamicCasts a target else s' := rfl

/-- The streams have ids of their own. -/
def Distinct : Prop := (s.keys.map CastKey.streamId).Nodup

end

/-! ## Streams with ids of their own -/

variable {a : Answers}

theorem mem_casts_redrawCast {streamId : ℕ} {cast : Cast}
    (h : cast ∈ (s.redrawCast a streamId).casts) : cast ∈ s.casts := by
  unfold redrawCast at h
  split at h
  · exact h
  · split at h
    · split at h
      · exact (mem_filter.mp ((s.casts_stopCast _).mem_iff.mp h)).1
      · exact h
    · exact h

theorem Distinct.casts (h : s.Distinct) : (s.casts.map (·.streamId)).Nodup := by
  have hcasts : ((s.casts.map Cast.key).map CastKey.streamId).Nodup := by
    rw [Distinct, keys, map_add] at h
    exact coe_nodup.mp ((nodup_add.mp h).2.1)
  rw [List.map_map] at hcasts
  exact hcasts

/-- An event asks for no cast, or for one with the given stream and session. -/
theorem opens_cases (e : CastingEvent) : s.opens a e = 0 ∨
    ∃ sessionId streamId target key, e = .screenCastMsg (.startCast sessionId streamId target) ∧
      key.streamId = streamId ∧ key.sessionId = sessionId ∧ s.opens a e = {key} := by
  cases e with
  | screenCastMsg msg =>
    cases msg with
    | stopCast _ => exact .inl rfl
    | startCast sessionId streamId target =>
      cases target with
      | output name =>
        simp only [opens, ScreenCastToNiri.opens]
        split
        · exact .inl rfl
        · exact .inr ⟨_, _, _, _, rfl, rfl, rfl, rfl⟩
      | window id =>
        simp only [opens, ScreenCastToNiri.opens]
        split
        · exact .inr ⟨_, _, _, _, rfl, rfl, rfl, rfl⟩
        split
        · exact .inr ⟨_, _, _, _, rfl, rfl, rfl, rfl⟩
        · exact .inl rfl
  | pwMsg _ | stateChanged _ _ | setDynamicCastTarget _ | stopCastsForTarget _
  | refreshMappedCastOutputs _ | renderForScreenCast _ | renderWindowsForScreenCast _
  | stopCast _ => exact .inl rfl

/-- The streams stay distinct as long as new ones get new ids. -/
theorem Distinct.step (h : s.Distinct)
    (hfresh : ∀ sessionId streamId target,
      e = .screenCastMsg (.startCast sessionId streamId target) →
        streamId ∉ s.keys.map CastKey.streamId) : (s.step a e).Distinct := by
  have hle : (s.step a e).keys.map CastKey.streamId ≤
      (s.keys + s.opens a e).map CastKey.streamId := map_le_map (s.opens_step a e).keys
  refine nodup_of_le hle ?_
  rcases s.opens_cases (a := a) e with
    hnone | ⟨sessionId, streamId, target, key, he, hkey, -, hone⟩
  · rw [hnone, add_zero]
    exact h
  · rw [hone, map_add, Multiset.map_singleton, nodup_add]
    refine ⟨h, Multiset.nodup_singleton _, disjoint_singleton.mpr ?_⟩
    rw [hkey]
    exact hfresh sessionId streamId target he

/-- The streams that an event is to start for a session. -/
def asked (sessionId : ℕ) : CastingEvent → List ℕ
  | .screenCastMsg (.startCast id streamId _) => if id = sessionId then [streamId] else []
  | _ => []

/-- The streams of a session that have a cast, the ones that wait among them. -/
def streams (sessionId : ℕ) : Multiset ℕ :=
  (s.keys.filter (·.sessionId = sessionId)).map CastKey.streamId

/-- A step adds at most the streams that it is asked for. -/
theorem streams_step (sessionId : ℕ) (e : CastingEvent) :
    (s.step a e).streams sessionId ≤ s.streams sessionId + (asked sessionId e : List ℕ) := by
  refine (map_le_map (filter_le_filter _ (s.opens_step a e).keys)).trans ?_
  rw [filter_add, map_add]
  refine add_le_add_right ?_ _
  rcases s.opens_cases (a := a) e with hnone | ⟨id, streamId, target, key, rfl, rfl, rfl, hone⟩
  · rw [hnone]
    exact zero_le _
  · rw [hone, Multiset.filter_singleton, asked]
    split
    · exact le_rfl
    · exact zero_le _

/-- **A session that is stopped stays stopped**: its casts, stream by stream, never outnumber the
messages since that start one. -/
theorem streams_since_stop (sessionId : ℕ) (events : List (Answers × CastingEvent)) :
    (events.foldl (fun s e => s.step e.1 e.2) (s.stopCast sessionId)).streams sessionId ≤
      (events.flatMap (asked sessionId ·.2) : List ℕ) := by
  induction events using List.reverseRecOn with
  | nil => simp [streams, keys_stopCast]
  | append_singleton events e ih =>
    rw [foldl_append, flatMap_append, ← coe_add]
    simpa using (streams_step _ _).trans (add_le_add_left ih _)

end Screencasting

end Tiri.Casting
