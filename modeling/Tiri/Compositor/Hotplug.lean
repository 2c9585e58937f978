import Tiri.Lib.Run
import Tiri.Screencasting.Casting

/-!
# Outputs that are redrawn

Every output that is passed to `queue_redraw` (`src/niri.rs`) is looked up in `output_state` and
unwrapped.  Here is where these outputs come from: the layout, which finds the output of a window,
the recent windows, the preview of a window, and the casts; with the outputs that come and go.

What the layout does with its windows otherwise is given with each event, as far as it keeps its
monitors.

Results:
* `findsConnected_iff`: only a window that is moved is found on an output that is gone;
* `redraws_connected`: every other output that is redrawn is there, except for that of a dynamic
  cast whose output is gone and still alive;
* `connected_iff`: so runs redraw only outputs that are there exactly when no output goes while a
  window is moved on it, and no such cast is redrawn.
-/

namespace Tiri.Casting

open Option List
open Multiset hiding cast mem_singleton

namespace Screencasting

variable (s : Screencasting) (a : Answers)

/-- The output that `redraw_cast` queues. -/
def queuedOutput (streamId : ℕ) : Option ℕ :=
  match s.casts.find? (·.streamId = streamId) with
  | none => none
  | some cast =>
    match cast.target with
    | .output output _ => if a.upgrade output then some output else none
    | _ => none

/-- The outputs that `redraw_cast` queues, for one stream after the other. -/
def queuedOutputs : Screencasting → List ℕ → List ℕ
  | _, [] => []
  | s, streamId :: streamIds =>
    (s.queuedOutput a streamId).toList ++ queuedOutputs (s.redrawCast a streamId) streamIds

/-- The outputs that an event of the casts queues. -/
def queued : CastingEvent → List ℕ
  | .pwMsg (.redraw streamId) => (s.queuedOutput a streamId).toList
  | .setDynamicCastTarget target =>
    queuedOutputs a (s.retargeted a target) (s.toRedraw a target)
  | _ => []

variable {s a}

variable {output : ℕ} {streamId : ℕ}

theorem upgrade_of_queuedOutput (h : s.queuedOutput a streamId = some output) :
    ∃ cast ∈ s.casts.find? (·.streamId = streamId),
      (∃ name, cast.target = .output output name) ∧ a.upgrade output = true := by
  unfold queuedOutput at h
  cases hfind : s.casts.find? (·.streamId = streamId) with
  | none =>
    rw [hfind] at h
    exact nomatch h
  | some cast =>
    rw [hfind] at h
    refine ⟨cast, rfl, ?_⟩
    dsimp only at h
    cases htarget : cast.target with
    | nothing | window _ =>
      rw [htarget] at h
      exact nomatch h
    | output o name =>
      rw [htarget] at h
      obtain ⟨hupgrade, rfl⟩ := ite_some_none_eq_some.mp h
      exact ⟨⟨name, rfl⟩, hupgrade⟩

variable {name : String}

theorem queuedOutput_of_upgrade {cast : Cast}
    (hcast : s.casts.find? (·.streamId = streamId) = some cast)
    (htarget : cast.target = .output output name) (hupgrade : a.upgrade output = true) :
    s.queuedOutput a streamId = some output := by
  simp only [queuedOutput, hcast, htarget, if_pos hupgrade]

variable {target : CastTarget}

/-- What is queued for casts that all have one target is that target. -/
theorem target_of_queuedOutputs {streamIds : List ℕ}
    (hs : ∀ cast ∈ s.casts, cast.streamId ∈ streamIds → cast.target = target)
    (h : output ∈ queuedOutputs a s streamIds) : ∃ name, target = .output output name := by
  induction streamIds generalizing s with
  | nil => exact (not_mem_nil h).elim
  | cons streamId streamIds ih =>
    rcases mem_append.mp h with h | h
    · obtain ⟨cast, hcast, ⟨name, htarget⟩, -⟩ :=
        upgrade_of_queuedOutput (mem_toList.mp h)
      have hid : cast.streamId = streamId := by
        simpa using List.find?_some hcast
      have hsame := hs cast (mem_of_find?_eq_some hcast) (hid ▸ mem_cons_self)
      exact ⟨name, hsame.symm.trans htarget⟩
    · refine ih (fun cast hcast hmem => ?_) h
      exact hs cast (mem_casts_redrawCast hcast) (mem_cons_of_mem _ hmem)

/-- A new dynamic target is what its casts are redrawn with. -/
theorem target_of_queued (h : s.Distinct)
    (hqueued : output ∈ s.queued a (.setDynamicCastTarget target)) :
    ∃ name, target = .output output name := by
  refine target_of_queuedOutputs (fun cast hcast hmem => ?_) hqueued
  obtain ⟨cast₀, hcast₀, rfl⟩ := mem_map.mp hcast
  obtain ⟨cast₁, hcast₁, hid⟩ := mem_map.mp hmem
  obtain ⟨hcast₁, hretargets⟩ := mem_filter.mp hcast₁
  have hsame : cast₁.streamId = cast₀.streamId := by
    rw [hid]
    split <;> rfl
  have heq : cast₁ = cast₀ := inj_on_of_nodup_map h.casts hcast₁ hcast₀ hsame
  rw [← heq, if_pos hretargets]

/-- A message starts the cast of an output only if the output is found. -/
theorem output_opens {e : CastingEvent} {key : CastKey} (h : key ∈ s.opens a e)
    (htarget : key.target = some (.output output name)) :
    (⟨output, name⟩ : Output) ∈ a.outputs := by
  cases e with
  | screenCastMsg msg =>
    cases msg with
    | stopCast _ => exact (notMem_zero _ h).elim
    | startCast sessionId streamId streamTarget =>
      cases streamTarget with
      | output streamName =>
        simp only [opens, ScreenCastToNiri.opens] at h
        split at h
        · exact (notMem_zero _ h).elim
        · rename_i found hfound
          rw [Multiset.mem_singleton.mp h, some.injEq, CastTarget.output.injEq] at htarget
          obtain ⟨rfl, rfl⟩ := htarget
          exact mem_of_find?_eq_some hfound
      | window windowId =>
        simp only [opens, ScreenCastToNiri.opens] at h
        split at h
        · rw [Multiset.mem_singleton.mp h] at htarget
          cases htarget
        split at h
        · rw [Multiset.mem_singleton.mp h] at htarget
          cases htarget
        · exact (notMem_zero _ h).elim
  | pwMsg _ | stateChanged _ _ | setDynamicCastTarget _ | stopCastsForTarget _
  | refreshMappedCastOutputs _ | renderForScreenCast _ | renderWindowsForScreenCast _
  | stopCast _ => exact (notMem_zero _ h).elim

end Screencasting

end Tiri.Casting

namespace Tiri.Compositor.Hotplug

open Casting (Screencasting CastTarget CastingEvent Answers)
open List
open Option
open Finset hiding map_singleton mem_singleton

/-! ## The layout -/

/-- `Monitor`, as far as its output and the windows of its workspaces. -/
structure Monitor where
  output : ℕ
  windows : List ℕ

/-- `MonitorSet`; without outputs, the windows of the workspaces. -/
inductive MonitorSet
  | normal (monitors : List Monitor) (primaryIdx : ℕ)
  | noOutputs (windows : List ℕ)

/-- `InteractiveMoveState`; a window that is moved is on no workspace. -/
inductive InteractiveMoveState
  | starting (window : ℕ)
  | moving (window output : ℕ)

namespace MonitorSet

def outputs : MonitorSet → List ℕ
  | normal monitors _ => monitors.map Monitor.output
  | noOutputs _ => []

/-- The windows of the workspaces. -/
def windows : MonitorSet → List ℕ
  | normal monitors _ => monitors.flatMap Monitor.windows
  | noOutputs windows => windows

/-- The monitor that has the window. -/
def monitorOf (window : ℕ) : MonitorSet → Option Monitor
  | normal monitors _ => monitors.find? (window ∈ ·.windows)
  | noOutputs _ => none

/-- A window goes from its workspace. -/
def drop (window : ℕ) : MonitorSet → MonitorSet
  | normal monitors primaryIdx =>
    normal (monitors.map fun mon => { mon with windows := mon.windows.erase window }) primaryIdx
  | noOutputs windows => noOutputs (windows.erase window)

/-- `add_output`; the primary monitor gives up the windows of some workspaces. -/
def addOutput (output : ℕ) (reclaimed : ℕ → Bool) : MonitorSet → Option MonitorSet
  | normal monitors primaryIdx => do
    let primary ← monitors[primaryIdx]?
    let kept := { primary with windows := primary.windows.filter (!reclaimed ·) }
    some (normal (monitors.set primaryIdx kept ++ [⟨output, primary.windows.filter reclaimed⟩])
      primaryIdx)
  | noOutputs windows => some (normal [⟨output, windows⟩] 0)

/-- The primary monitor, if one is left, takes the windows of a monitor over. -/
def takeOver (monitors : List Monitor) (primaryIdx : ℕ) (monitor : Monitor) : Option MonitorSet :=
  if monitors.isEmpty then some (noOutputs monitor.windows)
  else
    monitors[primaryIdx]?.map fun primary =>
      let primary := { primary with windows := primary.windows ++ monitor.windows }
      normal (monitors.set primaryIdx primary) primaryIdx

def removeOutput (output : ℕ) : MonitorSet → Option MonitorSet
  | normal monitors primaryIdx => do
    let idx ← monitors.findIdx? (·.output = output)
    let monitor ← monitors[idx]?
    takeOver (monitors.eraseIdx idx) (if idx ≤ primaryIdx then primaryIdx - 1 else primaryIdx)
      monitor
  | noOutputs _ => none

end MonitorSet

/-! ## The compositor -/

/-- What remembers outputs.  The name of an output never changes. -/
structure World where
  name : ℕ → String
  /-- The keys of `output_state`. -/
  outputState : Finset ℕ
  /-- The outputs of `global_space`. -/
  globalSpace : List ℕ
  monitorSet : MonitorSet
  interactiveMove : Option InteractiveMoveState
  /-- The output of the recent windows, while they are open. -/
  mruOutput : Option ℕ
  /-- The window of the preview and its output. -/
  preview : Option (ℕ × ℕ)
  casting : Screencasting

namespace World

/-- No output is there yet. -/
def start (name : ℕ → String) (dynamicCastIdForPortal : ℕ) : World where
  name
  outputState := ∅
  globalSpace := []
  monitorSet := .noOutputs []
  interactiveMove := none
  mruOutput := none
  preview := none
  casting := .new dynamicCastIdForPortal

variable (w : World)

/-- The window that is moved, and the output. -/
def moving : Option (ℕ × ℕ) :=
  match w.interactiveMove with
  | some (.moving window output) => some (window, output)
  | _ => none

variable (window : ℕ)

/-- `find_window_and_output`, as far as the output. -/
def findWindowAndOutput : Option (Option ℕ) :=
  match w.moving.filter (·.1 = window) with
  | some (_, output) => some (some output)
  | none =>
    match w.monitorSet with
    | .normal .. => (w.monitorSet.monitorOf window).map fun mon => some mon.output
    | .noOutputs windows => if window ∈ windows then some none else none

/-- The output of a window that is found, if there is one. -/
def outputOf : Option ℕ := (w.findWindowAndOutput window).join

/-- `output_for_root`; `hasLayer` tells which layer maps have the surface. -/
def outputForRoot (root : ℕ) (hasLayer : ℕ → Bool) : Option ℕ :=
  match w.findWindowAndOutput root with
  | some output => output
  | none => w.monitorSet.outputs.find? hasLayer

/-- What is outside answers the casts: `find` of the outputs goes through `global_space`, and an
output that is connected is alive. -/
def answers (a : Answers) : Answers :=
  { a with
    outputs := w.globalSpace.map fun output => ⟨output, w.name output⟩
    upgrade := fun output => output ∈ w.outputState || a.upgrade output }

/-- `layout.remove_window`: the window goes from wherever it is, and a move of it is over. -/
def removeWindow : MonitorSet × Option InteractiveMoveState :=
  match w.interactiveMove with
  | some (.moving moved output) =>
    if moved = window then (w.monitorSet, none)
    else (w.monitorSet.drop window, some (.moving moved output))
  | some (.starting moved) =>
    (w.monitorSet.drop window, if moved = window then none else some (.starting moved))
  | none => (w.monitorSet.drop window, none)

end World

/-- What happens to the outputs, and what queues redraws. -/
inductive Event
  /-- `moved`: the outputs that `reposition_outputs` moves. -/
  | addOutput (output : ℕ) (reclaimed : ℕ → Bool) (moved : List ℕ)
  | removeOutput (output : ℕ) (moved : List ℕ)
  /-- What the layout does otherwise, such as moving windows, columns and workspaces. -/
  | layout (monitorSet : MonitorSet)
  | interactiveMoveBegin (window : ℕ)
  /-- The pointer is on the output, and far enough from where the move began. -/
  | interactiveMoveUpdate (window output : ℕ)
  /-- The window goes back to the layout. -/
  | interactiveMoveEnd (monitorSet : MonitorSet)
  /-- A window is mapped on the monitor. -/
  | mapWindow (window monIdx : ℕ)
  /-- A commit of a mapped window, or of one of its subsurfaces. -/
  | commitWindow (window : ℕ)
  /-- A window is destroyed or unmapped; `mruCloses`: it was the last of the recent windows. -/
  | removeWindow (window : ℕ) (mruCloses : Bool)
  /-- A window's rules, its parent or its children change, or its client starts to move it. -/
  | windowChanged (window : ℕ)
  /-- `refresh_window_rules`, for some of the windows. -/
  | refreshWindowRules (needed : ℕ → Bool)
  | commitPopup (root : ℕ) (hasLayer : ℕ → Bool)
  | commitLayerSurface (hasLayer : ℕ → Bool)
  /-- A gesture goes on on the monitor. -/
  | gesture (monIdx : ℕ)
  | openMru (output : ℕ)
  | closeMru
  | showWindowPreview (window : ℕ) (named active : Option ℕ)
  | hideWindowPreview
  /-- A timer that was set to redraw the output. -/
  | scheduledRedraw (output : ℕ)
  | casting (a : Answers) (e : CastingEvent)

namespace World

variable (w : World)

/-- The window is in the layout. -/
def hasWindow (window : ℕ) : Bool :=
  window ∈ w.monitorSet.windows || w.moving.any (·.1 = window)

/-- The output that a preview is shown on: the one that is asked for, that of the monitor of the
window, or the active one. -/
def previewOutput (window : ℕ) (named active : Option ℕ) : Option ℕ :=
  let mappedOutput :=
    match w.moving.filter (·.1 = window) with
    -- `monitor_for_output`, of the output that the window is moved on
    | some (_, output) => w.monitorSet.outputs.find? (· = output)
    | none => (w.monitorSet.monitorOf window).map Monitor.output
  (named.or mappedOutput).or active

/-- Where `refresh_window_rules` finds the outputs: `with_windows_mut`. -/
def outputsOfWindows (needed : ℕ → Bool) : List ℕ :=
  ((w.moving.filter fun moved => needed moved.1).map Prod.snd).toList ++
  match w.monitorSet with
  | .normal monitors _ =>
    (monitors.filter fun mon => mon.windows.any needed).map Monitor.output
  | .noOutputs _ => []

/-- The outputs that are passed to `queue_redraw`, in order. -/
def redraws : Event → List ℕ
  | .addOutput output _ moved => moved.filter (· ∈ output :: w.globalSpace)
  | .removeOutput output moved => moved.filter (· ∈ w.globalSpace.filter (· ≠ output))
  | .layout _ | .interactiveMoveBegin _ | .interactiveMoveUpdate .. | .interactiveMoveEnd _ => []
  | .mapWindow _ monIdx =>
    match w.monitorSet with
    | .normal monitors _ => (monitors[monIdx]?.map Monitor.output).toList
    | .noOutputs _ => []
  | .commitWindow window =>
    match w.outputOf window with
    | none => []
    | some output => output :: w.mruOutput.toList ++ (w.preview.map Prod.snd).toList
  | .removeWindow window mruCloses =>
    match w.findWindowAndOutput window with
    | none => []
    | some output =>
      ((w.preview.filter (·.1 = window)).map Prod.snd).toList ++ match output with
        | none => []
        | some output => output :: if mruCloses then [] else w.mruOutput.toList
  | .windowChanged window => (w.outputOf window).toList
  | .refreshWindowRules needed => w.outputsOfWindows needed
  | .commitPopup root hasLayer => (w.outputForRoot root hasLayer).toList
  | .commitLayerSurface hasLayer => (w.monitorSet.outputs.find? hasLayer).toList
  | .gesture monIdx => w.monitorSet.outputs[monIdx]?.toList
  | .openMru _ | .closeMru => []
  | .showWindowPreview window named active =>
    (w.preview.map Prod.snd).toList ++
      if w.hasWindow window then (w.previewOutput window named active).toList else []
  | .hideWindowPreview => (w.preview.map Prod.snd).toList
  -- guard against output disconnecting before the timer has a chance to run
  | .scheduledRedraw output => if output ∈ w.outputState then [output] else []
  | .casting a e => w.casting.queued (w.answers a) e

/-- The outputs that are connected when an event queues its redraws: a new output is already there,
and one that goes is still there, but not in `global_space`. -/
def connectedDuring : Event → Finset ℕ
  | .addOutput output _ _ => insert output w.outputState
  | _ => w.outputState

/-- Which events of the casts there are: a stream gets a new id, and a dynamic target is an output
that is there. -/
def Enabled : CastingEvent → Prop
  | .screenCastMsg (.startCast _ streamId _) => streamId ∉ w.casting.keys.map (·.streamId)
  | .setDynamicCastTarget (.output output name) => output ∈ w.outputState ∧ name = w.name output
  | _ => True

instance (e : CastingEvent) : Decidable (w.Enabled e) := by
  unfold Enabled
  split <;> infer_instance

/-- What an event does, where it can happen and does not panic by itself. -/
def step : Event → Option World
  | .addOutput output reclaimed _ =>
    if output ∈ w.outputState then none
    else
      (w.monitorSet.addOutput output reclaimed).map fun monitorSet =>
        { w with
          monitorSet
          globalSpace := w.globalSpace ++ [output]
          outputState := insert output w.outputState }
  | .removeOutput output _ =>
    if output ∉ w.outputState then none
    else
      (w.monitorSet.removeOutput output).map fun monitorSet =>
        { w with
          monitorSet
          globalSpace := w.globalSpace.filter (· ≠ output)
          outputState := w.outputState.erase output
          casting := w.casting.stopCastsForTarget (.output output (w.name output))
          mruOutput := w.mruOutput.filter (· ≠ output)
          preview := w.preview.filter (·.2 ≠ output) }
  | .layout monitorSet =>
    if monitorSet.outputs = w.monitorSet.outputs then some { w with monitorSet } else none
  | .interactiveMoveBegin window =>
    if w.interactiveMove.isNone ∧ (w.monitorSet.monitorOf window).isSome then
      some { w with interactiveMove := some (.starting window) }
    else none
  | .interactiveMoveUpdate window output =>
    -- the output is that under the pointer
    if output ∉ w.globalSpace then none
    else
      match w.interactiveMove with
      | some (.starting moved) =>
        if moved = window then
          some { w with
            monitorSet := w.monitorSet.drop window
            interactiveMove := some (.moving window output) }
        else some w
      | some (.moving moved _) =>
        if moved = window then some { w with interactiveMove := some (.moving window output) }
        else some w
      | none => some w
  | .interactiveMoveEnd monitorSet =>
    if monitorSet.outputs = w.monitorSet.outputs then
      some { w with monitorSet, interactiveMove := none }
    else none
  | .mapWindow window monIdx =>
    match w.monitorSet with
    | .normal monitors primaryIdx =>
      some { w with
        monitorSet := .normal
          (monitors.modify monIdx fun mon => { mon with windows := mon.windows ++ [window] })
          primaryIdx }
    | .noOutputs windows => some { w with monitorSet := .noOutputs (windows ++ [window]) }
  | .removeWindow window mruCloses =>
    if (w.findWindowAndOutput window).isNone then some w
    else
      some { w with
        monitorSet := (w.removeWindow window).1
        interactiveMove := (w.removeWindow window).2
        mruOutput := if mruCloses then none else w.mruOutput
        preview := w.preview.filter (·.1 ≠ window) }
  | .commitWindow _ | .windowChanged _ | .refreshWindowRules _ | .commitPopup .. |
    .commitLayerSurface _ | .gesture _ | .scheduledRedraw _ => some w
  | .openMru output =>
    if output ∈ w.monitorSet.outputs then some { w with mruOutput := some output } else none
  | .closeMru => some { w with mruOutput := none }
  | .showWindowPreview window named active =>
    if (∀ output ∈ named, output ∈ w.globalSpace) ∧
        ∀ output ∈ active, output ∈ w.monitorSet.outputs then
      let shown := if w.hasWindow window then w.previewOutput window named active else none
      some { w with preview := shown.map fun output => (window, output) }
    else none
  | .hideWindowPreview => some { w with preview := none }
  | .casting a e =>
    if w.Enabled e then some { w with casting := w.casting.step (w.answers a) e } else none

/-- Every output that is passed to `queue_redraw` is connected at that moment. -/
def RedrawsConnected (e : Event) : Prop := ∀ output ∈ w.redraws e, output ∈ w.connectedDuring e

instance (e : Event) : Decidable (w.RedrawsConnected e) :=
  inferInstanceAs (Decidable (∀ output ∈ w.redraws e, output ∈ w.connectedDuring e))

/-- `find_window_and_output` returns no output that is gone. -/
def FindsConnected : Prop :=
  ∀ window output, w.findWindowAndOutput window = some (some output) → output ∈ w.outputState

/-- No output goes while a window is moved on it. -/
def KeepsMoved : Event → Prop
  | .removeOutput output _ => ∀ moved ∈ w.moving, moved.2 ≠ output
  | _ => True

/-- No cast is redrawn whose output is gone and still alive. -/
def CastsThere : Event → Prop
  | .casting a (.pwMsg (.redraw streamId)) =>
    ∀ cast ∈ w.casting.casts.find? (·.streamId = streamId), ∀ output name,
      cast.target = .output output name → a.upgrade output = true → output ∈ w.outputState
  | _ => True

/-- Both. -/
def Careful (e : Event) : Prop := w.KeepsMoved e ∧ w.CastsThere e

end World

/-! ## The monitors -/

namespace MonitorSet

variable {m m' : MonitorSet}

theorem outputs_drop (m : MonitorSet) (window : ℕ) : (m.drop window).outputs = m.outputs := by
  cases m with
  | noOutputs windows => rfl
  | normal monitors primaryIdx =>
    simp only [drop, outputs, List.map_map]
    rfl

variable {monitors : List Monitor} {mon : Monitor}

theorem outputs_set {idx : ℕ} (hmon : monitors[idx]? = some mon) (windows : List ℕ) :
    (monitors.set idx { mon with windows }).map Monitor.output = monitors.map Monitor.output := by
  refine ext_getElem? fun i => ?_
  rw [List.getElem?_map, List.getElem?_map, List.getElem?_set]
  by_cases hi : idx = i
  · subst hi
    obtain ⟨hlt, -⟩ := List.getElem?_eq_some_iff.mp hmon
    rw [if_pos rfl, if_pos hlt, hmon]
    rfl
  · rw [if_neg hi]

variable {output : ℕ}

theorem outputs_addOutput {reclaimed : ℕ → Bool} (h : m.addOutput output reclaimed = some m') :
    m'.outputs = m.outputs ++ [output] := by
  cases m with
  | noOutputs windows =>
    obtain rfl := some.inj h
    rfl
  | normal monitors primaryIdx =>
    obtain ⟨primary, hprimary, h⟩ := bind_eq_some_iff.mp h
    obtain rfl := some.inj h
    simp only [outputs, map_append, map_singleton]
    rw [outputs_set hprimary]

theorem outputs_takeOver {primaryIdx : ℕ} {monitor : Monitor}
    (h : takeOver monitors primaryIdx monitor = some m') :
    m'.outputs = monitors.map Monitor.output := by
  unfold takeOver at h
  split at h
  · rename_i hempty
    obtain rfl := some.inj h
    rw [isEmpty_iff.mp hempty]
    rfl
  · obtain ⟨primary, hprimary, rfl⟩ := map_eq_some_iff.mp h
    exact outputs_set hprimary _

/-- The output goes from its place. -/
theorem outputs_removeOutput (h : m.removeOutput output = some m') :
    ∃ idx, m.outputs[idx]? = some output ∧ m'.outputs = m.outputs.eraseIdx idx := by
  cases m with
  | noOutputs windows => exact nomatch h
  | normal monitors primaryIdx =>
    obtain ⟨idx, hidx, h⟩ := bind_eq_some_iff.mp h
    obtain ⟨monitor, hmonitor, h⟩ := bind_eq_some_iff.mp h
    obtain ⟨hlt, hfound, -⟩ := List.findIdx?_eq_some_iff_getElem.mp hidx
    refine ⟨idx, ?_, ?_⟩
    · rw [outputs, List.getElem?_map, List.getElem?_eq_getElem hlt]
      exact congrArg some (of_decide_eq_true hfound)
    · rw [outputs_takeOver h]
      exact (eraseIdx_map _ _ _).symm

theorem mem_outputs_removeOutput (hnodup : m.outputs.Nodup) (h : m.removeOutput output = some m')
    (o : ℕ) : o ∈ m'.outputs ↔ o ∈ m.outputs ∧ o ≠ output := by
  obtain ⟨idx, hidx, houtputs⟩ := outputs_removeOutput h
  rw [houtputs, mem_eraseIdx_iff_getElem?]
  constructor
  · rintro ⟨i, hne, hi⟩
    refine ⟨mem_of_getElem? hi, ?_⟩
    rintro rfl
    have hlt : i < m.outputs.length := (List.getElem?_eq_some_iff.mp hi).1
    exact hne ((List.getElem?_inj hlt hnodup).mp (hi.trans hidx.symm))
  · rintro ⟨hmem, hne⟩
    obtain ⟨i, hi⟩ := mem_iff_getElem?.mp hmem
    refine ⟨i, ?_, hi⟩
    rintro rfl
    exact hne (some.inj (hi.symm.trans hidx))

theorem monitorOf_mem {window : ℕ} (h : m.monitorOf window = some mon) :
    mon.output ∈ m.outputs := by
  cases m with
  | noOutputs windows => exact nomatch h
  | normal monitors primaryIdx => exact mem_map_of_mem (mem_of_find?_eq_some h)

end MonitorSet

/-! ## What holds between the events -/

namespace World

/-- What a step keeps anyway: the monitors are those of `output_state`, and what is remembered
elsewhere is there, apart from the output of a move and the targets of dynamic casts. -/
structure Inv (w : World) : Prop where
  outputs : ∀ o, o ∈ w.monitorSet.outputs ↔ o ∈ w.outputState
  nodup : w.monitorSet.outputs.Nodup
  space : ∀ o ∈ w.globalSpace, o ∈ w.outputState
  mru : ∀ o ∈ w.mruOutput, o ∈ w.outputState
  preview : ∀ p ∈ w.preview, p.2 ∈ w.outputState
  casts : ∀ o name, w.casting.Shows (.output o name) → o ∈ w.outputState ∧ name = w.name o
  streams : w.casting.Distinct

theorem inv_start (name : ℕ → String) (dynamicCastIdForPortal : ℕ) :
    (start name dynamicCastIdForPortal).Inv where
  outputs o := by simp [start, MonitorSet.outputs]
  nodup := nodup_nil
  space _ h := (not_mem_nil h).elim
  mru _ h := nomatch h
  preview _ h := nomatch h
  casts := by
    rintro o name ⟨cast, hcast, -⟩
    exact (not_mem_nil hcast).elim
  streams := Multiset.nodup_zero

variable {w : World} {window output : ℕ} {w' : World}

section

variable (hw : w.Inv)
include hw

/-- **Only a window that is moved** is found on an output that is gone. -/
theorem findsConnected_iff : w.FindsConnected ↔ ∀ moved ∈ w.moving, moved.2 ∈ w.outputState := by
  constructor
  · intro h moved hmoved
    refine h moved.1 moved.2 ?_
    have hfilter : w.moving.filter (·.1 = moved.1) = some moved := by
      rw [show w.moving = some moved from hmoved]
      simp
    rw [findWindowAndOutput, hfilter]
  · intro h window output hfind
    unfold findWindowAndOutput at hfind
    cases hmoving : w.moving.filter (·.1 = window) with
    | some moved =>
      rw [hmoving] at hfind
      obtain ⟨hmoved, -⟩ := filter_eq_some_iff.mp hmoving
      have houtput : moved.2 = output := by simpa using hfind
      exact houtput ▸ h moved hmoved
    | none =>
      rw [hmoving] at hfind
      cases hset : w.monitorSet with
      | noOutputs windows => simp [hset] at hfind
      | normal monitors primaryIdx =>
        simp only [hset] at hfind
        obtain ⟨mon, hmon, heq⟩ := map_eq_some_iff.mp hfind
        obtain rfl := some.inj heq
        exact (hw.outputs mon.output).mp (MonitorSet.monitorOf_mem (hset ▸ hmon))

omit hw in
theorem connected_outputOf (hfinds : w.FindsConnected) (h : w.outputOf window = some output) :
    output ∈ w.outputState :=
  hfinds window output (join_eq_some_iff.mp h)

theorem connected_outputForRoot (hfinds : w.FindsConnected) {root : ℕ} {hasLayer : ℕ → Bool}
    (h : w.outputForRoot root hasLayer = some output) : output ∈ w.outputState := by
  unfold outputForRoot at h
  cases hfind : w.findWindowAndOutput root with
  | some found =>
    rw [hfind] at h
    obtain rfl : found = some output := h
    exact hfinds root output hfind
  | none =>
    rw [hfind] at h
    exact (hw.outputs output).mp (mem_of_find?_eq_some h)

theorem connected_previewOutput {named active : Option ℕ} (hnamed : ∀ o ∈ named, o ∈ w.globalSpace)
    (hactive : ∀ o ∈ active, o ∈ w.monitorSet.outputs)
    (h : w.previewOutput window named active = some output) : output ∈ w.outputState := by
  rcases or_eq_some_iff.mp h with h | ⟨-, h⟩
  · rcases or_eq_some_iff.mp h with h | ⟨-, h⟩
    · exact hw.space output (hnamed output h)
    · split at h
      · exact (hw.outputs output).mp (mem_of_find?_eq_some h)
      · obtain ⟨mon, hmon, rfl⟩ := map_eq_some_iff.mp h
        exact (hw.outputs mon.output).mp (MonitorSet.monitorOf_mem hmon)
  · exact (hw.outputs output).mp (hactive output h)

theorem connected_outputsOfWindows (hfinds : w.FindsConnected) {needed : ℕ → Bool}
    (h : output ∈ w.outputsOfWindows needed) : output ∈ w.outputState := by
  rcases mem_append.mp h with h | h
  · obtain ⟨moved, hmoved, rfl⟩ := map_eq_some_iff.mp (mem_toList.mp h)
    obtain ⟨hmoved, -⟩ := filter_eq_some_iff.mp hmoved
    exact (findsConnected_iff hw).mp hfinds moved hmoved
  · cases hset : w.monitorSet with
    | noOutputs windows => simp [hset] at h
    | normal monitors primaryIdx =>
      simp only [hset] at h
      obtain ⟨mon, hmon, rfl⟩ := mem_map.mp h
      refine (hw.outputs mon.output).mp ?_
      rw [hset]
      exact mem_map_of_mem (mem_filter.mp hmon).1

theorem connected_mru (h : output ∈ w.mruOutput.toList) : output ∈ w.outputState :=
  hw.mru output (mem_toList.mp h)

theorem connected_preview (h : output ∈ (w.preview.map Prod.snd).toList) :
    output ∈ w.outputState := by
  obtain ⟨p, hp, rfl⟩ := map_eq_some_iff.mp (mem_toList.mp h)
  exact hw.preview p hp

theorem connected_removeWindow (hfinds : w.FindsConnected) {mruCloses : Bool}
    (h : output ∈ w.redraws (.removeWindow window mruCloses)) : output ∈ w.outputState := by
  simp only [redraws] at h
  cases hfind : w.findWindowAndOutput window with
  | none => simp [hfind] at h
  | some found =>
    simp only [hfind] at h
    rcases mem_append.mp h with h | h
    · obtain ⟨p, hp, rfl⟩ := map_eq_some_iff.mp (mem_toList.mp h)
      exact hw.preview p (filter_eq_some_iff.mp hp).1
    · cases found with
      | none => exact (not_mem_nil h).elim
      | some o =>
        rcases mem_cons.mp h with rfl | h
        · exact hfinds window output hfind
        · cases mruCloses with
          | true => exact (not_mem_nil h).elim
          | false => exact connected_mru hw h

/-- The outputs that the casts queue. -/
theorem connected_casting {a : Answers} {e : CastingEvent} (henabled : w.Enabled e)
    (hthere : w.CastsThere (.casting a e)) (h : output ∈ w.casting.queued (w.answers a) e) :
    output ∈ w.outputState := by
  cases e with
  | pwMsg msg =>
    cases msg with
    | redraw streamId =>
      obtain ⟨cast, hcast, ⟨name, htarget⟩, hupgrade⟩ :=
        Screencasting.upgrade_of_queuedOutput (mem_toList.mp h)
      rcases Bool.or_eq_true_iff.mp hupgrade with hconnected | halive
      · exact of_decide_eq_true hconnected
      · exact hthere cast hcast output name htarget halive
    | stopCast _ | fatalError => exact (not_mem_nil h).elim
  | setDynamicCastTarget target =>
    obtain ⟨name, rfl⟩ := Screencasting.target_of_queued hw.streams h
    exact henabled.1
  | screenCastMsg _ | stateChanged _ _ | stopCastsForTarget _ | refreshMappedCastOutputs _
  | renderForScreenCast _ | renderWindowsForScreenCast _ | stopCast _ =>
    exact (not_mem_nil h).elim

/-- **Every output that is redrawn is there**, if windows are found on such outputs only. -/
theorem redraws_connected {e : Event} (hfinds : w.FindsConnected) (hthere : w.CastsThere e)
    (hstep : w.step e = some w') : w.RedrawsConnected e := by
  intro output h
  cases e with
  | addOutput added reclaimed moved =>
    have hmem := of_decide_eq_true (mem_filter.mp h).2
    rcases mem_cons.mp hmem with rfl | hmem
    · exact mem_insert_self _ _
    · exact mem_insert_of_mem (hw.space output hmem)
  | removeOutput removed moved =>
    have hmem := of_decide_eq_true (mem_filter.mp h).2
    exact hw.space output (mem_filter.mp hmem).1
  | layout _ | interactiveMoveBegin _ | interactiveMoveUpdate _ _ | interactiveMoveEnd _
  | openMru _ | closeMru => exact (not_mem_nil h).elim
  | mapWindow window monIdx =>
    simp only [redraws] at h
    cases hset : w.monitorSet with
    | noOutputs windows => simp [hset] at h
    | normal monitors primaryIdx =>
      simp only [hset] at h
      obtain ⟨mon, hmon, rfl⟩ := map_eq_some_iff.mp (mem_toList.mp h)
      refine (hw.outputs mon.output).mp ?_
      rw [hset]
      exact mem_map_of_mem (mem_of_getElem? hmon)
  | commitWindow window =>
    simp only [redraws] at h
    cases houtput : w.outputOf window with
    | none => simp [houtput] at h
    | some found =>
      simp only [houtput] at h
      rcases mem_append.mp h with h | h
      · rcases mem_cons.mp h with rfl | h
        · exact connected_outputOf hfinds houtput
        · exact connected_mru hw h
      · exact connected_preview hw h
  | removeWindow window mruCloses => exact connected_removeWindow hw hfinds h
  | windowChanged window => exact connected_outputOf hfinds (mem_toList.mp h)
  | refreshWindowRules needed => exact connected_outputsOfWindows hw hfinds h
  | commitPopup root hasLayer => exact connected_outputForRoot hw hfinds (mem_toList.mp h)
  | commitLayerSurface hasLayer =>
    exact (hw.outputs output).mp (mem_of_find?_eq_some (mem_toList.mp h))
  | gesture monIdx => exact (hw.outputs output).mp (mem_of_getElem? (mem_toList.mp h))
  | showWindowPreview window named active =>
    rcases mem_append.mp h with h | h
    · exact connected_preview hw h
    · obtain ⟨⟨hnamed, hactive⟩, -⟩ := ite_none_right_eq_some.mp hstep
      split at h
      · exact connected_previewOutput hw hnamed hactive (mem_toList.mp h)
      · exact (not_mem_nil h).elim
  | hideWindowPreview => exact connected_preview hw h
  | scheduledRedraw scheduled =>
    simp only [redraws] at h
    split at h
    · rename_i hmem
      exact mem_singleton.mp h ▸ hmem
    · exact (not_mem_nil h).elim
  | casting a e =>
    obtain ⟨henabled, -⟩ := ite_none_right_eq_some.mp hstep
    exact connected_casting hw henabled hthere h

end

/-- A cast whose output is gone and still alive is redrawn there. -/
theorem castsThere_of_redraws {e : Event} (h : w.RedrawsConnected e) : w.CastsThere e := by
  unfold CastsThere
  split
  · intro cast hcast output name htarget halive
    refine h output (mem_toList.mpr ?_)
    refine Screencasting.queuedOutput_of_upgrade hcast htarget ?_
    exact Bool.or_eq_true_iff.mpr (.inr halive)
  · trivial

/-! ## Steps -/

/-- A step that leaves the outputs, and remembers none that is not there. -/
structure Leaves (w w' : World) : Prop where
  name : w'.name = w.name
  outputState : w'.outputState = w.outputState
  globalSpace : w'.globalSpace = w.globalSpace
  outputs : w'.monitorSet.outputs = w.monitorSet.outputs
  moving : ∀ moved ∈ w'.moving, moved ∈ w.moving ∨ moved.2 ∈ w.outputState
  mru : ∀ o ∈ w'.mruOutput, o ∈ w.outputState
  preview : ∀ p ∈ w'.preview, p.2 ∈ w.outputState
  casts : ∀ o name, w'.casting.Shows (.output o name) → o ∈ w.outputState ∧ name = w.name o
  streams : w'.casting.Distinct

theorem Leaves.inv (h : Leaves w w') (hw : w.Inv) : w'.Inv where
  outputs o := by
    rw [h.outputs, h.outputState]
    exact hw.outputs o
  nodup := h.outputs ▸ hw.nodup
  space o ho := by
    rw [h.globalSpace] at ho
    exact h.outputState ▸ hw.space o ho
  mru o ho := h.outputState ▸ h.mru o ho
  preview p hp := h.outputState ▸ h.preview p hp
  casts o name hshows := by
    rw [h.outputState, h.name]
    exact h.casts o name hshows
  streams := h.streams

theorem Leaves.refl (hw : w.Inv) : Leaves w w where
  name := rfl
  outputState := rfl
  globalSpace := rfl
  outputs := rfl
  moving _ h := .inl h
  mru := hw.mru
  preview := hw.preview
  casts := hw.casts
  streams := hw.streams

theorem moving_removeWindow {moved : ℕ × ℕ} (h : moved ∈ { w with
      monitorSet := (w.removeWindow window).1
      interactiveMove := (w.removeWindow window).2 }.moving) : moved ∈ w.moving := by
  unfold moving removeWindow at *
  cases hmove : w.interactiveMove with
  | none => simp [hmove] at h
  | some move =>
    cases move with
    | starting started =>
      simp only [hmove] at h
      split at h
      · rename_i heq
        exact absurd heq (by split <;> nofun)
      · exact nomatch h
    | moving started output =>
      simp only [hmove] at h ⊢
      split at h
      · rename_i heq
        split at heq
        · exact nomatch heq
        · cases heq
          exact h
      · exact nomatch h

theorem outputs_removeWindow (w : World) (window : ℕ) :
    (w.removeWindow window).1.outputs = w.monitorSet.outputs := by
  unfold removeWindow
  split
  · split
    · rfl
    · exact MonitorSet.outputs_drop _ _
  · exact MonitorSet.outputs_drop _ _
  · exact MonitorSet.outputs_drop _ _

section

variable (hw : w.Inv)
include hw

/-- The casts show outputs that are there, and their streams stay distinct. -/
theorem leaves_casting {a : Answers} {e : CastingEvent} (henabled : w.Enabled e) :
    Leaves w { w with casting := w.casting.step (w.answers a) e } := by
  refine { Leaves.refl hw with casts := ?_, streams := ?_ }
  · intro o name hshows
    rcases (w.casting.opens_step (w.answers a) e).shows hshows with hold | ⟨key, hkey, htarget⟩
    · exact hw.casts o name hold
    · obtain ⟨o', ho', heq⟩ := mem_map.mp (Screencasting.output_opens hkey htarget)
      obtain ⟨rfl, rfl⟩ := Casting.Output.mk.inj heq
      exact ⟨hw.space o' ho', rfl⟩
  · refine hw.streams.step fun sessionId streamId target he => ?_
    subst he
    exact henabled

theorem leaves_mapWindow {monIdx : ℕ} (h : w.step (.mapWindow window monIdx) = some w') :
    Leaves w w' := by
  simp only [step] at h
  cases hset : w.monitorSet with
  | noOutputs windows =>
    rw [hset] at h
    obtain rfl := some.inj h
    exact { Leaves.refl hw with outputs := by rw [hset]; rfl }
  | normal monitors primaryIdx =>
    rw [hset] at h
    obtain rfl := some.inj h
    refine { Leaves.refl hw with outputs := ?_ }
    rw [hset]
    refine ext_getElem? fun i => ?_
    simp only [MonitorSet.outputs, List.getElem?_map, List.getElem?_modify]
    cases monitors[i]? with
    | none => rfl
    | some mon => by_cases hi : monIdx = i <;> simp [hi]

theorem leaves_interactiveMoveUpdate (h : w.step (.interactiveMoveUpdate window output) = some w') :
    Leaves w w' := by
  obtain ⟨hspace, h⟩ := ite_none_left_eq_some.mp h
  have hconnected : output ∈ w.outputState := hw.space output (not_not.mp hspace)
  have hmoving : ∀ moved ∈ (some (window, output) : Option (ℕ × ℕ)),
      moved ∈ w.moving ∨ moved.2 ∈ w.outputState := by
    intro moved hmoved
    obtain rfl := some.inj hmoved
    exact .inr hconnected
  split at h
  · split at h
    · obtain rfl := some.inj h
      exact { Leaves.refl hw with outputs := MonitorSet.outputs_drop _ _, moving := hmoving }
    · obtain rfl := some.inj h
      exact Leaves.refl hw
  · split at h
    · obtain rfl := some.inj h
      exact { Leaves.refl hw with moving := hmoving }
    · obtain rfl := some.inj h
      exact Leaves.refl hw
  · obtain rfl := some.inj h
    exact Leaves.refl hw

theorem leaves_showWindowPreview {named active : Option ℕ}
    (h : w.step (.showWindowPreview window named active) = some w') : Leaves w w' := by
  obtain ⟨⟨hnamed, hactive⟩, rfl⟩ := ite_some_none_eq_some.mp h
  refine { Leaves.refl hw with preview := fun p hp => ?_ }
  obtain ⟨output, houtput, rfl⟩ := map_eq_some_iff.mp hp
  obtain ⟨-, houtput⟩ := ite_none_right_eq_some.mp houtput
  exact connected_previewOutput hw hnamed hactive houtput

theorem leaves_removeWindow {mruCloses : Bool}
    (h : w.step (.removeWindow window mruCloses) = some w') : Leaves w w' := by
  simp only [step] at h
  split at h
  · obtain rfl := some.inj h
    exact Leaves.refl hw
  · obtain rfl := some.inj h
    refine { Leaves.refl hw with
      outputs := w.outputs_removeWindow window
      moving := fun moved hmoved => .inl (moving_removeWindow hmoved)
      mru := fun o ho => ?_
      preview := fun p hp => hw.preview p (filter_eq_some_iff.mp hp).1 }
    cases mruCloses with
    | true => exact nomatch ho
    | false => exact hw.mru o ho

/-- Every step but the coming and going of outputs leaves them. -/
theorem leaves_step {e : Event} (h : w.step e = some w')
    (hadd : ∀ output reclaimed moved, e ≠ .addOutput output reclaimed moved)
    (hremove : ∀ output moved, e ≠ .removeOutput output moved) : Leaves w w' := by
  cases e with
  | addOutput output reclaimed moved => exact absurd rfl (hadd output reclaimed moved)
  | removeOutput output moved => exact absurd rfl (hremove output moved)
  | layout monitorSet =>
    obtain ⟨houtputs, rfl⟩ := ite_some_none_eq_some.mp h
    exact { Leaves.refl hw with outputs := houtputs }
  | interactiveMoveBegin window =>
    obtain ⟨-, rfl⟩ := ite_some_none_eq_some.mp h
    exact { Leaves.refl hw with moving := fun _ hmoved => nomatch hmoved }
  | interactiveMoveUpdate window output => exact leaves_interactiveMoveUpdate hw h
  | interactiveMoveEnd monitorSet =>
    obtain ⟨houtputs, rfl⟩ := ite_some_none_eq_some.mp h
    exact { Leaves.refl hw with
      outputs := houtputs
      moving := fun _ hmoved => nomatch hmoved }
  | mapWindow window monIdx => exact leaves_mapWindow hw h
  | removeWindow window mruCloses => exact leaves_removeWindow hw h
  | commitWindow _ | windowChanged _ | refreshWindowRules _ | commitPopup _ _
  | commitLayerSurface _ | gesture _ | scheduledRedraw _ =>
    obtain rfl := some.inj h
    exact Leaves.refl hw
  | openMru output =>
    obtain ⟨houtput, rfl⟩ := ite_some_none_eq_some.mp h
    refine { Leaves.refl hw with mru := fun o ho => ?_ }
    obtain rfl := some.inj ho
    exact (hw.outputs output).mp houtput
  | closeMru =>
    obtain rfl := some.inj h
    exact { Leaves.refl hw with mru := fun _ ho => nomatch ho }
  | showWindowPreview window named active => exact leaves_showWindowPreview hw h
  | hideWindowPreview =>
    obtain rfl := some.inj h
    exact { Leaves.refl hw with preview := fun _ hp => nomatch hp }
  | casting a e =>
    obtain ⟨henabled, rfl⟩ := ite_some_none_eq_some.mp h
    exact leaves_casting hw henabled

variable {moved : List ℕ}

/-- A new output is in all tables. -/
theorem inv_addOutput {reclaimed : ℕ → Bool}
    (h : w.step (.addOutput output reclaimed moved) = some w') :
    w'.Inv ∧ w'.moving = w.moving ∧ ∀ o ∈ w.outputState, o ∈ w'.outputState := by
  obtain ⟨hnew, h⟩ := ite_none_left_eq_some.mp h
  obtain ⟨monitorSet, hset, rfl⟩ := map_eq_some_iff.mp h
  have houtputs := MonitorSet.outputs_addOutput hset
  have hmono : ∀ o ∈ w.outputState, o ∈ insert output w.outputState :=
    fun o ho => mem_insert_of_mem ho
  refine ⟨?_, rfl, hmono⟩
  refine {
    outputs := fun o => ?_
    nodup := ?_
    space := fun o ho => ?_
    mru := fun o ho => hmono o (hw.mru o ho)
    preview := fun p hp => hmono p.2 (hw.preview p hp)
    casts := fun o name hshows => ⟨hmono o (hw.casts o name hshows).1, (hw.casts o name hshows).2⟩
    streams := hw.streams }
  · rw [houtputs, mem_append, mem_singleton, hw.outputs o, mem_insert, or_comm]
  · rw [houtputs, nodup_append]
    refine ⟨hw.nodup, nodup_singleton _, fun o ho o' ho' heq => ?_⟩
    rw [mem_singleton.mp ho'] at heq
    exact hnew (heq ▸ (hw.outputs o).mp ho)
  · rcases mem_append.mp ho with ho | ho
    · exact hmono o (hw.space o ho)
    · exact mem_singleton.mp ho ▸ mem_insert_self _ _

/-- An output that goes is forgotten everywhere but by a move. -/
theorem inv_removeOutput (h : w.step (.removeOutput output moved) = some w') :
    w'.Inv ∧ w'.moving = w.moving ∧ w'.outputState = w.outputState.erase output := by
  obtain ⟨-, h⟩ := ite_none_left_eq_some.mp h
  obtain ⟨monitorSet, hset, rfl⟩ := map_eq_some_iff.mp h
  refine ⟨?_, rfl, rfl⟩
  have hkeep : ∀ o, o ∈ w.outputState → o ≠ output → o ∈ w.outputState.erase output :=
    fun o ho hne => mem_erase.mpr ⟨hne, ho⟩
  refine {
    outputs := fun o => ?_
    nodup := ?_
    space := fun o ho => ?_
    mru := fun o ho => ?_
    preview := fun p hp => ?_
    casts := fun o name hshows => ?_
    streams := ?_ }
  · rw [MonitorSet.mem_outputs_removeOutput hw.nodup hset, hw.outputs o, mem_erase, and_comm]
  · obtain ⟨idx, -, houtputs⟩ := MonitorSet.outputs_removeOutput hset
    rw [houtputs]
    exact hw.nodup.sublist (eraseIdx_sublist _ _)
  · obtain ⟨ho, hne⟩ := mem_filter.mp ho
    exact hkeep o (hw.space o ho) (of_decide_eq_true hne)
  · obtain ⟨ho, hne⟩ := filter_eq_some_iff.mp ho
    exact hkeep o (hw.mru o ho) (of_decide_eq_true hne)
  · obtain ⟨hp, hne⟩ := filter_eq_some_iff.mp hp
    exact hkeep p.2 (hw.preview p hp) (of_decide_eq_true hne)
  · obtain ⟨hold, hne⟩ := Screencasting.shows_stopCastsForTarget hshows
    obtain ⟨ho, rfl⟩ := hw.casts o name hold
    refine ⟨hkeep o ho ?_, rfl⟩
    rintro rfl
    exact hne rfl
  · refine hw.streams.step (a := w.answers Casting.obliging)
      (e := .stopCastsForTarget (.output output (w.name output))) fun _ _ _ he => nomatch he

end

/-- Every step keeps the invariant. -/
theorem inv_step (w : World) (e : Event) (w' : World) (hw : w.Inv) (h : w.step e = some w') :
    w'.Inv := by
  cases e with
  | addOutput output reclaimed moved => exact (inv_addOutput hw h).1
  | removeOutput output moved => exact (inv_removeOutput hw h).1
  | _ => exact (leaves_step hw h (fun _ _ _ => nofun) (fun _ _ => nofun)).inv hw

/-- Windows stay found on connected outputs exactly if no output goes while a window is moved
on it. -/
theorem findsConnected_step (w : World) (e : Event) (w' : World) (hw : w.Inv)
    (hfinds : w.FindsConnected) (h : w.step e = some w') : w'.FindsConnected ↔ w.KeepsMoved e := by
  rw [findsConnected_iff (inv_step w e w' hw h)]
  have hmoved := (findsConnected_iff hw).mp hfinds
  cases e with
  | addOutput output reclaimed moved =>
    obtain ⟨-, hmoving, hmono⟩ := inv_addOutput hw h
    refine iff_of_true (fun moved hm => ?_) trivial
    rw [hmoving] at hm
    exact hmono moved.2 (hmoved moved hm)
  | removeOutput output moved =>
    obtain ⟨-, hmoving, houtputs⟩ := inv_removeOutput hw h
    rw [hmoving, houtputs]
    refine forall_congr' fun moved => imp_congr_right fun hm => ?_
    rw [mem_erase]
    exact and_iff_left (hmoved moved hm)
  | _ =>
    have hleaves := leaves_step hw h (fun _ _ _ => nofun) (fun _ _ => nofun)
    refine iff_of_true (fun moved hm => ?_) trivial
    rw [hleaves.outputState]
    exact (hleaves.moving moved hm).elim (hmoved moved) fun hthere => hthere

/-- **Runs**: windows are found, and redraws are queued, on connected outputs only exactly if no
output goes while a window is moved on it, and no cast is redrawn whose output is gone and still
alive. -/
theorem connected_iff (name : ℕ → String) (dynamicCastIdForPortal : ℕ) (es : List Event) :
    (Run.Always step FindsConnected (start name dynamicCastIdForPortal) es ∧
      Run.Along step RedrawsConnected (start name dynamicCastIdForPortal) es) ↔
      Run.Along step Careful (start name dynamicCastIdForPortal) es := by
  have hinv := inv_start name dynamicCastIdForPortal
  have hstart : (start name dynamicCastIdForPortal).FindsConnected :=
    (findsConnected_iff hinv).mpr fun _ hm => nomatch hm
  have hfinds : Run.Always step FindsConnected (start name dynamicCastIdForPortal) es ↔
      Run.Along step KeepsMoved (start name dynamicCastIdForPortal) es :=
    Run.always_iff_along inv_step findsConnected_step hinv hstart
  have hcareful : Run.Along step Careful (start name dynamicCastIdForPortal) es ↔
      Run.Along step KeepsMoved (start name dynamicCastIdForPortal) es ∧
        Run.Along step CastsThere (start name dynamicCastIdForPortal) es := Run.along_and
  rw [hfinds, hcareful]
  refine and_congr_right fun hkeeps => ⟨?_, fun hthere => ?_⟩
  · exact fun h => h.mono fun w e => castsThere_of_redraws
  · refine Run.Along.of_invariant (J := fun w => w.Inv ∧ w.FindsConnected) ?_ ?_
      ⟨hinv, hstart⟩ (hcareful.mpr ⟨hkeeps, hthere⟩)
    · intro w e w' hw hc h
      exact ⟨inv_step w e w' hw.1 h, (findsConnected_step w e w' hw.1 hw.2 h).mpr hc.1⟩
    · exact fun w e w' hw hc h => redraws_connected hw.1 hw.2 hc.2 h

/-- Two outputs; a window of the second is moved while that goes, and then commits. -/
def unpluggedWhileMoving : List Event :=
  [.addOutput 0 (fun _ => false) [], .addOutput 1 (fun _ => false) [], .mapWindow 7 1,
    .interactiveMoveBegin 7, .interactiveMoveUpdate 7 1, .removeOutput 1 [], .commitWindow 7]

/-- The commit queues a redraw of the output that is gone. -/
theorem unpluggedWhileMoving_disconnected :
    ¬(Run.Always step FindsConnected (start (fun _ => "") 1000) unpluggedWhileMoving ∧
      Run.Along step RedrawsConnected (start (fun _ => "") 1000) unpluggedWhileMoving) := by
  rintro ⟨-, h⟩
  revert h
  decide +kernel

end World

end Tiri.Compositor.Hotplug
